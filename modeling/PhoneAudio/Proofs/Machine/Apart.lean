import PhoneAudio.Proofs.Machine.Composing
import PhoneAudio.Proofs.Machine.Routing
import PhoneAudio.Proofs.Routing.Proper

/-!
# What routing reaches

Routing works on the router, the mixer and the Bluetooth links, and on nothing else
(`PhoneAudio.Act.still_reroute`). Actions on a stream leave all that is apart from the stream
(`PhoneAudio.Run.apart`), the mixer calls that were made included, as long as they do no routing.
-/

namespace PhoneAudio

/-- Whether something that happens is a call to the mixer. -/
def Happening.isMixerCall : Happening → Bool
  | openMixer | findControl _ | setControl .. => true
  | _ => false

/-- A stream in place of one that is left out. -/
def Stream.blank : Stream where
  direction := .playback
  format := .hardware
  bufferBytes := 0
  devices := ⟨0⟩

namespace Run

/-- The calls to the mixer so far. -/
def mixerCalls (run : Run) : List Happening :=
  (run.history.map Moment.what).filter Happening.isMixerCall

/-- The state without the links, the mixer and the PCM driver. -/
def still (run : Run) : Machine :=
  { run.machine with
    hardware := { run.machine.hardware with links := {}, activity := .idle }
    drivers := { run.machine.drivers with mixer := {}, pcm := {} } }

/-- What the Bluetooth links leave. -/
def rest (run : Run) : Machine × Bench.Mixer × List Happening :=
  (run.still, run.machine.drivers.mixer, run.mixerCalls)

/-- All that is apart from a stream: the state without the stream, the lock of the audio hardware
and the listener's events, and the calls to the mixer. -/
def apart (run : Run) (id : StreamId) : Machine × List Happening :=
  ({ run.machine with
      hardware := { run.machine.hardware with locked := false }
      streams := run.machine.streams.modify id fun _ => .blank
      drivers := { run.machine.drivers with events := [] } }, run.mixerCalls)

end Run

namespace Act

variable {α γ β : Type}

/-- An action leaves what is viewed of a run. -/
def Keeps (view : Run → β) (action : Act α) : Prop :=
  ∀ run, view (action run).2 = view run

section Keeps

variable {view : Run → β}

theorem keeps_pure (answer : α) : Keeps view (pure answer : Act α) :=
  fun _ => rfl

theorem Keeps.bind {action : Act α} {next : α → Act γ} (first : Keeps view action)
    (second : ∀ answer, Keeps view (next answer)) : Keeps view (action >>= next) :=
  fun run => (second _ _).trans (first run)

theorem composes_keeps : Composes fun action => Keeps view action :=
  ⟨keeps_pure, fun _ _ => rfl, Keeps.bind⟩

end Keeps

/-- What happened of a kind, once something more is noted. -/
theorem happened_note (kind : Happening → Bool) (what : Happening) (run : Run) :
    ((note what run).2.history.map Moment.what).filter kind =
      (run.history.map Moment.what).filter kind ++ [what].filter kind := by
  change ((run.history ++ [_]).map Moment.what).filter _ = _
  rw [List.map_append, List.filter_append]
  rfl

/-- A note of another kind adds nothing to what happened of a kind. -/
theorem happened_note_of_other {kind : Happening → Bool} {what : Happening}
    (other : kind what = false) (run : Run) :
    ((note what run).2.history.map Moment.what).filter kind =
      (run.history.map Moment.what).filter kind := by
  rw [happened_note, List.filter_cons_of_neg (by simp [other]), List.filter_nil, List.append_nil]

/-- A note is listed if it is a call to the mixer. -/
theorem mixerCalls_note (what : Happening) (run : Run) :
    (note what run).2.mixerCalls = run.mixerCalls ++ [what].filter Happening.isMixerCall :=
  happened_note _ what run

theorem keeps_note {what : Happening} (quiet : what.isMixerCall = false) :
    Keeps Run.rest (note what) :=
  fun run => Prod.ext rfl (Prod.ext rfl (happened_note_of_other quiet run))

theorem keeps_bareCall {what : Happening} (quiet : what.isMixerCall = false)
    {effect : Bench.Pcm → α × Bench.Pcm} : Keeps Run.rest (bareCall what (onPcm effect)) :=
  (keeps_note quiet).bind fun _ _ => rfl

theorem keeps_setLink (direction : Direction) (link : LinkEnd) :
    Keeps Run.rest (setLink direction link) :=
  fun _ => rfl

theorem keeps_hardware : Keeps Run.rest hardware :=
  fun _ => rfl

/-- Opening a link leaves all but the links. -/
theorem keeps_openLink (direction : Direction) : Keeps Run.rest (openLink direction) := by
  refine (keeps_bareCall rfl).bind fun opened => ?_
  cases opened with
  | error error => exact keeps_pure _
  | ok pcm =>
      dsimp only
      split
      · exact (keeps_bareCall rfl).bind fun _ => keeps_pure _
      · exact keeps_pure _

/-- Closing a link leaves all but the links. -/
theorem keeps_closeLink (direction : Direction) : Keeps Run.rest (closeLink direction) := by
  refine keeps_hardware.bind fun hardware => (keeps_setLink _ _).bind fun _ => ?_
  cases (hardware.links.get direction).pcm with
  | none => exact keeps_pure _
  | some pcm => exact (keeps_note rfl).bind fun _ _ => rfl

/-- Holding a link leaves all but the links. -/
theorem keeps_holdLink (direction : Direction) : Keeps Run.rest (holdLink direction) := by
  refine keeps_hardware.bind fun hardware => ?_
  dsimp only
  cases Word.next? (hardware.links.get direction).holds with
  | none => exact keeps_pure _
  | some holds =>
      refine (keeps_setLink _ _).bind fun _ => ?_
      split
      · exact (keeps_openLink direction).bind fun _ => keeps_setLink _ _
      · exact keeps_pure _

/-- Letting go of a link leaves all but the links. -/
theorem keeps_letGoLink (direction : Direction) : Keeps Run.rest (letGoLink direction) := by
  refine keeps_hardware.bind fun hardware => ?_
  dsimp only
  split
  · refine (keeps_setLink _ _).bind fun _ => ?_
    split
    · exact keeps_closeLink direction
    · exact keeps_pure _
  · exact keeps_pure _

/-- A call of the router is listed if it is one to the mixer. -/
theorem mixerCalls_call (activity : Activity) (what : Happening)
    (effect : Drivers → α × Drivers) (run : Run) :
    (call .router activity what effect run).2.mixerCalls =
      run.mixerCalls ++ [what].filter Happening.isMixerCall :=
  mixerCalls_note what (setActivity activity .router run).2

/-- A call to the mixer leaves all but the mixer. -/
theorem keeps_mixerCall (activity : Activity) (what : Happening)
    (effect : Bench.Mixer → α × Bench.Mixer) :
    Keeps Run.still (call .router activity what (onMixer effect)) :=
  fun _ => rfl

/-- Writing to a control leaves all but the mixer. -/
theorem keeps_writeControl (control : String) (value : ControlValue) :
    Keeps Run.still (writeControl control value) := by
  refine (keeps_mixerCall _ _ _).bind fun handle => ?_
  cases handle with
  | none => exact keeps_pure _
  | some handle => exact (keeps_mixerCall _ _ _).bind fun _ => keeps_pure _

/-- Writing to a control calls the mixer. -/
theorem mixerCalls_writeControl (control : String) (value : ControlValue) (run : Run) :
    run.mixerCalls.length < (writeControl control value run).2.mixerCalls.length := by
  have found := congrArg List.length (mixerCalls_call .findingControl (.findControl control)
    (onMixer (·.find control)) run)
  rw [List.length_append] at found
  unfold writeControl
  rw [bind_apply]
  generalize call .router .findingControl (.findControl control) (onMixer (·.find control)) run =
    answered at found ⊢
  obtain ⟨handle, after⟩ := answered
  cases handle with
  | none => exact Nat.lt_of_lt_of_eq (Nat.lt_succ_self _) found.symm
  | some handle =>
      have set := congrArg List.length (mixerCalls_call .settingControl (.setControl control value)
        (onMixer (·.write handle value)) after)
      rw [List.length_append] at set
      refine Nat.lt_of_lt_of_eq ?_ set.symm
      exact Nat.lt_add_right _ (Nat.lt_of_lt_of_eq (Nat.lt_succ_self _) found.symm)

/-- Steps of routing leave all but the links and the mixer. -/
theorem keeps_takeSteps (steps : List RouteStep) : Keeps Run.still (takeSteps steps) := by
  induction steps with
  | nil => exact keeps_pure _
  | cons step rest ih =>
      have first : Keeps Run.still (takeStep step) := by
        cases step with
        | write control value => exact keeps_writeControl control value
        | hold link => exact fun run => congrArg Prod.fst (keeps_holdLink link run)
        | letGo link => exact fun run => congrArg Prod.fst (keeps_letGoLink link run)
      exact first.bind fun _ => ih

/-- Every write among the steps calls the mixer. -/
theorem mixerCalls_takeSteps (steps : List RouteStep) (run : Run) :
    run.mixerCalls.length ≤ (takeSteps steps run).2.mixerCalls.length ∧
      ∀ control value, .write control value ∈ steps →
        run.mixerCalls.length < (takeSteps steps run).2.mixerCalls.length := by
  induction steps generalizing run with
  | nil => exact ⟨Nat.le_refl _, nofun⟩
  | cons step rest ih =>
      obtain ⟨more, write⟩ := ih (takeStep step run).2
      have first : run.mixerCalls.length ≤ (takeStep step run).2.mixerCalls.length := by
        cases step with
        | write control value => exact Nat.le_of_lt (mixerCalls_writeControl control value run)
        | hold link =>
            have same := congrArg (fun rest => rest.2.2) (keeps_holdLink link run)
            exact Nat.le_of_eq (congrArg List.length same).symm
        | letGo link =>
            have same := congrArg (fun rest => rest.2.2) (keeps_letGoLink link run)
            exact Nat.le_of_eq (congrArg List.length same).symm
      refine ⟨Nat.le_trans first more, fun control value member => ?_⟩
      obtain rfl | later := List.mem_cons.mp member
      · exact Nat.lt_of_lt_of_le (mixerCalls_writeControl control value run) more
      · exact Nat.lt_of_le_of_lt first (write control value later)

/-- Without a router, nothing is routed. -/
theorem reroute_of_none {f : Router → Router × List RouteStep} {run : Run}
    (absent : run.machine.hardware.router = none) : reroute f run = ((), run) := by
  unfold reroute
  rw [bind_apply, hardware_apply]
  dsimp only
  rw [absent]
  rfl

/-- With a router, routing changes it and takes the steps. -/
theorem reroute_of_some {f : Router → Router × List RouteStep} {run : Run} {router : Router}
    (there : run.machine.hardware.router = some router) :
    reroute f run = takeSteps (f router).2
      (changeHardware (fun hardware => { hardware with router := some (f router).1 }) run).2 := by
  unfold reroute
  rw [bind_apply, hardware_apply]
  dsimp only
  rw [there]
  rfl

/-- **Routing.** Apart from the links, the mixer and the PCM driver, routing changes the router. -/
theorem still_reroute (f : Router → Router × List RouteStep) (run : Run) :
    (reroute f run).2.still = run.still.reroute f := by
  cases there : run.machine.hardware.router with
  | none =>
      have absent : run.still.hardware.router = none := there
      rw [reroute_of_none there, Machine.reroute_of_none f absent]
  | some router =>
      have present : run.still.hardware.router = some router := there
      rw [reroute_of_some there, Machine.reroute_of_some f present]
      exact keeps_takeSteps (f router).2 _

/-- Routing that has nothing to do leaves the run. -/
theorem reroute_eq_self {f : Router → Router × List RouteStep} {run : Run}
    (idle : ∀ router, run.machine.hardware.router = some router → f router = (router, [])) :
    (reroute f run).2 = run := by
  cases there : run.machine.hardware.router with
  | none => rw [reroute_of_none there]
  | some router =>
      rw [reroute_of_some there, idle router there]
      obtain ⟨⟨settings, hardware, streams, drivers⟩, history, answers⟩ := run
      obtain ⟨present, locked, other, more⟩ := hardware
      cases there
      rfl

/-- Routing calls the mixer when it has a control to write. -/
theorem mixerCalls_reroute (f : Router → Router × List RouteStep) (run : Run) :
    run.mixerCalls.length ≤ (reroute f run).2.mixerCalls.length ∧
      ∀ router, run.machine.hardware.router = some router →
        ∀ control value, .write control value ∈ (f router).2 →
          run.mixerCalls.length < (reroute f run).2.mixerCalls.length := by
  cases there : run.machine.hardware.router with
  | none =>
      rw [reroute_of_none there]
      exact ⟨Nat.le_refl _, nofun⟩
  | some router =>
      rw [reroute_of_some there]
      obtain ⟨more, write⟩ := mixerCalls_takeSteps (f router).2 (changeHardware (fun hardware =>
        { hardware with router := some (f router).1 }) run).2
      refine ⟨more, ?_⟩
      rintro _ ⟨⟩ control value member
      exact write control value member

variable {id : StreamId}

theorem apart_note {what : Happening} (quiet : what.isMixerCall = false) (run : Run) :
    (note what run).2.apart id = run.apart id :=
  Prod.ext rfl (happened_note_of_other quiet run)

/-- Changing a stream leaves what is apart from it. -/
theorem apart_changeStream (f : Stream → Stream) (run : Run) :
    (changeStream id f run).2.apart id = run.apart id := by
  refine Prod.ext ?_ rfl
  change Machine.mk _ _ ((run.machine.streams.modify id f).modify id _) _ = _
  rw [List.modify_modify_eq]
  rfl

theorem apart_age (run : Run) : (age id run).2.apart id = run.apart id :=
  (apart_changeStream _ _).trans (apart_note rfl run)

/-- The locks of a stream and of the audio hardware are not apart from the stream. -/
theorem apart_setLocked (locked : Bool) {target : Lock}
    (own : target = .hardware ∨ target = .stream id) (run : Run) :
    (setLocked locked target run).2.apart id = run.apart id := by
  obtain rfl | rfl := own
  · rfl
  · exact apart_changeStream _ run

theorem apart_lock {target : Lock} (own : target = .hardware ∨ target = .stream id) (run : Run) :
    (lock target run).2.apart id = run.apart id :=
  (apart_setLocked true own _).trans (apart_note rfl run)

theorem apart_unlock {target : Lock} (own : target = .hardware ∨ target = .stream id)
    (run : Run) : (unlock target run).2.apart id = run.apart id :=
  (apart_setLocked false own _).trans (apart_note rfl run)

theorem apart_tryLock {target : Lock} (own : target = .hardware ∨ target = .stream id)
    (run : Run) : (tryLock target run).2.apart id = run.apart id := by
  unfold tryLock
  rw [bind_apply, bind_apply]
  split
  · exact (apart_setLocked true own _).trans (apart_note rfl run)
  · exact apart_note rfl run

/-- Asking a stream for its devices leaves what is apart from it. -/
theorem apart_findDevices (run : Run) : (find (.devices id) run).2.apart id = run.apart id :=
  (apart_unlock (.inr rfl) _).trans (apart_lock (.inr rfl) run)

/-- A dump of a stream leaves what is apart from it. -/
theorem apart_findDump (run : Run) : (find (.dumpStream id) run).2.apart id = run.apart id := by
  have tried : (tryLock (.stream id) run).2.apart id = run.apart id := apart_tryLock (.inr rfl) run
  change (dumpStream id run).2.apart id = _
  unfold dumpStream
  rw [bind_apply, bind_apply]
  dsimp only
  split
  · exact (apart_unlock (.inr rfl) _).trans tried
  · exact tried

theorem apart_tell (stream : Option StreamId) (event : Event) (run : Run) :
    (tell stream event run).2.apart id = run.apart id := by
  unfold tell
  rw [bind_apply]
  split
  · exact apart_note rfl run
  · rfl

end Act

/-- A run that shows a state, with what is apart from a stream. -/
def Run.Beside (id : StreamId) (run : Run) (seen : Machine × Machine × List Happening) : Prop :=
  run.Shows seen.1 ∧ run.apart id = seen.2

namespace Act

variable {α γ : Type} {id : StreamId} {state next : Machine} {rest : Machine × List Happening}

/-- An action that leaves what is apart from a stream. -/
theorem Leads.beside {action : Act α}
    (leads : Leads Run.Shows action state fun _ after => after = next)
    (apart : ∀ run, (action run).2.apart id = run.apart id) :
    Leads (Run.Beside id) action (state, rest) fun _ after => after = (next, rest) := by
  intro run ⟨shown, seen⟩
  obtain ⟨_, shows, rfl⟩ := leads run shown
  exact ⟨(_, rest), ⟨shows, (apart run).trans seen⟩, rfl⟩

/-- Reading leaves what is apart from a stream. -/
theorem Leads.besideRead {action : Act α} {answers : α → Prop}
    (leads : Leads Run.Shows action state fun answer after => after = state ∧ answers answer)
    (apart : ∀ run, (action run).2.apart id = run.apart id) :
    Leads (Run.Beside id) action (state, rest) fun answer after =>
      after = (state, rest) ∧ answers answer := by
  intro run ⟨shown, seen⟩
  obtain ⟨_, shows, rfl, described⟩ := leads run shown
  exact ⟨(_, rest), ⟨shows, (apart run).trans seen⟩, rfl, described⟩

/-- Sets routes one after the other. -/
def setRoutes : List (Lane × EndpointSet) → Act Unit
  | [] => return ()
  | (lane, endpoints) :: more => do
    setRoute lane endpoints
    setRoutes more

end Act

/-- The router with routes set one after the other. -/
def Router.withRoutes (router : Router) (routes : List (Lane × EndpointSet)) : Router :=
  routes.foldl (fun router route => (router.setRoute route.1 route.2).1) router

/-- The state with routes set one after the other. -/
def Machine.withRoutes (machine : Machine) (routes : List (Lane × EndpointSet)) : Machine :=
  machine.reroute fun router => (router.withRoutes routes, [])

namespace Router

variable (router : Router) (routes : List (Lane × EndpointSet))

/-- Setting routes leaves what is disabled. -/
theorem disabled_withRoutes : (router.withRoutes routes).disabled = router.disabled := by
  induction routes generalizing router with
  | nil => rfl
  | cons route more ih => exact (ih _).trans (router.disabled_setRoute route.1 route.2)

/-- The last endpoints that are set for a lane count. -/
theorem routes_withRoutes : (router.withRoutes routes).routes =
    routes.foldl (fun stored route => stored.set route.1 route.2) router.routes := by
  induction routes generalizing router with
  | nil => rfl
  | cons route more ih =>
      rw [List.foldl_cons, ← router.routes_setRoute]
      exact ih _

end Router

namespace Machine

variable (machine : Machine)

theorem withRoutes_nil : machine.withRoutes [] = machine := by
  have same : machine.hardware.router.map (·.withRoutes []) = machine.hardware.router :=
    congrFun Option.map_id machine.hardware.router
  unfold withRoutes Machine.reroute govern
  dsimp only
  rw [same]

/-- The first route is set first. -/
theorem withRoutes_cons (lane : Lane) (endpoints : EndpointSet)
    (more : List (Lane × EndpointSet)) : machine.withRoutes ((lane, endpoints) :: more) =
      (machine.reroute (·.setRoute lane endpoints)).withRoutes more := by
  unfold withRoutes
  rw [reroute_reroute]
  rfl

end Machine

namespace Act

variable {state : Machine} (routes : List (Lane × EndpointSet))

/-- Setting routes leaves all but the links and the mixer, apart from the router. -/
theorem still_setRoutes (run : Run) :
    (setRoutes routes run).2.still = run.still.withRoutes routes := by
  induction routes generalizing run with
  | nil => exact run.still.withRoutes_nil.symm
  | cons route more ih =>
      obtain ⟨lane, endpoints⟩ := route
      rw [Machine.withRoutes_cons, ← still_reroute]
      exact ih _

/-- Setting routes leads to the state with these routes. -/
theorem leads_setRoutes :
    Leads Run.Shows (setRoutes routes) state fun _ after => after = state.withRoutes routes := by
  induction routes generalizing state with
  | nil => exact leads_pure _ state.withRoutes_nil.symm
  | cons route more ih =>
      obtain ⟨lane, endpoints⟩ := route
      rw [Machine.withRoutes_cons]
      exact (leads_reroute _).then fun _ => ih

/-- Setting routes forgets no call to the mixer. -/
theorem mixerCalls_setRoutes (run : Run) :
    run.mixerCalls.length ≤ (setRoutes routes run).2.mixerCalls.length := by
  induction routes generalizing run with
  | nil => exact Nat.le_refl _
  | cons route more ih =>
      obtain ⟨lane, endpoints⟩ := route
      exact Nat.le_trans (mixerCalls_reroute _ run).1 (ih _)

end Act

/-- What setting routes makes of all that is apart from a stream. -/
def Run.Routed (id : StreamId) (routes : List (Lane × EndpointSet))
    (before after : Machine × List Happening) : Prop :=
  ∃ run state, run.Shows state ∧ run.apart id = before ∧
    (Act.setRoutes routes run).2.apart id = after

namespace Run.Routed

variable {id : StreamId} {routes : List (Lane × EndpointSet)}
  {before after : Machine × List Happening}

/-- Without routes to set, nothing changes. -/
theorem eq_of_nil (routed : Run.Routed id [] before after) : after = before := by
  obtain ⟨run, -, -, rfl, rfl⟩ := routed
  rfl

/-- The router has the routes that were set. -/
theorem router (routed : Run.Routed id routes before after) :
    after.1.hardware.router = before.1.hardware.router.map (·.withRoutes routes) := by
  obtain ⟨run, -, -, rfl, rfl⟩ := routed
  exact congrArg (fun machine => machine.hardware.router) (Act.still_setRoutes routes run)

/-- Setting routes does nothing to streams. -/
theorem streams (routed : Run.Routed id routes before after) :
    after.1.streams = before.1.streams := by
  obtain ⟨run, -, -, rfl, rfl⟩ := routed
  have same := congrArg Machine.streams (Act.still_setRoutes routes run)
  exact congrArg (List.modify · id fun _ => Stream.blank) same

/-- Setting routes leaves the wake lock. -/
theorem wakeCalls (routed : Run.Routed id routes before after) :
    after.1.drivers.wakeCalls = before.1.drivers.wakeCalls := by
  obtain ⟨run, -, -, rfl, rfl⟩ := routed
  exact congrArg (fun machine => machine.drivers.wakeCalls) (Act.still_setRoutes routes run)

/-- Setting routes opens and closes Bluetooth links only. -/
theorem liveOn_codec (routed : Run.Routed id routes before after) (direction : Direction) :
    after.1.drivers.pcm.liveOn .codec direction = before.1.drivers.pcm.liveOn .codec direction := by
  obtain ⟨run, state, shown, rfl, rfl⟩ := routed
  obtain ⟨_, shows, rfl⟩ := Act.leads_setRoutes routes run shown
  exact (shows.tallied.live_eq direction).trans (shown.tallied.live_eq direction).symm

/-- Setting the route of an audible lane that is on calls the mixer. -/
theorem mixerCalls {lane : Lane} {endpoints : EndpointSet} {more : List (Lane × EndpointSet)}
    (routed : Run.Routed id ((lane, endpoints) :: more) before after) {router : Router}
    (there : before.1.hardware.router = some router) (on : router.disabled.get lane = false)
    (audible : lane.isAudible = true) (balanced : (router.store lane endpoints).Balanced)
    {gain : Gain} (controlled : router.tables.laneGain? .playback = some gain) :
    before.2.length < after.2.length := by
  obtain ⟨run, -, -, rfl, rfl⟩ := routed
  have written := Router.write_mem_setRoute on audible balanced controlled
  have called := (Act.mixerCalls_reroute (·.setRoute lane endpoints) run).2 router there _ _ written
  exact Nat.lt_of_lt_of_le called (Act.mixerCalls_setRoutes more _)

end Run.Routed

end PhoneAudio
