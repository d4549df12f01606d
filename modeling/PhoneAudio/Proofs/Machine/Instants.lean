import PhoneAudio.Proofs.Machine.Composing
import PhoneAudio.Proofs.Routing.Links

/-!
# What stays at every instant

Some parts of the state stay as they are not only from before an action to after it, but at every
moment on the way (`PhoneAudio.Run.Stays`). Most actions leave the router, the Bluetooth links and
the PCMs alone in this sense (`PhoneAudio.Act.Aside`). Taking the steps of the router leaves the
router itself and the PCMs of the codec alone (`PhoneAudio.Run.stays_codecLive_takeSteps`).
-/

namespace PhoneAudio

/-- A part of the state stays as it is until a later run, at every moment on the way, and only
things of a kind happen meanwhile. -/
structure Run.Stays {β : Type} (view : Machine → β) (kind : Happening → Bool) (run after : Run) :
    Prop where
  kept : view after.machine = view run.machine
  moments : ∃ more : List Moment, after.history = run.history ++ more ∧
    ∀ moment ∈ more, view moment.before = view run.machine ∧ kind moment.what = true

namespace Run.Stays

variable {β γ : Type} {view : Machine → β} {kind other : Happening → Bool} {run middle after : Run}

/-- A change without a trace. -/
theorem of_history (kept : view after.machine = view run.machine)
    (history : after.history = run.history) : run.Stays view kind after :=
  ⟨kept, [], by rw [history, List.append_nil], fun _ member => absurd member List.not_mem_nil⟩

theorem refl (run : Run) : run.Stays view kind run :=
  of_history rfl rfl

theorem trans (first : run.Stays view kind middle) (rest : middle.Stays view kind after) :
    run.Stays view kind after := by
  obtain ⟨moments, history, before⟩ := first.moments
  obtain ⟨more, later, behind⟩ := rest.moments
  have appended : after.history = run.history ++ (moments ++ more) := by
    rw [later, history, List.append_assoc]
  refine ⟨rest.kept.trans first.kept, _, appended, fun moment member => ?_⟩
  obtain early | late := List.mem_append.mp member
  · exact before moment early
  · obtain ⟨same, sort⟩ := behind moment late
    exact ⟨same.trans first.kept, sort⟩

/-- What depends on a part that stays, stays. -/
theorem map (stays : run.Stays view kind after) (g : β → γ) :
    run.Stays (fun machine => g (view machine)) kind after := by
  obtain ⟨moments, history, before⟩ := stays.moments
  refine ⟨congrArg g stays.kept, moments, history, fun moment member => ?_⟩
  obtain ⟨same, sort⟩ := before moment member
  exact ⟨congrArg g same, sort⟩

/-- The kind of what happens may be widened. -/
theorem mono (stays : run.Stays view kind after)
    (weaken : ∀ what, kind what = true → other what = true) : run.Stays view other after := by
  obtain ⟨moments, history, before⟩ := stays.moments
  refine ⟨stays.kept, moments, history, fun moment member => ?_⟩
  obtain ⟨same, sort⟩ := before moment member
  exact ⟨same, weaken _ sort⟩

/-- Nothing happens of a sort that the kind leaves out. -/
theorem happened (stays : run.Stays view kind after) {sort : Happening → Bool}
    (apart : ∀ what, kind what = true → sort what = false) :
    (after.history.map Moment.what).filter sort = (run.history.map Moment.what).filter sort := by
  obtain ⟨more, history, before⟩ := stays.moments
  have none : (more.map Moment.what).filter sort = [] := by
    refine List.filter_eq_nil_iff.mpr fun what member => ?_
    obtain ⟨moment, late, rfl⟩ := List.mem_map.mp member
    exact ne_true_of_eq_false (apart _ (before moment late).2)
  rw [history, List.map_append, List.filter_append, none, List.append_nil]

end Run.Stays

/-- A property that the state has now and had at every moment so far. -/
structure Run.Throughout (holds : Machine → Prop) (run : Run) : Prop where
  now : holds run.machine
  ever : ∀ moment ∈ run.history, holds moment.before

/-- A property of a part that stays is kept. -/
theorem Run.Throughout.stays {β : Type} {view : Machine → β} {kind : Happening → Bool}
    {run after : Run} {holds : Machine → Prop} (throughout : run.Throughout holds)
    (stays : run.Stays view kind after)
    (depends : ∀ machine, view machine = view run.machine → holds machine) :
    after.Throughout holds := by
  obtain ⟨more, history, before⟩ := stays.moments
  refine ⟨depends _ stays.kept, fun moment member => ?_⟩
  rw [history] at member
  obtain early | late := List.mem_append.mp member
  · exact throughout.ever moment early
  · exact depends _ (before moment late).1

/-- Anything may happen. -/
def Happening.isAny (_ : Happening) : Bool :=
  true

/-- Whether something that happens is no call to the mixer and no call that opens, starts or closes
a PCM. -/
def Happening.isAside : Happening → Bool
  | openMixer | findControl _ | setControl .. | openPcm .. | closePcm .. | startPcm .. => false
  | _ => true

/-- Whether something that happens is no call to the mixer. -/
def Happening.sparesMixer (what : Happening) : Bool :=
  !what.isMixerCall

/-- Whether something that happens is no call that opens a PCM of the codec. -/
def Happening.sparesCodec : Happening → Bool
  | openPcm _ setup => setup.bus ≠ .codec
  | _ => true

namespace Machine

/-- The PCMs that streams hold. -/
def held (machine : Machine) : List OpenPcm :=
  machine.streams.filterMap Stream.pcm

/-- The router, the Bluetooth links, the PCMs that streams hold and those that are open. -/
def wires (machine : Machine) : Option Router × Links × List OpenPcm × List (PcmBus × Direction) :=
  (machine.hardware.router, machine.hardware.links, machine.held, machine.drivers.pcm.live)

/-- The PCMs of the codec that are open, the one that was opened last first. -/
def codecLive (machine : Machine) : List (PcmBus × Direction) :=
  machine.drivers.pcm.live.filter fun entry => entry.1 = .codec

/-- Changes that leave the PCMs of streams leave the PCMs that streams hold. -/
theorem held_adjust (machine : Machine) (id : StreamId) {f : Stream → Stream}
    (pcm : ∀ stream, (f stream).pcm = stream.pcm) : (machine.adjust id f).held = machine.held := by
  have mapped := map_modify_of_unseen pcm machine.streams id
  have filtered := congrArg (List.filterMap fun pcm => pcm) mapped
  rwa [List.filterMap_map, List.filterMap_map] at filtered

end Machine

namespace Act

variable {α β γ : Type} {view : Machine → γ} {kind : Happening → Bool}

/-- An action that leaves a part of the state at every moment, with things of a kind happening. -/
def Stays (view : Machine → γ) (kind : Happening → Bool) (action : Act α) : Prop :=
  ∀ run : Run, run.Stays view kind (action run).2

theorem stays_pure (answer : α) : Stays view kind (pure answer : Act α) :=
  fun run => .refl run

/-- Staying is handed on from one action to the next. -/
theorem Stays.bind {action : Act α} {next : α → Act β} (first : Stays view kind action)
    (rest : ∀ answer, Stays view kind (next answer)) : Stays view kind (action >>= next) :=
  fun run => (first run).trans (rest _ _)

theorem stays_machine : Stays view kind machine :=
  fun run => .refl run

theorem stays_hardware : Stays view kind hardware :=
  fun run => .refl run

theorem stays_stream (id : StreamId) : Stays view kind (stream id) :=
  fun run => .refl run

theorem composes_stays : Composes fun action => Stays view kind action :=
  ⟨stays_pure, fun _ => .refl, Stays.bind⟩

/-- A note of that kind leaves the state. -/
theorem stays_note {what : Happening} (sort : kind what = true) : Stays view kind (note what) := by
  refine fun run => ⟨rfl, [⟨what, run.machine⟩], rfl, fun moment member => ?_⟩
  rw [List.mem_singleton.mp member]
  exact ⟨rfl, sort⟩

/-- A change that is not viewed is none. -/
theorem stays_change {f : Machine → Machine} (kept : ∀ machine, view (f machine) = view machine) :
    Stays view kind (change f) :=
  fun run => .of_history (kept run.machine) rfl

theorem stays_drive {effect : Drivers → α × Drivers}
    (kept : ∀ machine : Machine,
      view { machine with drivers := (effect machine.drivers).2 } = view machine) :
    Stays view kind (drive effect) :=
  fun run => .of_history (kept run.machine) rfl

/-- A driver is called, and what is viewed does not see it. -/
theorem stays_bareCall {what : Happening} (sort : kind what = true)
    {effect : Drivers → α × Drivers} (kept : ∀ machine : Machine,
      view { machine with drivers := (effect machine.drivers).2 } = view machine) :
    Stays view kind (bareCall what effect) :=
  (stays_note sort).bind fun _ => stays_drive kept

/-- An action that leaves the router, the links and the PCMs at every moment, and makes no calls
about them. -/
def Aside (action : Act α) : Prop :=
  Stays Machine.wires Happening.isAside action

/-- Changing a stream leaves the router, the links and the open PCMs as long as it keeps its own. -/
theorem wires_changeStream (id : StreamId) {f : Stream → Stream}
    (pcm : ∀ stream, (f stream).pcm = stream.pcm) :
    Stays Machine.wires kind (changeStream id f) :=
  stays_change fun machine => congrArg (fun held => (machine.hardware.router,
    machine.hardware.links, held, machine.drivers.pcm.live)) (machine.held_adjust id pcm)

theorem wires_changeHardware {f : Hardware → Hardware}
    (router : ∀ hardware, (f hardware).router = hardware.router)
    (links : ∀ hardware, (f hardware).links = hardware.links) :
    Stays Machine.wires kind (changeHardware f) := by
  refine stays_change fun machine => ?_
  unfold Machine.wires
  dsimp only
  rw [router, links]
  rfl

theorem wires_setActivity (activity : Activity) (component : Component) :
    Stays Machine.wires kind (setActivity activity component) := by
  cases component with
  | router => exact wires_changeHardware (fun _ => rfl) fun _ => rfl
  | stream id => exact wires_changeStream id fun _ => rfl

/-- A driver call that neither opens nor closes a PCM. -/
theorem wires_bareCall {what : Happening} (sort : kind what = true)
    {effect : Drivers → α × Drivers}
    (live : ∀ drivers, (effect drivers).2.pcm.live = drivers.pcm.live) :
    Stays Machine.wires kind (bareCall what effect) := by
  refine stays_bareCall sort fun machine => ?_
  unfold Machine.wires
  dsimp only
  rw [live]
  rfl

/-- A call leaves the router, the links and the open PCMs as long as its effect does. -/
theorem wires_call (caller : Component) (activity : Activity) {what : Happening}
    (sort : kind what = true) {effect : Drivers → α × Drivers}
    (live : ∀ drivers, (effect drivers).2.pcm.live = drivers.pcm.live) :
    Stays Machine.wires kind (call caller activity what effect) :=
  (wires_setActivity _ _).bind fun _ => (wires_bareCall sort live).bind fun _ =>
    (wires_setActivity _ _).bind fun _ => stays_pure _

theorem aside_changeStatus (id : StreamId) (f : StreamStatus → StreamStatus) :
    Aside (changeStatus id f) :=
  wires_changeStream id fun _ => rfl

theorem wires_setLocked (locked : Bool) (target : Lock) :
    Stays Machine.wires kind (setLocked locked target) := by
  cases target with
  | hardware => exact wires_changeHardware (fun _ => rfl) fun _ => rfl
  | stream id => exact wires_changeStream id fun _ => rfl

theorem wires_lock {target : Lock} (sort : kind (.lock target) = true) :
    Stays Machine.wires kind (lock target) :=
  (stays_note sort).bind fun _ => wires_setLocked true target

theorem wires_unlock {target : Lock} (sort : kind (.unlock target) = true) :
    Stays Machine.wires kind (unlock target) :=
  (stays_note sort).bind fun _ => wires_setLocked false target

theorem aside_lock (target : Lock) : Aside (lock target) :=
  wires_lock rfl

theorem aside_unlock (target : Lock) : Aside (unlock target) :=
  wires_unlock rfl

theorem aside_withHardware {action : Act α} (aside : Aside action) :
    Aside (withHardware action) :=
  (aside_lock _).bind fun _ => aside.bind fun _ => (aside_unlock _).bind fun _ => stays_pure _

theorem aside_callWakeLock {what : Happening} (sort : what.isAside = true)
    (wakeCall : Bench.WakeCall) : Aside (callWakeLock what wakeCall) :=
  composes_stays.callWakeLock (wires_bareCall sort fun _ => rfl)

theorem aside_acquireWake (id : StreamId) : Aside (acquireWake id) :=
  (stays_stream id).bind fun _ => aside_callWakeLock rfl _

theorem aside_releaseWake (id : StreamId) : Aside (releaseWake id) :=
  (stays_stream id).bind fun _ => aside_callWakeLock rfl _

theorem wires_tell {id : Option StreamId} {event : Event} (sort : kind (.event id event) = true) :
    Stays Machine.wires kind (tell id event) :=
  composes_stays.tell (wires_bareCall sort fun _ => rfl)

theorem aside_tell (id : Option StreamId) (event : Event) : Aside (tell id event) :=
  wires_tell rfl

/-- A new stream holds no PCM. -/
theorem aside_addStream {stream : Stream} (empty : stream.pcm = none) :
    Aside (addStream stream) := by
  refine stays_machine.bind fun read => Stays.bind (stays_change fun machine => ?_) fun _ =>
    stays_pure _
  have held : (machine.streams ++ [stream]).filterMap Stream.pcm = machine.held := by
    rw [List.filterMap_append, List.filterMap_cons_none empty, List.filterMap_nil,
      List.append_nil]
    rfl
  exact congrArg (fun held => (machine.hardware.router, machine.hardware.links, held,
    machine.drivers.pcm.live)) held

/-- A call to the mixer. -/
theorem wires_mixerCall (activity : Activity) {what : Happening} (sort : kind what = true)
    (effect : Bench.Mixer → α × Bench.Mixer) :
    Stays Machine.wires kind (call .router activity what (onMixer effect)) :=
  wires_call _ _ sort fun _ => rfl

/-- A mixer control that is written leaves the router, the links and the open PCMs. -/
theorem wires_writeControl (control : String) (value : ControlValue) :
    Stays Machine.wires Happening.isMixerCall (writeControl control value) := by
  refine (wires_mixerCall _ rfl _).bind fun handle => ?_
  cases handle with
  | none => exact stays_pure _
  | some handle => exact (wires_mixerCall _ rfl _).bind fun _ => stays_pure _

/-- Steps that only write to controls leave all else. -/
theorem wires_takeSteps {steps : List RouteStep}
    (writes : ∀ step ∈ steps, ∃ control value, step = .write control value) :
    Stays Machine.wires Happening.isMixerCall (takeSteps steps) := by
  induction steps with
  | nil => exact stays_pure _
  | cons step rest ih =>
      obtain ⟨control, value, rfl⟩ := writes step (List.mem_cons_self ..)
      refine (wires_writeControl control value).bind fun _ => ?_
      exact ih fun step member => writes step (List.mem_cons_of_mem _ member)

/-- What goes on about a link leaves the router. -/
theorem router_setLink (direction : Direction) (link : LinkEnd) :
    Stays (fun machine => machine.hardware.router) kind (setLink direction link) :=
  stays_change fun _ => rfl

theorem router_bareCall {what : Happening} (sort : kind what = true)
    (effect : Drivers → α × Drivers) :
    Stays (fun machine => machine.hardware.router) kind (bareCall what effect) :=
  stays_bareCall sort fun _ => rfl

/-- Closing a link leaves the router. -/
theorem router_closeLink (direction : Direction) :
    Stays (fun machine => machine.hardware.router) Happening.sparesMixer
      (closeLink direction) := by
  refine stays_hardware.bind fun hardware => (router_setLink _ _).bind fun _ => ?_
  cases (hardware.links.get direction).pcm with
  | none => exact stays_pure _
  | some pcm => exact router_bareCall rfl _

/-- What the steps of the router are made of leaves the router. -/
theorem routes_router :
    Routes fun action => Stays (fun machine => machine.hardware.router) Happening.isAny action where
  toComposes := composes_stays
  finds _ _ := ((wires_mixerCall _ rfl _ _).map Prod.fst)
  writes _ _ _ _ := ((wires_mixerCall _ rfl _ _).map Prod.fst)
  opens _ := router_bareCall rfl _
  starts _ _ := router_bareCall rfl _
  closes _ := router_bareCall rfl _
  links _ _ := router_setLink _ _

end Act

/-- Taking something out of a list that a filter leaves out anyway. -/
theorem filter_erase_of_neg {α : Type} [BEq α] [LawfulBEq α] {p : α → Bool} {a : α}
    (out : p a = false) (list : List α) : (list.erase a).filter p = list.filter p := by
  induction list with
  | nil => rfl
  | cons head tail ih =>
      cases same : head == a with
      | true =>
          rw [LawfulBEq.eq_of_beq same, List.erase_cons_head,
            List.filter_cons_of_neg (by simp [out])]
      | false =>
          rw [List.erase_cons_tail (by simp [same]), List.filter_cons, List.filter_cons, ih]

namespace Machine

/-- Closing a PCM that is not the codec's leaves those of the codec. -/
theorem codecLive_erase {live : List (PcmBus × Direction)} {setup : PcmSetup}
    (bluetooth : setup.bus = .bluetooth) :
    (live.erase (setup.bus, setup.direction)).filter (fun entry => entry.1 = .codec) =
      live.filter fun entry => entry.1 = .codec := by
  have other : decide ((setup.bus, setup.direction).1 = PcmBus.codec) = false := by
    rw [bluetooth]
    rfl
  exact filter_erase_of_neg (p := fun entry => decide (entry.1 = PcmBus.codec)) other live

end Machine

namespace Act

variable {kind : Happening → Bool}

theorem codecLive_setLink (direction : Direction) (link : LinkEnd) :
    Stays Machine.codecLive kind (setLink direction link) :=
  stays_change fun _ => rfl

/-- Opening a link leaves the PCMs of the codec. -/
theorem codecLive_openLink (direction : Direction) :
    Stays Machine.codecLive Happening.sparesCodec (openLink direction) := by
  have opens : Stays Machine.codecLive Happening.sparesCodec
      (bareCall (.openPcm .router (.bluetooth direction))
        (onPcm (·.openPcm (.bluetooth direction)))) := by
    refine stays_bareCall rfl fun machine => ?_
    obtain ⟨_, _, live⟩ | ⟨_, _, _, live⟩ :=
      machine.drivers.pcm.openPcm_cases (.bluetooth direction)
    · exact congrArg (List.filter _) live
    · have filtered := congrArg (List.filter fun entry => decide (entry.1 = PcmBus.codec)) live
      exact filtered.trans (List.filter_cons_of_neg Bool.false_ne_true)
  refine opens.bind fun opened => ?_
  cases opened with
  | error error => exact stays_pure _
  | ok pcm =>
      dsimp only
      split
      · refine Stays.bind (stays_bareCall rfl fun _ => rfl) fun _ => stays_pure _
      · exact stays_pure _

end Act

namespace Run

variable {run : Run} {others : Direction → Nat}

/-- Closing a link leaves the PCMs of the codec. -/
theorem stays_codecLive_closeLink (direction : Direction)
    (apart : ∀ pcm, (run.machine.hardware.links.get direction).pcm = some pcm →
      pcm.setup.bus = .bluetooth) :
    run.Stays Machine.codecLive Happening.sparesCodec (Act.closeLink direction run).2 := by
  unfold Act.closeLink
  rw [Act.bind_apply, Act.hardware_apply, Act.bind_apply]
  dsimp only
  generalize cleared : ({ run.machine.hardware.links.get direction with pcm := none } : LinkEnd) =
    link
  have set : run.Stays Machine.codecLive Happening.sparesCodec
      (Act.setLink direction link run).2 := Act.codecLive_setLink direction link run
  cases there : (run.machine.hardware.links.get direction).pcm with
  | none => exact set
  | some pcm =>
      have closes : Act.Stays Machine.codecLive Happening.sparesCodec
          (Act.bareCall (.closePcm .router pcm.setup) (Act.closing pcm)) :=
        Act.stays_bareCall rfl fun _ => Machine.codecLive_erase (apart pcm there)
      exact set.trans (closes _)

/-- Closing a link leaves the PCMs in order, without its own. -/
theorem ordered_closeLink (direction : Direction) (ordered : run.board.Ordered others) :
    (Act.closeLink direction run).2.board.Ordered others := by
  obtain ⟨_, shown, rfl⟩ := Act.boards_closeLink direction run rfl
  exact shown ▸ (ordered.emptied direction _).ordered

/-- The links stay in order whatever steps are taken. -/
theorem ordered_takeStep (step : RouteStep) (ordered : run.board.Ordered others) :
    (Act.takeStep step run).2.board.Ordered others := by
  cases step with
  | write control value =>
      obtain ⟨_, shown, rfl⟩ := Act.boards_writeControl control value run rfl
      exact shown ▸ ordered
  | hold direction =>
      obtain ⟨_, shown, _, replaced, -⟩ := Act.boards_holdLink direction ordered run rfl
      exact shown ▸ replaced.ordered
  | letGo direction =>
      by_cases held : 0 < run.board.holds direction
      · obtain ⟨_, shown, replaced⟩ := Act.boards_letGoLink direction ordered held run rfl
        exact shown ▸ replaced.ordered
      · -- A link without a hold is left alone.
        have idle : Act.letGoLink direction run = ((), run) := by
          have none : ¬ 0 < (run.machine.hardware.links.get direction).holds := held
          unfold Act.letGoLink
          rw [Act.bind_apply, Act.hardware_apply]
          exact congrFun (if_neg none) run
        change (Act.letGoLink direction run).2.board.Ordered others
        rw [idle]
        exact ordered

/-- A step of routing leaves the PCMs of the codec. -/
theorem stays_codecLive_takeStep (step : RouteStep) (ordered : run.board.Ordered others) :
    run.Stays Machine.codecLive Happening.sparesCodec (Act.takeStep step run).2 := by
  have apart : ∀ direction pcm, (run.machine.hardware.links.get direction).pcm = some pcm →
      pcm.setup.bus = .bluetooth := by
    intro direction pcm there
    rw [ordered.own direction pcm there]
    rfl
  cases step with
  | write control value =>
      have writes := (Act.wires_writeControl control value run).map fun wires =>
        wires.2.2.2.filter fun entry => entry.1 = .codec
      refine Stays.mono writes fun what mixer => ?_
      cases what <;> first | rfl | cases mixer
  | hold direction =>
      have holds : Act.Stays Machine.codecLive Happening.sparesCodec (Act.holdLink direction) := by
        refine Act.stays_hardware.bind fun hardware => ?_
        dsimp only
        cases Word.next? (hardware.links.get direction).holds with
        | none => exact Act.stays_pure _
        | some holds =>
            refine (Act.codecLive_setLink _ _).bind fun _ => ?_
            split
            · exact (Act.codecLive_openLink direction).bind fun _ => Act.codecLive_setLink _ _
            · exact Act.stays_pure _
      exact holds run
  | letGo direction =>
      change run.Stays Machine.codecLive Happening.sparesCodec (Act.letGoLink direction run).2
      unfold Act.letGoLink
      rw [Act.bind_apply, Act.hardware_apply]
      dsimp only
      split
      · rw [Act.bind_apply]
        generalize left : ({ run.machine.hardware.links.get direction with
          holds := (run.machine.hardware.links.get direction).holds - 1 } : LinkEnd) = link
        have set : run.Stays Machine.codecLive Happening.sparesCodec
            (Act.setLink direction link run).2 := Act.codecLive_setLink direction link run
        split
        · refine set.trans (stays_codecLive_closeLink direction fun pcm there => ?_)
          have same : (Act.setLink direction link run).2.machine.hardware.links.get direction =
              link := run.machine.hardware.links.get_set_self direction link
          rw [same, ← left] at there
          exact apart direction pcm there
        · exact set
      · exact .refl _

/-- Taking the steps of the router leaves the PCMs of the codec. -/
theorem stays_codecLive_takeSteps (steps : List RouteStep) (ordered : run.board.Ordered others) :
    run.Stays Machine.codecLive Happening.sparesCodec (Act.takeSteps steps run).2 ∧
      (Act.takeSteps steps run).2.board.Ordered others := by
  induction steps generalizing run with
  | nil => exact ⟨.refl run, ordered⟩
  | cons step rest ih =>
      have first := stays_codecLive_takeStep step ordered
      obtain ⟨more, settled⟩ := ih (ordered_takeStep step ordered)
      exact ⟨first.trans more, settled⟩

end Run

end PhoneAudio
