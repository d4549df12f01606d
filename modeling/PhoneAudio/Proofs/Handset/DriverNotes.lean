import PhoneAudio.Proofs.Handset.Progress
import PhoneAudio.Proofs.Handset.Tasks

/-!
# Notes of driver calls

What the notes of all components say at every moment (`PhoneAudio.Session.namesCalls`): while a
driver call is made, its caller's note names it and no other note says anything, and at all other
times no note says anything. The calls that open and close the PCM of a Bluetooth link are the
exception: no note ever names them, so that the notes do not always tell what goes on
(`PhoneAudio.Session.not_namesCalls`).
-/

namespace PhoneAudio

namespace Happening

/-- Who makes a call to a driver, and what a note of it says. -/
def driverCall? : Happening → Option (Component × Activity)
  | openMixer => some (.router, .openingMixer)
  | findControl _ => some (.router, .findingControl)
  | setControl .. => some (.router, .settingControl)
  | openPcm owner _ => some (owner, .openingPcm)
  | closePcm owner _ => some (owner, .closingPcm)
  | writePcm id _ => some (.stream id, .writingPcm)
  | readPcm id _ => some (.stream id, .readingPcm)
  | _ => none

/-- What a component does in a driver while something happens. -/
def activity (what : Happening) (component : Component) : Activity :=
  match what.driverCall? with
  | some (caller, activity) => if caller = component then activity else .idle
  | none => .idle

/-- Whether something that happens opens or closes the PCM of a Bluetooth link. -/
def isLinkCall : Happening → Bool
  | openPcm .router _ | closePcm .router _ => true
  | _ => false

/-- What calls no driver is no activity of a component. -/
theorem activity_of_none {what : Happening} (quiet : what.driverCall? = none)
    (component : Component) : what.activity component = .idle := by
  unfold activity
  rw [quiet]

end Happening

/-- What a component's note of driver calls says. -/
def Machine.activity (machine : Machine) : Component → Activity
  | .router => machine.hardware.activity
  | .stream id => (machine.stream id).activity

/-- A component that there is. -/
def Component.Within (machine : Machine) : Component → Prop
  | router => True
  | stream id => id < machine.streams.length

/-- No note of driver calls says anything. -/
def Machine.Idle (machine : Machine) : Prop :=
  ∀ component, machine.activity component = .idle

/-- The notes name what happens, unless it is about a Bluetooth link: then they say nothing. -/
def Moment.Noted (moment : Moment) : Prop :=
  ∀ component, moment.before.activity component =
    if moment.what.isLinkCall then .idle else moment.what.activity component

/-- A moment without a call to a driver, or with one of a link, is noted as long as nothing else
goes on. -/
theorem Moment.Noted.of_idle {moment : Moment} (idle : moment.before.Idle)
    (quiet : moment.what.driverCall? = none ∨ moment.what.isLinkCall = true) : moment.Noted := by
  intro component
  rw [idle component]
  obtain quiet | link := quiet
  · rw [Happening.activity_of_none quiet, ite_self]
  · rw [if_pos link]

/-- From a run without a note to another, with notes of what happens in between. -/
structure Run.Notes (run after : Run) : Prop where
  idle : after.machine.Idle
  moments : ∃ more : List Moment, after.history = run.history ++ more ∧
    ∀ moment ∈ more, moment.Noted

namespace Run

variable {run middle after : Run}

/-- Without any moment, all are noted. -/
theorem Notes.refl (idle : run.machine.Idle) : run.Notes run :=
  ⟨idle, [], (List.append_nil _).symm, List.forall_mem_nil _⟩

/-- Notes of moments one after the other. -/
theorem Notes.trans (first : run.Notes middle) (rest : middle.Notes after) : run.Notes after := by
  obtain ⟨moments, history, noted⟩ := first.moments
  obtain ⟨more, later, behind⟩ := rest.moments
  refine ⟨rest.idle, moments ++ more, ?_, fun moment member => ?_⟩
  · rw [later, history, List.append_assoc]
  · exact (List.mem_append.mp member).elim (noted moment) (behind moment)

/-- Changes to the rest of the state. -/
theorem Notes.beside (notes : run.Notes middle)
    (activity : after.machine.activity = middle.machine.activity)
    (history : after.history = middle.history) : run.Notes after := by
  refine ⟨fun component => ?_, ?_⟩
  · rw [activity]
    exact notes.idle component
  · rw [history]
    exact notes.moments

/-- A moment without a note that should have none, or is about a link. -/
theorem Notes.silent (idle : run.machine.Idle) {what : Happening}
    (quiet : what.driverCall? = none ∨ what.isLinkCall = true) :
    run.Notes (Act.note what run).2 := by
  refine ⟨idle, [⟨what, run.machine⟩], rfl, fun moment member => ?_⟩
  rw [List.mem_singleton.mp member]
  exact .of_idle idle quiet

/-- What stays with the vitals of the state has no notes in between. -/
theorem Stays.notes (stays : run.Stays Machine.vitals Happening.isPlain after)
    (idle : run.machine.Idle) : run.Notes after := by
  have kept : ∀ machine : Machine, machine.vitals = run.machine.vitals → machine.Idle := by
    intro machine same
    have streams : machine.streams.map Stream.activity =
        run.machine.streams.map Stream.activity := by
      have mapped := congrArg (fun vitals => vitals.2.1.map Prod.fst) same
      simp only [Machine.vitals, List.map_map] at mapped
      exact mapped
    intro component
    rw [← idle component]
    cases component with
    | router => exact congrArg Prod.fst same
    | stream id =>
        have read : ∀ machine : Machine, (machine.stream id).activity =
            (machine.streams.map Stream.activity).getD id .idle :=
          fun machine => (List.getD_map machine.streams default Stream.activity).symm
        exact (read machine).trans ((congrArg (List.getD · id .idle) streams).trans
          (read run.machine).symm)
  obtain ⟨more, history, before⟩ := stays.moments
  refine ⟨kept _ stays.kept, more, history, fun moment member => ?_⟩
  obtain ⟨same, plain⟩ := before moment member
  refine .of_idle (kept _ same) (.inl ?_)
  cases what : moment.what <;> rw [what] at plain <;> first | rfl | cases plain

end Run

namespace Act

variable {α β : Type}

/-- An action that notes what it does. -/
def Notes (action : Act α) : Prop :=
  ∀ run : Run, run.machine.Idle → run.Notes (action run).2

theorem notes_pure (answer : α) : Notes (pure answer : Act α) :=
  fun _ idle => .refl idle

/-- What is noted during two actions is noted during both. -/
theorem Notes.bind {action : Act α} {next : α → Act β} (first : Notes action)
    (rest : ∀ answer, Notes (next answer)) : Notes (action >>= next) :=
  fun run idle => (first run idle).trans (rest _ _ (first run idle).idle)

/-- Reading does nothing to a run. -/
theorem notes_read (f : Run → α) : Notes (fun run => (f run, run)) :=
  fun _ idle => .refl idle

theorem notes_changeHardware {f : Hardware → Hardware}
    (activity : ∀ hardware, (f hardware).activity = hardware.activity) :
    Notes (changeHardware f) := by
  refine fun run idle => (Run.Notes.refl idle).beside (funext fun component => ?_) rfl
  cases component with
  | router => exact activity _
  | stream id => rfl

/-- Changing a stream leaves the activities, as long as it leaves its own. -/
theorem activity_changeStream (id : StreamId) {f : Stream → Stream}
    (activity : ∀ stream, (f stream).activity = stream.activity) (run : Run) :
    (changeStream id f run).2.machine.activity = run.machine.activity := by
  funext component
  cases component with
  | router => rfl
  | stream other => exact Machine.view_adjust Stream.activity run.machine id other activity

theorem notes_changeStream (id : StreamId) {f : Stream → Stream}
    (activity : ∀ stream, (f stream).activity = stream.activity) : Notes (changeStream id f) :=
  fun run idle => (Run.Notes.refl idle).beside (activity_changeStream id activity run) rfl

/-- A driver call that nobody notes and that should have no note, or is about a link. -/
theorem notes_bareCall {what : Happening}
    (quiet : what.driverCall? = none ∨ what.isLinkCall = true)
    (effect : Drivers → α × Drivers) : Notes (bareCall what effect) :=
  fun _ idle => (Run.Notes.silent idle quiet).beside rfl rfl

/-- Noting a call changes the caller's note. -/
theorem activity_setActivity (activity : Activity) {caller : Component} {run : Run}
    (within : caller.Within run.machine) (component : Component) :
    (setActivity activity caller run).2.machine.activity component =
      if caller = component then activity else run.machine.activity component := by
  cases caller with
  | router =>
      cases component with
      | router => rfl
      | stream id => rfl
  | stream id =>
      cases component with
      | router => rfl
      | stream other =>
          have set := run.machine.stream_adjust_cases id other
            fun stream => { stream with activity := activity }
          by_cases same : id = other
          · subst same
            rw [if_pos rfl]
            exact congrArg Stream.activity (run.machine.stream_adjust
              (fun stream => { stream with activity := activity }) within)
          · rw [if_neg fun equal => same (Component.stream.inj equal)]
            exact congrArg Stream.activity (run.machine.stream_adjust_of_ne
              (fun stream => { stream with activity := activity }) fun equal => same equal.symm)

/-- A component that notes what it is doing is the one that does something. -/
theorem within_setActivity (activity : Activity) {caller : Component} {run : Run}
    (within : caller.Within run.machine) :
    caller.Within (setActivity activity caller run).2.machine := by
  cases caller with
  | router => trivial
  | stream id => exact Nat.lt_of_lt_of_eq within (List.length_modify ..).symm

/-- **Calls.** A driver call with a note that names it. -/
theorem notes_call {caller : Component} {activity : Activity} {what : Happening}
    (named : what.driverCall? = some (caller, activity)) (unlinked : what.isLinkCall = false)
    (effect : Drivers → α × Drivers) {run : Run} (within : caller.Within run.machine)
    (idle : run.machine.Idle) : run.Notes (call caller activity what effect run).2 := by
  have entered := activity_setActivity activity within
  have still :
      caller.Within (bareCall what effect (setActivity activity caller run).2).2.machine := by
    have kept := within_setActivity activity within
    cases caller <;> exact kept
  have left := activity_setActivity .idle still
  refine ⟨fun component => (left component).trans ?_,
    [⟨what, (setActivity activity caller run).2.machine⟩], ?_, fun moment member => ?_⟩
  · split
    · rfl
    · rename_i other
      have kept := entered component
      rw [if_neg other, idle component] at kept
      cases component <;> exact kept
  · cases caller <;> rfl
  · rw [List.mem_singleton.mp member]
    intro component
    rw [entered component, idle component]
    unfold Happening.activity
    rw [unlinked, named]
    rfl

/-- The router notes its calls to the mixer. -/
theorem notes_routerCall {activity : Activity} {what : Happening}
    (named : what.driverCall? = some (.router, activity)) (unlinked : what.isLinkCall = false)
    (effect : Drivers → α × Drivers) : Notes (call .router activity what effect) :=
  fun _ idle => notes_call named unlinked effect trivial idle

theorem routes_notes : Routes fun action => Notes action where
  done := notes_pure
  reads _ := notes_read _
  next := Notes.bind
  finds _ := notes_routerCall rfl rfl _
  writes _ _ _ := notes_routerCall rfl rfl _
  opens _ := notes_bareCall (.inr rfl) _
  starts _ _ := notes_bareCall (.inl rfl) _
  closes _ := notes_bareCall (.inr rfl) _
  links _ _ := notes_changeHardware fun _ => rfl

theorem notes_reroute (f : Router → Router × List RouteStep) : Notes (reroute f) :=
  routes_notes.reroute (fun _ => notes_changeHardware fun _ => rfl) f

theorem notes_openRouter (tables : CodecTables) : Notes (openRouter tables) := by
  refine (notes_routerCall rfl rfl _).bind fun opened => ?_
  cases opened with
  | error error => exact notes_pure _
  | ok =>
      refine Notes.bind (notes_changeHardware ?_) fun _ => ?_
      · exact fun _ => rfl
      · exact (routes_notes.takeSteps _).bind fun _ => notes_pure _

theorem notes_closeRouter : Notes closeRouter :=
  routes_notes.closeRouter fun _ => notes_changeHardware fun _ => rfl

theorem notes_callWakeLock {what : Happening} (quiet : what.driverCall? = none)
    (wakeCall : Bench.WakeCall) : Notes (callWakeLock what wakeCall) :=
  routes_notes.callWakeLock (notes_bareCall (.inl quiet) _)

theorem notes_acquireWake (id : StreamId) : Notes (acquireWake id) :=
  (notes_read _).bind fun _ => notes_callWakeLock rfl _

theorem notes_releaseWake (id : StreamId) : Notes (releaseWake id) :=
  (notes_read _).bind fun _ => notes_callWakeLock rfl _

theorem notes_tell (id : Option StreamId) (event : Event) : Notes (tell id event) :=
  routes_notes.tell (notes_bareCall (.inl rfl) _)

theorem notes_doze (id : StreamId) : Notes (doze id) := by
  have aged : Notes (age id) := fun run idle => (plain_age id run).notes idle
  refine aged.bind fun _ => (notes_read _).bind fun stream => ?_
  split
  · refine Notes.bind (notes_changeStream id ?_) fun _ => (notes_releaseWake id).bind fun _ => ?_
    · exact fun _ => rfl
    · exact (notes_read _).bind fun _ => notes_tell _ _
  · exact notes_pure _

theorem notes_settleWaking (id : StreamId) (opened : Except AudioError Unit) :
    Notes (settleWaking id opened) := by
  cases opened with
  | error error => exact (notes_releaseWake id).bind fun _ => notes_pure _
  | ok =>
      refine Notes.bind (notes_changeStream id ?_) fun _ => (notes_read _).bind fun _ => ?_
      · exact fun _ => rfl
      · exact (notes_tell _ _).bind fun _ => notes_pure _

/-- A stream with a PCM is there. -/
theorem inside_of_pcm {run : Run} {id : StreamId} {pcm : OpenPcm}
    (there : (run.machine.stream id).pcm = some pcm) : id < run.machine.streams.length := by
  refine Nat.lt_of_not_le fun outside => ?_
  have absent : run.machine.stream id = default := List.getD_eq_default _ _ outside
  rw [absent] at there
  cases there

theorem notes_closeStreamPcm (id : StreamId) : Notes (closeStreamPcm id) := by
  intro run idle
  unfold closeStreamPcm
  rw [bind_apply, stream_apply]
  dsimp only
  cases there : (run.machine.stream id).pcm with
  | none => exact .refl idle
  | some pcm =>
      have emptied : Notes (changeStream id fun stream => { stream with pcm := none }) :=
        notes_changeStream id fun _ => rfl
      have within : (Component.stream id).Within
          (changeStream id (fun stream => { stream with pcm := none }) run).2.machine :=
        Nat.lt_of_lt_of_eq (inside_of_pcm there) (List.length_modify ..).symm
      have first := emptied run idle
      exact first.trans (notes_call rfl rfl (closing pcm) within first.idle)

/-- Opening a stream that has no PCM. -/
theorem notes_engage {id : StreamId} {run : Run} (inside : id < run.machine.streams.length)
    (empty : (run.machine.stream id).pcm = none) (idle : run.machine.Idle) :
    run.Notes (engage id run).2 := by
  unfold engage
  simp only [bind_apply, machine_apply, stream_apply]
  generalize PcmSetup.codec run.machine.settings (run.machine.stream id).direction = setup
  have called : run.Notes (call (.stream id) .openingPcm (.openPcm (.stream id) setup)
      (onPcm (·.openPcm setup)) run).2 := notes_call rfl rfl _ inside idle
  have turned := (run.turns_call id .openingPcm (.openPcm (.stream id) setup)
    (onPcm (·.openPcm setup))).streams
  generalize call (.stream id) .openingPcm (.openPcm (.stream id) setup)
    (onPcm (·.openPcm setup)) run = answered at called turned
  obtain ⟨error | pcm, after⟩ := answered
  · exact called
  · dsimp only at called turned ⊢
    split
    · have vacant : (after.machine.stream id).pcm = none := by
        rw [← empty, Machine.stream_congr turned]
        exact Machine.view_adjust Stream.pcm run.machine id id fun _ => rfl
      have fitted : Notes (changeStream id fun stream => { stream with pcm := some pcm }) :=
        notes_changeStream id fun _ => rfl
      have installed : installPcm id pcm after =
          changeStream id (fun stream => { stream with pcm := some pcm }) after := by
        unfold installPcm
        rw [bind_apply, stream_apply]
        dsimp only
        rw [vacant]
        rfl
      rw [bind_apply, installed]
      exact called.trans (fitted after called.idle)
    · have within : (Component.stream id).Within after.machine := by
        have length := congrArg List.length turned
        rw [Machine.length_adjust] at length
        exact Nat.lt_of_lt_of_eq inside length.symm
      exact called.trans (notes_call rfl rfl (closing pcm) within called.idle)

theorem notes_addStream {stream : Stream} (idle : stream.activity = .idle) :
    Notes (addStream stream) := by
  intro run calm
  refine (Run.Notes.refl calm).beside (funext fun component => ?_) rfl
  cases component with
  | router => rfl
  | stream id =>
      change ((run.machine.streams ++ [stream]).getD id default).activity =
        (run.machine.streams.getD id default).activity
      by_cases earlier : id < run.machine.streams.length
      · rw [List.getD_append _ _ _ _ earlier]
      · rw [List.getD_append_right _ _ _ _ (Nat.le_of_not_lt earlier),
          List.getD_eq_default run.machine.streams _ (Nat.le_of_not_lt earlier)]
        cases id - run.machine.streams.length with
        | zero => exact idle
        | succ => rfl

theorem notes_writeOpen (id : StreamId) (bytes : Nat) : Notes (writeOpen id bytes) := by
  intro run idle
  unfold writeOpen
  rw [bind_apply, stream_apply]
  dsimp only
  cases there : (run.machine.stream id).pcm with
  | none => exact .refl idle
  | some pcm =>
      have within : (Component.stream id).Within run.machine := inside_of_pcm there
      have called : run.Notes (call (.stream id) .writingPcm (.writePcm id bytes)
          (onPcm (·.write pcm bytes)) run).2 := notes_call rfl rfl _ within idle
      exact called

theorem notes_readOpen (id : StreamId) (frames : Nat) : Notes (readOpen id frames) := by
  intro run idle
  cases there : (run.machine.stream id).pcm with
  | none =>
      rw [readOpen_of_none there]
      exact .refl idle
  | some pcm =>
      let noted (between : Run) : Prop :=
        run.Notes between ∧ id < between.machine.streams.length
      have first : noted run := ⟨.refl idle, inside_of_pcm there⟩
      have changes : ∀ f : Stream → Stream, (∀ stream, (f stream).activity = stream.activity) →
          ∀ between, noted between → noted (changeStream id f between).2 :=
        fun f unseen between holds => ⟨holds.1.trans (notes_changeStream id unseen between
          holds.1.idle), Nat.lt_of_lt_of_eq holds.2 (List.length_modify ..).symm⟩
      refine (readOpen_keeps noted first frames (fun pcm _ wanted between holds => ?_)
        fun pipeline samples => changes _ fun _ => rfl).1
      refine captured_keeps noted (fun raw => changes _ fun _ => rfl)
        (fun between holds => ?_) holds
      obtain ⟨notes, inside⟩ := holds
      refine ⟨notes.trans (notes_call rfl rfl _ inside notes.idle), ?_⟩
      exact (between.turns_call id .readingPcm _ _).length ▸ inside

end Act

namespace Run

variable {run after : Run} {operation : Operation}

/-- A deed notes its calls to drivers. -/
theorem Deed.notes (deed : run.Deed operation after) (idle : run.machine.Idle) :
    run.Notes after := by
  cases deed with
  | plain stays => exact stays.notes idle
  | joined calm => exact Act.notes_addStream calm run idle
  | routed f => exact Act.notes_reroute f run idle
  | gone => exact Act.notes_closeRouter run idle
  | shut id => exact Act.notes_closeStreamPcm id run idle
  | engaged inside empty => exact Act.notes_engage (run.machine.length_ties ▸ inside) empty idle
  | dozed id => exact Act.notes_doze id run idle

/-- Deeds note their calls to drivers. -/
theorem Deeds.notes (deeds : run.Deeds operation after) (idle : run.machine.Idle) :
    run.Notes after := by
  induction deeds with
  | refl => exact .refl idle
  | tail _ deed ih => exact ih.trans (deed.notes ih.idle)

/-- A task notes its calls to drivers. -/
theorem Task.notes (task : run.Task operation after) (idle : run.machine.Idle) :
    run.Notes after := by
  cases task with
  | deed deed => exact deed.notes idle
  | @roused id between own asleep deeds opened =>
      have begun := Act.notes_acquireWake id run idle
      have done := begun.trans (Deeds.notes deeds begun.idle)
      exact done.trans (Act.notes_settleWaking id (.ok ()) between done.idle)
  | @refused id between error own asleep deeds =>
      have begun := Act.notes_acquireWake id run idle
      have done := begun.trans (Deeds.notes deeds begun.idle)
      exact done.trans (Act.notes_settleWaking id (.error error) between done.idle)
  | @wrote id bytes own => exact Act.notes_writeOpen id bytes run idle
  | @heard id buffer own frames => exact Act.notes_readOpen id frames run idle

/-- Tasks note their calls to drivers. -/
theorem Tasks.notes (tasks : run.Tasks operation after) (idle : run.machine.Idle) :
    run.Notes after := by
  induction tasks with
  | refl => exact .refl idle
  | tail _ task ih => exact ih.trans (task.notes ih.idle)

/-- Building notes what it does. -/
theorem Built.notes (built : run.Built) :
    ∃ drivers, Run.Notes { machine := { drivers := drivers } } run := by
  obtain ⟨plan, drivers, -, done⟩ := built
  refine ⟨drivers, ?_⟩
  have idle : Machine.Idle { drivers := drivers } := fun component => by cases component <;> rfl
  have opened := Act.notes_openRouter plan.tables { machine := { drivers := drivers } } idle
  unfold Act.build at done
  cases fault : plan.fault? with
  | some error =>
      rw [fault] at done
      cases done
  | none =>
      rw [fault] at done
      cases done
      refine opened.beside (funext fun component => ?_) rfl
      cases component <;> rfl

end Run

namespace Session

variable {first last : Run} {operations : List Operation}

/-- Sessions note their calls to drivers. -/
theorem notes (built : first.Built) (session : Session first operations last) :
    ∃ drivers, Run.Notes { machine := { drivers := drivers } } last := by
  induction session with
  | start => exact built.notes
  | step earlier conditions possible ih =>
      rename_i run operation
      obtain ⟨drivers, behind⟩ := ih
      have under : Run.Notes { machine := { drivers := drivers } } (run.under conditions) :=
        behind.beside (funext fun component => by cases component <;> rfl) rfl
      have tasks := earlier.tasks built conditions possible
      exact ⟨drivers, under.trans (Run.Tasks.notes tasks under.idle)⟩

/-- **Notes of driver calls.** In every session, whatever the drivers do, a driver call is named by
the note of the component that makes it while it lasts and by no other, but for the calls that open
or close a Bluetooth link, which no note names. No note says anything at other times. -/
theorem namesCalls (built : first.Built) (session : Session first operations last) :
    last.machine.Idle ∧ ∀ moment ∈ last.history, ∀ component,
      moment.before.activity component =
        if moment.what.isLinkCall then .idle else moment.what.activity component := by
  obtain ⟨drivers, idle, more, history, noted⟩ := session.notes built
  rw [List.nil_append] at history
  rw [history]
  exact ⟨idle, noted⟩

end Session

/-- Playback that has begun on Bluetooth. -/
def Run.onBluetooth : Run :=
  (Run.stock.next (.openStream .playback ⟨0x10⟩ {})).next (.write 0 4)

/-- A stream is played on over Bluetooth. -/
theorem Session.onBluetooth :
    Session Run.stock [.openStream .playback ⟨0x10⟩ {}, .write 0 4] Run.onBluetooth :=
  (Session.start.next (.openStream .playback ⟨0x10⟩ {}) (by decide +kernel)).next (.write 0 4)
    (by decide +kernel)

/-- The link is opened while the stream's own PCM and the mixer are used as well. -/
theorem Session.namesCalls_onBluetooth :
    (∃ moment ∈ Run.onBluetooth.history, moment.what = .openPcm .router (.bluetooth .playback)) ∧
      (∃ moment ∈ Run.onBluetooth.history, moment.before.activity (.stream 0) = .writingPcm) ∧
      ∀ moment ∈ Run.onBluetooth.history, ∀ component, moment.before.activity component =
        if moment.what.isLinkCall then .idle else moment.what.activity component := by
  refine ⟨?_, ?_, (Session.namesCalls Run.built_stock Session.onBluetooth).2⟩
  · decide +kernel
  · decide +kernel

/-- Nothing says that a Bluetooth link is being opened. -/
theorem Session.not_namesCalls : ¬ ∀ (first last : Run) (operations : List Operation),
    first.Built → Session first operations last →
    ∀ moment ∈ last.history, ∀ component,
      moment.before.activity component = moment.what.activity component := by
  intro named
  have router : ∀ moment ∈ Run.onBluetooth.history,
      moment.before.activity .router = moment.what.activity .router :=
    fun moment member => named _ _ _ Run.built_stock Session.onBluetooth moment member .router
  exact absurd router (by decide +kernel)

end PhoneAudio
