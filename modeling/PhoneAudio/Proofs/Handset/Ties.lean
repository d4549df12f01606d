import PhoneAudio.Proofs.Handset.Instants
import PhoneAudio.Proofs.Handset.Making
import PhoneAudio.Proofs.Handset.Opening

/-!
# Streams and their PCMs

Between tasks of an operation, a stream has a PCM exactly when it is out of standby
(`PhoneAudio.Machine.Tied`). This module says what closing, opening and standby make of the PCMs
and the standby flags, whatever state they find (`PhoneAudio.Machine.ties`), and which actions
leave them, the drivers and all notes of driver calls alone at every moment
(`PhoneAudio.Act.Plain`).
-/

namespace PhoneAudio

/-- The PCM of a stream, and whether the stream is out of standby. -/
def Stream.tie (stream : Stream) : Option OpenPcm × Bool :=
  (stream.pcm, stream.isActive)

namespace Machine

/-- The PCMs of the streams, and which streams are out of standby. -/
def ties (machine : Machine) : List (Option OpenPcm × Bool) :=
  machine.streams.map Stream.tie

/-- A stream's PCM, and whether the stream is out of standby. -/
def tie (machine : Machine) (id : StreamId) : Option OpenPcm × Bool :=
  (machine.stream id).tie

/-- The streams that are out of standby are those that have a PCM. -/
def Tied (machine : Machine) : Prop :=
  ∀ tie ∈ machine.ties, tie.1.isSome = tie.2

variable {machine after : Machine} {id other : StreamId} {f : Stream → Stream}
  {change : Option OpenPcm × Bool → Option OpenPcm × Bool}

/-- The PCM and the standby of a stream are listed at its place. -/
theorem tie_eq (machine : Machine) (id : StreamId) :
    machine.tie id = machine.ties.getD id (none, false) :=
  (List.getD_map machine.streams default Stream.tie).symm

/-- A stream that is out of standby was opened. -/
theorem inside_of_tie (active : (machine.tie id).2 = true) : id < machine.ties.length := by
  refine Nat.lt_of_not_le fun outside => ?_
  rw [tie_eq, List.getD_eq_default _ _ outside] at active
  cases active

theorem length_ties (machine : Machine) : machine.ties.length = machine.streams.length :=
  List.length_map _

/-- A change of a stream is one of what it lists. -/
theorem ties_adjust (machine : Machine) (id : StreamId)
    (commutes : ∀ stream, (f stream).tie = change stream.tie) :
    (machine.adjust id f).ties = machine.ties.modify id change :=
  map_modify commutes machine.streams id

/-- A change that leaves what a stream lists leaves all that is listed. -/
theorem ties_adjust_of_unseen (machine : Machine) (id : StreamId)
    (unseen : ∀ stream, (f stream).tie = stream.tie) :
    (machine.adjust id f).ties = machine.ties :=
  map_modify_of_unseen unseen machine.streams id

theorem ties_of_streams (same : after.streams = machine.streams) : after.ties = machine.ties :=
  congrArg (List.map Stream.tie) same

theorem tie_of_ties (same : after.ties = machine.ties) (id : StreamId) :
    after.tie id = machine.tie id := by
  rw [tie_eq, same, ← tie_eq]

/-- What a changed stream lists is changed. -/
theorem tie_modify (changed : after.ties = machine.ties.modify id change)
    (inside : id < machine.ties.length) : after.tie id = change (machine.tie id) := by
  rw [tie_eq, changed, tie_eq, List.getD_eq_getElem?_getD, List.getElem?_modify_eq,
    List.getD_eq_getElem?_getD, List.getElem?_eq_getElem inside]
  rfl

/-- What the other streams list is left. -/
theorem tie_modify_of_ne (changed : after.ties = machine.ties.modify id change)
    (different : other ≠ id) : after.tie other = machine.tie other := by
  rw [tie_eq, changed, tie_eq, List.getD_eq_getElem?_getD,
    List.getElem?_modify_ne _ _ different.symm, ← List.getD_eq_getElem?_getD]

/-- Whether streams out of standby have PCMs depends on what is listed. -/
theorem Tied.of_ties (tied : machine.Tied) (same : after.ties = machine.ties) :
    after.Tied := by
  intro tie member
  rw [same] at member
  exact tied tie member

/-- A stream that is put to standby is tied. -/
theorem Tied.sleep (tied : machine.Tied)
    (slept : after.ties = machine.ties.modify id fun _ => (none, false)) : after.Tied := by
  intro tie member
  rw [slept] at member
  obtain ⟨place, inside, rfl⟩ := List.mem_iff_getElem.mp member
  rw [List.getElem_modify]
  split
  · rfl
  · exact tied _ (List.getElem_mem _)

/-- A stream that joins in standby without a PCM leaves the others in step. -/
theorem Tied.join (tied : machine.Tied)
    (joined : after.ties = machine.ties ++ [(none, false)]) : after.Tied := by
  intro tie member
  rw [joined] at member
  obtain earlier | last := List.mem_append.mp member
  · exact tied tie earlier
  · rw [List.mem_singleton.mp last]
    rfl

/-- A stream in standby has no PCM, and one out of standby has one. -/
theorem Tied.tie (tied : machine.Tied) (id : StreamId) :
    (machine.tie id).1.isSome = (machine.tie id).2 := by
  by_cases inside : id < machine.ties.length
  · rw [tie_eq, List.getD_eq_getElem _ _ inside]
    exact tied _ (List.getElem_mem _)
  · rw [tie_eq, List.getD_eq_default _ _ (Nat.le_of_not_lt inside)]
    rfl

/-- It is enough to look at each place. -/
theorem Tied.of_tie (tied : ∀ id < machine.ties.length,
    (machine.tie id).1.isSome = (machine.tie id).2) : machine.Tied := by
  intro tie member
  obtain ⟨id, inside, rfl⟩ := List.mem_iff_getElem.mp member
  have here := tied id inside
  rwa [tie_eq, List.getD_eq_getElem _ _ inside] at here

/-- Sound states are tied. -/
theorem Sound.tied (sound : machine.Sound []) : machine.Tied := by
  refine Tied.of_tie fun id inside => ?_
  have quiet := sound.quiet id (machine.length_ties ▸ inside) List.not_mem_nil
  unfold Machine.tie Stream.tie Stream.isActive
  rw [quiet, Option.not_isNone]

end Machine

/-- What runs show of tied states is tied. -/
theorem Run.Shows.tied {run : Run} {state : Machine} (shows : run.Shows state)
    (tied : state.Tied) : run.machine.Tied := by
  refine tied.of_ties ?_
  rw [← shows.core_eq]
  have same : run.machine.core.ties = run.machine.ties := List.map_map
  exact same.symm

namespace Act

variable {α : Type}

/-- Routing leaves the PCMs of streams. -/
theorem keeps_ties_reroute (f : Router → Router × List RouteStep) :
    Keeps (fun run => run.machine.ties) (reroute f) :=
  fun run => Machine.ties_of_streams (congrArg Prod.fst (keeps_inlets_reroute f run))

theorem keeps_ties_closeRouter : Keeps (fun run => run.machine.ties) closeRouter := by
  have closes : ∀ direction, Keeps (fun run => run.machine.ties) (closeLink direction) :=
    fun direction run =>
      Machine.ties_of_streams (congrArg Prod.fst (routes_inlets.closeLink direction run))
  exact Keeps.bind (fun _ => rfl) fun _ => (closes .capture).bind fun _ => closes .playback

theorem keeps_ties_changeStream (id : StreamId) {f : Stream → Stream}
    (unseen : ∀ stream, (f stream).tie = stream.tie) :
    Keeps (fun run => run.machine.ties) (changeStream id f) :=
  fun run => run.machine.ties_adjust_of_unseen id unseen

/-- A driver call on behalf of a stream. -/
theorem keeps_ties_call (id : StreamId) (activity : Activity) (what : Happening)
    (effect : Drivers → α × Drivers) :
    Keeps (fun run => run.machine.ties) (call (.stream id) activity what effect) := by
  intro run
  have turns := run.turns_call id activity what effect
  exact (Machine.ties_of_streams turns.streams).trans
    (run.machine.ties_adjust_of_unseen id fun _ => rfl)

/-- Closing the PCM of a stream leaves it without one. -/
theorem ties_closeStreamPcm (id : StreamId) (run : Run) :
    (closeStreamPcm id run).2.machine.ties =
      run.machine.ties.modify id fun tie => (none, tie.2) := by
  unfold closeStreamPcm
  rw [bind_apply, stream_apply]
  dsimp only
  cases there : (run.machine.stream id).pcm with
  | none =>
      have same : run.machine.adjust id Stream.emptied = run.machine :=
        Machine.adjust_of_fixed (by rw [Stream.emptied, ← there])
      exact (congrArg Machine.ties same).symm.trans (run.machine.ties_adjust id fun _ => rfl)
  | some pcm =>
      have emptied : (changeStream id (fun stream => { stream with pcm := none })
          run).2.machine.ties = run.machine.ties.modify id fun tie => (none, tie.2) :=
        run.machine.ties_adjust id fun _ => rfl
      have closed := keeps_ties_call id .closingPcm (.closePcm (.stream id) pcm.setup) (closing pcm)
        (changeStream id (fun stream => { stream with pcm := none }) run).2
      exact closed.trans emptied

/-- Closing a stream leaves it without a PCM. -/
theorem ties_closeLocked (id : StreamId) (run : Run) :
    (closeLocked id run).2.machine.ties = run.machine.ties.modify id fun tie => (none, tie.2) := by
  unfold closeLocked
  rw [bind_apply, stream_apply]
  dsimp only
  split
  · have routed := keeps_ties_reroute (·.setRoute .playback .none) run
    exact (ties_closeStreamPcm id _).trans (congrArg (List.modify · id _) routed)
  · exact ties_closeStreamPcm id run

theorem keeps_ties_callWakeLock (what : Happening) (wakeCall : Bench.WakeCall) :
    Keeps (fun run => run.machine.ties) (callWakeLock what wakeCall) :=
  composes_keeps.callWakeLock fun _ => rfl

theorem keeps_ties_tell (id : Option StreamId) (event : Event) :
    Keeps (fun run => run.machine.ties) (tell id event) :=
  composes_keeps.tell fun _ => rfl

theorem keeps_ties_age (id : StreamId) : Keeps (fun run => run.machine.ties) (age id) := by
  refine Keeps.bind (fun _ => rfl) fun _ => keeps_ties_changeStream id ?_
  exact fun _ => rfl

/-- A stream that dozes is in standby, with the PCM that it has. -/
theorem ties_doze (id : StreamId) (run : Run) :
    (doze id run).2.machine.ties = run.machine.ties.modify id fun tie => (tie.1, false) := by
  have told : Keeps (fun run => run.machine.ties) (do
      releaseWake id
      tell (some id) (.standbyEntered (← stream id).direction)) :=
    Keeps.bind (fun run => keeps_ties_callWakeLock _ _ run) fun _ run => keeps_ties_tell _ _ run
  have aged : (age id run).2.machine.ties = run.machine.ties := keeps_ties_age id run
  unfold doze
  rw [← aged, bind_apply]
  generalize (age id run).2 = after
  rw [bind_apply, stream_apply]
  dsimp only
  split
  · exact (told _).trans (after.machine.ties_adjust id fun _ => rfl)
  · rename_i inactive
    have asleep : (after.machine.stream id).status.standby = true := by
      simpa [Stream.isActive] using inactive
    have fixed : after.machine.adjust id (fun stream =>
        { stream with status := { stream.status with standby := true } }) = after.machine := by
      refine Machine.adjust_of_fixed ?_
      rw [← asleep]
    exact (congrArg Machine.ties fixed).symm.trans (after.machine.ties_adjust id fun _ => rfl)

/-- A stream that is roused is out of standby, with the PCM that it has. -/
theorem ties_settleWaking (id : StreamId) (run : Run) :
    (settleWaking id (.ok ()) run).2.machine.ties =
      run.machine.ties.modify id fun tie => (tie.1, true) :=
  (keeps_ties_tell _ _ _).trans (run.machine.ties_adjust id fun _ => rfl)

/-- A stream that is put to standby has no PCM. -/
theorem ties_standbyLocked (id : StreamId) (run : Run) :
    (standbyLocked id run).2.machine.ties = run.machine.ties.modify id fun _ => (none, false) := by
  rw [standbyLocked_eq, bind_apply, ties_closeLocked, ties_doze, List.modify_modify_eq]
  rfl

/-- Opening a stream puts a PCM into it, or fails and leaves it. -/
theorem ties_engage (id : StreamId) (run : Run) :
    (∃ error, (engage id run).1 = .error error ∧
        (engage id run).2.machine.ties = run.machine.ties) ∨
      ∃ pcm, (engage id run).1 = .ok () ∧
        (engage id run).2.machine.ties =
          run.machine.ties.modify id fun tie => (some pcm, tie.2) := by
  unfold engage
  simp only [bind_apply, machine_apply, stream_apply]
  generalize PcmSetup.codec run.machine.settings (run.machine.stream id).direction = setup
  have called : (call (.stream id) .openingPcm (.openPcm (.stream id) setup)
      (onPcm (·.openPcm setup)) run).2.machine.ties = run.machine.ties :=
    keeps_ties_call id _ _ _ run
  rw [← called]
  generalize call (.stream id) .openingPcm (.openPcm (.stream id) setup)
    (onPcm (·.openPcm setup)) run = answered
  obtain ⟨error | pcm, after⟩ := answered
  · exact .inl ⟨_, rfl, rfl⟩
  · dsimp only
    split
    · have installed := (turns_installPcm after id pcm).streams
      refine .inr ⟨pcm, rfl, (Machine.ties_of_streams installed).trans ?_⟩
      exact after.machine.ties_adjust id fun _ => rfl
    · exact .inl ⟨_, rfl, keeps_ties_call id _ _ (closing pcm) after⟩

theorem keeps_ties_routeOpened (id : StreamId) :
    Keeps (fun run => run.machine.ties) (routeOpened id) := by
  intro run
  refine (Machine.ties_of_streams (turns_routeOpened run id).streams).trans ?_
  refine run.machine.ties_adjust_of_unseen id fun stream => ?_
  split <;> rfl

end Act

/-- The notes of driver calls, the PCMs and standby flags of streams, and the drivers without the
events that were told. -/
def Machine.vitals (machine : Machine) :
    Activity × List (Activity × Option OpenPcm × Bool) × Drivers :=
  (machine.hardware.activity, machine.streams.map fun stream => (stream.activity, stream.tie),
    { machine.drivers with events := [] })

/-- What is vital includes PCMs and standby. -/
theorem Machine.ties_of_vitals {first second : Machine} (same : second.vitals = first.vitals) :
    second.ties = first.ties := by
  have mapped := congrArg (fun vitals => vitals.2.1.map Prod.snd) same
  simp only [vitals, List.map_map] at mapped
  exact mapped

/-- Whether something that happens is neither a call to a driver nor an event about standby. -/
def Happening.isPlain : Happening → Bool
  | lock _ | tryLock .. | unlock _ | standby _ => true
  | event _ (.standbyEntered _) | event _ (.standbyExited _) => false
  | event .. => true
  | _ => false

namespace Act

variable {α β : Type}

/-- An action that leaves drivers, PCMs, standby flags and notes of driver calls at every moment,
and tells nothing about standby. -/
def Plain (action : Act α) : Prop :=
  Stays Machine.vitals Happening.isPlain action

/-- Changing a stream is plain, as long as it leaves what is listed and noted. -/
theorem plain_changeStream (id : StreamId) {f : Stream → Stream}
    (activity : ∀ stream, (f stream).activity = stream.activity)
    (tie : ∀ stream, (f stream).tie = stream.tie) : Plain (changeStream id f) := by
  refine stays_change fun machine => ?_
  have mapped := map_modify_of_unseen
    (f := fun stream : Stream => (stream.activity, stream.tie)) (g := f)
    (fun stream => Prod.ext (activity stream) (tie stream)) machine.streams id
  exact congrArg (fun streams => (machine.hardware.activity, streams,
    { machine.drivers with events := [] })) mapped

theorem plain_changeHardware {f : Hardware → Hardware}
    (activity : ∀ hardware, (f hardware).activity = hardware.activity) :
    Plain (changeHardware f) := by
  refine stays_change fun machine => ?_
  unfold Machine.vitals
  dsimp only
  rw [activity]

theorem plain_age (id : StreamId) : Plain (age id) :=
  (stays_note rfl).bind fun _ => plain_changeStream id (fun _ => rfl) fun _ => rfl

theorem plain_setLocked (locked : Bool) (target : Lock) : Plain (setLocked locked target) := by
  cases target with
  | hardware => exact plain_changeHardware fun _ => rfl
  | stream id => exact plain_changeStream id (fun _ => rfl) fun _ => rfl

theorem plain_lock (target : Lock) : Plain (lock target) :=
  (stays_note rfl).bind fun _ => plain_setLocked true target

theorem plain_unlock (target : Lock) : Plain (unlock target) :=
  (stays_note rfl).bind fun _ => plain_setLocked false target

theorem plain_withHardware {action : Act α} (plain : Plain action) : Plain (withHardware action) :=
  (plain_lock _).bind fun _ => plain.bind fun _ => (plain_unlock _).bind fun _ => stays_pure _

theorem plain_tell {id : Option StreamId} {event : Event}
    (sort : (Happening.event id event).isPlain = true) : Plain (tell id event) :=
  composes_stays.tell (stays_bareCall sort fun _ => rfl)

theorem plain_askForLock (id : StreamId) : Plain (askForLock id) :=
  plain_changeStream id (fun _ => rfl) fun _ => rfl

theorem plain_lockFor (id : StreamId) : Plain (lockFor id) :=
  (plain_lock _).bind fun _ => plain_changeStream id (fun _ => rfl) fun _ => rfl

theorem plain_waitFor (own : Option StreamId) (id : StreamId) :
    Plain (waitFor own (pure ()) id) := by
  refine (plain_unlock _).bind fun _ => ?_
  cases own with
  | none =>
      exact (stays_pure ()).bind fun _ => (plain_lockFor id).bind fun _ => plain_lock _
  | some own =>
      refine (plain_unlock _).bind fun _ => (stays_pure ()).bind fun _ => ?_
      exact (plain_lockFor id).bind fun _ => (plain_lock _).bind fun _ => plain_lock _

/-- Taking over undisturbed is plain. -/
theorem plain_takeOver (direction : Direction) (own : Option StreamId) :
    Plain (takeOver direction own []) := by
  intro run
  obtain ⟨-, ended⟩ | ⟨id, -, ended⟩ := takeOver_undisturbed direction own run
  · rw [ended]
    exact .refl run
  · rw [ended]
    exact (plain_askForLock id run).trans (plain_waitFor own id _)

theorem plain_tellRetries (direction : Direction)
    (taken : Option (Takeover.Taken StreamId Unit)) : Plain (tellRetries direction taken) := by
  cases taken with
  | none => exact stays_pure _
  | some taken =>
      unfold tellRetries
      dsimp only
      split
      · exact plain_tell rfl
      · exact stays_pure _

theorem plain_unlockTaken (taken : Option (Takeover.Taken StreamId Unit)) :
    Plain (unlockTaken taken) := by
  cases taken with
  | none => exact stays_pure _
  | some taken => exact plain_unlock _

theorem plain_changeMode (mode : PhoneMode) : Plain (changeMode mode) := by
  refine stays_hardware.bind fun hardware => Stays.bind (plain_changeHardware ?_) fun _ => ?_
  · exact fun _ => rfl
  split
  · exact plain_tell rfl
  · exact stays_pure _

theorem plain_detach (id : StreamId) : Plain (detach id) :=
  plain_changeStream id (fun _ => rfl) fun _ => rfl

theorem plain_takeOut (id : StreamId) : Plain (takeOut id) := by
  refine plain_withHardware (stays_machine.bind fun _ => ?_)
  refine Stays.bind (plain_changeHardware ?_) fun _ => stays_pure _
  exact fun _ => rfl

theorem plain_find (query : Query) : Plain (find query) := by
  refine composes_stays.find (fun what sort => stays_note ?_) plain_setLocked query
  cases what <;> first | rfl | cases sort

theorem plain_answerKeys (id : StreamId) (keys : String) : Plain (answerKeys id keys) := by
  unfold answerKeys
  dsimp only
  split
  · refine (plain_lock _).bind fun _ => (stays_stream id).bind fun stream => ?_
    exact (plain_unlock _).bind fun _ => stays_pure _
  · exact stays_pure _

end Act

end PhoneAudio
