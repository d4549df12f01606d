import PhoneAudio.Proofs.Handset.Session
import PhoneAudio.Proofs.Handset.Takeover
import PhoneAudio.Proofs.Handset.Unlogged

/-!
# The moves of operations

Whatever the drivers do, operations change statuses and logs by nothing but the moves of the ledger
(`PhoneAudio.Operation.moves`), and so do sessions (`PhoneAudio.Session.moves`).
-/

namespace PhoneAudio

namespace Act

variable {α β : Type} {step : Ledger → Ledger → Prop}

/-- An action that does nothing to statuses and logs but steps of a kind. -/
def Does (step : Ledger → Ledger → Prop) (action : Act α) : Prop :=
  ∀ run, Relation.ReflTransGen step run.ledger (action run).2.ledger

/-- What leaves the ledger takes no step of it. -/
theorem Keeps.does {action : Act α} (keeps : Keeps Run.ledger action) : Does step action := by
  intro run
  rw [keeps run]

theorem does_pure (answer : α) : Does step (pure answer : Act α) :=
  (keeps_pure answer).does

/-- Steps of two actions one after the other. -/
theorem Does.bind {action : Act α} {next : α → Act β} (first : Does step action)
    (rest : ∀ answer, Does step (next answer)) : Does step (action >>= next) :=
  fun run => (first run).trans (rest _ _)

/-- An action with answers of some kind, followed by another that relies on it. -/
theorem Does.bind_of {action : Act α} {next : α → Act β} {answers : α → Prop}
    (first : Does step action) (answered : ∀ run, answers (action run).1)
    (rest : ∀ answer, answers answer → Does step (next answer)) : Does step (action >>= next) :=
  fun run => (first run).trans (rest _ (answered run) _)

/-- A status that is changed is restated. -/
theorem ledger_changeStatus (id : StreamId) (f : StreamStatus → StreamStatus) (run : Run) :
    (changeStatus id f run).2.ledger = run.ledger.restated id f := by
  have mapped := map_modify (f := fun stream : Stream => (stream.direction, stream.status))
    (g := fun stream => { stream with status := f stream.status })
    (h := fun entry => (entry.1, f entry.2)) (fun _ => rfl) run.machine.streams id
  exact congrArg (fun streams => { run.ledger with streams := streams }) mapped

/-- A change that has nothing to do with standby. -/
theorem does_changeStatus (id : StreamId) (change : StatusChange) (aside : change.isAside = true) :
    Does Ledger.Turn (changeStatus id change.apply) := by
  intro run
  rw [ledger_changeStatus]
  exact .single (.changed id aside)

theorem does_askForLock (id : StreamId) : Does Ledger.Turn (askForLock id) :=
  does_changeStatus id .asked rfl

theorem does_lockFor (id : StreamId) : Does Ledger.Turn (lockFor id) :=
  (keeps_ledger_lock _).does.bind fun _ => does_changeStatus id .granted rfl

theorem does_detach (id : StreamId) : Does Ledger.Turn (detach id) :=
  does_changeStatus id .detached rfl

theorem ledger_callWakeLock (what : Happening) (call : Bench.WakeCall) (run : Run) :
    (callWakeLock what call run).2.ledger = run.ledger.called call := by
  have there : run.ledger.hasWakeLock = run.machine.drivers.hasWakeLock := rfl
  unfold callWakeLock Ledger.called
  rw [bind_apply, machine_apply, there]
  dsimp only
  split <;> rfl

theorem ledger_acquireWake (id : StreamId) (run : Run) :
    (acquireWake id run).2.ledger = run.ledger.acquired id := by
  unfold Ledger.acquired
  rw [run.ledger_stream]
  exact ledger_callWakeLock _ _ run

theorem ledger_releaseWake (id : StreamId) (run : Run) :
    (releaseWake id run).2.ledger = run.ledger.released id := by
  unfold Ledger.released
  rw [run.ledger_stream]
  exact ledger_callWakeLock _ _ run

theorem ledger_tell (id : Option StreamId) (event : Event) (run : Run) :
    (tell id event run).2.ledger = run.ledger.told event := by
  have there : run.ledger.hasListener = run.machine.drivers.hasListener := rfl
  unfold tell Ledger.told
  rw [bind_apply, machine_apply, there]
  dsimp only
  split <;> rfl

/-- Telling about a stream whose wake lock is given back. -/
theorem ledger_releaseAndTell (id : StreamId) (run : Run) :
    ((releaseWake id >>= fun _ => stream id >>= fun stream =>
      tell (some id) (.standbyEntered stream.direction)) run).2.ledger =
        (run.ledger.released id).told (.standbyEntered (run.ledger.stream id).1) := by
  have released := ledger_releaseWake id run
  rw [bind_apply]
  generalize (releaseWake id run).2 = after at released
  have direction : (after.machine.stream id).direction = (run.ledger.stream id).1 := by
    rw [← run.ledger.stream_called _ id, ← Ledger.released, ← released, after.ledger_stream]
  rw [← released, ← direction]
  exact ledger_tell _ _ after

/-- Putting a stream to standby is one entry of the ledger. -/
theorem ledger_standbyLocked (id : StreamId) (run : Run) :
    (standbyLocked id run).2.ledger = run.ledger.slept id := by
  let grow (status : StreamStatus) : StreamStatus :=
    { status with generation := status.generation + 1 }
  let doze (status : StreamStatus) : StreamStatus := { status with standby := true }
  have aged : (age id run).2.ledger = run.ledger.restated id grow :=
    ledger_changeStatus id grow (note (.standby id) run).2
  unfold standbyLocked
  rw [bind_apply]
  generalize (age id run).2 = after at aged
  have read : stream id after = (after.machine.stream id, after) := rfl
  have entry := (congrArg (Ledger.stream · id) aged).symm.trans (after.ledger_stream id)
  have active : (after.machine.stream id).isActive = !(run.ledger.stream id).2.standby := by
    have kept := Ledger.view_restated (fun entry => entry.2.standby) run.ledger id id (f := grow)
      fun _ => rfl
    rw [← kept, entry]
    rfl
  rw [bind_apply, read]
  dsimp only
  rw [active]
  unfold Ledger.slept
  cases standby : (run.ledger.stream id).2.standby with
  | true =>
      rw [if_neg (by decide), if_pos rfl]
      refine (keeps_ledger_closeLocked id _).trans (aged.trans ?_)
      apply Ledger.restated_congr
      simp only [grow, StatusChange.apply, standby]
  | false =>
      have dozed := (ledger_changeStatus id doze after).trans
        ((congrArg (Ledger.restated · id doze) aged).trans
          (run.ledger.restated_restated id grow doze))
      have direction : ((run.ledger.restated id (doze ∘ grow)).stream id).1 =
          (run.ledger.stream id).1 :=
        Ledger.view_restated Prod.fst run.ledger id id fun _ => rfl
      have told := ledger_releaseAndTell id (changeStatus id doze after).2
      rw [dozed, Ledger.released, direction] at told
      rw [if_pos (by decide), if_neg (by decide)]
      exact (keeps_ledger_closeLocked id _).trans told

theorem does_standbyLocked (id : StreamId) : Does Ledger.Turn (standbyLocked id) := by
  intro run
  rw [ledger_standbyLocked]
  exact .single (.slept id)

theorem does_changeMode (mode : PhoneMode) : Does Ledger.Turn (changeMode mode) := by
  intro run
  have moded : (changeMode mode run).2.ledger = run.ledger.moded mode := by
    have there : run.ledger.mode = run.machine.hardware.mode := rfl
    unfold changeMode Ledger.moded
    rw [bind_apply, hardware_apply, bind_apply, there]
    dsimp only
    by_cases same : run.machine.hardware.mode = mode
    · rw [if_neg (not_not_intro same), if_pos same]
      subst same
      rfl
    · rw [if_pos same, if_neg same]
      exact ledger_tell none _ _
  rw [moded]
  exact .single (.moded mode)

theorem does_tellFailure (id : Option StreamId) (direction : Direction) (message : String) :
    Does Ledger.Turn (tell id (.transferFailed direction message)) := by
  intro run
  rw [ledger_tell]
  exact .single (.failed direction message)

theorem does_addStream {stream : Stream} (fresh : stream.status = {}) :
    Does Ledger.Turn (addStream stream) := by
  intro run
  have joined : (addStream stream run).2.ledger = run.ledger.joined stream.direction := by
    have appended : (run.machine.streams ++ [stream]).map
        (fun stream => (stream.direction, stream.status)) =
          run.ledger.streams ++ [(stream.direction, ({} : StreamStatus))] := by
      rw [List.map_append, List.map_singleton, fresh]
      rfl
    exact congrArg (fun streams => { run.ledger with streams := streams }) appended
  rw [joined]
  exact .single (.joined _)

theorem does_withHardware {action : Act α} (does : Does step action) :
    Does step (withHardware action) :=
  (keeps_ledger_lock _).does.bind fun _ => does.bind fun _ =>
    (keeps_ledger_unlock _).does.bind fun _ => does_pure _

theorem does_waitFor (own : Option StreamId) (id : StreamId) :
    Does Ledger.Turn (waitFor own (pure ()) id) := by
  apply (keeps_ledger_unlock _).does.bind
  intro _
  have rest : Does Ledger.Turn (lockFor id) := does_lockFor id
  cases own with
  | none =>
      apply (does_pure ()).bind
      intro _
      exact rest.bind fun _ => (keeps_ledger_lock _).does
  | some own =>
      apply (keeps_ledger_unlock _).does.bind
      intro _
      apply (does_pure ()).bind
      intro _
      apply rest.bind
      intro _
      exact (keeps_ledger_lock _).does.bind fun _ => (keeps_ledger_lock _).does

/-- Taking over undisturbed leaves the ledger, but for notes aside. -/
theorem does_takeOver (direction : Direction) (own : Option StreamId) :
    Does Ledger.Turn (takeOver direction own []) := by
  intro run
  obtain ⟨-, ended⟩ | ⟨id, -, ended⟩ := takeOver_undisturbed direction own run
  · rw [ended]
  · rw [ended]
    exact (does_askForLock id run).trans (does_waitFor own id _)

/-- A takeover that needed no other attempt. -/
def AtOnce (taken : Option (Takeover.Taken StreamId Unit)) : Prop :=
  ∀ settled, taken = some settled → settled.retries = 0

/-- A takeover that is not disturbed succeeds at once. -/
theorem takeOver_atOnce (direction : Direction) (own : Option StreamId) (run : Run) :
    AtOnce (takeOver direction own [] run).1 := by
  obtain ⟨-, ended⟩ | ⟨id, -, ended⟩ := takeOver_undisturbed direction own run
  · rw [ended]
    exact nofun
  · rw [ended]
    rintro _ ⟨⟩
    rfl

/-- Nothing is told about a takeover that needed no other attempt. -/
theorem does_tellRetries (direction : Direction) {taken : Option (Takeover.Taken StreamId Unit)}
    (atOnce : AtOnce taken) : Does step (tellRetries direction taken) := by
  cases taken with
  | none => exact does_pure _
  | some settled =>
      have never : ¬ 0 < settled.retries := by
        rw [atOnce settled rfl]
        exact Nat.lt_irrefl 0
      unfold tellRetries
      dsimp only
      rw [if_neg never]
      exact does_pure _

theorem does_standby (id : StreamId) : Does Ledger.Turn (standby id) := by
  apply keeps_ledger_hardware.does.bind
  intro hardware
  split
  · apply (does_askForLock id).bind
    intro _
    apply (does_lockFor id).bind
    intro _
    apply (does_withHardware (does_standbyLocked id)).bind
    intro _
    exact (keeps_ledger_unlock _).does.bind fun _ => does_pure _
  · exact does_pure _

theorem does_reopenOrStandby (id : StreamId) : Does Ledger.Turn (reopenOrStandby id) := by
  apply (keeps_ledger_openLocked id).does.bind
  intro opened
  cases opened with
  | error error => exact does_standbyLocked id
  | ok => exact does_pure _

/-! ## Waking -/

/-- An action that ends the rousing of a stream which began in a ledger. -/
def Settles (id : StreamId) (start : Ledger) (action : Act α) : Prop :=
  ∀ run, Ledger.Turns (start.acquired id) run.ledger → Ledger.Move start (action run).2.ledger

variable {id : StreamId} {start : Ledger}

theorem Settles.after {action : Act α} {next : α → Act β} (first : Does Ledger.Turn action)
    (rest : ∀ answer, Settles id start (next answer)) : Settles id start (action >>= next) :=
  fun run turns => rest _ _ (turns.trans (first run))

/-- What comes before settling may answer as it does. -/
theorem Settles.after_of {action : Act α} {next : α → Act β} {answers : α → Prop}
    (first : Does Ledger.Turn action) (answered : ∀ run, answers (action run).1)
    (rest : ∀ answer, answers answer → Settles id start (next answer)) :
    Settles id start (action >>= next) :=
  fun run turns => rest _ (answered run) _ (turns.trans (first run))

/-- A stream that was opened is roused. -/
theorem ledger_settleWaking (id : StreamId) (run : Run) :
    (settleWaking id (.ok ()) run).2.ledger = run.ledger.roused id := by
  have roused := ledger_changeStatus id StatusChange.roused.apply run
  change ((changeStatus id StatusChange.roused.apply >>= fun _ => stream id >>= fun stream =>
    tell (some id) (.standbyExited stream.direction)) run).2.ledger = run.ledger.roused id
  rw [bind_apply]
  generalize (changeStatus id StatusChange.roused.apply run).2 = after at roused
  have direction : (after.machine.stream id).direction = (run.ledger.stream id).1 := by
    have kept := Ledger.view_restated Prod.fst run.ledger id id
      (f := StatusChange.roused.apply) fun _ => rfl
    rw [← kept, ← roused, after.ledger_stream]
  unfold Ledger.roused Ledger.changed
  rw [← roused, ← direction]
  exact ledger_tell _ _ after

/-- A stream in standby that is opened is roused, and one that is not gives the wake lock back. -/
theorem settles_settleWaking (inside : id < start.streams.length)
    (asleep : (start.stream id).2.standby = true) (opened : Except AudioError Unit) :
    Settles id start (settleWaking id opened) := by
  intro run turns
  cases opened with
  | error error =>
      have released := ledger_releaseWake id run
      unfold settleWaking
      dsimp only
      rw [bind_apply, pure_apply, released]
      exact .refused inside turns
  | ok =>
      rw [ledger_settleWaking]
      exact .roused inside asleep turns

/-- A playback stream that wakes is roused or gives the wake lock back. -/
theorem settles_wakePlayback (inside : id < start.streams.length)
    (asleep : (start.stream id).2.standby = true) : Settles id start (wakePlayback id []) := by
  apply Settles.after_of (does_takeOver .capture none) (takeOver_atOnce .capture none)
  intro sibling atOnce
  apply Settles.after (does_tellRetries .capture atOnce)
  intro _
  cases sibling with
  | none =>
      apply Settles.after (keeps_ledger_openLocked id).does
      intro opened
      exact settles_settleWaking inside asleep opened
  | some taken =>
      apply Settles.after (keeps_ledger_closeLocked taken.occupant).does
      intro _
      apply Settles.after (keeps_ledger_openLocked id).does
      intro opened
      apply Settles.after (does_reopenOrStandby taken.occupant)
      intro _
      apply Settles.after (keeps_ledger_unlock _).does
      intro _
      exact settles_settleWaking inside asleep opened

/-- A capture stream that wakes is roused or gives the wake lock back. -/
theorem settles_wakeCapture (inside : id < start.streams.length)
    (asleep : (start.stream id).2.standby = true) : Settles id start (wakeCapture id []) := by
  apply Settles.after_of (does_takeOver .playback (some id)) (takeOver_atOnce .playback (some id))
  intro sibling atOnce
  apply Settles.after (does_tellRetries .playback atOnce)
  intro _
  have settle : Settles id start (openLocked id >>= settleWaking id) := by
    apply Settles.after (keeps_ledger_openLocked id).does
    intro opened
    exact settles_settleWaking inside asleep opened
  cases sibling with
  | none => exact settle
  | some taken =>
      apply Settles.after (keeps_ledger_closeLocked taken.occupant).does
      intro _
      apply Settles.after (does_reopenOrStandby taken.occupant)
      intro _
      apply Settles.after (keeps_ledger_unlock _).does
      intro _
      exact settle

/-- **Waking.** Taking a stream out of standby is one move, or does nothing. -/
theorem moves_wake {run : Run} (inside : id < run.ledger.streams.length) :
    Ledger.Moves run.ledger (wake id [] run).2.ledger := by
  unfold wake
  rw [bind_apply, stream_apply]
  dsimp only
  split
  · exact .refl
  rename_i inactive
  split
  · exact .refl
  rw [bind_apply, hardware_apply]
  dsimp only
  split
  · exact .refl
  have asleep : (run.ledger.stream id).2.standby = true := by
    rw [run.ledger_stream]
    simpa [Stream.isActive] using inactive
  have locked := keeps_ledger_lock .hardware run
  have acquired := ledger_acquireWake id (lock .hardware run).2
  rw [locked] at acquired
  apply Relation.ReflTransGen.single
  have roused : Ledger.Turns (run.ledger.acquired id)
      (acquireWake id (lock .hardware run).2).2.ledger := acquired ▸ .refl
  cases (run.machine.stream id).direction with
  | playback =>
      have move := settles_wakePlayback inside asleep _ roused
      exact (keeps_ledger_unlock .hardware _).symm ▸ move
  | capture =>
      have move := settles_wakeCapture inside asleep _ roused
      exact (keeps_ledger_unlock .hardware _).symm ▸ move

theorem does_finishTransfer (id : StreamId) (outcome : Except AudioError α) :
    Does Ledger.Turn (finishTransfer id outcome) := by
  apply (keeps_ledger_unlock _).does.bind
  intro _
  cases outcome with
  | ok answer => exact does_pure _
  | error error =>
      apply (keeps_ledger_stream id).does.bind
      intro stream
      apply (does_tellFailure _ _ _).bind
      intro _
      exact (does_standby id).bind fun _ => does_pure _

theorem does_completeWrite (id : StreamId) (bytes : Nat) (begun : Except AudioError Unit) :
    Does Ledger.Turn (completeWrite id bytes begun) := by
  have finish : ∀ outcome : Except AudioError Unit,
      Does Ledger.Turn (finishTransfer id (outcome.map fun _ => bytes)) :=
    fun _ => does_finishTransfer id _
  cases begun with
  | error error => exact finish (.error error)
  | ok => exact (keeps_ledger_writeOpen id bytes).does.bind finish

theorem does_completeRead (id : StreamId) (buffer : List UInt8) (begun : Except AudioError Unit) :
    Does Ledger.Turn (completeRead id buffer begun) := by
  apply (keeps_ledger_stream id).does.bind
  intro stream
  cases begun with
  | error error =>
      apply (does_pure _).bind
      intro outcome
      refine (does_finishTransfer id outcome).bind fun finished => ?_
      cases finished <;> exact does_pure _
  | ok =>
      apply (keeps_ledger_readOpen id _).does.bind
      intro outcome
      refine (does_finishTransfer id outcome).bind fun finished => ?_
      cases finished <;> exact does_pure _

section Transfers

variable {run : Run} (inside : id < run.ledger.streams.length)
include inside

/-- Beginning a transfer moves the ledger. -/
theorem moves_beginTransfer : Ledger.Moves run.ledger (beginTransfer [] id run).2.ledger := by
  have locked := keeps_ledger_lock (.stream id) run
  have within : id < (lock (.stream id) run).2.ledger.streams.length := by rwa [locked]
  have moves := moves_wake within
  rw [locked] at moves
  exact moves

/-- Writing moves the ledger. -/
theorem moves_write (bytes : Nat) : Ledger.Moves run.ledger (write id bytes run).2.ledger :=
  (moves_beginTransfer inside).trans (Ledger.Turns.moves (does_completeWrite id bytes _ _))

/-- Reading moves the ledger. -/
theorem moves_read (buffer : List UInt8) :
    Ledger.Moves run.ledger (read id buffer run).2.ledger := by
  have done := (moves_beginTransfer inside).trans
    (Ledger.Turns.moves (does_completeRead id buffer (beginTransfer [] id run).1 _))
  unfold read readAmid
  rw [bind_apply, stream_apply]
  dsimp only
  split
  · exact .refl
  · exact done

end Transfers

/-! ## Modes and parameters -/

theorem does_standbyTaken (taken : Option (Takeover.Taken StreamId Unit)) :
    Does Ledger.Turn (standbyTaken taken) := by
  cases taken with
  | none => exact does_pure _
  | some taken => exact does_standbyLocked taken.occupant

theorem does_switchCall (mode : PhoneMode) (output input : Option (Takeover.Taken StreamId Unit)) :
    Does Ledger.Turn (switchCall mode output input) := by
  apply keeps_ledger_hardware.does.bind
  intro hardware
  dsimp only
  split
  · split
    · apply (does_standbyTaken output).bind
      intro _
      apply (does_standbyTaken input).bind
      intro _
      exact keeps_ledger_enterCall.does.bind fun _ _ => .refl
    · apply keeps_ledger_leaveCall.does.bind
      intro _
      apply (does_standbyTaken output).bind
      intro _
      exact (does_standbyTaken input).bind fun _ _ => .refl
  · exact does_pure _

theorem does_setMode (mode : PhoneMode) : Does Ledger.Turn (setMode mode) := by
  apply Does.bind _ fun _ => does_pure _
  apply does_withHardware
  apply (does_takeOver .playback none).bind_of (takeOver_atOnce .playback none)
  intro output outputAtOnce
  apply (does_takeOver .capture none).bind_of (takeOver_atOnce .capture none)
  intro input inputAtOnce
  apply (does_tellRetries .playback outputAtOnce).bind
  intro _
  apply (does_tellRetries .capture inputAtOnce).bind
  intro _
  apply (does_changeMode mode).bind
  intro _
  apply (does_switchCall mode output input).bind
  intro _
  exact (keeps_ledger_unlockTaken input).does.bind fun _ => (keeps_ledger_unlockTaken output).does

theorem does_setMuted (muted : Bool) : Does Ledger.Turn (setMuted muted) := by
  apply Does.bind
  · apply does_withHardware
    apply (keeps_ledger_reroute _).does.bind
    intro _
    apply (keeps_ledger_reroute _).does.bind
    intro _
    apply Does.bind fun _ => .refl
    intro _
    split
    · exact keeps_ledger_machine.does.bind fun _ => does_pure _
    · exact does_pure _
  · intro active
    cases active with
    | none => exact does_pure _
    | some id => exact does_standby id

theorem does_setCallVolume (volume : Float32) : Does Ledger.Turn (setCallVolume volume) := by
  apply Does.bind _ fun _ => does_pure _
  apply does_withHardware
  apply Does.bind fun _ => .refl
  intro _
  apply keeps_ledger_hardware.does.bind
  intro hardware
  split
  · exact (keeps_ledger_reroute _).does
  · exact does_pure _

theorem does_setMediaVolume (volume : Float32) : Does Ledger.Turn (setMediaVolume volume) :=
  (does_withHardware (keeps_ledger_reroute _).does).bind fun _ => does_pure _

theorem does_setCallDevices (devices : Devices) : Does Ledger.Turn (setCallDevices devices) :=
  (does_withHardware (keeps_ledger_followDevices devices).does).bind fun _ => does_pure _

theorem does_selectDevices (id : StreamId) (devices : Devices) :
    Does Ledger.Turn (selectDevices id devices) := by
  unfold selectDevices
  split
  · exact does_pure _
  apply does_withHardware
  apply (keeps_ledger_stream id).does.bind
  intro stream
  apply keeps_ledger_hardware.does.bind
  intro hardware
  have turn : Does Ledger.Turn
      (changeStream id fun stream => { stream with devices := devices }) := by
    apply Keeps.does
    apply keeps_ledger_changeStream
    · exact fun _ => rfl
    · exact fun _ => rfl
  have follow : Does Ledger.Turn (followDevices devices) :=
    (keeps_ledger_followDevices devices).does
  dsimp only
  split
  · apply (does_standbyLocked id).bind
    intro _
    apply turn.bind
    intro _
    split
    · exact follow
    · exact does_pure _
  · apply turn.bind
    intro _
    split
    · exact follow
    · exact does_pure _

theorem does_applyParameters (id : StreamId) (text : String) :
    Does Ledger.Turn (applyParameters id text) := by
  apply keeps_ledger_hardware.does.bind
  intro hardware
  split
  · apply (does_askForLock id).bind
    intro _
    apply (does_lockFor id).bind
    intro _
    have finish : ∀ rest : KeyValues, Does Ledger.Turn (do
        unlock (.stream id)
        if rest.isEmpty then return (.ok () : Except AudioError Unit)
        else
          let word := (← stream id).direction.word
          return .error (.badValue s!"unsupported {word} parameters: {rest.toText}")) := by
      intro rest
      apply (keeps_ledger_unlock _).does.bind
      intro _
      split
      · exact does_pure _
      · exact (keeps_ledger_stream id).does.bind fun _ => does_pure _
    split
    · exact finish _
    · exact (does_selectDevices id _).bind fun _ => finish _
  · exact does_pure _

theorem does_answerKeys (id : StreamId) (keys : String) :
    Does Ledger.Turn (answerKeys id keys) := by
  unfold answerKeys
  dsimp only
  split
  · apply (keeps_ledger_lock _).does.bind
    intro _
    apply (keeps_ledger_stream id).does.bind
    intro stream
    exact (keeps_ledger_unlock _).does.bind fun _ => does_pure _
  · exact does_pure _

theorem keeps_ledger_find (query : Query) : Keeps Run.ledger (find query) :=
  composes_keeps.find (fun _ _ _ => rfl) keeps_ledger_setLocked query

theorem does_openPlayback (devices : Devices) (request : FormatRequest) :
    Does Ledger.Turn (openPlayback devices request) := by
  apply does_withHardware
  apply keeps_ledger_hardware.does.bind
  intro hardware
  split
  · exact does_pure _
  apply keeps_ledger_machine.does.bind
  intro machine
  cases made : Stream.newPlayback machine.settings devices request with
  | error error => exact does_pure _
  | ok stream =>
      apply (does_addStream (newPlayback_fresh made).2.1).bind
      intro id
      exact Does.bind (fun _ => .refl) fun _ => does_pure _

theorem does_openCapture (devices : Devices) (request : FormatRequest) :
    Does Ledger.Turn (openCapture devices request) := by
  unfold openCapture
  split
  · apply does_withHardware
    apply keeps_ledger_machine.does.bind
    intro machine
    cases made : Stream.newCapture machine.settings devices request with
    | error error => exact does_pure _
    | ok stream =>
        apply (does_addStream (newCapture_fresh made).2.1).bind
        intro id
        exact Does.bind (fun _ => .refl) fun _ => does_pure _
  · exact does_pure _

theorem does_openStream (direction : Direction) (devices : Devices) (request : FormatRequest) :
    Does Ledger.Turn (openStream direction devices request) := by
  cases direction with
  | playback => exact does_openPlayback devices request
  | capture => exact does_openCapture devices request

theorem does_retire (id : StreamId) : Does Ledger.Turn (retire id) :=
  (does_detach id).bind fun _ => (does_standby id).bind fun _ => does_pure _

theorem does_close (id : StreamId) : Does Ledger.Turn (close id) := by
  apply Does.bind
  · exact does_withHardware fun _ => .refl
  · intro isThere
    split
    · exact (does_retire id).bind fun _ => does_pure _
    · exact (keeps_ledger_stream id).does.bind fun _ => does_pure _

theorem does_retireAll (ids : List StreamId) : Does Ledger.Turn (retireAll ids) := by
  induction ids with
  | nil => exact does_pure _
  | cons id rest ih => exact (does_retire id).bind fun _ => ih

theorem does_dropHardware : Does Ledger.Turn dropHardware := by
  apply Does.bind
  · exact does_withHardware fun _ => .refl
  · intro ids
    apply (does_retireAll ids).bind
    intro _
    apply Does.bind fun _ => .refl
    intro _
    apply Does.bind fun _ => .refl
    intro _
    exact (keeps_ledger_closeLink _).does.bind fun _ => (keeps_ledger_closeLink _).does

end Act

/-- Conditions make no operation impossible. -/
theorem Operation.Possible.under {operation : Operation} {run : Run}
    (possible : operation.Possible run.machine) (conditions : Conditions) :
    operation.Possible (run.under conditions).machine := by
  cases operation <;> exact possible

/-- **Operations.** Whatever the drivers do, an operation that is possible makes nothing but
moves. -/
theorem Operation.moves {operation : Operation} {run : Run}
    (possible : operation.Possible run.machine) :
    Ledger.Moves run.ledger (operation.perform run).2.ledger := by
  have length : run.ledger.streams.length = run.machine.streams.length := List.length_map _
  have answered : ∀ {α : Type} {action : Act α} {next : α → Act Answer},
      Ledger.Moves run.ledger (action run).2.ledger → (∀ a, Act.Does Ledger.Turn (next a)) →
      Ledger.Moves run.ledger ((action >>= next) run).2.ledger :=
    fun moves rest => moves.trans (Ledger.Turns.moves (rest _ _))
  have done : ∀ {α : Type} {action : Act α} {answer : α → Answer},
      Act.Does Ledger.Turn action →
      Ledger.Moves run.ledger ((action >>= fun a => pure (answer a)) run).2.ledger :=
    fun does => answered (Ledger.Turns.moves (does run)) fun _ => Act.does_pure _
  cases operation with
  | openStream direction devices request =>
      apply answered (Ledger.Turns.moves (Act.does_openStream direction devices request run))
      intro opened
      cases opened <;> exact Act.does_pure _
  | close id => exact done (Act.does_close id)
  | standby id => exact done (Act.does_standby id)
  | applyParameters id text => exact done (Act.does_applyParameters id text)
  | answerKeys id keys => exact done (Act.does_answerKeys id keys)
  | write id bytes =>
      apply answered (Act.moves_write (length ▸ possible.1) bytes)
      intro written
      cases written <;> exact Act.does_pure _
  | read id buffer =>
      apply answered (Act.moves_read (length ▸ possible.1) buffer)
      rintro ⟨outcome, filled⟩
      cases outcome <;> exact Act.does_pure _
  | setMode mode => exact done (Act.does_setMode mode)
  | setMuted muted => exact done (Act.does_setMuted muted)
  | setCallVolume volume => exact done (Act.does_setCallVolume volume)
  | setMediaVolume volume => exact done (Act.does_setMediaVolume volume)
  | setCallDevices devices => exact done (Act.does_setCallDevices devices)
  | ask query => exact done (Act.keeps_ledger_find query).does
  | dropHardware => exact done Act.does_dropHardware

/-- **Sessions** make nothing but moves. -/
theorem Session.moves {first last : Run} {operations : List Operation}
    (session : Session first operations last) : Ledger.Moves first.ledger last.ledger := by
  induction session with
  | start => exact .refl
  | step _ conditions possible ih =>
      have moves := Operation.moves (possible.under conditions)
      exact ih.trans moves

end PhoneAudio
