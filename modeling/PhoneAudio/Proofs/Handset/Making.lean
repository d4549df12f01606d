import PhoneAudio.Handset.Operation
import PhoneAudio.Proofs.Handset.Takeover
import PhoneAudio.Proofs.Machine.Composing

/-!
# What operations are made of

Operations look at the state, take note of what happens, let the drivers work, and change the audio
hardware and its streams in a few ways. Whatever is made of that (`PhoneAudio.Act.Made`) may also
happen while a takeover waits for a stream: operations are made of it, and so are operations during
whose waits others act that are (`PhoneAudio.Operation.made_performAmid`).
-/

namespace PhoneAudio

/-- What a stream is made for: its direction, its format and the size of its buffer. -/
def Stream.make (stream : Stream) : Direction × StreamFormat × Nat :=
  (stream.direction, stream.format, stream.bufferBytes)

/-- Whether something that happens is other than that a stream is put to standby. -/
def Happening.isCalm : Happening → Bool
  | standby _ => false
  | _ => true

namespace Act

variable {α : Type}

/-- Puts a stream to standby without closing it: its wake lock is given back and the listener is
told, unless it was in standby. -/
def doze (id : StreamId) : Act Unit := do
  age id
  if (← stream id).isActive then
    changeStatus id fun status => { status with standby := true }
    releaseWake id
    tell (some id) (.standbyEntered (← stream id).direction)

/-- Putting a stream to standby notes it and gives the wake lock back before anything is closed. -/
theorem standbyLocked_eq (id : StreamId) :
    standbyLocked id = doze id >>= fun _ => closeLocked id := by
  unfold standbyLocked doze
  rw [bind_assoc]
  congr 1
  funext _
  rw [bind_assoc]
  congr 1
  funext stream
  split
  · simp only [bind_assoc]
  · rfl

/-- An action that is made of what operations are made of. -/
inductive Made : {α : Type} → Act α → Prop
  | done {α : Type} (answer : α) : Made (pure answer)
  /-- Looking at the state. -/
  | reads {α : Type} (read : Machine → α) : Made fun run => (read run.machine, run)
  /-- One action after another. -/
  | next {α β : Type} {action : Act α} {rest : α → Act β} (first : Made action)
      (later : ∀ answer, Made (rest answer)) : Made (action >>= rest)
  /-- Taking note of something, other than that a stream is put to standby. -/
  | notes {what : Happening} (calm : what.isCalm = true) : Made (note what)
  /-- Letting the drivers work. -/
  | drives {α : Type} (effect : Drivers → α × Drivers) : Made (drive effect)
  /-- Changing the audio hardware. -/
  | changes (f : Hardware → Hardware) : Made (changeHardware f)
  /-- Changing a stream apart from its status. Its filters stay or are reset. -/
  | retouches (id : StreamId) {f : Stream → Stream} (make : ∀ stream, (f stream).make = stream.make)
      (status : ∀ stream, (f stream).status = stream.status)
      (filters : ∀ stream, (f stream).pipeline = stream.pipeline ∨
        (f stream).pipeline = stream.pipeline.reset) : Made (changeStream id f)
  /-- Changing the status of a stream, other than that it is put to standby. -/
  | restates (id : StreamId) {f : StreamStatus → StreamStatus}
      (generation : ∀ status, (f status).generation = status.generation)
      (awake : ∀ status, status.standby = false → (f status).standby = false) :
      Made (changeStatus id f)
  /-- Putting a stream to standby. -/
  | dozes (id : StreamId) : Made (doze id)
  /-- Opening a stream, which adds one to those that there are. -/
  | opens (direction : Direction) (devices : Devices) (request : FormatRequest) :
      Made (openStream direction devices request)
  /-- Reading frames through the filters of a stream. -/
  | pulls (id : StreamId) (frames : Nat) : Made (readOpen id frames)

theorem made_machine : Made machine :=
  .reads fun machine => machine

theorem made_hardware : Made hardware :=
  .reads fun machine => machine.hardware

theorem made_stream (id : StreamId) : Made (stream id) :=
  .reads fun machine => machine.stream id

theorem composes_made : Composes fun action => Made action :=
  ⟨.done, .reads, .next⟩

/-- A change to a stream that neither its make nor its status nor its filters show. -/
theorem made_changeStream (id : StreamId) {f : Stream → Stream}
    (unseen : ∀ stream, (f stream).make = stream.make ∧ (f stream).status = stream.status ∧
      (f stream).pipeline = stream.pipeline) : Made (changeStream id f) :=
  .retouches id (fun stream => (unseen stream).1) (fun stream => (unseen stream).2.1)
    fun stream => .inl (unseen stream).2.2

theorem made_bareCall {what : Happening} (calm : what.isCalm = true)
    (effect : Drivers → α × Drivers) : Made (bareCall what effect) :=
  (Made.notes calm).next fun _ => .drives effect

theorem made_setActivity (activity : Activity) (component : Component) :
    Made (setActivity activity component) := by
  cases component with
  | router => exact .changes fun hardware => { hardware with activity := activity }
  | stream id => exact made_changeStream id fun _ => ⟨rfl, rfl, rfl⟩

theorem made_call (caller : Component) (activity : Activity) {what : Happening}
    (calm : what.isCalm = true) (effect : Drivers → α × Drivers) :
    Made (call caller activity what effect) :=
  (made_setActivity _ _).next fun _ => (made_bareCall calm _).next fun _ =>
    (made_setActivity _ _).next fun _ => .done _

theorem made_setLocked (locked : Bool) (target : Lock) : Made (setLocked locked target) := by
  cases target with
  | hardware => exact .changes fun hardware => { hardware with locked := locked }
  | stream id => exact made_changeStream id fun _ => ⟨rfl, rfl, rfl⟩

theorem made_lock (target : Lock) : Made (lock target) :=
  (Made.notes rfl).next fun _ => made_setLocked true target

theorem made_unlock (target : Lock) : Made (unlock target) :=
  (Made.notes rfl).next fun _ => made_setLocked false target

theorem made_withHardware {action : Act α} (made : Made action) : Made (withHardware action) :=
  (made_lock _).next fun _ => made.next fun _ => (made_unlock _).next fun _ => .done _

theorem made_callWakeLock {what : Happening} (calm : what.isCalm = true)
    (wakeCall : Bench.WakeCall) : Made (callWakeLock what wakeCall) :=
  composes_made.callWakeLock (made_bareCall calm _)

theorem made_acquireWake (id : StreamId) : Made (acquireWake id) :=
  (made_stream id).next fun _ => made_callWakeLock rfl _

theorem made_releaseWake (id : StreamId) : Made (releaseWake id) :=
  (made_stream id).next fun _ => made_callWakeLock rfl _

theorem made_tell (id : Option StreamId) (event : Event) : Made (tell id event) :=
  composes_made.tell (made_bareCall rfl _)

theorem made_askForLock (id : StreamId) : Made (askForLock id) :=
  .restates id (fun _ => rfl) fun _ awake => awake

theorem made_lockFor (id : StreamId) : Made (lockFor id) :=
  (made_lock _).next fun _ => .restates id (fun _ => rfl) fun _ awake => awake

/-! ## Takeovers -/

/-- Attempts to take the active stream of a direction over, one after the other. -/
def attempts (direction : Direction) (waits : List (StreamId → Act Unit)) (retries : UInt32) :
    Act (Takeover.Outcome StreamId Unit) :=
  Takeover.attempt (activeRole direction) waits retries

/-- The first attempt of a takeover, and what follows where it misses. -/
theorem attempts_cons (direction : Direction) (wait : StreamId → Act Unit)
    (waits : List (StreamId → Act Unit)) (retries : UInt32) :
    attempts direction (wait :: waits) retries = (do
      match (← machine).active direction with
      | none => return .vacant
      | some id =>
        let generation := (← stream id).status.generation
        askForLock id
        let guard ← wait id
        let state ← machine
        if state.active direction = some id ∧ (state.stream id).status.generation = generation then
          return .taken ⟨id, guard, retries⟩
        else
          unlock (.stream id)
          match Word.next? retries with
          | none => return .overflowed
          | some retries => attempts direction waits retries) := by
  funext run
  rw [attempts, bind_apply, machine_apply]
  dsimp only
  cases occupied : run.machine.active direction with
  | none =>
      have empty : (activeRole direction).occupant run = none := occupied
      rw [Takeover.attempt, empty]
      rfl
  | some id =>
      have filled : (activeRole direction).occupant run = some id := occupied
      obtain ⟨generation, guard, after, attempted⟩ := Takeover.exists_attempt wait filled
      have asked : (run.machine.stream id).status.generation = generation := attempted.asked
      have waited : wait id (askForLock id run).2 = (guard, after) := attempted.waited
      simp only [bind_apply, stream_apply, machine_apply, asked, waited]
      by_cases unchanged : Takeover.Unchanged (activeRole direction) id generation after
      · rw [Takeover.attempt_of_unchanged _ _ attempted unchanged]
        exact (congrFun (if_pos ⟨unchanged.occupied, unchanged.same⟩) after).symm
      · rw [Takeover.attempt_of_changed _ _ attempted unchanged]
        refine Eq.symm ((congrFun (if_neg fun same => unchanged ⟨same.1, same.2⟩) after).trans ?_)
        rw [bind_apply]
        cases Word.next? retries <;> rfl

/-- A takeover as attempts, each of which may be disturbed. -/
theorem takeOver_eq (direction : Direction) (own : Option StreamId) (others : List (Act Unit)) :
    takeOver direction own others = do
      match ← attempts direction ((others ++ [pure ()]).map (waitFor own)) 0 with
      | .taken taken => return some taken
      | .vacant | .overflowed | .unsettled => return none := by
  funext run
  rw [takeOver, bind_apply, attempts]
  generalize Takeover.attempt (activeRole direction) ((others ++ [pure ()]).map (waitFor own)) 0
    run = attempted
  obtain ⟨outcome, last⟩ := attempted
  cases outcome <;> rfl

section Composed

variable {holds : ∀ {α : Type}, Act α → Prop} (composes : Composes holds)
  (asks : ∀ id, holds (askForLock id)) (takes : ∀ id, holds (lockFor id))
  (locks : ∀ target, holds (Act.lock target)) (unlocks : ∀ target, holds (Act.unlock target))

include composes takes locks unlocks in
/-- Waiting, for a property that what others do meanwhile has. -/
theorem Composes.waitFor (own : Option StreamId) {others : Act Unit} (held : holds others)
    (id : StreamId) : holds (Act.waitFor own others id) := by
  refine composes.next (unlocks _) fun _ => ?_
  cases own with
  | none =>
      exact composes.next held fun _ => composes.next (takes id) fun _ => locks _
  | some own =>
      refine composes.next (unlocks _) fun _ => composes.next held fun _ => ?_
      exact composes.next (takes id) fun _ => composes.next (locks _) fun _ => locks _

include composes asks unlocks in
/-- Attempts, for a property that their waits have. -/
theorem Composes.attempts (direction : Direction) {waits : List (StreamId → Act Unit)}
    (held : ∀ wait ∈ waits, ∀ id, holds (wait id)) (retries : UInt32) :
    holds (Act.attempts direction waits retries) := by
  induction waits generalizing retries with
  | nil => exact composes.done Takeover.Outcome.unsettled
  | cons wait waits ih =>
      rw [attempts_cons]
      refine composes.next composes.machine fun machine => ?_
      cases machine.active direction with
      | none => exact composes.done _
      | some id =>
          refine composes.next (composes.stream id) fun stream =>
            composes.next (asks id) fun _ => ?_
          refine composes.next (held wait (List.mem_cons_self ..) id) fun _ => ?_
          refine composes.next composes.machine fun machine => ?_
          split
          · exact composes.done _
          · refine composes.next (unlocks _) fun _ => ?_
            cases Word.next? retries with
            | none => exact composes.done _
            | some retries =>
                exact ih (fun other member => held other (List.mem_cons_of_mem _ member)) retries

include composes asks takes locks unlocks in
/-- Takeovers, for a property that what others do meanwhile has. -/
theorem Composes.takeOver (direction : Direction) (own : Option StreamId)
    {others : List (Act Unit)} (held : ∀ other ∈ others, holds other) :
    holds (Act.takeOver direction own others) := by
  have waits : ∀ wait ∈ (others ++ [pure ()]).map (Act.waitFor own), ∀ id, holds (wait id) := by
    intro wait member id
    obtain ⟨other, among, rfl⟩ := List.mem_map.mp member
    refine composes.waitFor takes locks unlocks own ?_ id
    obtain early | last := List.mem_append.mp among
    · exact held other early
    · rw [List.mem_singleton.mp last]
      exact composes.done ()
  rw [takeOver_eq]
  refine composes.next (composes.attempts asks unlocks direction waits 0) fun outcome => ?_
  cases outcome <;> exact composes.done _

end Composed

/-- Waiting for a stream is made of what others do meanwhile. -/
theorem made_waitFor (own : Option StreamId) {others : Act Unit} (made : Made others)
    (id : StreamId) : Made (waitFor own others id) :=
  composes_made.waitFor made_lockFor made_lock made_unlock own made id

/-- A takeover is made of what others do meanwhile. -/
theorem made_takeOver (direction : Direction) (own : Option StreamId) {others : List (Act Unit)}
    (made : ∀ other ∈ others, Made other) : Made (takeOver direction own others) :=
  composes_made.takeOver made_askForLock made_lockFor made_lock made_unlock direction own made

theorem made_tellRetries (direction : Direction)
    (taken : Option (Takeover.Taken StreamId Unit)) : Made (tellRetries direction taken) := by
  cases taken with
  | none => exact .done _
  | some taken =>
      unfold tellRetries
      dsimp only
      split
      · exact made_tell _ _
      · exact .done _

theorem routes_made : Routes fun action => Made action where
  toComposes := composes_made
  finds _ := made_call _ _ rfl _
  writes _ _ _ := made_call _ _ rfl _
  opens _ := made_bareCall rfl _
  starts _ _ := made_bareCall rfl _
  closes _ := made_bareCall rfl _
  links _ _ := .changes _

theorem made_reroute (f : Router → Router × List RouteStep) : Made (reroute f) :=
  routes_made.reroute (fun _ => .changes _) f

theorem made_closeRouter : Made closeRouter :=
  routes_made.closeRouter fun _ => .changes _

theorem made_followDevices (devices : Devices) : Made (followDevices devices) :=
  composes_made.followDevices made_reroute devices

theorem made_closeStreamPcm (id : StreamId) : Made (closeStreamPcm id) := by
  refine (made_stream id).next fun stream => ?_
  cases stream.pcm with
  | none => exact .done _
  | some pcm =>
      refine (made_changeStream id ?_).next fun _ => made_call _ _ rfl _
      exact fun _ => ⟨rfl, rfl, rfl⟩

theorem made_closeLocked (id : StreamId) : Made (closeLocked id) := by
  refine (made_stream id).next fun stream => ?_
  dsimp only
  split
  · exact (made_reroute _).next fun _ => made_closeStreamPcm id
  · exact made_closeStreamPcm id

theorem made_standbyLocked (id : StreamId) : Made (standbyLocked id) := by
  rw [standbyLocked_eq]
  exact (Made.dozes id).next fun _ => made_closeLocked id

theorem made_standby (id : StreamId) : Made (standby id) := by
  refine made_hardware.next fun hardware => ?_
  split
  · refine (made_askForLock id).next fun _ => (made_lockFor id).next fun _ => ?_
    refine (made_withHardware (made_standbyLocked id)).next fun _ => ?_
    exact (made_unlock _).next fun _ => .done _
  · exact .done _

theorem made_installPcm (id : StreamId) (pcm : OpenPcm) : Made (installPcm id pcm) := by
  refine (made_stream id).next fun stream => (made_changeStream id ?_).next fun _ => ?_
  · exact fun _ => ⟨rfl, rfl, rfl⟩
  cases stream.pcm with
  | none => exact .done _
  | some previous => exact made_bareCall rfl _

theorem made_routeOpened (id : StreamId) : Made (routeOpened id) := by
  refine (made_stream id).next fun stream => ?_
  cases stream.direction with
  | playback =>
      refine made_hardware.next fun hardware => ?_
      split
      · exact made_reroute _
      · exact .done _
  | capture =>
      refine Made.next (.retouches id ?_ ?_ ?_) fun _ => made_reroute _
      · exact fun _ => rfl
      · exact fun _ => rfl
      · exact fun _ => .inr rfl

theorem made_openLocked (id : StreamId) : Made (openLocked id) := by
  refine made_machine.next fun machine => (made_stream id).next fun stream => ?_
  refine (made_call _ _ rfl _).next fun opened => ?_
  cases opened with
  | error error => exact .done _
  | ok pcm =>
      dsimp only
      split
      · refine (made_installPcm id pcm).next fun _ => (made_routeOpened id).next fun _ => ?_
        exact .done _
      · exact (made_call _ _ rfl _).next fun _ => .done _

theorem made_reopenOrStandby (id : StreamId) : Made (reopenOrStandby id) := by
  refine (made_openLocked id).next fun opened => ?_
  cases opened with
  | error error => exact made_standbyLocked id
  | ok => exact .done _

theorem made_settleWaking (id : StreamId) (opened : Except AudioError Unit) :
    Made (settleWaking id opened) := by
  cases opened with
  | error error => exact (made_releaseWake id).next fun _ => .done _
  | ok =>
      refine Made.next (.restates id (fun _ => rfl) fun _ _ => rfl) fun _ => ?_
      exact (made_stream id).next fun stream => (made_tell _ _).next fun _ => .done _

section Others

variable {others : List (Act Unit)} (made : ∀ other ∈ others, Made other)
include made

theorem made_wakePlayback (id : StreamId) : Made (wakePlayback id others) := by
  refine (made_takeOver _ _ made).next fun sibling => (made_tellRetries _ _).next fun _ => ?_
  cases sibling with
  | none => exact (made_openLocked id).next fun opened => made_settleWaking id opened
  | some taken =>
      refine (made_closeLocked _).next fun _ => (made_openLocked id).next fun opened => ?_
      refine (made_reopenOrStandby _).next fun _ => (made_unlock _).next fun _ => ?_
      exact made_settleWaking id opened

theorem made_wakeCapture (id : StreamId) : Made (wakeCapture id others) := by
  refine (made_takeOver _ _ made).next fun sibling => (made_tellRetries _ _).next fun _ => ?_
  cases sibling with
  | none => exact (made_openLocked id).next fun opened => made_settleWaking id opened
  | some taken =>
      refine (made_closeLocked _).next fun _ => (made_reopenOrStandby _).next fun _ => ?_
      refine (made_unlock _).next fun _ => (made_openLocked id).next fun opened => ?_
      exact made_settleWaking id opened

/-- Beginning a transfer is made of what others do meanwhile. -/
theorem made_beginTransfer (id : StreamId) : Made (beginTransfer others id) := by
  refine (made_lock _).next fun _ => (made_stream id).next fun stream => ?_
  split
  · exact .done _
  split
  · exact .done _
  refine made_hardware.next fun hardware => ?_
  split
  · exact .done _
  refine made_withHardware ((made_acquireWake id).next fun _ => ?_)
  cases stream.direction with
  | playback => exact made_wakePlayback made id
  | capture => exact made_wakeCapture made id

end Others

theorem made_finishTransfer (id : StreamId) (outcome : Except AudioError α) :
    Made (finishTransfer id outcome) := by
  refine (made_unlock _).next fun _ => ?_
  cases outcome with
  | ok answer => exact .done _
  | error error =>
      refine (made_stream id).next fun stream => (made_tell _ _).next fun _ => ?_
      exact (made_standby id).next fun _ => .done _

theorem made_writeAmid {others : List (Act Unit)} (made : ∀ other ∈ others, Made other)
    (id : StreamId) (bytes : Nat) : Made (writeAmid others id bytes) := by
  refine (made_beginTransfer made id).next fun begun => ?_
  cases begun with
  | error error => exact (Made.done _).next fun _ => made_finishTransfer id _
  | ok =>
      refine Made.next ((made_stream id).next fun stream => ?_) fun _ =>
        made_finishTransfer id _
      cases stream.pcm with
      | none => exact .done _
      | some pcm => exact (made_call _ _ rfl _).next fun _ => .done _

theorem made_completeRead (id : StreamId) (buffer : List UInt8)
    (begun : Except AudioError Unit) : Made (completeRead id buffer begun) := by
  refine (made_stream id).next fun stream => ?_
  cases begun with
  | error error =>
      refine (Made.done _).next fun outcome => ?_
      refine (made_finishTransfer id outcome).next fun finished => ?_
      cases finished <;> exact .done _
  | ok =>
      refine (Made.pulls id _).next fun outcome => ?_
      refine (made_finishTransfer id outcome).next fun finished => ?_
      cases finished <;> exact .done _

theorem made_readAmid {others : List (Act Unit)} (made : ∀ other ∈ others, Made other)
    (id : StreamId) (buffer : List UInt8) : Made (readAmid others id buffer) := by
  refine (made_stream id).next fun stream => ?_
  dsimp only
  split
  · exact .done _
  · exact (made_beginTransfer made id).next fun begun => made_completeRead id buffer begun

/-! ## Control and parameters -/

theorem made_standbyTaken (taken : Option (Takeover.Taken StreamId Unit)) :
    Made (standbyTaken taken) := by
  cases taken with
  | none => exact .done _
  | some taken => exact made_standbyLocked _

theorem made_unlockTaken (taken : Option (Takeover.Taken StreamId Unit)) :
    Made (unlockTaken taken) := by
  cases taken with
  | none => exact .done _
  | some taken => exact made_unlock _

theorem made_switchCall (mode : PhoneMode)
    (output input : Option (Takeover.Taken StreamId Unit)) :
    Made (switchCall mode output input) := by
  refine made_hardware.next fun hardware => ?_
  dsimp only
  split
  · split
    · refine (made_standbyTaken _).next fun _ => (made_standbyTaken _).next fun _ => ?_
      exact (composes_made.enterCall made_reroute).next fun _ => .changes _
    · refine (composes_made.leaveCall made_reroute).next fun _ =>
        (made_standbyTaken _).next fun _ => ?_
      exact (made_standbyTaken _).next fun _ => .changes _
  · exact .done _

theorem made_setModeAmid {onOutput onInput : List (Act Unit)}
    (madeOutput : ∀ other ∈ onOutput, Made other) (madeInput : ∀ other ∈ onInput, Made other)
    (mode : PhoneMode) : Made (setModeAmid onOutput onInput mode) := by
  have change : Made (changeMode mode) := by
    refine made_hardware.next fun hardware => (Made.changes _).next fun _ => ?_
    split
    · exact made_tell _ _
    · exact .done _
  refine (made_withHardware ?_).next fun _ => .done _
  refine (made_takeOver _ _ madeOutput).next fun output => ?_
  refine (made_takeOver _ _ madeInput).next fun input => ?_
  refine (made_tellRetries _ _).next fun _ => (made_tellRetries _ _).next fun _ => ?_
  refine change.next fun _ => (made_switchCall mode output input).next fun _ => ?_
  exact (made_unlockTaken _).next fun _ => made_unlockTaken _

theorem made_setMuted (muted : Bool) : Made (setMuted muted) := by
  refine (made_withHardware ?_).next fun active => ?_
  · refine (made_reroute _).next fun _ => (made_reroute _).next fun _ => ?_
    refine (Made.changes _).next fun _ => ?_
    split
    · exact made_machine.next fun _ => .done _
    · exact .done _
  · cases active with
    | none => exact .done _
    | some id => exact made_standby id

theorem made_setCallVolume (volume : Float32) : Made (setCallVolume volume) := by
  refine (made_withHardware ?_).next fun _ => .done _
  refine (Made.changes _).next fun _ => made_hardware.next fun hardware => ?_
  split
  · exact made_reroute _
  · exact .done _

theorem made_selectDevices (id : StreamId) (devices : Devices) :
    Made (selectDevices id devices) := by
  have select : Made (changeStream id fun stream => { stream with devices := devices }) :=
    made_changeStream id fun _ => ⟨rfl, rfl, rfl⟩
  have follow : Made (followDevices devices) := made_followDevices devices
  unfold selectDevices
  split
  · exact .done _
  refine made_withHardware ((made_stream id).next fun stream => ?_)
  refine made_hardware.next fun hardware => ?_
  dsimp only
  split
  · refine (made_standbyLocked id).next fun _ => select.next fun _ => ?_
    split
    · exact follow
    · exact .done _
  · refine select.next fun _ => ?_
    split
    · exact follow
    · exact .done _

theorem made_applyParameters (id : StreamId) (text : String) :
    Made (applyParameters id text) := by
  refine made_hardware.next fun hardware => ?_
  split
  · refine (made_askForLock id).next fun _ => (made_lockFor id).next fun _ => ?_
    have finish : ∀ rest : KeyValues, Made (do
        unlock (.stream id)
        if rest.isEmpty then return (.ok () : Except AudioError Unit)
        else
          let word := (← stream id).direction.word
          return .error (.badValue s!"unsupported {word} parameters: {rest.toText}")) := by
      intro rest
      refine (made_unlock _).next fun _ => ?_
      split
      · exact .done _
      · exact (made_stream id).next fun _ => .done _
    split
    · exact finish _
    · exact (made_selectDevices id _).next fun _ => finish _
  · exact .done _

theorem made_find (query : Query) : Made (find query) :=
  by
  refine composes_made.find (fun what locking => .notes ?_) made_setLocked query
  cases what <;> first | rfl | cases locking

theorem made_answerKeys (id : StreamId) (keys : String) : Made (answerKeys id keys) := by
  unfold answerKeys
  dsimp only
  split
  · refine (made_lock _).next fun _ => (made_stream id).next fun stream => ?_
    exact (made_unlock _).next fun _ => .done _
  · exact .done _

theorem made_detach (id : StreamId) : Made (detach id) :=
  .restates id (fun _ => rfl) fun _ awake => awake

theorem made_retire (id : StreamId) : Made (retire id) :=
  (made_detach id).next fun _ => (made_standby id).next fun _ => .done _

theorem made_close (id : StreamId) : Made (close id) := by
  have takes : Made (takeOut id) := made_withHardware
    (made_machine.next fun _ => (Made.changes _).next fun _ => .done _)
  refine takes.next fun isThere => ?_
  cases isThere with
  | true => exact (made_retire id).next fun _ => .done _
  | false => exact (made_stream id).next fun _ => .done _

theorem made_retireAll (ids : List StreamId) : Made (retireAll ids) := by
  induction ids with
  | nil => exact .done _
  | cons id rest ih => exact (made_retire id).next fun _ => ih

theorem made_dropHardware : Made dropHardware := by
  refine Made.next (made_withHardware (made_hardware.next fun hardware =>
    (Made.changes _).next fun _ => .done _)) fun streams => ?_
  refine (made_retireAll streams).next fun _ => ?_
  exact (Made.changes _).next fun _ => made_closeRouter

end Act

namespace Operation

/-- An undisturbed operation is the operation. -/
theorem performAmid_nil (operation : Operation) :
    operation.performAmid [] [] = operation.perform := by
  cases operation <;> rfl

/-- **Operations** are made of what operations are made of, also when others act during their waits
who do nothing else. -/
theorem made_performAmid (operation : Operation) {onOutput onInput : List (Act Unit)}
    (madeOutput : ∀ other ∈ onOutput, Act.Made other)
    (madeInput : ∀ other ∈ onInput, Act.Made other) :
    Act.Made (operation.performAmid onOutput onInput) := by
  cases operation with
  | openStream direction devices request =>
      refine (Act.Made.opens direction devices request).next fun opened => ?_
      cases opened <;> exact .done _
  | close id => exact (Act.made_close id).next fun _ => .done _
  | standby id => exact (Act.made_standby id).next fun _ => .done _
  | applyParameters id text => exact (Act.made_applyParameters id text).next fun _ => .done _
  | answerKeys id keys => exact (Act.made_answerKeys id keys).next fun _ => .done _
  | write id bytes =>
      refine (Act.made_writeAmid madeInput id bytes).next fun answer => ?_
      cases answer <;> exact .done _
  | read id buffer =>
      refine (Act.made_readAmid madeOutput id buffer).next fun answer => ?_
      obtain ⟨outcome, filled⟩ := answer
      cases outcome <;> exact .done _
  | setMode mode =>
      exact (Act.made_setModeAmid madeOutput madeInput mode).next fun _ => .done _
  | setMuted muted => exact (Act.made_setMuted muted).next fun _ => .done _
  | setCallVolume volume => exact (Act.made_setCallVolume volume).next fun _ => .done _
  | setMediaVolume volume =>
      refine Act.Made.next ?_ fun _ => .done _
      exact (Act.made_withHardware (Act.made_reroute _)).next fun _ => .done _
  | setCallDevices devices =>
      refine Act.Made.next ?_ fun _ => .done _
      exact (Act.made_withHardware (Act.made_followDevices devices)).next fun _ => .done _
  | ask query => exact (Act.made_find query).next fun _ => .done _
  | dropHardware => exact Act.made_dropHardware.next fun _ => .done _

theorem made_perform (operation : Operation) : Act.Made operation.perform := by
  rw [← performAmid_nil]
  exact operation.made_performAmid nofun nofun

end Operation

end PhoneAudio
