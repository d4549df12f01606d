import PhoneAudio.Proofs.Handset.LockDiscipline
import PhoneAudio.Proofs.Handset.Logs
import PhoneAudio.Proofs.Handset.Tasks

/-!
# Waking while others act

A capture stream that wakes gives its locks back while it waits for the stream that plays. What it
had found out about itself before is not looked at again: a stream that was closed meanwhile, or
that another reader has woken, is opened and roused all the same. This module says exactly what
comes of it (`PhoneAudio.Session.wokenAmid`), whatever operations others perform meanwhile.
-/

namespace PhoneAudio

/-- Performs those operations that are possible, one after the other. -/
def Operation.meanwhile : List Operation → Act Unit
  | [] => return ()
  | operation :: rest => do
    if operation.Possible (← Act.machine) then
      let _ ← operation.perform
    meanwhile rest

namespace Ledger

/-- A capture stream is being roused, and the wake lock was taken for it. -/
structure Rousing (first : Ledger) (id : StreamId) (ledger : Ledger) : Prop where
  held : Held first [.capture] ledger
  inside : id < ledger.streams.length
  direction : (ledger.stream id).1 = .capture

variable {first before after : Ledger} {id : StreamId}

/-- Moves of others leave a stream roused that is being roused, with the wake lock taken for it. -/
theorem Moves.rousing (moves : Moves before after) (rousing : Rousing first id before) :
    Rousing first id after := by
  obtain ⟨changes, trail⟩ := moves.trail rousing.inside
  exact ⟨moves.held rousing.held, trail.inside, trail.direction.trans rousing.direction⟩

theorem Rousing.told (rousing : Rousing first id before) (event : Event) :
    Rousing first id (before.told event) := by
  have same := before.streams_told event
  refine ⟨rousing.held.told event, ?_, ?_⟩
  · rw [same]
    exact rousing.inside
  · exact (congrArg (fun streams => (streams.getD id default).1) same).trans rousing.direction

end Ledger

namespace Act

variable {α β : Type} {first : Ledger} {id : StreamId}

/-- An action during which a capture stream goes on being roused. -/
def StaysRousing (first : Ledger) (id : StreamId) (action : Act α) : Prop :=
  ∀ run, Ledger.Rousing first id run.ledger → Ledger.Rousing first id (action run).2.ledger

theorem Keeps.staysRousing {action : Act α} (keeps : Keeps Run.ledger action) :
    StaysRousing first id action := by
  intro run rousing
  rw [keeps run]
  exact rousing

theorem Does.staysRousing {action : Act α} (does : Does Ledger.Turn action) :
    StaysRousing first id action :=
  fun run => (Ledger.Turns.moves (does run)).rousing

theorem composes_staysRousing : Composes fun action => StaysRousing first id action :=
  ⟨fun answer => (keeps_pure answer).staysRousing, fun _ _ rousing => rousing,
    fun earlier later _ rousing => later _ _ (earlier _ rousing)⟩

/-- Operations of others leave a stream being roused. -/
theorem staysRousing_meanwhile (operations : List Operation) :
    StaysRousing first id (Operation.meanwhile operations) := by
  induction operations with
  | nil => exact (keeps_pure ()).staysRousing
  | cons operation rest ih =>
      intro run rousing
      unfold Operation.meanwhile
      rw [bind_apply, machine_apply]
      dsimp only
      split
      · rename_i possible
        exact ih _ ((Operation.moves possible).rousing rousing)
      · exact ih _ rousing

theorem staysRousing_tellRetries (direction : Direction)
    (taken : Option (Takeover.Taken StreamId Unit)) :
    StaysRousing first id (tellRetries direction taken) := by
  cases taken with
  | none => exact (keeps_pure ()).staysRousing
  | some taken =>
      unfold tellRetries
      dsimp only
      split
      · intro run rousing
        rw [ledger_tell]
        exact rousing.told _
      · exact (keeps_pure ()).staysRousing

/-- A takeover leaves a stream being roused, whatever operations others perform meanwhile. -/
theorem staysRousing_takeOver (direction : Direction) (own : Option StreamId)
    (windows : List (List Operation)) :
    StaysRousing first id (takeOver direction own (windows.map Operation.meanwhile)) := by
  refine composes_staysRousing.takeOver (fun id => (does_askForLock id).staysRousing)
    (fun id => (does_lockFor id).staysRousing)
    (fun target => (keeps_ledger_lock target).staysRousing)
    (fun target => (keeps_ledger_unlock target).staysRousing) direction own fun other member => ?_
  obtain ⟨operations, -, rfl⟩ := List.mem_map.mp member
  exact staysRousing_meanwhile operations

/-- Makes way for a capture stream that wakes: the stream that plays is closed and opened again. -/
def makeWay (id : StreamId) (others : List (Act Unit)) : Act Unit := do
  let sibling ← takeOver .playback (some id) others
  tellRetries .playback sibling
  if let some taken := sibling then
    closeLocked taken.occupant
    reopenOrStandby taken.occupant
    unlock (.stream taken.occupant)

/-- A capture stream wakes by making way, opening and settling. -/
theorem wakeCapture_eq (id : StreamId) (others : List (Act Unit)) :
    wakeCapture id others =
      makeWay id others >>= fun _ => openLocked id >>= fun opened => settleWaking id opened := by
  unfold wakeCapture makeWay
  simp only [bind_assoc]
  congr 1
  funext sibling
  congr 1
  funext _
  cases sibling with
  | none => rfl
  | some taken => simp only [bind_assoc]

theorem staysRousing_makeWay (windows : List (List Operation)) :
    StaysRousing first id (makeWay id (windows.map Operation.meanwhile)) := by
  refine composes_staysRousing.next (staysRousing_takeOver .playback (some id) windows)
    fun sibling => ?_
  refine composes_staysRousing.next (staysRousing_tellRetries .playback sibling) fun _ => ?_
  cases sibling with
  | none => exact (keeps_pure ()).staysRousing
  | some taken =>
      refine composes_staysRousing.next (keeps_ledger_closeLocked _).staysRousing fun _ => ?_
      refine composes_staysRousing.next (does_reopenOrStandby _).staysRousing fun _ => ?_
      exact (keeps_ledger_unlock _).staysRousing

/-- Begins to wake a capture stream, up to where its PCM is to be opened: its lock, the lock of the
audio hardware and the wake lock are taken, and the stream that plays makes way. -/
def waitAmid (id : StreamId) (others : List (Act Unit)) : Act Unit := do
  lock (.stream id)
  lock .hardware
  acquireWake id
  makeWay id others

/-- Settles the waking of a capture stream and completes the read that it was woken for. -/
def finishRousing (id : StreamId) (buffer : List UInt8) (opened : Except AudioError Unit) :
    Act (Except AudioError Nat × List UInt8) := do
  let begun ← settleWaking id opened
  unlock .hardware
  completeRead id buffer begun

end Act

/-- A capture stream in standby that a read of one frame at least is about to wake. -/
structure Run.Dozing (id : StreamId) (buffer : List UInt8) (run : Run) : Prop where
  inside : id < run.machine.streams.length
  direction : (run.machine.stream id).direction = .capture
  asleep : (run.machine.stream id).status.standby = true
  attached : (run.machine.stream id).status.detached = false
  present : run.machine.hardware.present = true
  whole : buffer.length / (run.machine.stream id).format.frameBytes ≠ 0

namespace Act

variable {id : StreamId} {buffer : List UInt8} {run : Run}

/-- A read of a dozing stream begins to wake it, opens its PCM and finishes. -/
theorem readAmid_eq (dozing : run.Dozing id buffer) (others : List (Act Unit)) :
    readAmid others id buffer run =
      (waitAmid id others >>= fun _ => openLocked id >>= finishRousing id buffer) run := by
  have status : ((lock (.stream id) run).2.machine.stream id).status =
      (run.machine.stream id).status :=
    Machine.view_adjust Stream.status run.machine id id fun _ => rfl
  have direction : ((lock (.stream id) run).2.machine.stream id).direction = .capture :=
    (Machine.view_adjust Stream.direction run.machine id id (f := fun stream =>
      { stream with locked := true }) fun _ => rfl).trans dozing.direction
  have inactive : ((lock (.stream id) run).2.machine.stream id).isActive = false := by
    rw [Stream.isActive, status, dozing.asleep]
    rfl
  have present : (lock (.stream id) run).2.machine.hardware.present = true := dozing.present
  have woken : wake id others (lock (.stream id) run).2 =
      withHardware (acquireWake id >>= fun _ => wakeCapture id others)
        (lock (.stream id) run).2 := by
    unfold wake
    rw [bind_apply, stream_apply]
    dsimp only
    rw [inactive, if_neg Bool.false_ne_true, status, dozing.attached, if_neg Bool.false_ne_true,
      bind_apply, hardware_apply, direction]
    dsimp only
    rw [present, Bool.not_true, if_neg Bool.false_ne_true]
  unfold readAmid
  rw [bind_apply, stream_apply]
  dsimp only
  rw [if_neg dozing.whole, bind_apply, beginTransfer, bind_apply, woken, wakeCapture_eq]
  rfl

/-- Up to where the PCM is opened, the wake lock is held once more than capture streams are out of
standby. -/
theorem rousing_waitAmid {first : Ledger} (held : Ledger.Held first [] run.ledger)
    (dozing : run.Dozing id buffer) (windows : List (List Operation)) :
    Ledger.Rousing first id (waitAmid id (windows.map Operation.meanwhile) run).2.ledger := by
  have locked : (lock .hardware (lock (.stream id) run).2).2.ledger = run.ledger :=
    (keeps_ledger_lock .hardware _).trans (keeps_ledger_lock (.stream id) run)
  have acquired := ledger_acquireWake id (lock .hardware (lock (.stream id) run).2).2
  have direction : (run.ledger.stream id).1 = .capture := by
    rw [run.ledger_stream]
    exact dozing.direction
  rw [locked] at acquired
  have rousing : Ledger.Rousing first id
      (acquireWake id (lock .hardware (lock (.stream id) run).2).2).2.ledger := by
    rw [acquired]
    refine ⟨direction ▸ held.acquired id, ?_, ?_⟩
    · rw [Ledger.acquired, Ledger.streams_called]
      exact Nat.lt_of_lt_of_eq dozing.inside (List.length_map _).symm
    · rw [Ledger.acquired, Ledger.stream_called]
      exact direction
  exact staysRousing_makeWay windows _ rousing

/-- A stream that was opened has a PCM. -/
theorem pcm_openLocked (inside : id < run.machine.ties.length)
    (opened : (openLocked id run).1 = .ok ()) :
    ((openLocked id run).2.machine.tie id).1.isSome = true := by
  have fitted := ties_engage id run
  rw [openLocked_eq, bind_apply] at opened ⊢
  generalize engage id run = answered at fitted opened
  obtain ⟨error | done, after⟩ := answered
  · cases opened
  · obtain ⟨_, ⟨⟩, -⟩ | ⟨pcm, -, fitted⟩ := fitted
    have routed : (routeOpened id after).2.machine.ties = after.machine.ties :=
      keeps_ties_routeOpened id after
    have tie := Machine.tie_modify (routed.trans fitted) inside
    exact congrArg (·.1.isSome) tie

/-- As long as the audio hardware is there, a stream that is put to standby has no PCM. -/
theorem tie_standby (inside : id < run.machine.ties.length)
    (present : (standby id run).2.machine.hardware.present = true) :
    (standby id run).2.machine.tie id = (none, false) := by
  unfold standby at present ⊢
  rw [bind_apply, hardware_apply] at present ⊢
  dsimp only at present ⊢
  split
  · have ready : Plain (askForLock id >>= fun _ => lockFor id >>= fun _ => lock .hardware) :=
      (plain_askForLock id).bind fun _ => (plain_lockFor id).bind fun _ => plain_lock _
    have done : Plain (unlock .hardware >>= fun _ => unlock (.stream id)) :=
      (plain_unlock _).bind fun _ => plain_unlock _
    have same := Machine.ties_of_vitals (ready run).kept
    have slept := ties_standbyLocked id
      ((askForLock id >>= fun _ => lockFor id >>= fun _ => lock .hardware) run).2
    rw [same] at slept
    exact Machine.tie_modify ((Machine.ties_of_vitals (done _).kept).trans slept) inside
  · rename_i absent
    rw [if_neg absent] at present
    exact absurd present absent

/-- How a read of whole frames ends: well, or with its stream put to standby. -/
theorem completeRead_ends (buffer : List UInt8) (begun : Except AudioError Unit) (run : Run) :
    (∃ count, begun = .ok () ∧ (completeRead id buffer begun run).1.1 = .ok count ∧
        (completeRead id buffer begun run).2.machine.ties = run.machine.ties) ∨
      ∃ error between, (completeRead id buffer begun run).1.1 = .error error ∧
        between.machine.ties = run.machine.ties ∧
        (completeRead id buffer begun run).2 = (standby id between).2 := by
  have unlocked : ∀ run, (unlock (.stream id) run).2.machine.ties = run.machine.ties :=
    fun run => Machine.ties_of_vitals (plain_unlock _ run).kept
  have told : ∀ direction error run,
      (tell (some id) (.transferFailed direction error) run).2.machine.ties = run.machine.ties :=
    fun direction error run => Machine.ties_of_vitals (plain_tell rfl run).kept
  unfold completeRead
  rw [bind_apply, stream_apply]
  dsimp only
  cases begun with
  | error error =>
      exact .inr ⟨error, _, rfl, (told _ _ _).trans (unlocked run), rfl⟩
  | ok done =>
      have read := keeps_ties_readOpen id
        (buffer.length / (run.machine.stream id).format.frameBytes) run
      dsimp only at read ⊢
      rw [bind_apply]
      generalize readOpen id (buffer.length / (run.machine.stream id).format.frameBytes) run =
        collected at read
      obtain ⟨error | samples, after⟩ := collected
      · exact .inr ⟨error, _, rfl, (told _ _ _).trans ((unlocked after).trans read), rfl⟩
      · exact .inl ⟨_, rfl, rfl, (unlocked after).trans read⟩

end Act

/-- How a read ends that wakes its capture stream, given the run in which the stream that plays has
made way and what comes of opening the PCM then. -/
structure Run.WokenAmid (first : Run) (id : StreamId) (between : Run)
    (opened : Except AudioError Unit) (answer : Except AudioError Nat) (after : Run) : Prop where
  /-- After a read that ends well, the stream is out of standby with a PCM. -/
  awake : ∀ count, answer = .ok count → (after.machine.stream id).isActive = true ∧
    (after.machine.stream id).pcm.isSome = true
  /-- After one that fails it is in standby without a PCM, if the audio hardware is still there. -/
  asleep : ∀ error, answer = .error error → after.machine.hardware.present = true →
    (after.machine.stream id).isActive = false ∧ (after.machine.stream id).pcm = none
  /-- Each direction holds the wake lock as often as its streams are out of standby. Capture holds
  it once more if the stream was opened although it was out of standby. -/
  wakes : first.machine.drivers.hasWakeLock = true → ∃ calls,
    after.machine.drivers.wakeCalls = first.machine.drivers.wakeCalls ++ calls ∧
      Bench.WakeCall.Fit calls fun direction => after.machine.awake direction +
        if direction = .capture ∧ opened = .ok () ∧ (between.machine.stream id).isActive = true
        then 1 else 0

namespace Act

variable {id : StreamId} {buffer : List UInt8} {run : Run} {first : Ledger}

/-- A stream that was opened is roused. If it was out of standby, the wake lock that was taken for
it is held once more than streams are out of standby. -/
theorem held_settleWaking (rousing : Ledger.Rousing first id run.ledger)
    (opened : Except AudioError Unit) :
    Ledger.Held first (if opened = .ok () ∧ (run.machine.stream id).isActive = true
      then [.capture] else []) (settleWaking id opened run).2.ledger := by
  have held := rousing.held
  rw [← rousing.direction] at held
  have entry : (run.ledger.stream id).2 = (run.machine.stream id).status :=
    congrArg Prod.snd (run.ledger_stream id)
  cases opened with
  | error error =>
      rw [if_neg (fun both => nomatch both.1)]
      unfold settleWaking
      dsimp only
      rw [bind_apply, pure_apply, ledger_releaseWake]
      exact held.released
  | ok done =>
      rw [ledger_settleWaking]
      cases asleep : (run.machine.stream id).status.standby with
      | true =>
          rw [if_neg (by simp [Stream.isActive, asleep])]
          exact held.roused rousing.inside ((congrArg StreamStatus.standby entry).trans asleep)
      | false =>
          rw [if_pos ⟨rfl, by simp [Stream.isActive, asleep]⟩]
          -- Nothing changes for a stream that is out of standby, so the hold is one too many.
          have fixed : run.ledger.changed id .roused =
              run.ledger.restated id fun status => status := by
            refine Ledger.restated_congr _ ?_
            rw [entry, StatusChange.apply, ← asleep]
          refine rousing.held.of_eq (Ledger.wakes_told _ _) ?_
          rw [Ledger.awake_of_streams (run.ledger.streams_roused id), fixed]
          exact run.ledger.awake_restated id fun _ => rfl

theorem length_settleWaking (id : StreamId) (opened : Except AudioError Unit) (run : Run) :
    (settleWaking id opened run).2.machine.ties.length = run.machine.ties.length := by
  cases opened with
  | error error => exact congrArg List.length (keeps_ties_callWakeLock _ _ run)
  | ok done =>
      rw [ties_settleWaking]
      exact List.length_modify ..

theorem settleWaking_answer (id : StreamId) (opened : Except AudioError Unit) (run : Run) :
    (settleWaking id opened run).1 = opened := by
  cases opened <;> rfl

/-- How a read ends after its stream was opened, or not. -/
theorem finishRousing_ends (inside : id < run.machine.ties.length) (buffer : List UInt8)
    {opened : Except AudioError Unit}
    (fitted : opened = .ok () → (run.machine.tie id).1.isSome = true) :
    (∀ count, (finishRousing id buffer opened run).1.1 = .ok count →
      ∃ pcm, (finishRousing id buffer opened run).2.machine.tie id = (some pcm, true)) ∧
    ∀ error, (finishRousing id buffer opened run).1.1 = .error error →
      (finishRousing id buffer opened run).2.machine.hardware.present = true →
        (finishRousing id buffer opened run).2.machine.tie id = (none, false) := by
  have begun := settleWaking_answer id opened run
  unfold finishRousing
  rw [bind_apply, bind_apply, begun]
  have unlocked :=
    Machine.ties_of_vitals (plain_unlock .hardware (settleWaking id opened run).2).kept
  generalize (unlock .hardware (settleWaking id opened run).2).2 = settled at unlocked
  obtain ⟨count, rfl, answer, same⟩ | ⟨error, middle, answer, same, ended⟩ :=
    completeRead_ends buffer opened settled
  · rw [answer]
    refine ⟨fun _ _ => ?_, nofun⟩
    obtain ⟨pcm, there⟩ := Option.isSome_iff_exists.mp (fitted rfl)
    have tie := Machine.tie_modify ((same.trans unlocked).trans (ties_settleWaking id run)) inside
    rw [there] at tie
    exact ⟨pcm, tie⟩
  · rw [answer, ended]
    refine ⟨nofun, fun _ _ present => tie_standby ?_ present⟩
    rwa [same, unlocked, length_settleWaking]

/-- A read that wakes its stream ends as `WokenAmid` says, whatever operations others perform while
it waits. -/
theorem ends_readAmid {first : Run} (held : first.ledger.Held [] run.ledger)
    (dozing : run.Dozing id buffer) (windows : List (List Operation)) :
    let others := windows.map Operation.meanwhile
    let between := (waitAmid id others run).2
    first.WokenAmid id between (openLocked id between).1 (readAmid others id buffer run).1.1
      (readAmid others id buffer run).2 := by
  have rousing := rousing_waitAmid held dozing windows
  dsimp only
  rw [readAmid_eq dozing, bind_apply]
  generalize (waitAmid id (windows.map Operation.meanwhile) run).2 = between at rousing
  have length : between.ledger.streams.length = between.machine.ties.length :=
    (List.length_map _).trans (List.length_map _).symm
  have fitted := pcm_openLocked (length ▸ rousing.inside)
  have same := keeps_ledger_openLocked id between
  rw [bind_apply]
  generalize openLocked id between = answered at fitted same
  obtain ⟨opened, last⟩ := answered
  dsimp only at fitted same ⊢
  have grown : last.machine.ties.length = between.ledger.streams.length := by
    rw [← same]
    exact (List.length_map _).trans (List.length_map _).symm
  have active : (last.machine.stream id).isActive = (between.machine.stream id).isActive := by
    have entry := (between.ledger_stream id).symm.trans
      ((congrArg (Ledger.stream · id) same).symm.trans (last.ledger_stream id))
    exact (congrArg (fun entry => !entry.2.standby) entry).symm
  have settled := held_settleWaking (same ▸ rousing) opened
  have ended : first.ledger.Held (if opened = .ok () ∧ (between.machine.stream id).isActive = true
      then [.capture] else []) (finishRousing id buffer opened last).2.ledger := by
    rw [← active]
    exact Ledger.Turns.held (does_completeRead id buffer _ _)
      ((keeps_ledger_unlock .hardware _).symm ▸ settled)
  obtain ⟨well, ill⟩ := finishRousing_ends (grown ▸ rousing.inside) buffer fitted
  refine ⟨fun count answer => ?_, fun error answer present => ?_, fun there => ?_⟩
  · obtain ⟨pcm, tie⟩ := well count answer
    exact ⟨congrArg Prod.snd tie, congrArg (·.1.isSome) tie⟩
  · have tie := ill error answer present
    exact ⟨congrArg Prod.snd tie, congrArg Prod.fst tie⟩
  · obtain ⟨calls, added, fit⟩ := ended.wakes there
    refine ⟨calls, added, ?_⟩
    have holds : (fun direction => (finishRousing id buffer opened last).2.ledger.awake direction +
        List.count direction (if opened = .ok () ∧ (between.machine.stream id).isActive = true
          then [.capture] else [])) = fun direction =>
        (finishRousing id buffer opened last).2.machine.awake direction +
          if direction = .capture ∧ opened = .ok () ∧ (between.machine.stream id).isActive = true
          then 1 else 0 := by
      funext direction
      rw [Run.ledger, Machine.awake_ledger]
      by_cases both : opened = .ok () ∧ (between.machine.stream id).isActive = true
      · cases direction <;> simp [both]
      · simp [both]
    rwa [holds] at fit

end Act

/-- The conditions of the drivers do not matter to a stream that is about to wake. -/
theorem Run.Dozing.under {id : StreamId} {buffer : List UInt8} {run : Run}
    (dozing : run.Dozing id buffer) (conditions : Conditions) :
    (run.under conditions).Dozing id buffer :=
  ⟨dozing.inside, dozing.direction, dozing.asleep, dozing.attached, dozing.present, dozing.whole⟩

/-- **Waking while others act.** In every session, whatever the drivers do and whatever operations
others perform while a read waits for the stream that plays: a read that ends well leaves its stream
out of standby with a PCM, even if the stream was closed meanwhile; one that fails leaves it in
standby without a PCM; and a hold of the wake lock is left over exactly when the stream was opened
although others had woken it meanwhile. -/
theorem Session.wokenAmid {first last : Run} {operations : List Operation} (built : first.Built)
    (session : Session first operations last) (conditions : Conditions) {id : StreamId}
    {buffer : List UInt8} (dozing : last.Dozing id buffer) (windows : List (List Operation)) :
    let others := windows.map Operation.meanwhile
    let between := (Act.waitAmid id others (last.under conditions)).2
    let answered := Act.readAmid others id buffer (last.under conditions)
    first.WokenAmid id between (Act.openLocked id between).1 answered.1.1 answered.2 := by
  have held : first.ledger.Held [] (last.under conditions).ledger :=
    session.moves.held built.held
  exact Act.ends_readAmid held (dozing.under conditions) windows

/-- Stream 1 is about to be woken while stream 0 plays. -/
theorem Run.dozing_playingBeside : Run.playingBeside.Dozing 1 [0, 0, 0, 0] := by
  constructor <;> decide +kernel

/-- A reader takes a stream that is closed meanwhile out of standby. -/
theorem Session.wokenAmid_closed :
    let others := [[Operation.close 1]].map Operation.meanwhile
    let between := (Act.waitAmid 1 others (Run.playingBeside.under {})).2
    let answered := Act.readAmid others 1 [0, 0, 0, 0] (Run.playingBeside.under {})
    (Run.playingBeside.Dozing 1 [0, 0, 0, 0] ∧ answered.1.1 = .ok 4 ∧
      (answered.2.machine.stream (1 : Nat)).status.detached = true) ∧
    Run.stock.WokenAmid 1 between (Act.openLocked 1 between).1 answered.1.1 answered.2 := by
  refine ⟨⟨Run.dozing_playingBeside, ?_, ?_⟩, ?_⟩
  · decide +kernel
  · decide +kernel
  · exact Session.wokenAmid Run.built_stock Session.playingBeside {} Run.dozing_playingBeside
      [[.close 1]]

/-- Closed streams are in standby without a PCM. -/
def Machine.ClosedAsleep (machine : Machine) : Prop :=
  ∀ stream ∈ machine.streams, stream.status.detached = true →
    stream.isActive = false ∧ stream.pcm = none

/-- The wake lock of capture is held as often as capture streams are out of standby. -/
def Machine.HoldsCapture (machine : Machine) : Prop :=
  machine.drivers.hasWakeLock = true →
    machine.drivers.wakeCalls.count (.acquire Direction.capture.wakeTag) =
      machine.drivers.wakeCalls.count (.release Direction.capture.wakeTag) + machine.awake .capture

/-- Waking is not safe: a stream that is closed meanwhile may be left out of standby, and two
readers of one stream may leave the wake lock taken twice. -/
theorem Session.not_wakesSafely :
    (¬ ∀ (first last : Run) (operations : List Operation), first.Built →
      Session first operations last → ∀ (id : StreamId) (buffer : List UInt8)
        (windows : List (List Operation)), last.Dozing id buffer →
        (Act.readAmid (windows.map Operation.meanwhile) id buffer last).2.machine.ClosedAsleep) ∧
    ¬ ∀ (first last : Run) (operations : List Operation), first.Built →
      Session first operations last → ∀ (id : StreamId) (buffer : List UInt8)
        (windows : List (List Operation)), last.Dozing id buffer →
        (Act.readAmid (windows.map Operation.meanwhile) id buffer last).2.machine.HoldsCapture := by
  constructor
  · intro safe
    have asleep := safe _ _ _ Run.built_stock Session.playingBeside 1 [0, 0, 0, 0] [[.close 1]]
      Run.dozing_playingBeside
    have awake : ∃ stream ∈ (Act.readAmid ([[.close 1]].map Operation.meanwhile) 1 [0, 0, 0, 0]
        Run.playingBeside).2.machine.streams,
          stream.status.detached = true ∧ stream.isActive = true := by
      decide +kernel
    obtain ⟨stream, member, closed, active⟩ := awake
    have inactive := (asleep stream member closed).1
    rw [active] at inactive
    cases inactive
  · intro safe
    have holds := safe _ _ _ Run.built_stock Session.playingBeside 1 [0, 0, 0, 0]
      [[.read 1 [0, 0, 0, 0]]] Run.dozing_playingBeside
    have counted : ¬ (Act.readAmid ([[.read 1 [0, 0, 0, 0]]].map Operation.meanwhile) 1 [0, 0, 0, 0]
        Run.playingBeside).2.machine.HoldsCapture := by
      unfold Machine.HoldsCapture
      decide +kernel
    exact counted holds

end PhoneAudio
