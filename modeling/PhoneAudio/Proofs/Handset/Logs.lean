import PhoneAudio.Proofs.Handset.Moves

/-!
# Logs

The calls to the wake lock and the events that the listener is told fit the streams and the mode,
whatever the drivers do (`PhoneAudio.Session.logsFit`). While a stream is being roused, its
direction holds the wake lock once more than streams are out of standby
(`PhoneAudio.Ledger.Held`).
-/

namespace PhoneAudio

theorem count_concat {α : Type} [DecidableEq α] (list : List α) (last a : α) :
    (list ++ [last]).count a = list.count a + if last = a then 1 else 0 := by
  rw [List.count_append, List.count_singleton]
  simp only [beq_iff_eq]

/-- No two directions share a tag. -/
theorem Direction.wakeTag_inj {first second : Direction} :
    first.wakeTag = second.wakeTag ↔ first = second := by
  cases first <;> cases second <;> decide

namespace Bench.WakeCall

/-- Calls to the wake lock that leave so many holds for each direction. No tag was ever given back
more often than taken. -/
structure Fit (calls : List WakeCall) (holds : Direction → Nat) : Prop where
  balanced : ∀ direction, calls.count (.acquire direction.wakeTag) =
    calls.count (.release direction.wakeTag) + holds direction
  owned : ∀ tag earlier, earlier <+: calls →
    earlier.count (.release tag) ≤ earlier.count (.acquire tag)

variable {calls : List WakeCall} {holds more : Direction → Nat} {direction : Direction}

/-- No calls fit without a hold. -/
theorem fit_nil : Fit [] fun _ => 0 := by
  refine ⟨fun _ => rfl, fun tag earlier ahead => ?_⟩
  rw [List.prefix_nil.mp ahead]
  exact Nat.le_refl _

/-- One more hold fits one more acquisition. -/
theorem Fit.acquire (fit : Fit calls holds)
    (grown : ∀ other, more other = holds other + if direction = other then 1 else 0) :
    Fit (calls ++ [.acquire direction.wakeTag]) more := by
  constructor
  · intro other
    rw [count_concat, count_concat, fit.balanced other, grown other]
    simp only [acquire.injEq, Direction.wakeTag_inj, reduceCtorEq, ↓reduceIte]
    omega
  · intro tag earlier ahead
    rcases List.prefix_concat_iff.mp ahead with rfl | inside
    · have before := fit.owned tag calls (List.prefix_refl _)
      rw [count_concat, count_concat]
      simp only [reduceCtorEq, ↓reduceIte]
      omega
    · exact fit.owned tag earlier inside

/-- One hold less fits one more release. -/
theorem Fit.release (fit : Fit calls holds)
    (shrunk : ∀ other, holds other = more other + if direction = other then 1 else 0) :
    Fit (calls ++ [.release direction.wakeTag]) more := by
  constructor
  · intro other
    rw [count_concat, count_concat, fit.balanced other, shrunk other]
    simp only [release.injEq, Direction.wakeTag_inj, reduceCtorEq, ↓reduceIte]
    omega
  · intro tag earlier ahead
    rcases List.prefix_concat_iff.mp ahead with rfl | inside
    · have before := fit.owned tag calls (List.prefix_refl _)
      rw [count_concat, count_concat]
      simp only [release.injEq, reduceCtorEq, ↓reduceIte]
      -- the tag given back is one that was still held
      by_cases same : direction.wakeTag = tag
      · have held := fit.balanced direction
        rw [shrunk direction, same] at held
        simp only [same, ↓reduceIte] at held ⊢
        omega
      · simp only [same, ↓reduceIte]
        exact before
    · exact fit.owned tag earlier inside

end Bench.WakeCall

/-- Whether events go through modes from a first one to a last one: each change of the mode starts
at the mode before and ends at another. -/
def PhoneMode.Through : PhoneMode → List Event → PhoneMode → Prop
  | first, [], last => first = last
  | first, .modeChanged previous current :: rest, last =>
    previous = first ∧ previous ≠ current ∧ current.Through rest last
  | first, _ :: rest, last => first.Through rest last

/-- Changes of the mode one after the other. -/
theorem PhoneMode.Through.append {first middle last : PhoneMode} {events more : List Event}
    (earlier : first.Through events middle) (rest : middle.Through more last) :
    first.Through (events ++ more) last := by
  induction events generalizing first with
  | nil =>
      obtain rfl : first = middle := earlier
      exact rest
  | cons event events ih =>
      cases event with
      | modeChanged previous current => exact ⟨earlier.1, earlier.2.1, ih earlier.2.2⟩
      | standbyEntered direction => exact ih earlier
      | standbyExited direction => exact ih earlier
      | takeoverRetried direction attempts => exact ih earlier
      | transferFailed direction message => exact ih earlier

namespace Event

/-- Events that leave so many streams of each direction out of standby and end at a mode. No
takeover had to start again. -/
structure Fit (events : List Event) (awake : Direction → Nat) (mode : PhoneMode) : Prop where
  standby : ∀ direction, events.count (.standbyExited direction) =
    events.count (.standbyEntered direction) + awake direction
  modes : PhoneMode.normal.Through events mode
  steady : ∀ direction attempts, .takeoverRetried direction attempts ∉ events

variable {events : List Event} {awake more : Direction → Nat} {mode : PhoneMode}
  {direction : Direction}

/-- No events fit before anything wakes. -/
theorem fit_nil : Fit [] (fun _ => 0) .normal :=
  ⟨fun _ => rfl, rfl, fun _ _ => List.not_mem_nil⟩

/-- One more event that fits. -/
theorem Fit.concat (fit : Fit events awake mode) {event : Event} {next : PhoneMode}
    (standby : ∀ direction, more direction + (if event = .standbyEntered direction then 1 else 0) =
      awake direction + if event = .standbyExited direction then 1 else 0)
    (modes : mode.Through [event] next)
    (steady : ∀ direction attempts, event ≠ .takeoverRetried direction attempts) :
    Fit (events ++ [event]) more next := by
  refine ⟨fun direction => ?_, fit.modes.append modes, fun direction attempts member => ?_⟩
  · have before := fit.standby direction
    have step := standby direction
    rw [count_concat, count_concat, before]
    omega
  · rcases List.mem_append.mp member with earlier | last
    · exact fit.steady direction attempts earlier
    · exact steady direction attempts (List.mem_singleton.mp last).symm

/-- A stream that is told to have entered standby is out of standby no more. -/
theorem Fit.entered (fit : Fit events awake mode)
    (shrunk : ∀ other, awake other = more other + if direction = other then 1 else 0) :
    Fit (events ++ [.standbyEntered direction]) more mode := by
  refine fit.concat (fun other => ?_) ?_ ?_
  · simp only [standbyEntered.injEq, reduceCtorEq, ↓reduceIte, shrunk other, Nat.add_zero]
  · exact rfl
  · exact nofun

/-- A stream that is told to have left standby is out of standby. -/
theorem Fit.exited (fit : Fit events awake mode)
    (grown : ∀ other, more other = awake other + if direction = other then 1 else 0) :
    Fit (events ++ [.standbyExited direction]) more mode := by
  refine fit.concat (fun other => ?_) ?_ ?_
  · simp only [standbyExited.injEq, reduceCtorEq, ↓reduceIte, grown other, Nat.add_zero]
  · exact rfl
  · exact nofun

/-- A transfer that fails changes nothing of it. -/
theorem Fit.failed (fit : Fit events awake mode) (direction : Direction) (message : String) :
    Fit (events ++ [.transferFailed direction message]) awake mode := by
  refine fit.concat (fun other => ?_) ?_ ?_
  · simp only [reduceCtorEq, ↓reduceIte]
  · exact rfl
  · exact nofun

/-- The mode that is told is the one that follows. -/
theorem Fit.changed (fit : Fit events awake mode) {next : PhoneMode} (different : mode ≠ next) :
    Fit (events ++ [.modeChanged mode next]) awake next := by
  refine fit.concat (fun other => ?_) ?_ ?_
  · simp only [reduceCtorEq, ↓reduceIte]
  · exact ⟨rfl, different, rfl⟩
  · exact nofun

end Event

namespace Ledger

/-- How many streams of a direction are out of standby. -/
def awake (ledger : Ledger) (direction : Direction) : Nat :=
  ledger.streams.countP fun entry => entry.1 = direction && !entry.2.standby

/-- Modifying one entry changes a count by that entry. -/
theorem countP_modify {α : Type} (p : α → Bool) (f : α → α) {list : List α} {place : Nat}
    (inside : place < list.length) :
    (list.modify place f).countP p + (if p list[place] then 1 else 0) =
      list.countP p + if p (f list[place]) then 1 else 0 := by
  obtain ⟨front, a, back, rfl, rfl, changed⟩ := List.exists_of_modify f inside
  rw [changed, List.countP_append, List.countP_append, List.countP_cons, List.countP_cons,
    List.getElem_append_right (Nat.le_refl _)]
  simp only [Nat.sub_self, List.getElem_cons_zero]
  omega

theorem awake_of_streams {first second : Ledger} (same : first.streams = second.streams) :
    first.awake = second.awake := by
  unfold awake
  rw [same]

/-- A change that has nothing to do with standby. -/
theorem awake_restated (ledger : Ledger) (id : StreamId) {f : StreamStatus → StreamStatus}
    (kept : ∀ status, (f status).standby = status.standby) :
    (ledger.restated id f).awake = ledger.awake := by
  funext direction
  let counts (entry : Direction × StreamStatus) : Bool :=
    entry.1 = direction && !entry.2.standby
  have unseen : ∀ entry : Direction × StreamStatus, counts (entry.1, f entry.2) = counts entry := by
    intro entry
    simp only [counts, kept]
  have seen := map_modify_of_unseen unseen ledger.streams id
  have counted := congrArg (List.countP fun holds => holds) seen
  rwa [List.countP_map, List.countP_map] at counted

/-- Putting a stream to standby that is in standby. -/
theorem awake_slept_of_asleep (ledger : Ledger) {id : StreamId}
    (asleep : (ledger.stream id).2.standby = true) : (ledger.slept id).awake = ledger.awake := by
  have aged : ledger.changed id .slept =
      ledger.restated id fun status => { status with generation := status.generation + 1 } := by
    apply restated_congr
    simp only [StatusChange.apply, asleep]
  rw [awake_of_streams (ledger.streams_slept id), aged, awake_restated]
  exact fun _ => rfl

/-- A stream out of standby is there. -/
theorem inside_of_awake {ledger : Ledger} {id : StreamId}
    (awake : (ledger.stream id).2.standby = false) : id < ledger.streams.length := by
  apply Nat.lt_of_not_le
  intro outside
  have absent : ledger.stream id = default := List.getD_eq_default _ _ outside
  rw [absent] at awake
  cases awake

/-- Putting a stream to standby that is out of standby. -/
theorem awake_slept (ledger : Ledger) {id : StreamId}
    (awake : (ledger.stream id).2.standby = false) (direction : Direction) :
    ledger.awake direction = (ledger.changed id .slept).awake direction +
      if (ledger.stream id).1 = direction then 1 else 0 := by
  have inside := inside_of_awake awake
  have here : ledger.streams[id] = ledger.stream id := (List.getD_eq_getElem _ _ inside).symm
  have counted := countP_modify (fun entry => entry.1 = direction && !entry.2.standby)
    (fun entry => (entry.1, StatusChange.slept.apply entry.2)) inside
  rw [here] at counted
  simp only [awake, StatusChange.apply, Bool.not_true, Bool.and_false, Bool.not_false,
    Bool.and_true, decide_eq_true_eq, Bool.false_eq_true, ↓reduceIte, Nat.add_zero] at counted
  exact counted.symm

/-- Taking a stream out of standby. -/
theorem awake_roused (ledger : Ledger) {id : StreamId} (inside : id < ledger.streams.length)
    (asleep : (ledger.stream id).2.standby = true) (direction : Direction) :
    (ledger.changed id .roused).awake direction = ledger.awake direction +
      if (ledger.stream id).1 = direction then 1 else 0 := by
  have here : ledger.streams[id] = ledger.stream id := (List.getD_eq_getElem _ _ inside).symm
  have counted := countP_modify (fun entry => entry.1 = direction && !entry.2.standby)
    (fun entry => (entry.1, StatusChange.roused.apply entry.2)) inside
  rw [here] at counted
  simp only [asleep, StatusChange.apply, Bool.not_true, Bool.and_false, Bool.not_false,
    Bool.and_true, decide_eq_true_eq, Bool.false_eq_true, ↓reduceIte, Nat.add_zero] at counted
  exact counted

theorem awake_joined (ledger : Ledger) (direction : Direction) :
    (ledger.joined direction).awake = ledger.awake := by
  funext other
  unfold joined awake
  rw [List.countP_append, List.countP_singleton]
  simp only [Bool.not_true, Bool.and_false, Bool.false_eq_true, ↓reduceIte, Nat.add_zero]

/-! ## The wake lock -/

/-- Whether there is a wake lock, and the calls to it. -/
def wakes (ledger : Ledger) : Bool × List Bench.WakeCall :=
  (ledger.hasWakeLock, ledger.wakeCalls)

theorem wakes_told (ledger : Ledger) (event : Event) :
    (ledger.told event).wakes = ledger.wakes := by
  unfold told
  split <;> rfl

theorem wakes_moded (ledger : Ledger) (mode : PhoneMode) :
    (ledger.moded mode).wakes = ledger.wakes := by
  unfold moded
  split
  · rfl
  · exact wakes_told _ _

/-- The calls to the wake lock since a first ledger leave so many holds. -/
structure Waked (first : Ledger) (holds : Direction → Nat) (ledger : Ledger) : Prop where
  hasWakeLock : ledger.hasWakeLock = first.hasWakeLock
  wakes : first.hasWakeLock = true → ∃ calls, ledger.wakeCalls = first.wakeCalls ++ calls ∧
    Bench.WakeCall.Fit calls holds

/-- The wake lock is held for each stream that is out of standby, and once more for each stream of
some directions that is being roused. -/
def Held (first : Ledger) (rousing : List Direction) (ledger : Ledger) : Prop :=
  Waked first (fun direction => ledger.awake direction + rousing.count direction) ledger

variable {first before after : Ledger} {rousing : List Direction}

theorem Waked.of_eq {holds : Direction → Nat} (waked : Waked first holds before)
    (same : after.wakes = before.wakes) : Waked first holds after := by
  obtain ⟨hasWakeLock, calls⟩ := Prod.ext_iff.mp same
  refine ⟨hasWakeLock.trans waked.hasWakeLock, fun there => ?_⟩
  obtain ⟨more, added, fit⟩ := waked.wakes there
  exact ⟨more, calls.trans added, fit⟩

/-- One more call to the wake lock that fits. -/
theorem Waked.called {holds more : Direction → Nat} (waked : Waked first holds before)
    {call : Bench.WakeCall}
    (fits : ∀ calls, Bench.WakeCall.Fit calls holds → Bench.WakeCall.Fit (calls ++ [call]) more) :
    Waked first more (before.called call) := by
  have same := waked.hasWakeLock
  unfold Ledger.called
  split
  · refine ⟨same, fun there => ?_⟩
    obtain ⟨calls, added, fit⟩ := waked.wakes there
    refine ⟨calls ++ [call], ?_, fits calls fit⟩
    rw [added, List.append_assoc]
  · rename_i absent
    exact ⟨same, fun there => absurd (same.trans there) absent⟩

/-- A change that neither calls the wake lock nor counts. -/
theorem Held.of_eq (held : Held first rousing before) (same : after.wakes = before.wakes)
    (awake : after.awake = before.awake) : Held first rousing after := by
  unfold Held
  rw [awake]
  exact Waked.of_eq held same

/-- Telling an event leaves the wake lock. -/
theorem Held.told (held : Held first rousing before) (event : Event) :
    Held first rousing (before.told event) :=
  held.of_eq (before.wakes_told event) (awake_of_streams (before.streams_told event))

/-- A stream put to standby gives the wake lock back. -/
theorem Held.slept (held : Held first rousing before) (id : StreamId) :
    Held first rousing (before.slept id) := by
  cases standby : (before.stream id).2.standby with
  | true =>
      refine held.of_eq ?_ (before.awake_slept_of_asleep standby)
      unfold Ledger.slept
      rw [if_pos standby]
      rfl
  | false =>
      have fewer := before.awake_slept standby
      have changed : Waked first _ (before.changed id .slept) := Waked.of_eq held rfl
      unfold Held
      rw [awake_of_streams (before.streams_slept id)]
      unfold Ledger.slept
      rw [standby, if_neg Bool.false_ne_true]
      refine Waked.of_eq (changed.called fun calls fit => fit.release fun direction => ?_)
        (wakes_told _ _)
      rw [fewer direction]
      omega

/-- A turn keeps the wake lock held as often as streams are out of standby. -/
theorem Turn.held (turn : Turn before after) (held : Held first rousing before) :
    Held first rousing after := by
  cases turn with
  | @changed id change aside =>
      exact held.of_eq rfl (before.awake_restated id (StatusChange.standby_of_isAside aside))
  | slept id => exact held.slept id
  | failed direction message => exact held.told _
  | moded mode =>
      exact held.of_eq (before.wakes_moded mode) (awake_of_streams (before.streams_moded mode))
  | joined direction => exact held.of_eq rfl (before.awake_joined direction)

theorem Turns.held (turns : Turns before after) (held : Held first rousing before) :
    Held first rousing after := by
  induction turns with
  | refl => exact held
  | tail _ turn ih => exact turn.held ih

/-- Taking the wake lock for a stream that is being roused. -/
theorem Held.acquired (held : Held first rousing before) (id : StreamId) :
    Held first ((before.stream id).1 :: rousing) (before.acquired id) := by
  unfold Held Ledger.acquired
  rw [awake_of_streams (before.streams_called _)]
  refine Waked.called held fun calls fit => fit.acquire fun direction => ?_
  rw [List.count_cons]
  simp only [beq_iff_eq]
  omega

/-- Giving it back when the stream stays in standby. -/
theorem Held.released {id : StreamId} (held : Held first ((before.stream id).1 :: rousing) before) :
    Held first rousing (before.released id) := by
  unfold Held Ledger.released
  rw [awake_of_streams (before.streams_called _)]
  refine Waked.called held fun calls fit => fit.release fun direction => ?_
  rw [List.count_cons]
  simp only [beq_iff_eq]
  omega

/-- A stream that is roused keeps the wake lock that was taken for it. -/
theorem Held.roused {id : StreamId} (held : Held first ((before.stream id).1 :: rousing) before)
    (inside : id < before.streams.length) (asleep : (before.stream id).2.standby = true) :
    Held first rousing (before.roused id) := by
  have more := before.awake_roused inside asleep
  have holds : (fun direction => before.awake direction +
      ((before.stream id).1 :: rousing).count direction) = fun direction =>
        (before.changed id .roused).awake direction + rousing.count direction := by
    funext direction
    rw [more direction, List.count_cons]
    simp only [beq_iff_eq]
    omega
  unfold Held at held ⊢
  rw [holds] at held
  rw [awake_of_streams (before.streams_roused id)]
  exact held.of_eq (wakes_told _ _)

/-- What a stream that was acquired and then turned is roused or released from. -/
theorem Held.turned {id : StreamId} (held : Held first rousing before)
    (inside : id < before.streams.length) {between : Ledger}
    (turns : Turns (before.acquired id) between) :
    Held first ((between.stream id).1 :: rousing) between ∧ id < between.streams.length ∧
      ((before.stream id).2.standby = true → (between.stream id).2.standby = true) := by
  have within : id < (before.acquired id).streams.length := by
    rwa [Ledger.acquired, streams_called]
  obtain ⟨changes, never, trail⟩ := turns.trail within
  have same : (before.acquired id).stream id = before.stream id := before.stream_called _ id
  have ready := turns.held (held.acquired id)
  rw [← same, ← trail.direction] at ready
  refine ⟨ready, trail.inside, fun asleep => ?_⟩
  rw [trail.status, same]
  exact StatusChange.standby_applyAll never asleep

/-- So does a move. -/
theorem Move.held (move : Move before after) (held : Held first rousing before) :
    Held first rousing after := by
  cases move with
  | turn turn => exact turn.held held
  | roused inside asleep turns =>
      obtain ⟨ready, within, still⟩ := held.turned inside turns
      exact ready.roused within (still asleep)
  | refused inside turns => exact (held.turned inside turns).1.released

/-- So do moves. -/
theorem Moves.held (moves : Moves before after) (held : Held first rousing before) :
    Held first rousing after := by
  induction moves with
  | refl => exact held
  | tail _ move ih => exact move.held ih

/-! ## The listener -/

/-- What was told since a first ledger fits so many streams out of standby and a mode. -/
structure Told (first : Ledger) (awake : Direction → Nat) (mode : PhoneMode) (ledger : Ledger) :
    Prop where
  hasListener : ledger.hasListener = first.hasListener
  tells : first.hasListener = true → ∃ events, ledger.events = first.events ++ events ∧
    Event.Fit events awake mode

/-- What was told fits the ledger. -/
def Heard (first ledger : Ledger) : Prop :=
  Told first ledger.awake ledger.mode ledger

/-- Whether there is a listener, and what it was told. -/
def tells (ledger : Ledger) : Bool × List Event :=
  (ledger.hasListener, ledger.events)

theorem tells_called (ledger : Ledger) (call : Bench.WakeCall) :
    (ledger.called call).tells = ledger.tells := by
  unfold called
  split <;> rfl

theorem mode_told (ledger : Ledger) (event : Event) : (ledger.told event).mode = ledger.mode := by
  unfold told
  split <;> rfl

theorem mode_called (ledger : Ledger) (call : Bench.WakeCall) :
    (ledger.called call).mode = ledger.mode := by
  unfold called
  split <;> rfl

theorem mode_slept (ledger : Ledger) (id : StreamId) : (ledger.slept id).mode = ledger.mode := by
  unfold slept
  split
  · rfl
  · rw [mode_told, mode_called]
    rfl

theorem Told.of_eq {awake : Direction → Nat} {mode : PhoneMode}
    (told : Told first awake mode before)
    (same : after.tells = before.tells) : Told first awake mode after := by
  obtain ⟨hasListener, events⟩ := Prod.ext_iff.mp same
  refine ⟨hasListener.trans told.hasListener, fun there => ?_⟩
  obtain ⟨more, added, fit⟩ := told.tells there
  exact ⟨more, events.trans added, fit⟩

/-- One more event that fits. -/
theorem Told.told {awake more : Direction → Nat} {mode next : PhoneMode}
    (told : Told first awake mode before) {event : Event}
    (fits : ∀ events, Event.Fit events awake mode → Event.Fit (events ++ [event]) more next) :
    Told first more next (before.told event) := by
  have same := told.hasListener
  unfold Ledger.told
  split
  · refine ⟨same, fun there => ?_⟩
    obtain ⟨events, added, fit⟩ := told.tells there
    refine ⟨events ++ [event], ?_, fits events fit⟩
    rw [added, List.append_assoc]
  · rename_i absent
    exact ⟨same, fun there => absurd (same.trans there) absent⟩

/-- A change that neither tells anything nor counts. -/
theorem Heard.of_eq (heard : Heard first before) (same : after.tells = before.tells)
    (awake : after.awake = before.awake) (mode : after.mode = before.mode) :
    Heard first after := by
  unfold Heard
  rw [awake, mode]
  exact Told.of_eq heard same

/-- A call to the wake lock tells nothing. -/
theorem Heard.called (heard : Heard first before) (call : Bench.WakeCall) :
    Heard first (before.called call) :=
  heard.of_eq (before.tells_called call) (awake_of_streams (before.streams_called call))
    (before.mode_called call)

/-- A stream put to standby tells that it was. -/
theorem Heard.slept (heard : Heard first before) (id : StreamId) :
    Heard first (before.slept id) := by
  cases standby : (before.stream id).2.standby with
  | true =>
      refine heard.of_eq ?_ (before.awake_slept_of_asleep standby) (before.mode_slept id)
      unfold Ledger.slept
      rw [if_pos standby]
      rfl
  | false =>
      have fewer := before.awake_slept standby
      have changed : Told first _ _ (before.changed id .slept) := Told.of_eq heard rfl
      unfold Heard
      rw [awake_of_streams (before.streams_slept id), before.mode_slept]
      unfold Ledger.slept
      rw [standby, if_neg Bool.false_ne_true]
      exact (changed.of_eq (tells_called _ _)).told fun events fit => fit.entered fewer

/-- A mode that changes is told. -/
theorem Heard.moded (heard : Heard first before) (mode : PhoneMode) :
    Heard first (before.moded mode) := by
  unfold Heard
  rw [awake_of_streams (before.streams_moded mode)]
  unfold Ledger.moded
  split
  · exact heard
  · rename_i different
    have kept : Told first before.awake before.mode { before with mode := mode } :=
      Told.of_eq heard rfl
    rw [mode_told]
    exact kept.told fun events fit => fit.changed different

/-- A turn keeps what was told in step with streams and mode. -/
theorem Turn.heard (turn : Turn before after) (heard : Heard first before) :
    Heard first after := by
  cases turn with
  | @changed id change aside =>
      exact heard.of_eq rfl (before.awake_restated id (StatusChange.standby_of_isAside aside)) rfl
  | slept id => exact heard.slept id
  | failed direction message =>
      unfold Heard
      rw [awake_of_streams (before.streams_told _), mode_told]
      exact Told.told heard fun events fit => fit.failed direction message
  | moded mode => exact heard.moded mode
  | joined direction => exact heard.of_eq rfl (before.awake_joined direction) rfl

theorem Turns.heard (turns : Turns before after) (heard : Heard first before) :
    Heard first after := by
  induction turns with
  | refl => exact heard
  | tail _ turn ih => exact turn.heard ih

/-- So does a move. -/
theorem Move.heard (move : Move before after) (heard : Heard first before) :
    Heard first after := by
  cases move with
  | turn turn => exact turn.heard heard
  | @roused id between inside asleep turns =>
      have ready := turns.heard (heard.called _)
      have within : id < (before.acquired id).streams.length := by
        rwa [acquired, streams_called]
      obtain ⟨changes, never, trail⟩ := turns.trail within
      have same : (before.acquired id).stream id = before.stream id := before.stream_called _ id
      have still : (between.stream id).2.standby = true := by
        rw [trail.status, same]
        exact StatusChange.standby_applyAll never asleep
      have more := between.awake_roused trail.inside still
      have changed : Told first _ _ (between.changed id .roused) := Told.of_eq ready rfl
      unfold Heard
      rw [awake_of_streams (between.streams_roused id), Ledger.roused, mode_told]
      exact changed.told fun events fit => fit.exited more
  | refused inside turns => exact (turns.heard (heard.called _)).called _

/-- So do moves. -/
theorem Moves.heard (moves : Moves before after) (heard : Heard first before) :
    Heard first after := by
  induction moves with
  | refl => exact heard
  | tail _ move ih => exact move.heard ih

/-- A wake lock that is not there is not called. -/
theorem called_of_absent {ledger : Ledger} (absent : ledger.hasWakeLock = false)
    (call : Bench.WakeCall) : ledger.called call = ledger :=
  if_neg (ne_true_of_eq_false absent)

/-- Without a wake lock, a turn does not call it. -/
theorem Turn.wakes_of_absent (turn : Turn before after) (absent : before.hasWakeLock = false) :
    after.wakes = before.wakes := by
  cases turn with
  | changed id aside => rfl
  | slept id =>
      unfold Ledger.slept
      split
      · rfl
      · have same : (before.changed id .slept).hasWakeLock = before.hasWakeLock := rfl
        rw [wakes_told, called_of_absent (same.trans absent)]
        rfl
  | failed direction message => exact before.wakes_told _
  | moded mode => exact before.wakes_moded mode
  | joined direction => rfl

theorem Turns.wakes_of_absent (turns : Turns before after) (absent : before.hasWakeLock = false) :
    after.wakes = before.wakes := by
  induction turns with
  | refl => rfl
  | tail _ turn ih => exact (turn.wakes_of_absent ((congrArg Prod.fst ih).trans absent)).trans ih

/-- Without a wake lock, no calls are made to it. -/
theorem Move.wakes_of_absent (move : Move before after) (absent : before.hasWakeLock = false) :
    after.wakes = before.wakes := by
  have acquired : ∀ id, before.acquired id = before := fun _ => called_of_absent absent _
  cases move with
  | turn turn => exact turn.wakes_of_absent absent
  | @roused id between inside asleep turns =>
      rw [acquired] at turns
      exact (between.changed id .roused).wakes_told _ |>.trans (turns.wakes_of_absent absent)
  | @refused id between inside turns =>
      rw [acquired] at turns
      have same := turns.wakes_of_absent absent
      rw [released, called_of_absent ((congrArg Prod.fst same).trans absent)]
      exact same

theorem Moves.wakes_of_absent (moves : Moves before after) (absent : before.hasWakeLock = false) :
    after.wakes = before.wakes := by
  induction moves with
  | refl => rfl
  | tail _ move ih => exact (move.wakes_of_absent ((congrArg Prod.fst ih).trans absent)).trans ih

end Ledger

/-! ## Sessions -/

/-- How many streams of a direction are out of standby. -/
def Machine.awake (machine : Machine) (direction : Direction) : Nat :=
  machine.streams.countP fun stream => stream.direction = direction && stream.isActive

theorem Machine.awake_ledger (machine : Machine) : machine.ledger.awake = machine.awake :=
  funext fun _ => List.countP_map

/-- Audio hardware that was just built has streams of neither direction out of standby. -/
theorem Run.Built.awake {run : Run} (built : run.Built) : run.ledger.awake = fun _ => 0 := by
  obtain ⟨settings, tables, shown⟩ := built.shows_vacant
  have streams : run.machine.streams = [] := List.map_eq_nil_iff.mp (congrArg Machine.streams
    shown.core_eq)
  funext direction
  rw [Run.ledger, Machine.awake_ledger, Machine.awake, streams]
  rfl

/-- Audio hardware that was built holds nothing. -/
theorem Run.Built.held {run : Run} (built : run.Built) : run.ledger.Held [] run.ledger := by
  unfold Ledger.Held
  rw [built.awake]
  exact ⟨rfl, fun _ => ⟨[], (List.append_nil _).symm, Bench.WakeCall.fit_nil⟩⟩

/-- Audio hardware that was built has told nothing. -/
theorem Run.Built.heard {run : Run} (built : run.Built) : run.ledger.Heard run.ledger := by
  obtain ⟨settings, tables, shown⟩ := built.shows_vacant
  have mode : run.machine.hardware.mode = .normal :=
    congrArg (fun machine => machine.hardware.mode) shown.core_eq
  unfold Ledger.Heard
  rw [built.awake, show run.ledger.mode = .normal from mode]
  exact ⟨rfl, fun _ => ⟨[], (List.append_nil _).symm, Event.fit_nil⟩⟩

/-- **Logs.** After every operation of a session, whatever the drivers do, each direction holds the
wake lock as often as its streams are out of standby, no tag was ever given back more often than
taken, and the events account for the streams out of standby and for the mode. -/
theorem Session.logsFit {first last : Run} {operations : List Operation} (built : first.Built)
    (session : Session first operations last) :
    (first.machine.drivers.hasWakeLock = true → ∃ calls,
      last.machine.drivers.wakeCalls = first.machine.drivers.wakeCalls ++ calls ∧
        Bench.WakeCall.Fit calls last.machine.awake) ∧
    (first.machine.drivers.hasListener = true → ∃ events,
      last.machine.drivers.events = first.machine.drivers.events ++ events ∧
        Event.Fit events last.machine.awake last.machine.hardware.mode) := by
  have held := session.moves.held built.held
  have heard := session.moves.heard built.heard
  have awake : last.ledger.awake = last.machine.awake := last.machine.awake_ledger
  unfold Ledger.Held at held
  unfold Ledger.Heard at heard
  rw [awake] at held heard
  exact ⟨held.wakes, heard.tells⟩

/-- A capture stream that was read from while a playback stream played, which could not be opened
again. -/
def Run.displaced : Run :=
  let playing := (Run.stock.next (.openStream .playback ⟨2⟩ {})).next (.write 0 4)
  let ready := playing.next (.openStream .capture ⟨0x40000⟩ {})
  ((Operation.read 1 [0, 0, 0, 0]).perform (ready.under { openScript := [.fails .notReady] })).2

/-- A capture stream displaces the one that plays for a moment. -/
theorem Session.displaced :
    Session Run.stock [.openStream .playback ⟨2⟩ {}, .write 0 4, .openStream .capture ⟨0x40000⟩ {},
      .read 1 [0, 0, 0, 0]] Run.displaced := by
  have opened : Session Run.stock [.openStream .playback ⟨2⟩ {}]
      (Run.stock.next (.openStream .playback ⟨2⟩ {})) :=
    Session.start.next _ (by decide +kernel)
  have playing := opened.next (.write 0 4) (by decide +kernel)
  have ready := playing.next (.openStream .capture ⟨0x40000⟩ {}) (by decide +kernel)
  exact ready.step _ (by decide +kernel)

/-- The playback stream went to standby and gave its wake lock back. -/
theorem Session.logsFit_displaced :
    Run.displaced.machine.drivers.wakeCalls =
        [.acquire "AudioOutLock", .acquire "AudioInLock", .release "AudioOutLock"] ∧
      Bench.WakeCall.Fit Run.displaced.machine.drivers.wakeCalls Run.displaced.machine.awake ∧
      Event.Fit Run.displaced.machine.drivers.events Run.displaced.machine.awake .normal := by
  obtain ⟨wakes, tells⟩ := Session.logsFit Run.built_stock Session.displaced
  obtain ⟨calls, called, fit⟩ := wakes (by decide +kernel)
  obtain ⟨events, told, fits⟩ := tells (by decide +kernel)
  have noCalls : Run.stock.machine.drivers.wakeCalls = [] := by decide +kernel
  have noEvents : Run.stock.machine.drivers.events = [] := by decide +kernel
  have mode : Run.displaced.machine.hardware.mode = .normal := by decide +kernel
  rw [noCalls, List.nil_append] at called
  rw [noEvents, List.nil_append] at told
  refine ⟨by decide +kernel, ?_, ?_⟩
  · rw [called]
    exact fit
  · rw [told, ← mode]
    exact fits

end PhoneAudio
