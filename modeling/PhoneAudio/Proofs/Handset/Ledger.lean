import Mathlib.Logic.Relation
import PhoneAudio.Proofs.Machine.Core

/-!
# Statuses and logs

What operations show outside: the statuses of the streams, the mode, and the calls to the wake lock
and to the listener (`PhoneAudio.Ledger`). All that they do to it is made of a few moves. Most of
them leave every stream in standby that is (`PhoneAudio.Ledger.Turn`); a stream is roused after the
wake lock was taken for it (`PhoneAudio.Ledger.Move`).
-/

namespace PhoneAudio

/-- A change to the part of a stream that needs no lock. -/
inductive StatusChange
  /-- Somebody asks for the stream's lock. -/
  | asked
  /-- Somebody who asked for the lock has it. -/
  | granted
  /-- The stream is closed. -/
  | detached
  /-- The stream leaves standby. -/
  | roused
  /-- The stream is put to standby, whether it was in standby before or not. -/
  | slept
deriving DecidableEq

namespace StatusChange

/-- The status after a change. -/
def apply : StatusChange → StreamStatus → StreamStatus
  | asked, status => { status with lockWanted := true }
  | granted, status => { status with lockWanted := false }
  | detached, status => { status with detached := true }
  | roused, status => { status with standby := false }
  | slept, status => { status with standby := true, generation := status.generation + 1 }

/-- The status after changes one after the other. -/
def applyAll (changes : List StatusChange) (status : StreamStatus) : StreamStatus :=
  changes.foldl (fun status change => change.apply status) status

/-- Whether a change has nothing to do with standby. -/
def isAside : StatusChange → Bool
  | asked | granted | detached => true
  | roused | slept => false

/-- A change aside leaves a stream in standby or out of it. -/
theorem standby_of_isAside {change : StatusChange} (aside : change.isAside = true)
    (status : StreamStatus) : (change.apply status).standby = status.standby := by
  cases change with
  | asked => rfl
  | granted => rfl
  | detached => rfl
  | roused => cases aside
  | slept => cases aside

/-- Changes are applied one after the other. -/
theorem applyAll_append (changes more : List StatusChange) (status : StreamStatus) :
    applyAll (changes ++ more) status = applyAll more (applyAll changes status) :=
  List.foldl_append

/-- Only rousing takes a stream out of standby. -/
theorem standby_applyAll {changes : List StatusChange} {status : StreamStatus}
    (never : .roused ∉ changes) (asleep : status.standby = true) :
    (applyAll changes status).standby = true := by
  induction changes generalizing status with
  | nil => exact asleep
  | cons change rest ih =>
      apply ih (fun later => never (List.mem_cons_of_mem _ later))
      cases change with
      | asked => exact asleep
      | granted => exact asleep
      | detached => exact asleep
      | roused => exact absurd (List.mem_cons_self ..) never
      | slept => rfl

end StatusChange

/-- What operations show outside. -/
structure Ledger where
  streams : List (Direction × StreamStatus)
  mode : PhoneMode
  hasWakeLock : Bool
  wakeCalls : List Bench.WakeCall
  hasListener : Bool
  events : List Event

/-- The ledger of a state. -/
def Machine.ledger (machine : Machine) : Ledger where
  streams := machine.streams.map fun stream => (stream.direction, stream.status)
  mode := machine.hardware.mode
  hasWakeLock := machine.drivers.hasWakeLock
  wakeCalls := machine.drivers.wakeCalls
  hasListener := machine.drivers.hasListener
  events := machine.drivers.events

/-- The ledger of a run. -/
def Run.ledger (run : Run) : Ledger :=
  run.machine.ledger

namespace Ledger

/-- A stream's direction and status. -/
def stream (ledger : Ledger) (id : StreamId) : Direction × StreamStatus :=
  ledger.streams.getD id default

/-- The ledger with another status of a stream. -/
def restated (ledger : Ledger) (id : StreamId) (f : StreamStatus → StreamStatus) : Ledger :=
  { ledger with streams := ledger.streams.modify id fun entry => (entry.1, f entry.2) }

/-- The ledger with a stream's status changed. -/
def changed (ledger : Ledger) (id : StreamId) (change : StatusChange) : Ledger :=
  ledger.restated id change.apply

/-- The ledger after a call to the wake lock, if there is one. -/
def called (ledger : Ledger) (call : Bench.WakeCall) : Ledger :=
  if ledger.hasWakeLock then { ledger with wakeCalls := ledger.wakeCalls ++ [call] } else ledger

/-- The ledger after an event, which the listener is told if there is one. -/
def told (ledger : Ledger) (event : Event) : Ledger :=
  if ledger.hasListener then { ledger with events := ledger.events ++ [event] } else ledger

/-- The ledger after the wake lock is taken for a stream. -/
def acquired (ledger : Ledger) (id : StreamId) : Ledger :=
  ledger.called (.acquire (ledger.stream id).1.wakeTag)

/-- The ledger after the wake lock of a stream is given back. -/
def released (ledger : Ledger) (id : StreamId) : Ledger :=
  ledger.called (.release (ledger.stream id).1.wakeTag)

/-- The ledger after a stream is put to standby. -/
def slept (ledger : Ledger) (id : StreamId) : Ledger :=
  if (ledger.stream id).2.standby then ledger.changed id .slept
  else
    ((ledger.changed id .slept).called (.release (ledger.stream id).1.wakeTag)).told
      (.standbyEntered (ledger.stream id).1)

/-- The ledger after a stream has left standby. -/
def roused (ledger : Ledger) (id : StreamId) : Ledger :=
  (ledger.changed id .roused).told (.standbyExited (ledger.stream id).1)

/-- The ledger after the mode is set. -/
def moded (ledger : Ledger) (mode : PhoneMode) : Ledger :=
  if ledger.mode = mode then ledger
  else { ledger with mode := mode }.told (.modeChanged ledger.mode mode)

/-- The ledger after a stream is opened. -/
def joined (ledger : Ledger) (direction : Direction) : Ledger :=
  { ledger with streams := ledger.streams ++ [(direction, {})] }

/-- A move that takes no stream out of standby. -/
inductive Turn (ledger : Ledger) : Ledger → Prop
  | changed (id : StreamId) {change : StatusChange} (aside : change.isAside = true) :
      Turn ledger (ledger.changed id change)
  | slept (id : StreamId) : Turn ledger (ledger.slept id)
  | failed (direction : Direction) (message : String) :
      Turn ledger (ledger.told (.transferFailed direction message))
  | moded (mode : PhoneMode) : Turn ledger (ledger.moded mode)
  | joined (direction : Direction) : Turn ledger (ledger.joined direction)

/-- Moves that take no stream out of standby. -/
abbrev Turns : Ledger → Ledger → Prop :=
  Relation.ReflTransGen Turn

/-- A move. Rousing a stream from standby begins with taking the wake lock; other streams may be put
to standby meanwhile. It ends with the stream out of standby, or with giving the wake lock back. -/
inductive Move (ledger : Ledger) : Ledger → Prop
  | turn {after : Ledger} (turn : Turn ledger after) : Move ledger after
  | roused {id : StreamId} {between : Ledger} (inside : id < ledger.streams.length)
      (asleep : (ledger.stream id).2.standby = true)
      (turns : Turns (ledger.acquired id) between) : Move ledger (between.roused id)
  | refused {id : StreamId} {between : Ledger} (inside : id < ledger.streams.length)
      (turns : Turns (ledger.acquired id) between) : Move ledger (between.released id)

/-- Moves one after the other. -/
abbrev Moves : Ledger → Ledger → Prop :=
  Relation.ReflTransGen Move

/-- Turns are moves. -/
theorem Turns.moves {before after : Ledger} (turns : Turns before after) : Moves before after :=
  Relation.ReflTransGen.mono (fun _ _ => Move.turn) _ _ turns

theorem streams_told (ledger : Ledger) (event : Event) :
    (ledger.told event).streams = ledger.streams := by
  unfold told
  split <;> rfl

theorem streams_called (ledger : Ledger) (call : Bench.WakeCall) :
    (ledger.called call).streams = ledger.streams := by
  unfold called
  split <;> rfl

/-- Putting a stream to standby changes its status alone. -/
theorem streams_slept (ledger : Ledger) (id : StreamId) :
    (ledger.slept id).streams = (ledger.changed id .slept).streams := by
  unfold slept
  split
  · rfl
  · rw [streams_told, streams_called]

theorem streams_roused (ledger : Ledger) (id : StreamId) :
    (ledger.roused id).streams = (ledger.changed id .roused).streams :=
  streams_told _ _

theorem streams_moded (ledger : Ledger) (mode : PhoneMode) :
    (ledger.moded mode).streams = ledger.streams := by
  unfold moded
  split
  · rfl
  · exact streams_told _ _

/-- How a stream comes from one ledger to another: it keeps its direction, and its status goes
through changes. -/
structure Trail (before : Ledger) (id : StreamId) (changes : List StatusChange) (after : Ledger) :
    Prop where
  inside : id < after.streams.length
  direction : (after.stream id).1 = (before.stream id).1
  status : (after.stream id).2 = StatusChange.applyAll changes (before.stream id).2

variable {before middle after : Ledger} {id : StreamId}

theorem Trail.of_eq {changes : List StatusChange} (trail : Trail before id changes middle)
    (same : after.streams = middle.streams) : Trail before id changes after := by
  have kept : after.stream id = middle.stream id := congrArg (List.getD · id default) same
  exact ⟨same ▸ trail.inside, (congrArg Prod.fst kept).trans trail.direction,
    (congrArg Prod.snd kept).trans trail.status⟩

/-- Without a change, the trail is empty. -/
theorem Trail.of_streams (inside : id < before.streams.length)
    (same : after.streams = before.streams) : Trail before id [] after :=
  Trail.of_eq ⟨inside, rfl, rfl⟩ same

/-- Trails one after the other. -/
theorem Trail.trans {changes more : List StatusChange} (first : Trail before id changes middle)
    (rest : Trail middle id more after) : Trail before id (changes ++ more) after := by
  refine ⟨rest.inside, rest.direction.trans first.direction, ?_⟩
  rw [rest.status, first.status, StatusChange.applyAll_append]

theorem stream_called (ledger : Ledger) (call : Bench.WakeCall) (id : StreamId) :
    (ledger.called call).stream id = ledger.stream id :=
  congrArg (List.getD · id default) (ledger.streams_called call)

/-- Restating a status twice is restating it once. -/
theorem restated_restated (ledger : Ledger) (id : StreamId) (f g : StreamStatus → StreamStatus) :
    (ledger.restated id f).restated id g = ledger.restated id (g ∘ f) := by
  unfold restated
  rw [List.modify_modify_eq]
  rfl

theorem restated_congr (ledger : Ledger) {f g : StreamStatus → StreamStatus}
    (same : f (ledger.stream id).2 = g (ledger.stream id).2) :
    ledger.restated id f = ledger.restated id g := by
  unfold restated
  by_cases inside : id < ledger.streams.length
  · have here : ledger.stream id = ledger.streams[id] := List.getD_eq_getElem _ _ inside
    rw [List.modify_eq_take_cons_drop inside, List.modify_eq_take_cons_drop inside, ← here, same]
  · rw [List.modify_eq_self (Nat.le_of_not_lt inside),
      List.modify_eq_self (Nat.le_of_not_lt inside)]

/-- Another status keeps of all streams what it keeps of every stream. -/
theorem view_restated {β : Type} (view : Direction × StreamStatus → β) (ledger : Ledger)
    (id other : StreamId) {f : StreamStatus → StreamStatus}
    (kept : ∀ entry : Direction × StreamStatus, view (entry.1, f entry.2) = view entry) :
    view ((ledger.restated id f).stream other) = view (ledger.stream other) := by
  calc view ((ledger.restated id f).stream other)
      = ((ledger.restated id f).streams.map view).getD other (view default) :=
        (List.getD_map _ _ view).symm
    _ = (ledger.streams.map view).getD other (view default) :=
        congrArg (List.getD · other (view default)) (map_modify_of_unseen kept _ id)
    _ = view (ledger.stream other) := List.getD_map _ _ view

/-- A stream that is changed is what it was changed to. -/
theorem stream_changed_self (ledger : Ledger) (change : StatusChange)
    (inside : id < ledger.streams.length) : (ledger.changed id change).stream id =
      ((ledger.stream id).1, change.apply (ledger.stream id).2) := by
  unfold changed restated stream
  rw [List.getD_eq_getElem?_getD, List.getElem?_modify_eq, List.getD_eq_getElem?_getD,
    List.getElem?_eq_getElem inside]
  rfl

/-- The other streams are left. -/
theorem stream_changed_of_ne (ledger : Ledger) (change : StatusChange) {other : StreamId}
    (different : id ≠ other) : (ledger.changed id change).stream other = ledger.stream other := by
  unfold changed restated stream
  rw [List.getD_eq_getElem?_getD, List.getElem?_modify_ne _ _ different,
    ← List.getD_eq_getElem?_getD]

/-- A change to some stream is on the trail of that stream. -/
theorem trail_changed (ledger : Ledger) (change : StatusChange) {other : StreamId}
    (inside : other < ledger.streams.length) :
    Trail ledger other (if id = other then [change] else []) (ledger.changed id change) := by
  have within : other < (ledger.changed id change).streams.length :=
    Nat.lt_of_lt_of_eq inside (List.length_modify ..).symm
  by_cases same : id = other
  · subst same
    have here := ledger.stream_changed_self change inside
    rw [if_pos rfl]
    refine ⟨within, ?_, ?_⟩
    · rw [here]
    · rw [here]
      rfl
  · have kept := ledger.stream_changed_of_ne change same
    rw [if_neg same]
    exact ⟨within, congrArg Prod.fst kept, congrArg Prod.snd kept⟩

/-- A turn rouses no stream. -/
theorem Turn.trail (turn : Turn before after) (inside : id < before.streams.length) :
    ∃ changes, .roused ∉ changes ∧ Trail before id changes after := by
  cases turn with
  | changed other aside =>
      refine ⟨_, ?_, before.trail_changed _ inside⟩
      intro member
      split at member
      · obtain rfl := List.mem_singleton.mp member
        cases aside
      · cases member
  | slept other =>
      refine ⟨_, ?_, (before.trail_changed .slept inside).of_eq (before.streams_slept other)⟩
      intro member
      split at member
      · cases List.mem_singleton.mp member
      · cases member
  | failed direction message =>
      exact ⟨[], List.not_mem_nil, .of_streams inside (before.streams_told _)⟩
  | moded mode => exact ⟨[], List.not_mem_nil, .of_streams inside (before.streams_moded mode)⟩
  | joined direction =>
      have kept : (before.joined direction).stream id = before.stream id :=
        List.getD_append _ _ _ _ inside
      have within : id < (before.joined direction).streams.length := by
        apply Nat.lt_of_lt_of_le inside
        exact List.length_append ▸ Nat.le_add_right ..
      exact ⟨[], List.not_mem_nil, within, congrArg Prod.fst kept, congrArg Prod.snd kept⟩

/-- Turns rouse no stream. -/
theorem Turns.trail (turns : Turns before after) (inside : id < before.streams.length) :
    ∃ changes, .roused ∉ changes ∧ Trail before id changes after := by
  induction turns with
  | refl => exact ⟨[], List.not_mem_nil, .of_streams inside rfl⟩
  | tail _ turn ih =>
      obtain ⟨changes, never, trail⟩ := ih
      obtain ⟨more, neither, next⟩ := turn.trail trail.inside
      refine ⟨changes ++ more, ?_, trail.trans next⟩
      exact fun member => (List.mem_append.mp member).elim never neither

/-- **Trails.** Whatever operations do, a stream keeps its direction, and its status goes through
changes. -/
theorem Moves.trail (moves : Moves before after) (inside : id < before.streams.length) :
    ∃ changes, Trail before id changes after := by
  induction moves with
  | refl => exact ⟨[], .of_streams inside rfl⟩
  | @tail between last _ move ih =>
      obtain ⟨changes, trail⟩ := ih
      have acquired : ∀ other, Trail between id [] (between.acquired other) := fun _ =>
        .of_streams trail.inside (between.streams_called _)
      cases move with
      | turn turn =>
          obtain ⟨more, -, next⟩ := turn.trail trail.inside
          exact ⟨_, trail.trans next⟩
      | @roused other ready inside asleep turns =>
          obtain ⟨more, -, next⟩ := turns.trail (acquired other).inside
          have ended := (ready.trail_changed .roused next.inside).of_eq (ready.streams_roused other)
          exact ⟨_, ((trail.trans (acquired other)).trans next).trans ended⟩
      | @refused other ready inside turns =>
          obtain ⟨more, -, next⟩ := turns.trail (acquired other).inside
          exact ⟨_, ((trail.trans (acquired other)).trans next).of_eq (ready.streams_called _)⟩

end Ledger

/-- The ledger lists streams by direction and status. -/
theorem Run.ledger_stream (run : Run) (id : StreamId) : run.ledger.stream id =
    ((run.machine.stream id).direction, (run.machine.stream id).status) :=
  List.getD_map run.machine.streams default _

end PhoneAudio
