import PhoneAudio.Handset.Control
import PhoneAudio.Proofs.Capture.Streaming
import PhoneAudio.Proofs.Handset.Ledger
import PhoneAudio.Proofs.Handset.Transfer
import PhoneAudio.Proofs.Machine.Apart

/-!
# Actions that show nothing outside

Driver calls, routing, opening and closing PCMs and moving bytes leave the statuses of the streams,
the mode, and the calls to the wake lock and to the listener.
-/

namespace PhoneAudio

namespace Act

variable {α : Type}

/-- Changing a stream leaves the ledger, as long as it leaves its direction and status. -/
theorem keeps_ledger_changeStream (id : StreamId) {f : Stream → Stream}
    (direction : ∀ stream, (f stream).direction = stream.direction)
    (status : ∀ stream, (f stream).status = stream.status) :
    Keeps Run.ledger (changeStream id f) := by
  have kept : ∀ streams : List Stream, (streams.modify id f).map
      (fun stream => (stream.direction, stream.status)) =
        streams.map fun stream => (stream.direction, stream.status) := by
    intro streams
    apply map_modify_of_unseen
    intro stream
    rw [direction, status]
  intro run
  exact congrArg (fun streams => { run.ledger with streams := streams }) (kept _)

theorem keeps_ledger_setLocked (locked : Bool) (target : Lock) :
    Keeps Run.ledger (setLocked locked target) := by
  cases target with
  | hardware => exact fun _ => rfl
  | stream id => exact keeps_ledger_changeStream id (fun _ => rfl) fun _ => rfl

theorem keeps_ledger_lock (target : Lock) : Keeps Run.ledger (lock target) :=
  fun _ => keeps_ledger_setLocked true target _

theorem keeps_ledger_unlock (target : Lock) : Keeps Run.ledger (unlock target) :=
  fun _ => keeps_ledger_setLocked false target _

theorem keeps_ledger_setActivity (activity : Activity) (component : Component) :
    Keeps Run.ledger (setActivity activity component) := by
  cases component with
  | router => exact fun _ => rfl
  | stream id => exact keeps_ledger_changeStream id (fun _ => rfl) fun _ => rfl

/-- A driver call that calls neither the wake lock nor the listener. -/
theorem keeps_ledger_call (caller : Component) (activity : Activity) (what : Happening)
    {effect : Drivers → α × Drivers} (quiet : ∀ drivers,
      { (effect drivers).2 with mixer := {}, pcm := {} } =
        { drivers with mixer := {}, pcm := {} }) :
    Keeps Run.ledger (call caller activity what effect) := by
  apply (keeps_ledger_setActivity _ _).bind
  intro _
  apply Keeps.bind
  · intro run
    have same := congrArg (fun drivers => Machine.ledger { run.machine with drivers := drivers })
      (quiet run.machine.drivers)
    exact same
  · intro answer
    exact (keeps_ledger_setActivity _ _).bind fun _ => keeps_pure _

/-- Routing leaves the ledger. -/
theorem keeps_ledger_reroute (f : Router → Router × List RouteStep) :
    Keeps Run.ledger (reroute f) := by
  intro run
  have same := congrArg Machine.ledger (still_reroute f run)
  exact same

theorem keeps_ledger_closeLink (direction : Direction) : Keeps Run.ledger (closeLink direction) :=
  fun run => congrArg (fun rest => rest.1.ledger) (keeps_closeLink direction run)

/-- Reading does nothing to a run. -/
theorem keeps_ledger_stream (id : StreamId) : Keeps Run.ledger (stream id) :=
  fun _ => rfl

theorem keeps_ledger_hardware : Keeps Run.ledger hardware :=
  fun _ => rfl

theorem keeps_ledger_machine : Keeps Run.ledger machine :=
  fun _ => rfl

theorem keeps_ledger_closeStreamPcm (id : StreamId) : Keeps Run.ledger (closeStreamPcm id) := by
  apply (keeps_ledger_stream id).bind
  intro stream
  cases stream.pcm with
  | none => exact keeps_pure _
  | some pcm =>
      refine (keeps_ledger_changeStream id ?_ ?_).bind fun _ => ?_
      · exact fun _ => rfl
      · exact fun _ => rfl
      exact keeps_ledger_call _ _ _ fun _ => rfl

/-- Closing a stream for now leaves the ledger. -/
theorem keeps_ledger_closeLocked (id : StreamId) : Keeps Run.ledger (closeLocked id) := by
  apply (keeps_ledger_stream id).bind
  intro stream
  dsimp only
  split
  · exact (keeps_ledger_reroute _).bind fun _ => keeps_ledger_closeStreamPcm id
  · exact keeps_ledger_closeStreamPcm id

theorem keeps_ledger_installPcm (id : StreamId) (pcm : OpenPcm) :
    Keeps Run.ledger (installPcm id pcm) := by
  apply (keeps_ledger_stream id).bind
  intro stream
  refine (keeps_ledger_changeStream id ?_ ?_).bind fun _ => ?_
  · exact fun _ => rfl
  · exact fun _ => rfl
  cases stream.pcm with
  | none => exact keeps_pure _
  | some previous => exact fun _ => rfl

theorem keeps_ledger_routeOpened (id : StreamId) : Keeps Run.ledger (routeOpened id) := by
  apply (keeps_ledger_stream id).bind
  intro stream
  cases stream.direction with
  | playback =>
      apply keeps_ledger_hardware.bind
      intro hardware
      split
      · exact keeps_ledger_reroute _
      · exact keeps_pure _
  | capture =>
      refine (keeps_ledger_changeStream id ?_ ?_).bind fun _ => ?_
      · exact fun _ => rfl
      · exact fun _ => rfl
      exact keeps_ledger_reroute _

/-- Opening a stream leaves the ledger. -/
theorem keeps_ledger_openLocked (id : StreamId) : Keeps Run.ledger (openLocked id) := by
  apply keeps_ledger_machine.bind
  intro machine
  apply (keeps_ledger_stream id).bind
  intro stream
  apply (keeps_ledger_call _ _ _ fun _ => rfl).bind
  intro opened
  cases opened with
  | error error => exact keeps_pure _
  | ok pcm =>
      dsimp only
      split
      · apply (keeps_ledger_installPcm id pcm).bind
        intro _
        exact (keeps_ledger_routeOpened id).bind fun _ => keeps_pure _
      · apply (keeps_ledger_call _ _ _ fun _ => rfl).bind
        intro _
        exact keeps_pure _

theorem keeps_ledger_followDevices (devices : Devices) :
    Keeps Run.ledger (followDevices devices) := by
  apply keeps_ledger_hardware.bind
  intro hardware
  split
  · exact (keeps_ledger_reroute _).bind fun _ => keeps_ledger_reroute _
  · exact keeps_pure _

theorem keeps_ledger_writeOpen (id : StreamId) (bytes : Nat) :
    Keeps Run.ledger (writeOpen id bytes) := by
  apply (keeps_ledger_stream id).bind
  intro stream
  cases stream.pcm with
  | none => exact keeps_pure _
  | some pcm =>
      apply (keeps_ledger_call _ _ _ fun _ => rfl).bind
      intro _
      exact keeps_pure _

/-- What is read from a PCM leaves the ledger. -/
theorem ledger_captured (id : StreamId) (pcm : OpenPcm) (wanted : Nat) (run : Run) :
    (captured id pcm wanted run).2.ledger = run.ledger := by
  have buffers : ∀ raw, Keeps Run.ledger (keepRaw id raw) :=
    fun raw => keeps_ledger_changeStream id (fun _ => rfl) fun _ => rfl
  have reads : Keeps Run.ledger (call (.stream id) .readingPcm (.readPcm id (wanted * 2))
      (onPcm (·.read pcm (wanted * 2)))) :=
    keeps_ledger_call _ _ _ fun _ => rfl
  exact captured_keeps (·.ledger = run.ledger) (fun raw between same => (buffers raw between).trans
    same) (fun between same => (reads between).trans same) rfl

theorem keeps_ledger_readOpen (id : StreamId) (frames : Nat) :
    Keeps Run.ledger (readOpen id frames) := by
  apply (keeps_ledger_stream id).bind
  intro stream
  cases stream.pcm with
  | none => exact keeps_pure _
  | some pcm =>
      apply Keeps.bind
      · intro run
        have pulled : ∀ wanted (other : Run), other.ledger = run.ledger →
            (captured id pcm wanted other).2.ledger = run.ledger :=
          fun wanted other same => (ledger_captured id pcm wanted other).trans same
        have stays : ∀ wanted (paired : Pipeline × Run), paired.2.ledger = run.ledger →
            (Pipeline.through (captured id pcm) wanted paired).2.2.ledger = run.ledger :=
          fun wanted paired same => Pipeline.through_keeps pulled wanted paired.1 same
        exact collect_keeps stays stream.format.channels.toNat frames frames _
          (stream.pipeline, run) rfl
      · intro answer
        refine (keeps_ledger_changeStream id ?_ ?_).bind fun _ => keeps_pure _
        · exact fun _ => rfl
        · exact fun _ => rfl

theorem keeps_ledger_unlockTaken (taken : Option (Takeover.Taken StreamId Unit)) :
    Keeps Run.ledger (unlockTaken taken) := by
  cases taken with
  | none => exact keeps_pure _
  | some taken => exact keeps_ledger_unlock _

theorem keeps_ledger_enterCall : Keeps Run.ledger enterCall := by
  apply (keeps_ledger_reroute _).bind
  intro _
  apply (keeps_ledger_reroute _).bind
  intro _
  apply keeps_ledger_hardware.bind
  intro hardware
  apply (keeps_ledger_reroute _).bind
  intro _
  exact (keeps_ledger_reroute _).bind fun _ => keeps_ledger_reroute _

theorem keeps_ledger_leaveCall : Keeps Run.ledger leaveCall := by
  apply (keeps_ledger_reroute _).bind
  intro _
  apply (keeps_ledger_reroute _).bind
  intro _
  apply (keeps_ledger_reroute _).bind
  intro _
  exact (keeps_ledger_reroute _).bind fun _ => keeps_ledger_reroute _

end Act

end PhoneAudio
