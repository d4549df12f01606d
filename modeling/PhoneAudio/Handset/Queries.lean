import PhoneAudio.Machine.Run

/-!
# Queries

Questions about the present state that take locks. Most wait for the lock that they need. The dumps
are there for diagnosis and wait for none: they try to take the locks, and go on without those that
they do not get.
-/

namespace PhoneAudio

/-- A question about the audio hardware or about a stream. -/
inductive Query
  | mode
  | inCall
  | muted
  | route (lane : Lane)
  | isOff (lane : Lane)
  | devices (id : StreamId)
  | dump
  | dumpStream (id : StreamId)
deriving DecidableEq, Inhabited

/-- What is found. -/
inductive Finding
  | mode (mode : PhoneMode)
  | flag (isSet : Bool)
  | endpoints (endpoints : EndpointSet)
  | devices (devices : Devices)
  | text (text : String)
deriving DecidableEq, Inhabited

/-- Whether a lock is held. -/
def Machine.isLocked (machine : Machine) : Lock → Bool
  | .hardware => machine.hardware.locked
  | .stream id => (machine.stream id).locked

namespace Act

/-- Takes a lock if it is free. -/
def tryLock (target : Lock) : Act Bool := do
  let free := !(← machine).isLocked target
  note (.tryLock target free)
  if free then setLocked true target
  return free

/-- The lines of a dump of a stream. Its lock is given back at once if it was free. -/
def dumpStream (id : StreamId) : Act (List String) := do
  let taken ← tryLock (.stream id)
  let stream ← stream id
  if taken then unlock (.stream id)
  return stream.dumpLines taken

/-- The lines of a dump of the playback stream, if one is open. -/
def dumpOutput : Option StreamId → Act (List String)
  | none => return ["No output stream"]
  | some id => dumpStream id

/-- The lines of dumps of capture streams, numbered in the order in which they are open. -/
def dumpInputs : Nat → List StreamId → Act (List String)
  | _, [] => return []
  | index, id :: rest => do
    let lines ← dumpStream id
    let others ← dumpInputs (index + 1) rest
    return s!"- input {index}:" :: lines ++ others

/-- The lines of a dump of the audio hardware whose lock is held. -/
def dumpLocked : Act (List String) := do
  let hardware ← hardware
  let output ← dumpOutput hardware.output
  let inputs ← dumpInputs 0 hardware.inputs
  return ["\tMic Mute " ++ Stream.switchText hardware.muted,
    "\tIn Call Audio Mode " ++ Stream.switchText hardware.inCall] ++ output ++
      s!"{hardware.inputs.length} inputs opened" :: inputs

/-- Tries to take the lock of the audio hardware so many times. -/
def tryHardware : Nat → Act Bool
  | 0 => return false
  | attempts + 1 => do
    if ← tryLock .hardware then return true
    else tryHardware attempts

/-- The lines of a dump of the audio hardware. It tries to take the lock as often as the settings
say, and reports a possible deadlock when it does not get it. -/
def dump : Act (List String) := do
  let taken ← tryHardware (← machine).settings.dumpAttempts.toNat
  let hardware ← hardware
  let head := ["Audio hardware:",
    "\tInit " ++ (if hardware.router.isSome then "OK" else "Failed"),
    "\tdriver op: " ++ hardware.activity.name]
  if taken then
    let lines ← dumpLocked
    unlock .hardware
    return head ++ lines
  else return head ++ ["\tAudioHardware maybe deadlocked"]

/-- Reads something of the state under the lock of the audio hardware. -/
def readLocked {α : Type} (read : Machine → α) : Act α :=
  withHardware do return read (← machine)

/-- Finds the answer to a question. -/
def find : Query → Act Finding
  | .mode => return .mode (← readLocked (·.hardware.mode))
  | .inCall => return .flag (← readLocked (·.hardware.inCall))
  | .muted => return .flag (← readLocked (·.hardware.muted))
  | .route lane => return .endpoints (← readLocked (·.route lane))
  | .isOff lane => return .flag (← readLocked (·.isOff lane))
  | .devices id => do
    lock (.stream id)
    let stream ← stream id
    unlock (.stream id)
    return .devices stream.devices
  | .dump => return .text (Stream.joinLines (← dump))
  | .dumpStream id => return .text (Stream.joinLines (← dumpStream id))

end Act

end PhoneAudio
