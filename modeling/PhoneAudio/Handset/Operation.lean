import PhoneAudio.Handset.Control
import PhoneAudio.Handset.Lifecycle
import PhoneAudio.Handset.Parameters
import PhoneAudio.Handset.Queries
import PhoneAudio.Handset.Transfer

/-!
# Operations

All that can be done with the audio hardware and its streams once it is built, and what each
operation answers. A run of operations one after the other is a list of them.
-/

namespace PhoneAudio

/-- An operation on the audio hardware or on a stream. -/
inductive Operation
  | openStream (direction : Direction) (devices : Devices) (request : FormatRequest)
  | close (id : StreamId)
  | standby (id : StreamId)
  | applyParameters (id : StreamId) (text : String)
  | answerKeys (id : StreamId) (keys : String)
  | write (id : StreamId) (bytes : Nat)
  | read (id : StreamId) (buffer : List UInt8)
  | setMode (mode : PhoneMode)
  | setMuted (muted : Bool)
  | setCallVolume (volume : Float32)
  | setMediaVolume (volume : Float32)
  | setCallDevices (devices : Devices)
  | ask (query : Query)
  | dropHardware

/-- What an operation answers. -/
inductive Answer
  | done
  | opened (id : StreamId)
  | count (bytes : Nat)
  | filled (bytes : Nat) (buffer : List UInt8)
  | text (text : String)
  | found (finding : Finding)
  | failed (error : AudioError)
deriving DecidableEq, Inhabited

namespace Answer

/-- The answer for an outcome without a value. -/
def ofOutcome : Except AudioError Unit → Answer
  | .ok () => done
  | .error error => failed error

end Answer

namespace Operation

/-- Performs an operation. -/
def perform : Operation → Act Answer
  | openStream direction devices request => do
    match ← Act.openStream direction devices request with
    | .ok id => return .opened id
    | .error error => return .failed error
  | close id => return .ofOutcome (← Act.close id)
  | standby id => return .ofOutcome (← Act.standby id)
  | applyParameters id text => return .ofOutcome (← Act.applyParameters id text)
  | answerKeys id keys => return .text (← Act.answerKeys id keys)
  | write id bytes => do
    match ← Act.write id bytes with
    | .ok count => return .count count
    | .error error => return .failed error
  | read id buffer => do
    match ← Act.read id buffer with
    | (.ok count, buffer) => return .filled count buffer
    | (.error error, _) => return .failed error
  | setMode mode => return .ofOutcome (← Act.setMode mode)
  | setMuted muted => return .ofOutcome (← Act.setMuted muted)
  | setCallVolume volume => return .ofOutcome (← Act.setCallVolume volume)
  | setMediaVolume volume => return .ofOutcome (← Act.setMediaVolume volume)
  | setCallDevices devices => return .ofOutcome (← Act.setCallDevices devices)
  | ask query => return .found (← Act.find query)
  | dropHardware => do
    Act.dropHardware
    return .done

/-- Performs an operation while others act during its waits for playback streams and for capture
streams. -/
def performAmid (onOutput onInput : List (Act Unit)) : Operation → Act Answer
  | write id bytes => do
    match ← Act.writeAmid onInput id bytes with
    | .ok count => return .count count
    | .error error => return .failed error
  | read id buffer => do
    match ← Act.readAmid onOutput id buffer with
    | (.ok count, buffer) => return .filled count buffer
    | (.error error, _) => return .failed error
  | setMode mode => return .ofOutcome (← Act.setModeAmid onOutput onInput mode)
  | operation => operation.perform

/-- Performs operations one after the other. -/
def performAll : List Operation → Act Unit
  | [] => return ()
  | operation :: rest => do
    let _ ← operation.perform
    performAll rest

end Operation

end PhoneAudio
