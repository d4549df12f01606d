import PhoneAudio.Activity
import PhoneAudio.Bench.Pcm
import PhoneAudio.Capture.Pipeline
import PhoneAudio.Device
import PhoneAudio.Text.Record

/-!
# Streams

A playback or capture stream with what its lock guards, the status that anyone may look at, and its
texts in dumps and diagnostics. A stream is in standby until its first transfer.
-/

namespace PhoneAudio

/-- The part of a stream that needs no lock. Every standby raises the generation. -/
structure StreamStatus where
  standby : Bool := true
  generation : UInt32 := 0
  lockWanted : Bool := false
  detached : Bool := false
deriving DecidableEq, Inhabited

namespace StreamStatus

/-- The diagnostic text of the status. -/
def describe (status : StreamStatus) : String :=
  Text.record "StreamFlags"
    [("standby", Text.truth status.standby), ("generation", toString status.generation),
      ("sleep_req", Text.truth status.lockWanted), ("detached", Text.truth status.detached)]

end StreamStatus

/-- A stream of either direction. Only capture streams have filters in their pipeline, and buffers
that they keep from one read to the next: the bytes that the driver fills, and the samples that the
pipeline fills. -/
structure Stream where
  direction : Direction
  format : StreamFormat
  bufferBytes : Nat
  devices : Devices
  status : StreamStatus := {}
  locked : Bool := false
  activity : Activity := .idle
  pcm : Option OpenPcm := none
  pipeline : Pipeline := {}
  raw : List UInt8 := []
  samples : List Int16 := []
deriving DecidableEq, Inhabited

namespace Stream

/-- Whether the stream is out of standby. -/
def isActive (stream : Stream) : Bool :=
  !stream.status.standby

/-- The position of playback, which this hardware does not report. -/
def playedFrames (_ : Stream) : Except AudioError UInt32 :=
  .error (.invalidOperation "render position is not supported")

/-- The gain of capture, which this hardware cannot set. -/
def setGain (_ : Stream) (_ : Float32) : Except AudioError Unit :=
  .error (.invalidOperation "input gain is not supported")

/-- The frames that capture has lost: none, as it waits for the codec. -/
def lostFrames (_ : Stream) : Nat := 0

/-- The stream's kind in diagnostics. -/
def kind (stream : Stream) : String :=
  stream.direction.name ++ "Stream"

/-- The diagnostic text of a stream. -/
def describe (stream : Stream) : String :=
  Text.openRecord stream.kind
    [("params", stream.format.describe), ("buffer_size", toString stream.bufferBytes),
      ("flags", stream.status.describe)]

/-- A flag in a dump. -/
def switchText (flag : Bool) : String :=
  if flag then "ON" else "OFF"

/-- The lines of a dump of the stream, whose lock was taken or not. -/
def dumpLines (stream : Stream) (taken : Bool) : List String :=
  [stream.direction.name ++ " stream:",
    if taken then "\tdevices: " ++ Text.hex stream.devices.bits.toNat
    else "\tstream lock busy (maybe deadlocked)",
    "\tstandby: " ++ switchText stream.status.standby,
    "\tchannels: " ++ toString stream.format.channels,
    "\tsample rate: " ++ toString stream.format.rate,
    "\tbuffer size: " ++ toString stream.bufferBytes,
    "\tdriver op: " ++ stream.activity.name]

/-- Lines as a text in which each line ends. -/
def joinLines (lines : List String) : String :=
  String.join (lines.map (· ++ "\n"))

end Stream

end PhoneAudio
