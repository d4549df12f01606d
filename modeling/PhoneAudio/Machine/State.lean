import PhoneAudio.Bench.Mixer
import PhoneAudio.Bench.WakeLock
import PhoneAudio.CaptureRate
import PhoneAudio.Event
import PhoneAudio.Machine.Stream
import PhoneAudio.Routing.Router
import PhoneAudio.Word

/-!
# The state of the machine

Everything that the operations work on: the audio hardware with its router and Bluetooth links, all
streams that were ever opened, and the drivers underneath. Streams are named by their place in the
order of opening.
-/

namespace PhoneAudio

/-- A stream, by its place in the order of opening. -/
abbrev StreamId := Nat

/-- One end of the Bluetooth links: how many endpoints hold it, and its PCM while it is open. -/
structure LinkEnd where
  holds : UInt32 := 0
  pcm : Option OpenPcm := none
deriving DecidableEq, Inhabited

/-- The Bluetooth links, one for each direction. -/
structure Links where
  capture : LinkEnd := {}
  playback : LinkEnd := {}
deriving DecidableEq, Inhabited

namespace Links

/-- The link of a direction. -/
def get (links : Links) : Direction → LinkEnd
  | .capture => links.capture
  | .playback => links.playback

/-- Replaces the link of a direction. -/
def set (links : Links) (direction : Direction) (link : LinkEnd) : Links :=
  match direction with
  | .capture => { links with capture := link }
  | .playback => { links with playback := link }

/-- The diagnostic text of the links. -/
def describe (links : Links) : String :=
  Text.record "ScoLink"
    [("input_refs", toString links.capture.holds),
      ("input_open", Text.truth links.capture.pcm.isSome),
      ("output_refs", toString links.playback.holds),
      ("output_open", Text.truth links.playback.pcm.isSome)]

end Links

/-- The audio hardware, guarded by its lock. It has no router when the mixer could not be opened. -/
structure Hardware where
  present : Bool := false
  locked : Bool := false
  router : Option Router := none
  links : Links := {}
  activity : Activity := .idle
  output : Option StreamId := none
  inputs : List StreamId := []
  mode : PhoneMode := .normal
  muted : Bool := false
  inCall : Bool := false
  callVolume : Float32 := 0
deriving Inhabited

/-- The drivers. Without a wake lock or a listener, calls to them go nowhere. -/
structure Drivers where
  mixer : Bench.Mixer := {}
  pcm : Bench.Pcm := {}
  hasWakeLock : Bool := true
  wakeCalls : List Bench.WakeCall := []
  hasListener : Bool := true
  events : List Event := []
deriving DecidableEq, Inhabited

/-- The whole state. -/
structure Machine where
  settings : Settings := {}
  hardware : Hardware := {}
  streams : List Stream := []
  drivers : Drivers := {}
deriving Inhabited

namespace Machine

/-- A stream by its name. -/
def stream (machine : Machine) (id : StreamId) : Stream :=
  machine.streams.getD id default

/-- The stream that is open for playback, if it is out of standby. -/
def activePlayback (machine : Machine) : Option StreamId :=
  machine.hardware.output.filter fun id => (machine.stream id).isActive

/-- The first of the streams open for capture that is out of standby. -/
def activeCapture (machine : Machine) : Option StreamId :=
  machine.hardware.inputs.find? fun id => (machine.stream id).isActive

/-- The active stream of a direction. -/
def active (machine : Machine) : Direction → Option StreamId
  | .playback => machine.activePlayback
  | .capture => machine.activeCapture

/-- Whether a stream is open, that is, still part of the audio hardware. -/
def isOpen (machine : Machine) (id : StreamId) : Bool :=
  machine.hardware.output = some id || machine.hardware.inputs.contains id

/-- The endpoints stored for a lane. -/
def route (machine : Machine) (lane : Lane) : EndpointSet :=
  machine.hardware.router.elim .none fun router => router.routes.get lane

/-- Whether a lane is off. -/
def isOff (machine : Machine) (lane : Lane) : Bool :=
  machine.hardware.router.elim false fun router => router.disabled.get lane

/-- The size of the capture buffer in a format, or zero when nothing captures in it. -/
def captureBufferBytes (machine : Machine) (format : StreamFormat) : Nat :=
  CaptureRate.bufferBytes machine.settings.capturePeriod format

/-- The diagnostic text of the audio hardware. -/
def describe (machine : Machine) : String :=
  Text.openRecord "AudioHardware" [("init_ok", Text.truth machine.hardware.router.isSome)]

end Machine

end PhoneAudio
