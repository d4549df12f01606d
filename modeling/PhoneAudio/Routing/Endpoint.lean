import PhoneAudio.Text.Flags

/-!
# Endpoints and lanes

The physical transducers and paths of the codec, sets of them, and the four lanes that are routed
apart from each other: capture, playback, and the uplink and the downlink of a call.
-/

namespace PhoneAudio

/-- A transducer or a path on the codec. -/
inductive Endpoint
  | mainMic
  | backMic
  | headsetMic
  | headphone
  | phoneIn
  | phoneOut
  | bluetoothMic
  | bluetooth
  | earpiece
  | speaker
  | amp
deriving DecidableEq, Inhabited

/-- A set of endpoints as a bit mask. Bits without an endpoint are kept. -/
structure EndpointSet where
  bits : UInt32
deriving DecidableEq, Inhabited

namespace Endpoint

/-- All endpoints in the order of their bits. -/
def all : List Endpoint :=
  [mainMic, backMic, headsetMic, headphone, phoneIn, phoneOut, bluetoothMic, bluetooth, earpiece,
    speaker, amp]

/-- The endpoint's bit in a set. -/
def bit : Endpoint → UInt32
  | mainMic => 0x002
  | backMic => 0x004
  | headsetMic => 0x008
  | headphone => 0x010
  | phoneIn => 0x020
  | phoneOut => 0x040
  | bluetoothMic => 0x080
  | bluetooth => 0x100
  | earpiece => 0x200
  | speaker => 0x400
  | amp => 0x800

/-- The endpoint's name in diagnostics. -/
def name : Endpoint → String
  | mainMic => "MIC_MAIN"
  | backMic => "MIC_SUB"
  | headsetMic => "MIC_HEADSET"
  | headphone => "HEADPHONE"
  | phoneIn => "PHONE_IN"
  | phoneOut => "PHONE_OUT"
  | bluetoothMic => "MIC_BLUETOOTH"
  | bluetooth => "BLUETOOTH"
  | earpiece => "EARPIECE"
  | speaker => "SPEAKER"
  | amp => "AMP"

end Endpoint

namespace EndpointSet

/-- The set without endpoints. -/
def none : EndpointSet := ⟨0⟩

/-- The set of the listed endpoints. -/
def ofList (endpoints : List Endpoint) : EndpointSet :=
  ⟨endpoints.foldl (fun bits endpoint => bits ||| endpoint.bit) 0⟩

/-- Whether an endpoint is in the set. -/
def has (set : EndpointSet) (endpoint : Endpoint) : Bool :=
  set.bits &&& endpoint.bit == endpoint.bit

/-- The endpoints in the set. -/
def toList (set : EndpointSet) : List Endpoint :=
  Endpoint.all.filter set.has

/-- Whether the set has no bit at all. -/
def isEmpty (set : EndpointSet) : Bool :=
  set.bits == 0

/-- Whether two sets share a bit. -/
def meets (a b : EndpointSet) : Bool :=
  a.bits &&& b.bits != 0

/-- The diagnostic text of a set. -/
def describe (set : EndpointSet) : String :=
  let names := Endpoint.all.map fun endpoint => (endpoint.bit, endpoint.name)
  Text.flags "EndpointMask" names set.bits

end EndpointSet

/-- One of the four lanes that are routed independently. -/
inductive Lane
  /-- From a microphone into the platform. -/
  | capture
  /-- From the platform to where it can be heard. -/
  | playback
  /-- From a microphone to the other side of a call. -/
  | uplink
  /-- From the other side of a call to where it can be heard. -/
  | downlink
deriving DecidableEq, Inhabited

namespace Lane

/-- All lanes in the order of the tables. -/
def all : List Lane :=
  [capture, playback, uplink, downlink]

/-- The lane's place in the order of the tables. -/
def index : Lane → Nat
  | capture => 0
  | playback => 1
  | uplink => 2
  | downlink => 3

/-- Whether the lane drives something one can hear. -/
def isAudible : Lane → Bool
  | playback => true
  | downlink => true
  | capture => false
  | uplink => false

end Lane

/-- One value for each lane. -/
structure ByLane (α : Type) where
  capture : α
  playback : α
  uplink : α
  downlink : α
deriving DecidableEq, Inhabited

namespace ByLane

variable {α : Type}

/-- The same value for every lane. -/
def fill (a : α) : ByLane α :=
  ⟨a, a, a, a⟩

/-- The value of a lane. -/
def get (values : ByLane α) : Lane → α
  | .capture => values.capture
  | .playback => values.playback
  | .uplink => values.uplink
  | .downlink => values.downlink

/-- Replaces the value of a lane. -/
def set (values : ByLane α) (lane : Lane) (a : α) : ByLane α :=
  match lane with
  | .capture => { values with capture := a }
  | .playback => { values with playback := a }
  | .uplink => { values with uplink := a }
  | .downlink => { values with downlink := a }

/-- The values in the order of the tables. -/
def toList (values : ByLane α) : List α :=
  Lane.all.map values.get

theorem get_set_self (values : ByLane α) (lane : Lane) (a : α) :
    (values.set lane a).get lane = a := by
  cases lane <;> rfl

theorem get_set_of_ne (values : ByLane α) {lane other : Lane} (a : α) (h : other ≠ lane) :
    (values.set lane a).get other = values.get other := by
  cases lane <;> cases other <;> first | rfl | exact absurd rfl h

end ByLane

end PhoneAudio
