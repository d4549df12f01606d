import PhoneAudio.Direction
import PhoneAudio.Routing.Endpoint
import PhoneAudio.Routing.Pin

/-!
# Codec tables

What a codec needs for routing: the pins that are set once, the pins of every endpoint in every
lane, and the gain controls of endpoints and of lanes.
-/

namespace PhoneAudio

/-- The pins of an endpoint in a lane, and the Bluetooth link that has to run while it is in use. -/
structure Wiring where
  endpoint : Endpoint
  pins : List Pin
  link : Option Direction := none
deriving DecidableEq, Inhabited

/-- A gain control and its value at full volume. -/
structure Gain where
  control : String
  full : UInt32
deriving DecidableEq, Inhabited

namespace Gain

/-- The control's value at a volume: the product with the full value, cut to a whole number and kept
within 32 bits. A volume that is no number counts as silence. -/
def level (gain : Gain) (volume : Float32) : UInt32 :=
  (volume * gain.full.toFloat32).toUInt32

end Gain

/-- How many wirings of all lanes need the link of a direction. -/
def linkUses (routes : ByLane (List Wiring)) (direction : Direction) : Nat :=
  routes.toList.flatten.countP fun wiring => wiring.link = some direction

/-- The tables of a codec. They are data of the program, and far too short for more wirings that
need a link than the holds of a link can count. -/
structure CodecTables where
  initial : List Pin
  routes : ByLane (List Wiring)
  endpointGains : List (Endpoint × Gain)
  laneGains : List (Lane × Gain)
  countable : linkUses routes .capture < UInt32.size ∧ linkUses routes .playback < UInt32.size :=
    by decide
deriving DecidableEq

instance : Inhabited CodecTables :=
  ⟨{ initial := [], routes := .fill [], endpointGains := [], laneGains := [] }⟩

namespace CodecTables

/-- The wiring of a lane. -/
def wiring (tables : CodecTables) (lane : Lane) : List Wiring :=
  tables.routes.get lane

/-- The wiring of the endpoints in a set, in table order. -/
def wiringOf (tables : CodecTables) (lane : Lane) (endpoints : EndpointSet) : List Wiring :=
  (tables.wiring lane).filter fun entry => endpoints.has entry.endpoint

/-- The gain of a lane; the first one counts. -/
def laneGain? (tables : CodecTables) (lane : Lane) : Option Gain :=
  (tables.laneGains.find? fun entry => entry.1 = lane).map Prod.snd

/-- The gains of the endpoints in a set, in table order. -/
def gainsOf (tables : CodecTables) (endpoints : EndpointSet) : List Gain :=
  (tables.endpointGains.filter fun entry => endpoints.has entry.1).map Prod.snd

end CodecTables

end PhoneAudio
