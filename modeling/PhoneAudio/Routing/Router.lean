import PhoneAudio.Decimal.Fraction
import PhoneAudio.Routing.Tables
import PhoneAudio.Text.Record

/-!
# Router

The router decides what happens to the mixer and to the Bluetooth links when the endpoints of a lane
or a volume change. It works on routes and volumes alone: every change gives the router afterwards
and the steps to take, in order. What becomes of the steps does not reach back into it.
-/

namespace PhoneAudio

/-- A step that the router asks for. -/
inductive RouteStep
  /-- Write a value to a control. -/
  | write (control : String) (value : ControlValue)
  /-- Take one more hold of the Bluetooth link of a direction. -/
  | hold (link : Direction)
  /-- Let go of one hold of it. -/
  | letGo (link : Direction)
deriving DecidableEq, Inhabited

/-- The endpoints of every lane, the lanes that are off, and the volumes. -/
structure Router where
  tables : CodecTables
  routes : ByLane EndpointSet := .fill .none
  disabled : ByLane Bool := .fill false
  mediaVolume : Float32 := 0
  callVolume : Float32 := 0
  playbackFactor : Float32 := 1

namespace Router

/-- The step that sets a gain to a volume. -/
def gainStep (volume : Float32) (gain : Gain) : RouteStep :=
  .write gain.control (.number (gain.level volume).toInt32)

/-- The steps that set the gains of the endpoints in a set. -/
def endpointGainSteps (tables : CodecTables) (endpoints : EndpointSet) (volume : Float32) :
    List RouteStep :=
  (tables.gainsOf endpoints).map (gainStep volume)

/-- The step that sets the gain of a lane, if it has one. -/
def laneGainSteps (tables : CodecTables) (lane : Lane) (volume : Float32) : List RouteStep :=
  (tables.laneGain? lane).toList.map (gainStep volume)

/-- The steps that enable the endpoint of a wiring: the link first, then the pins in order. -/
def enableSteps (wiring : Wiring) : List RouteStep :=
  wiring.link.toList.map .hold ++ wiring.pins.map fun pin => .write pin.control pin.enabled

/-- The steps that revert it: the pins in reverse order, as far as they are reverted, then the
link. -/
def disableSteps (wiring : Wiring) : List RouteStep :=
  (wiring.pins.reverse.filterMap fun pin => pin.disabled.map (.write pin.control)) ++
    wiring.link.toList.map .letGo

/-- The steps that enable the stored endpoints of a lane. -/
def enableLane (router : Router) (lane : Lane) : List RouteStep :=
  (router.tables.wiringOf lane (router.routes.get lane)).flatMap enableSteps

/-- The steps that revert the stored endpoints of a lane. -/
def disableLane (router : Router) (lane : Lane) : List RouteStep :=
  (router.tables.wiringOf lane (router.routes.get lane)).flatMap disableSteps

/-- The steps that silence the endpoints of both audible lanes. -/
def muteSteps (router : Router) : List RouteStep :=
  endpointGainSteps router.tables router.routes.playback 0 ++
    endpointGainSteps router.tables router.routes.downlink 0

/-- Whether ordinary playback and a call share an endpoint. -/
def isShared (router : Router) : Bool :=
  router.routes.playback.meets router.routes.downlink

/-- The volume for the endpoints of ordinary playback: shared endpoints follow the call. -/
def playbackLevel (router : Router) : Float32 :=
  if router.isShared then router.callVolume else router.mediaVolume

/-- The factor on the playback lane that keeps media at its level on endpoints that a louder call
raises. -/
def balancedFactor (router : Router) : Float32 :=
  if router.isShared && router.mediaVolume < router.callVolume then
    router.mediaVolume / router.callVolume
  else 1

/-- Sets all gains anew. A factor that does not grow is set before the endpoints, one that grows
after. -/
def rebalance (router : Router) : Router × List RouteStep :=
  let factor := router.balancedFactor
  let lane := laneGainSteps router.tables .playback factor
  let endpoints :=
    endpointGainSteps router.tables router.routes.playback router.playbackLevel ++
      endpointGainSteps router.tables router.routes.downlink router.callVolume
  let before := if factor ≤ router.playbackFactor then lane else []
  let after := if router.playbackFactor < factor then lane else []
  ({ router with playbackFactor := factor }, before ++ endpoints ++ after)

/-- Sets all gains anew after a change to an audible lane. -/
def rebalanceFor (router : Router) (lane : Lane) : Router × List RouteStep :=
  if lane.isAudible then router.rebalance else (router, [])

/-- The steps that silence the outputs ahead of a change to an audible lane. -/
def muteFor (router : Router) (lane : Lane) : List RouteStep :=
  if lane.isAudible then router.muteSteps else []

/-- Stores the endpoints of a lane. -/
def store (router : Router) (lane : Lane) (endpoints : EndpointSet) : Router :=
  { router with routes := router.routes.set lane endpoints }

/-- Replaces the endpoints of a lane. While the lane is off they are only stored. -/
def setRoute (router : Router) (lane : Lane) (endpoints : EndpointSet) : Router × List RouteStep :=
  if router.disabled.get lane then (router.store lane endpoints, [])
  else
    let stored := router.store lane endpoints
    let (after, gains) := stored.rebalanceFor lane
    (after, router.muteFor lane ++ router.disableLane lane ++ stored.enableLane lane ++ gains)

/-- Turns a lane off, which reverts its endpoints, or on, which enables those stored. -/
def setDisabled (router : Router) (lane : Lane) (off : Bool) : Router × List RouteStep :=
  if router.disabled.get lane = off then (router, [])
  else if off then
    ({ router with disabled := router.disabled.set lane true }, router.disableLane lane)
  else
    let (after, gains) := router.rebalanceFor lane
    ({ after with disabled := after.disabled.set lane false },
      router.muteFor lane ++ router.enableLane lane ++ gains)

/-- Sets the volume of calls. -/
def setCallVolume (router : Router) (volume : Float32) : Router × List RouteStep :=
  { router with callVolume := volume }.rebalance

/-- Sets the volume of media. -/
def setMediaVolume (router : Router) (volume : Float32) : Router × List RouteStep :=
  { router with mediaVolume := volume }.rebalance

/-- The steps that a fresh router starts with. -/
def initialSteps (tables : CodecTables) : List RouteStep :=
  tables.initial.map fun pin => .write pin.control pin.enabled

/-- The diagnostic text of the router with the text of its links. -/
def describe (router : Router) (links : String) : String :=
  Text.openRecord "Router"
    [("routes", Text.list (router.routes.toList.map EndpointSet.describe)),
      ("disabled", Text.list (router.disabled.toList.map Text.truth)), ("sco", links),
      ("master_volume", Decimal.floatText router.mediaVolume),
      ("voice_volume", Decimal.floatText router.callVolume),
      ("playback_volume", Decimal.floatText router.playbackFactor)]

end Router

end PhoneAudio
