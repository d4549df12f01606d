import PhoneAudio.Machine.State

/-!
# Routers in step with the audio hardware

The state in which the operations of the audio hardware keep their router
(`PhoneAudio.Router.Proper`): the lanes that are off follow the call and the mute, ordinary playback
and a call never have routes at the same time, and the volume of calls is that of the hardware while
it is in a call. Such a router has nothing to balance, so that a change of it changes one field
(`PhoneAudio.Router.setRoute_fst` and the like).
-/

namespace PhoneAudio

namespace Router

section Fields

variable (router : Router)

theorem disabled_rebalanceFor (lane : Lane) :
    (router.rebalanceFor lane).1.disabled = router.disabled := by
  unfold rebalanceFor
  split <;> rfl

/-- A lane is disabled or enabled, and no other is. -/
theorem disabled_setDisabled (lane : Lane) (off : Bool) :
    (router.setDisabled lane off).1.disabled = router.disabled.set lane off := by
  unfold setDisabled
  split
  · rename_i same
    rw [← same]
    cases lane <;> rfl
  split
  · rename_i on
    rw [on]
  · rename_i on
    rw [Bool.not_eq_true] at on
    rw [on]
    exact congrArg (ByLane.set · lane false) (router.disabled_rebalanceFor lane)

/-- Setting a route disables nothing. -/
theorem disabled_setRoute (lane : Lane) (endpoints : EndpointSet) :
    (router.setRoute lane endpoints).1.disabled = router.disabled := by
  unfold setRoute
  split
  · rfl
  · exact (router.store lane endpoints).disabled_rebalanceFor lane

theorem disabled_setCallVolume (volume : Float32) :
    (router.setCallVolume volume).1.disabled = router.disabled :=
  rfl

theorem routes_rebalanceFor (lane : Lane) :
    (router.rebalanceFor lane).1.routes = router.routes := by
  unfold rebalanceFor
  split <;> rfl

theorem routes_setDisabled (lane : Lane) (off : Bool) :
    (router.setDisabled lane off).1.routes = router.routes := by
  unfold setDisabled
  split
  · rfl
  split
  · rfl
  · exact router.routes_rebalanceFor lane

/-- A route is set, and no other is. -/
theorem routes_setRoute (lane : Lane) (endpoints : EndpointSet) :
    (router.setRoute lane endpoints).1.routes = router.routes.set lane endpoints := by
  unfold setRoute
  split
  · rfl
  · exact (router.store lane endpoints).routes_rebalanceFor lane

end Fields

/-- No endpoint is shared, as ordinary playback or the downlink has none at all, and media is not
lowered for a call. -/
structure Balanced (router : Router) : Prop where
  apart : router.routes.playback = .none ∨ router.routes.downlink = .none
  factor : router.playbackFactor = 1

/-- Nothing is shared where one of the audible lanes has no endpoint. -/
theorem Balanced.isShared {router : Router} (balanced : router.Balanced) :
    router.isShared = false := by
  unfold Router.isShared EndpointSet.meets
  obtain none | none := balanced.apart
  · rw [none]
    simp [EndpointSet.none]
  · rw [none]
    simp [EndpointSet.none]

/-- Without shared endpoints, nothing is lowered. -/
theorem Balanced.balancedFactor {router : Router} (balanced : router.Balanced) :
    router.balancedFactor = 1 := by
  unfold Router.balancedFactor
  rw [balanced.isShared]
  rfl

/-- Balancing leaves a router that is balanced. -/
theorem Balanced.rebalance {router : Router} (balanced : router.Balanced) :
    router.rebalance.1 = router := by
  unfold Router.rebalance
  rw [balanced.balancedFactor, ← balanced.factor]

/-- Setting all gains anew sets the gain of ordinary playback, if it has one. -/
theorem Balanced.write_mem_rebalance {router : Router} (balanced : router.Balanced) {gain : Gain}
    (there : router.tables.laneGain? .playback = some gain) :
    gainStep 1 gain ∈ router.rebalance.2 := by
  have least : (1 : Float32) ≤ 1 := by decide +kernel
  have member : gainStep 1 gain ∈ laneGainSteps router.tables .playback 1 := by
    unfold laneGainSteps
    rw [there]
    exact List.mem_singleton_self _
  unfold Router.rebalance
  rw [balanced.balancedFactor, balanced.factor]
  dsimp only
  rw [if_pos least]
  exact List.mem_append_left _ (List.mem_append_left _ member)

theorem Balanced.rebalanceFor {router : Router} (balanced : router.Balanced) (lane : Lane) :
    (router.rebalanceFor lane).1 = router := by
  unfold Router.rebalanceFor
  split
  · exact balanced.rebalance
  · rfl

/-- Setting a route stores it, and changes nothing else of a router that stays balanced. -/
theorem setRoute_fst {router : Router} {lane : Lane} {endpoints : EndpointSet}
    (balanced : (router.store lane endpoints).Balanced) :
    (router.setRoute lane endpoints).1 = router.store lane endpoints := by
  unfold setRoute
  split
  · rfl
  · exact balanced.rebalanceFor lane

/-- Replacing the endpoints of an audible lane that is on sets all gains anew. -/
theorem write_mem_setRoute {router : Router} {lane : Lane} {endpoints : EndpointSet}
    (on : router.disabled.get lane = false) (audible : lane.isAudible = true)
    (balanced : (router.store lane endpoints).Balanced) {gain : Gain}
    (there : router.tables.laneGain? .playback = some gain) :
    gainStep 1 gain ∈ (router.setRoute lane endpoints).2 := by
  unfold setRoute rebalanceFor
  rw [if_neg (ne_true_of_eq_false on)]
  dsimp only
  rw [if_pos audible]
  exact List.mem_append_right _ (balanced.write_mem_rebalance there)

/-- Disabling a lane changes nothing else of a balanced router. -/
theorem setDisabled_fst {router : Router} (balanced : router.Balanced) (lane : Lane) (off : Bool) :
    (router.setDisabled lane off).1 =
      { router with disabled := router.disabled.set lane off } := by
  unfold setDisabled
  split
  · rename_i same
    have kept : router.disabled.set lane off = router.disabled := by
      rw [← same]
      cases lane <;> rfl
    rw [kept]
  · split
    · rename_i on
      rw [on]
    · rename_i on
      rw [Bool.not_eq_true] at on
      have same := balanced.rebalanceFor lane
      simp only [same, on]

theorem setCallVolume_fst {router : Router} (balanced : router.Balanced) (volume : Float32) :
    (router.setCallVolume volume).1 = { router with callVolume := volume } := by
  have kept : Balanced { router with callVolume := volume } := ⟨balanced.apart, balanced.factor⟩
  exact kept.rebalance

theorem setMediaVolume_fst {router : Router} (balanced : router.Balanced) (volume : Float32) :
    (router.setMediaVolume volume).1 = { router with mediaVolume := volume } := by
  have kept : Balanced { router with mediaVolume := volume } := ⟨balanced.apart, balanced.factor⟩
  exact kept.rebalance

/-- The router as the audio hardware keeps it. -/
structure Proper (router : Router) (hardware : Hardware) : Prop where
  playback : router.disabled.playback = hardware.inCall
  uplink : router.disabled.uplink = hardware.muted
  downlink : router.disabled.downlink = false
  inside : hardware.inCall = true → router.routes.playback = .none
  outside : hardware.inCall = false →
    router.routes.uplink = .none ∧ router.routes.downlink = .none
  factor : router.playbackFactor = 1
  volume : router.callVolume = if hardware.inCall then hardware.callVolume else 0

/-- A proper router is balanced. -/
theorem Proper.balanced {router : Router} {hardware : Hardware} (proper : router.Proper hardware) :
    router.Balanced := by
  refine ⟨?_, proper.factor⟩
  cases called : hardware.inCall with
  | true => exact .inl (proper.inside called)
  | false => exact .inr (proper.outside called).2

/-- Only the call, its volume and the mute matter. -/
theorem Proper.of_eq {router : Router} {hardware other : Hardware}
    (proper : router.Proper hardware) (inCall : other.inCall = hardware.inCall)
    (muted : other.muted = hardware.muted) (volume : other.callVolume = hardware.callVolume) :
    router.Proper other := by
  refine ⟨?_, ?_, proper.downlink, ?_, ?_, proper.factor, ?_⟩
  · rw [inCall]
    exact proper.playback
  · rw [muted]
    exact proper.uplink
  · rw [inCall]
    exact proper.inside
  · rw [inCall]
    exact proper.outside
  · rw [inCall, volume]
    exact proper.volume

/-- The endpoints that a lane may have: none for ordinary playback in a call, and none for a call
outside one. -/
def Allows (hardware : Hardware) (lane : Lane) (endpoints : EndpointSet) : Prop :=
  match lane with
  | .capture => True
  | .playback => hardware.inCall = true → endpoints = .none
  | .uplink | .downlink => hardware.inCall = false → endpoints = .none

/-- A proper router stays so when a route is stored that the mode allows. -/
theorem Proper.store {router : Router} {hardware : Hardware} (proper : router.Proper hardware)
    {lane : Lane} {endpoints : EndpointSet} (allows : Allows hardware lane endpoints) :
    (router.store lane endpoints).Proper hardware := by
  obtain ⟨playback, uplink, downlink, inside, outside, factor, volume⟩ := proper
  cases lane with
  | capture => exact ⟨playback, uplink, downlink, inside, outside, factor, volume⟩
  | playback => exact ⟨playback, uplink, downlink, allows, outside, factor, volume⟩
  | uplink =>
      exact ⟨playback, uplink, downlink, inside, fun out => ⟨allows out, (outside out).2⟩, factor,
        volume⟩
  | downlink =>
      exact ⟨playback, uplink, downlink, inside, fun out => ⟨(outside out).1, allows out⟩, factor,
        volume⟩

/-- Setting a route that the mode allows only stores it, and leaves the router proper. -/
theorem Proper.setRoute {router : Router} {hardware : Hardware} (proper : router.Proper hardware)
    {lane : Lane} {endpoints : EndpointSet} (allows : Allows hardware lane endpoints) :
    (router.setRoute lane endpoints).1 = router.store lane endpoints ∧
      (router.setRoute lane endpoints).1.Proper hardware := by
  have stored := proper.store allows
  have same := setRoute_fst stored.balanced
  exact ⟨same, same ▸ stored⟩

end Router

end PhoneAudio
