import PhoneAudio.Proofs.Routing.Writes

/-!
# The writes of a route change

What a change of endpoints writes to a mixer without faults, write by write
(`PhoneAudio.Run.writes_setRoute`): the outputs are silenced, the wirings that were in use are
reverted, those that are in use from now on are applied, and the gains are set anew. The list is
read off the codec's tables, the endpoints before and after, and the volumes.
-/

namespace PhoneAudio

open Bench (ControlWrite)

namespace Volume

open Float.Model (UnpackedFloat)

/-- Numbers can be compared. -/
theorem exists_compare {first second : UnpackedFloat} (number : first.isNaN = false)
    (other : second.isNaN = false) : ∃ order, first.compare second = some order := by
  rcases first with (_ | _) | _ | _ | ⟨_ | _, _⟩ <;>
    rcases second with (_ | _) | _ | _ | ⟨_ | _, _⟩ <;>
    first
      | exact ⟨_, rfl⟩
      | exact absurd number (by decide)
      | exact absurd other (by decide)

/-- Comparing the other way round swaps the order. -/
theorem compare_swap (first second : UnpackedFloat) :
    second.compare first = (first.compare second).map Ordering.swap := by
  -- Two finite numbers of one sign are compared by exponent, then by mantissa; everything else is
  -- decided by the kinds and the signs.
  have turned (exponent exponent' : Int) (mantissa mantissa' : Nat) :
      (compare exponent' exponent).then (compare mantissa' mantissa) =
        ((compare exponent exponent').then (compare mantissa mantissa')).swap := by
    rw [Ordering.swap_then, Std.OrientedOrd.eq_swap (a := exponent'),
      Std.OrientedOrd.eq_swap (a := mantissa')]
  rcases first with (_ | _) | _ | _ | ⟨_ | _, _⟩ <;>
    rcases second with (_ | _) | _ | _ | ⟨_ | _, _⟩ <;>
    first
      | rfl
      | exact congrArg some (turned ..)
      | exact congrArg (some ∘ Ordering.swap) (turned ..)

/-- Of two numbers, one is at most the other or greater than it. -/
theorem lt_iff_not_le {first second : Float32} (number : first.isNaN = false)
    (other : second.isNaN = false) : second < first ↔ ¬ first ≤ second := by
  have unpacked : first.toModel.unpack.isNaN = false := number
  have otherUnpacked : second.toModel.unpack.isNaN = false := other
  obtain ⟨order, compared⟩ := exists_compare unpacked otherUnpacked
  have turned := compare_swap first.toModel.unpack second.toModel.unpack
  rw [compared] at turned
  change decide ((UnpackedFloat.compare _ _ == some .lt) = true) = true ↔
    ¬ decide ((UnpackedFloat.compare _ _).any (·.isLE) = true) = true
  rw [turned, compared]
  cases order <;> decide

/-- Nothing times a number is nothing, and nothing times anything else is no number. -/
theorem zero_mul_cases (factor : Float32) :
    ∃ product, (0 * factor).toModel = Float32.Model.pack product ∧
      (product = .notANumber ∨ ∃ sign, product = .zero sign) := by
  refine ⟨_, rfl, ?_⟩
  change UnpackedFloat.mul _ (.zero .positive) factor.toModel.unpack = _ ∨ _
  cases factor.toModel.unpack with
  | notANumber => exact .inl rfl
  | infinity sign => exact .inl rfl
  | zero sign => exact .inr ⟨_, rfl⟩
  | finite sign => exact .inr ⟨_, rfl⟩

theorem toUInt32_zero_mul (factor : Float32) : (0 * factor).toUInt32 = 0 := by
  obtain ⟨product, same, rfl | ⟨sign, rfl⟩⟩ := zero_mul_cases factor
  · rw [Float32.toUInt32, same]
    decide +kernel
  · rw [Float32.toUInt32, same]
    cases sign <;> decide +kernel

end Volume

/-- Silence is nothing on every control. -/
theorem Gain.level_zero (gain : Gain) : gain.level 0 = 0 :=
  Volume.toUInt32_zero_mul _

namespace Pin

/-- The write that enables a pin. -/
def apply (pin : Pin) : ControlWrite :=
  ⟨pin.control, pin.enabled⟩

/-- The write that reverts it, if there is one. -/
def revert? (pin : Pin) : Option ControlWrite :=
  pin.disabled.map fun value => ⟨pin.control, value⟩

end Pin

namespace Gain

/-- The write that sets a gain to a volume. -/
def set (gain : Gain) (volume : Float32) : ControlWrite :=
  ⟨gain.control, .number (gain.level volume).toInt32⟩

/-- The write that silences a gain. -/
def mute (gain : Gain) : ControlWrite :=
  ⟨gain.control, .number 0⟩

end Gain

namespace CodecTables

variable (tables : CodecTables)

/-- The wirings of the endpoints in a set, each in turn reverted: its pins from the last to the
first, without those that are left alone. -/
def reverts (lane : Lane) (endpoints : EndpointSet) : List ControlWrite :=
  (tables.wiringOf lane endpoints).flatMap fun wiring => wiring.pins.reverse.filterMap Pin.revert?

/-- The wirings of the endpoints in a set, each in turn applied. -/
def applies (lane : Lane) (endpoints : EndpointSet) : List ControlWrite :=
  (tables.wiringOf lane endpoints).flatMap fun wiring => wiring.pins.map Pin.apply

/-- The gains of the endpoints in a set silenced. -/
def mutes (endpoints : EndpointSet) : List ControlWrite :=
  (tables.gainsOf endpoints).map Gain.mute

/-- The gains of the endpoints in a set at a volume. -/
def sets (endpoints : EndpointSet) (volume : Float32) : List ControlWrite :=
  (tables.gainsOf endpoints).map (·.set volume)

end CodecTables

namespace Router

variable (router : Router)

/-- The writes of a balance: all endpoints that can be heard, at their volumes, and the gain of
playback ahead of them if its factor does not grow, behind them otherwise. -/
def balances : List ControlWrite :=
  let endpoints := router.tables.sets router.routes.playback router.playbackLevel ++
    router.tables.sets router.routes.downlink router.callVolume
  let lane := (router.tables.laneGain? .playback).toList.map (·.set router.balancedFactor)
  if router.balancedFactor ≤ router.playbackFactor then lane ++ endpoints else endpoints ++ lane

/-- The gains of endpoints are written as the tables say. -/
theorem writes_endpointGainSteps (tables : CodecTables) (endpoints : EndpointSet)
    (volume : Float32) :
    (endpointGainSteps tables endpoints volume).filterMap RouteStep.write? =
      tables.sets endpoints volume := by
  unfold endpointGainSteps CodecTables.sets
  rw [List.filterMap_map]
  exact congrFun List.filterMap_eq_map _

/-- The gain of a lane is written if it has one. -/
theorem writes_laneGainSteps (tables : CodecTables) (lane : Lane) (volume : Float32) :
    (laneGainSteps tables lane volume).filterMap RouteStep.write? =
      (tables.laneGain? lane).toList.map (·.set volume) := by
  unfold laneGainSteps
  rw [List.filterMap_map]
  exact congrFun List.filterMap_eq_map _

/-- Setting gains to nothing silences them. -/
theorem sets_zero (tables : CodecTables) (endpoints : EndpointSet) :
    tables.sets endpoints 0 = tables.mutes endpoints := by
  apply List.map_congr_left
  intro gain _
  rw [Gain.set, gain.level_zero]
  rfl

/-- Muting writes to the gains of both audible lanes. -/
theorem writes_muteFor (lane : Lane) :
    (router.muteFor lane).filterMap RouteStep.write? =
      if lane.isAudible then
        router.tables.mutes router.routes.playback ++ router.tables.mutes router.routes.downlink
      else [] := by
  unfold muteFor
  split
  · rw [muteSteps, List.filterMap_append, writes_endpointGainSteps, writes_endpointGainSteps,
      sets_zero, sets_zero]
  · rfl

/-- Enabling a wiring applies its pins in order. -/
theorem writes_enableSteps (wiring : Wiring) :
    (enableSteps wiring).filterMap RouteStep.write? = wiring.pins.map Pin.apply := by
  have links : (wiring.link.toList.map RouteStep.hold).filterMap RouteStep.write? = [] := by
    cases wiring.link <;> rfl
  unfold enableSteps
  rw [List.filterMap_append, links, List.nil_append, List.filterMap_map]
  exact congrFun List.filterMap_eq_map _

/-- Disabling a wiring reverts its pins in the opposite order. -/
theorem writes_disableSteps (wiring : Wiring) :
    (disableSteps wiring).filterMap RouteStep.write? =
      wiring.pins.reverse.filterMap Pin.revert? := by
  have links : (wiring.link.toList.map RouteStep.letGo).filterMap RouteStep.write? = [] := by
    cases wiring.link <;> rfl
  unfold disableSteps
  rw [List.filterMap_append, links, List.append_nil, List.filterMap_filterMap]
  congr 1
  funext pin
  unfold Pin.revert?
  cases pin.disabled <;> rfl

/-- Enabling a lane applies the pins of its route. -/
theorem writes_enableLane (lane : Lane) :
    (router.enableLane lane).filterMap RouteStep.write? =
      router.tables.applies lane (router.routes.get lane) := by
  unfold enableLane CodecTables.applies
  rw [List.filterMap_flatMap]
  simp only [writes_enableSteps]

/-- Disabling a lane reverts the pins of its route. -/
theorem writes_disableLane (lane : Lane) :
    (router.disableLane lane).filterMap RouteStep.write? =
      router.tables.reverts lane (router.routes.get lane) := by
  unfold disableLane CodecTables.reverts
  rw [List.filterMap_flatMap]
  simp only [writes_disableSteps]

/-- The gain of playback is set once, ahead of the endpoints or behind them. -/
theorem writes_rebalance (before : router.playbackFactor.isNaN = false)
    (after : router.balancedFactor.isNaN = false) :
    router.rebalance.2.filterMap RouteStep.write? = router.balances := by
  have grows := Volume.lt_iff_not_le after before
  unfold rebalance balances
  simp only [List.filterMap_append, writes_endpointGainSteps]
  by_cases falls : router.balancedFactor ≤ router.playbackFactor
  · rw [if_pos falls, if_neg (fun less => grows.mp less falls), if_pos falls,
      writes_laneGainSteps, List.filterMap_nil, List.append_nil]
  · rw [if_neg falls, if_pos (grows.mpr falls), if_neg falls, writes_laneGainSteps,
      List.filterMap_nil, List.nil_append]

/-- Balancing writes the gains of both audible lanes, if the lane is one of them. -/
theorem writes_rebalanceFor {lane : Lane}
    (numbers : lane.isAudible = true →
      router.playbackFactor.isNaN = false ∧ router.balancedFactor.isNaN = false) :
    (router.rebalanceFor lane).2.filterMap RouteStep.write? =
      if lane.isAudible then router.balances else [] := by
  unfold rebalanceFor
  split
  · rename_i audible
    exact router.writes_rebalance (numbers audible).1 (numbers audible).2
  · rfl

end Router

/-- **The writes of a route change.** On a mixer without faults, replacing the endpoints of a lane
that is on writes the following and nothing else: if the lane can be heard, zeroes to the endpoints
of ordinary playback and of the call so far; then what reverts the lane's wirings so far, and what
applies those from now on; and, if the lane can be heard, the gains anew. -/
theorem Run.writes_setRoute {run : Run} {router : Router}
    (there : run.machine.hardware.router = some router)
    (sound : run.machine.drivers.mixer.faults = {}) {lane : Lane}
    (on : router.disabled.get lane = false) (endpoints : EndpointSet)
    (numbers : lane.isAudible = true → router.playbackFactor.isNaN = false ∧
      (router.store lane endpoints).balancedFactor.isNaN = false) :
    ((RouterCall.setRoute lane endpoints).perform run).2.writes =
      run.writes ++
        ((if lane.isAudible then
            router.tables.mutes router.routes.playback ++
              router.tables.mutes router.routes.downlink
          else []) ++
          router.tables.reverts lane (router.routes.get lane) ++
          router.tables.applies lane endpoints ++
          (if lane.isAudible then (router.store lane endpoints).balances else [])) := by
  have spared (writes : List ControlWrite) :
      writes.filter run.machine.drivers.mixer.faults.spares = writes := by
    rw [sound]
    exact List.filter_eq_self.mpr fun write _ => write.spares_none
  have applied := (router.store lane endpoints).writes_enableLane lane
  have stored : (router.store lane endpoints).routes.get lane = endpoints :=
    router.routes.get_set_self lane endpoints
  rw [stored] at applied
  have live : (router.setRoute lane endpoints).2 = router.muteFor lane ++ router.disableLane lane ++
      (router.store lane endpoints).enableLane lane ++
        ((router.store lane endpoints).rebalanceFor lane).2 := by
    unfold Router.setRoute
    rw [if_neg (by rw [on]; exact Bool.false_ne_true)]
  have asked : ((RouterCall.setRoute lane endpoints).onRouter router).2 =
    (router.setRoute lane endpoints).2 := rfl
  rw [perform_of_some there, writes_steered, spared, asked, live]
  simp only [List.filterMap_append, router.writes_muteFor, router.writes_disableLane, applied,
    (router.store lane endpoints).writes_rebalanceFor numbers]
  rfl

/-- The stock codec plays media at half the volume of calls through the speaker. When the speaker is
also put on the downlink, the factor of playback falls, so it is set ahead of the speaker. -/
theorem Run.writes_setRoute_speaker :
    let speaker := EndpointSet.ofList [.speaker]
    let calls : List (Conditions × RouterCall) :=
      [({}, .setRoute .playback speaker), ({}, .setMediaVolume 0.5), ({}, .setCallVolume 1)]
    let run := (wiredStock.calling calls).under {}
    ((RouterCall.setRoute .downlink speaker).perform run).2.writes = run.writes ++
      [⟨"MAX9877 Amp Speaker Playback Volume", .number 0⟩, ⟨"Speaker Switch", .number 1⟩,
        ⟨"Master Playback Volume", .number 115⟩,
        ⟨"MAX9877 Amp Speaker Playback Volume", .number 28⟩,
        ⟨"MAX9877 Amp Speaker Playback Volume", .number 28⟩] := by
  intro speaker calls run
  let router := { tables := .stock : Router }.afterCalls (calls.map Prod.snd)
  have there : (wiredStock.calling calls).machine.hardware.router = some router :=
    router_calling calls wired_stock.router
  have on : router.disabled.get .downlink = false := by decide +kernel
  have numbers : router.playbackFactor.isNaN = false ∧
      (router.store .downlink speaker).balancedFactor.isNaN = false :=
    ⟨by decide +kernel, by decide +kernel⟩
  -- What the calls before did to the mixer does not matter, so they are not carried out.
  change ((RouterCall.setRoute .downlink speaker).perform
    ((wiredStock.calling calls).under {})).2.writes =
      ((wiredStock.calling calls).under {}).writes ++ _
  generalize wiredStock.calling calls = called at there
  have under : (called.under {}).machine.hardware.router = some router := there
  refine (writes_setRoute under rfl on speaker fun _ => numbers).trans (congrArg _ ?_)
  decide +kernel

end PhoneAudio
