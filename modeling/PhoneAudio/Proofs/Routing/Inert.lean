import Mathlib.Data.List.Basic
import PhoneAudio.Proofs.Routing.Radio
import PhoneAudio.Proofs.Routing.Writes

/-!
# Endpoints stored for a lane that is off

Two runs of calls on a router are compared that differ in the endpoints stored for one lane, which
is off and stays so. The links do the same in both, and so do all controls but the gains; for a lane
that is not audible the gains do so, too (`PhoneAudio.Run.storedInert`). The router sets gains by
what is stored for both audible lanes, whether or not they are off, so that the endpoints of an
audible lane show in the gains (`PhoneAudio.Run.not_storedInert`).
-/

namespace PhoneAudio

open Bench (ControlWrite)

/-- Whether a step is a write that counts, or no write at all. -/
def RouteStep.counts (counts : ControlWrite → Bool) (step : RouteStep) : Bool :=
  step.write?.all counts

/-- The steps with the writes that count. -/
def Router.counted (counts : ControlWrite → Bool) (steps : List RouteStep) : List RouteStep :=
  steps.filter (RouteStep.counts counts)

namespace Router

variable {counts : ControlWrite → Bool}

theorem counted_append (steps more : List RouteStep) :
    counted counts (steps ++ more) = counted counts steps ++ counted counts more :=
  List.filter_append ..

/-- Steps that agree on what counts take and let go of the same holds. -/
theorem holds_of_counted {steps more : List RouteStep}
    (same : counted counts steps = counted counts more) :
    steps.filter RouteStep.isHold = more.filter RouteStep.isHold := by
  have holds (steps : List RouteStep) :
      (counted counts steps).filter RouteStep.isHold = steps.filter RouteStep.isHold := by
    unfold counted
    rw [List.filter_filter]
    apply List.filter_congr
    intro step _
    cases step <;> rfl
  rw [← holds, same, holds]

/-- Steps that agree on what counts write the same as far as it counts. -/
theorem writes_of_counted {steps more : List RouteStep}
    (same : counted counts steps = counted counts more) :
    (steps.filterMap RouteStep.write?).filter counts =
      (more.filterMap RouteStep.write?).filter counts := by
  have writes (steps : List RouteStep) : (counted counts steps).filterMap RouteStep.write? =
      (steps.filterMap RouteStep.write?).filter counts := by
    unfold counted
    rw [List.filterMap_filter, List.filter_filterMap]
    congr 1
    funext step
    cases step <;> rfl
  rw [← writes, same, writes]

/-- A relation between routers that calls keep, with steps that agree on what counts. -/
def Unwinding (counts : ControlWrite → Bool) (allowed : RouterCall → Prop)
    (related : Router → Router → Prop) : Prop :=
  ∀ router other, related router other → ∀ call, allowed call →
    related (call.onRouter router).1 (call.onRouter other).1 ∧
      counted counts (call.onRouter other).2 = counted counts (call.onRouter router).2

end Router

namespace Run

/-- Two runs agree: the same became of the links, and the same was written as far as it counts. -/
structure Agree (counts : ControlWrite → Bool) (run twin : Run) : Prop where
  radio : twin.radio = run.radio
  writes : twin.writes.filter counts = run.writes.filter counts

variable {counts : ControlWrite → Bool} {run twin : Run}

/-- Runs that agree do so under any conditions, the same for both. -/
theorem Agree.under (agree : run.Agree counts twin) (conditions : Conditions) :
    (run.under conditions).Agree counts (twin.under conditions) where
  radio := radio_under agree.radio conditions conditions.missing conditions.rejected
  writes := agree.writes

/-- Runs that agree go on to do so as long as they take steps that count the same. -/
theorem Agree.steered (agree : run.Agree counts twin)
    (faults : twin.machine.drivers.mixer.faults = run.machine.drivers.mixer.faults)
    (router other : Router) {steps more : List RouteStep}
    (same : Router.counted counts more = Router.counted counts steps) :
    (run.steered router steps).Agree counts (twin.steered other more) where
  radio := radio_steered agree.radio other router (Router.holds_of_counted same)
  writes := by
    rw [writes_steered, writes_steered, List.filter_append, List.filter_append, agree.writes,
      List.filter_comm, Router.writes_of_counted same, faults, List.filter_comm]

/-- Runs on related routers go on agreeing. -/
theorem Agree.calling {allowed : RouterCall → Prop} {related : Router → Router → Prop}
    (unwinding : Router.Unwinding counts allowed related) (agree : run.Agree counts twin)
    {router other : Router} (there : run.machine.hardware.router = some router)
    (twinThere : twin.machine.hardware.router = some other) (related : related router other)
    {calls : List (Conditions × RouterCall)} (allowed : ∀ entry ∈ calls, allowed entry.2) :
    (run.calling calls).Agree counts (twin.calling calls) := by
  induction calls generalizing run twin router other with
  | nil => exact agree
  | cons entry more ih =>
      obtain ⟨conditions, call⟩ := entry
      obtain ⟨next, same⟩ := unwinding router other related call (allowed _ List.mem_cons_self)
      have here : (run.under conditions).machine.hardware.router = some router := there
      have beside : (twin.under conditions).machine.hardware.router = some other := twinThere
      have agree := (agree.under conditions).steered rfl (call.onRouter router).1
        (call.onRouter other).1 same
      rw [← perform_of_some here, ← perform_of_some beside] at agree
      apply ih agree _ _ next
      · exact fun entry member => allowed entry (List.mem_cons_of_mem _ member)
      · rw [perform_of_some here, router_steered]
      · rw [perform_of_some beside, router_steered]

end Run

namespace Router

/-- Routers with the same lanes off, which differ in what they store for one of those. -/
structure Alike (lane : Lane) (router other : Router) : Prop where
  tables : other.tables = router.tables
  disabled : other.disabled = router.disabled
  off : router.disabled.get lane = true
  routes : ∀ way ≠ lane, other.routes.get way = router.routes.get way

variable {lane : Lane} {router other : Router}

/-- Storing a route for a lane that is off makes no difference. -/
theorem alike_store (off : router.disabled.get lane = true) (endpoints : EndpointSet) :
    router.Alike lane (router.store lane endpoints) :=
  ⟨rfl, rfl, off, fun _ ne => router.routes.get_set_of_ne endpoints ne⟩

/-- The lane that is off uses nothing, and the others use what both routers store. -/
theorem Alike.inUse (alike : router.Alike lane other) : other.inUse = router.inUse := by
  funext way
  by_cases same : way = lane
  · subst same
    have off := alike.off
    rw [inUse_of_off off]
    rw [← alike.disabled] at off
    exact inUse_of_off off
  · exact inUse_congr alike.tables (congrArg (·.get way) alike.disabled) (alike.routes way same)

/-- Calls that leave the lane off keep routers alike. -/
theorem Alike.onRouter (alike : router.Alike lane other) {call : RouterCall}
    (leaves : call ≠ .setDisabled lane false) :
    (call.onRouter router).1.Alike lane (call.onRouter other).1 := by
  have tables : (call.onRouter other).1.tables = (call.onRouter router).1.tables := by
    rw [(call.works other).tables, (call.works router).tables, alike.tables]
  cases call with
  | setRoute way endpoints =>
      refine ⟨tables, ?_, ?_, ?_⟩ <;> dsimp only [RouterCall.onRouter]
      · rw [disabled_setRoute, disabled_setRoute, alike.disabled]
      · rw [disabled_setRoute, alike.off]
      · intro another ne
        rw [routes_setRoute, routes_setRoute]
        by_cases same : another = way
        · rw [same, ByLane.get_set_self, ByLane.get_set_self]
        · rw [ByLane.get_set_of_ne _ _ same, ByLane.get_set_of_ne _ _ same, alike.routes _ ne]
  | setDisabled way off =>
      refine ⟨tables, ?_, ?_, ?_⟩ <;> dsimp only [RouterCall.onRouter]
      · rw [disabled_setDisabled, disabled_setDisabled, alike.disabled]
      · rw [disabled_setDisabled]
        by_cases same : lane = way
        · subst same
          rw [ByLane.get_set_self]
          cases off with
          | false => exact absurd rfl leaves
          | true => rfl
        · rw [ByLane.get_set_of_ne _ _ same, alike.off]
      · intro another ne
        rw [routes_setDisabled, routes_setDisabled, alike.routes _ ne]
  | setCallVolume volume => exact ⟨tables, alike.disabled, alike.off, alike.routes⟩
  | setMediaVolume volume => exact ⟨tables, alike.disabled, alike.off, alike.routes⟩

end Router

/-- Whether a write is to a control other than the gains that a router sets on its own. -/
def CodecTables.beyondGains (tables : CodecTables) (write : ControlWrite) : Bool :=
  tables.routedGains.all fun gain => gain.control != write.control

namespace Router

variable {lane : Lane} {router other : Router}

/-- Steps that set gains do not count where gains do not. -/
theorem SetsGains.counted {steps : List RouteStep} (gains : router.SetsGains steps) :
    Router.counted router.tables.beyondGains steps = [] := by
  apply List.filter_eq_nil_iff.mpr
  intro step member
  obtain ⟨volume, gain, listed, rfl⟩ := gains step member
  intro counts
  have apart := List.all_eq_true.mp counts gain listed
  simp at apart

/-- Calls on routers that are alike take the same steps, gains apart. -/
theorem Alike.counted (alike : router.Alike lane other) {call : RouterCall}
    (leaves : call ≠ .setDisabled lane false) :
    Router.counted router.tables.beyondGains (call.onRouter other).2 =
      Router.counted router.tables.beyondGains (call.onRouter router).2 := by
  have lanes : call.lane? other = call.lane? router := by
    cases call with
    | setDisabled way off =>
        unfold RouterCall.lane?
        rw [alike.disabled]
    | _ => rfl
  obtain ⟨silence, gains, silent, level, steps⟩ := (call.works router).steps
  obtain ⟨otherSilence, otherGains, otherSilent, otherLevel, more⟩ := (call.works other).steps
  have silent' := otherSilent.counted
  have level' := otherLevel.counted
  rw [alike.tables] at silent' level'
  rw [steps, more, counted_append, counted_append, counted_append, counted_append, silent.counted,
    level.counted, silent', level', lanes]
  -- What is left is the lane that the call applies anew.
  unfold renewal
  rw [alike.inUse, (alike.onRouter leaves).inUse]

theorem unwinding_alike (tables : CodecTables) (lane : Lane) :
    Unwinding tables.beyondGains (· ≠ .setDisabled lane false) fun router other =>
      router.tables = tables ∧ router.Alike lane other := by
  rintro router other ⟨rfl, alike⟩ call leaves
  exact ⟨⟨(call.works router).tables, alike.onRouter leaves⟩, alike.counted leaves⟩

/-! ## Lanes that are not audible -/

section Store

variable (router : Router) (endpoints : EndpointSet)

/-- Storing the route that is stored changes nothing. -/
theorem store_self : router.store lane (router.routes.get lane) = router := by
  cases lane <;> rfl

/-- What is stored last counts. -/
theorem store_store (first : EndpointSet) :
    (router.store lane first).store lane endpoints = router.store lane endpoints := by
  cases lane <;> rfl

/-- Storing for two lanes may be done in either order. -/
theorem store_comm {way : Lane} (ne : way ≠ lane) (other : EndpointSet) :
    (router.store lane endpoints).store way other =
      (router.store way other).store lane endpoints := by
  cases lane <;> cases way <;> first | rfl | exact absurd rfl ne

theorem disableLane_store {way : Lane} (ne : way ≠ lane) :
    (router.store lane endpoints).disableLane way = router.disableLane way :=
  congrArg (fun set => (router.tables.wiringOf way set).flatMap disableSteps)
    (router.routes.get_set_of_ne endpoints ne)

theorem enableLane_store {way : Lane} (ne : way ≠ lane) :
    (router.store lane endpoints).enableLane way = router.enableLane way :=
  congrArg (fun set => (router.tables.wiringOf way set).flatMap enableSteps)
    (router.routes.get_set_of_ne endpoints ne)

/-- The gains go by the audible lanes. -/
theorem rebalance_store (inaudible : lane.isAudible = false) :
    (router.store lane endpoints).rebalance =
      (router.rebalance.1.store lane endpoints, router.rebalance.2) := by
  cases lane <;> first | rfl | cases inaudible

/-- Balancing does not look at what is stored for a lane that is not audible. -/
theorem rebalanceFor_store (inaudible : lane.isAudible = false) (way : Lane) :
    (router.store lane endpoints).rebalanceFor way =
      ((router.rebalanceFor way).1.store lane endpoints, (router.rebalanceFor way).2) := by
  unfold rebalanceFor
  split
  · exact router.rebalance_store endpoints inaudible
  · rfl

theorem muteFor_store (inaudible : lane.isAudible = false) (way : Lane) :
    (router.store lane endpoints).muteFor way = router.muteFor way := by
  cases lane <;> first | rfl | cases inaudible

variable {router}

/-- Endpoints stored for a lane that is off and not audible have no part in what a call does. -/
theorem onRouter_store (inaudible : lane.isAudible = false) (off : router.disabled.get lane = true)
    {call : RouterCall} (leaves : call ≠ .setDisabled lane false) :
    ∃ stored, call.onRouter (router.store lane endpoints) =
      ((call.onRouter router).1.store lane stored, (call.onRouter router).2) := by
  have disabled : (router.store lane endpoints).disabled = router.disabled := rfl
  cases call with
  | setRoute way other =>
      dsimp only [RouterCall.onRouter, setRoute]
      rw [disabled]
      by_cases same : way = lane
      · subst same
        rw [if_pos off, if_pos off, store_store]
        exact ⟨other, Prod.ext (router.store_store other other).symm rfl⟩
      · refine ⟨endpoints, ?_⟩
        rw [store_comm router endpoints same, rebalanceFor_store _ _ inaudible,
          muteFor_store router _ inaudible, disableLane_store router _ same,
          enableLane_store _ _ same]
        split <;> rfl
  | setDisabled way turned =>
      refine ⟨endpoints, ?_⟩
      dsimp only [RouterCall.onRouter, setDisabled]
      rw [disabled]
      by_cases same : way = lane
      · subst same
        cases turned with
        | false => exact absurd rfl leaves
        | true => rw [if_pos off, if_pos off]
      · rw [rebalanceFor_store _ _ inaudible, muteFor_store router _ inaudible,
          disableLane_store router _ same, enableLane_store router _ same]
        split
        · rfl
        · split <;> rfl
  | setCallVolume volume =>
      exact ⟨endpoints, rebalance_store { router with callVolume := volume } _ inaudible⟩
  | setMediaVolume volume =>
      exact ⟨endpoints, rebalance_store { router with mediaVolume := volume } _ inaudible⟩

end Store

theorem unwinding_store (inaudible : lane.isAudible = false) :
    Unwinding (fun _ => true) (· ≠ .setDisabled lane false) fun router other =>
      router.disabled.get lane = true ∧ ∃ endpoints, other = router.store lane endpoints := by
  rintro router _ ⟨off, endpoints, rfl⟩ call leaves
  obtain ⟨stored, same⟩ := onRouter_store endpoints inaudible off leaves
  rw [same]
  exact ⟨⟨((alike_store off endpoints).onRouter leaves).off, stored, rfl⟩, rfl⟩

end Router

/-! ## Lanes that are audible -/

namespace EndpointSet

/-- Meeting is symmetric. -/
theorem meets_comm (a b : EndpointSet) : a.meets b = b.meets a := by
  unfold meets
  rw [UInt32.and_comm]

theorem and_of_and_not {a b : UInt32} (none : a &&& ~~~b = 0) : a &&& b = a := by
  have bits := congrArg UInt32.toBitVec none
  apply UInt32.toBitVec_inj.mp
  apply BitVec.eq_of_getLsbD_eq
  intro index inside
  have bit := congrArg (·.getLsbD index) bits
  simp [inside] at bit ⊢
  exact bit

/-- Where a set has an endpoint that another has not, some part of the one misses the other. -/
theorem exists_meets_misses {a b : EndpointSet} (some : a.bits &&& ~~~b.bits ≠ 0) :
    ∃ part : EndpointSet, a.meets part = true ∧ b.meets part = false := by
  refine ⟨⟨a.bits &&& ~~~b.bits⟩, ?_, ?_⟩ <;> unfold meets
  · rw [← UInt32.and_assoc, UInt32.and_self]
    exact bne_iff_ne.mpr some
  · rw [UInt32.and_comm, UInt32.and_assoc, UInt32.and_comm (~~~b.bits), UInt32.and_not_self,
      UInt32.and_zero]
    rfl

/-- Of two different sets, one has a part that does not meet the other. -/
theorem exists_meets_ne {a b : EndpointSet} (ne : a ≠ b) :
    ∃ part : EndpointSet, a.meets part ≠ b.meets part := by
  by_cases left : a.bits &&& ~~~b.bits = 0
  · by_cases right : b.bits &&& ~~~a.bits = 0
    · have same : a.bits = b.bits := by
        rw [← and_of_and_not left, UInt32.and_comm, and_of_and_not right]
      exact absurd (congrArg EndpointSet.mk same) ne
    · obtain ⟨part, meets, misses⟩ := exists_meets_misses right
      exact ⟨part, by simp [meets, misses]⟩
  · obtain ⟨part, meets, misses⟩ := exists_meets_misses left
    exact ⟨part, by simp [meets, misses]⟩

end EndpointSet

/-- Whether the gain of the playback lane is set to another level at half the volume. -/
def CodecTables.Scales (tables : CodecTables) : Prop :=
  ∃ gain, tables.laneGain? .playback = some gain ∧ gain.level 0.5 ≠ gain.level 1

/-- Calls that leave a lane off. -/
def LeavesOff (lane : Lane) (calls : List (Conditions × RouterCall)) : Prop :=
  ∀ entry ∈ calls, entry.2 ≠ .setDisabled lane false

/-- Calls that bring endpoints to a lane, with media at half the volume of calls. -/
def halving (way : Lane) (endpoints : EndpointSet) : List (Conditions × RouterCall) :=
  [({}, .setRoute way endpoints), ({}, .setMediaVolume 0.5), ({}, .setCallVolume 1)]

/-- The same volume of calls once more. -/
def repeating : List (Conditions × RouterCall) :=
  [({}, .setCallVolume 1)]

namespace Router

variable {router : Router} {lane : Lane}

/-- Whether endpoints are shared depends on the two audible lanes. -/
theorem exists_isShared_eq (audible : lane.isAudible = true) : ∃ way ≠ lane,
    ∀ router : Router, router.isShared =
      (router.routes.get lane).meets (router.routes.get way) := by
  cases lane with
  | playback => exact ⟨.downlink, nofun, fun _ => rfl⟩
  | downlink => exact ⟨.playback, nofun, fun _ => EndpointSet.meets_comm _ _⟩
  | capture => cases audible
  | uplink => cases audible

/-- While the factor does not grow, the gain of the playback lane is set first. -/
theorem exists_rebalance_eq {gain : Gain}
    (controlled : router.tables.laneGain? .playback = some gain)
    (falls : router.balancedFactor ≤ router.playbackFactor) :
    ∃ rest, router.rebalance.2 = gainStep router.balancedFactor gain :: rest := by
  unfold rebalance laneGainSteps
  rw [controlled]
  dsimp only
  rw [if_pos falls]
  exact ⟨_, rfl⟩

/-- A router with endpoints on one lane and media at half the volume of calls, which is balanced
by that. -/
structure Halved (router : Router) (way : Lane) (endpoints : EndpointSet) (after : Router) :
    Prop where
  tables : after.tables = router.tables
  routes : after.routes = router.routes.set way endpoints
  callVolume : after.callVolume = 1
  factor : after.balancedFactor = if after.isShared then 0.5 else 1
  settled : after.playbackFactor = after.balancedFactor

/-- Halving both volumes after storing a route balances for it. -/
theorem halved_afterCalls (router : Router) (way : Lane) (endpoints : EndpointSet) :
    router.Halved way endpoints (router.afterCalls ((halving way endpoints).map Prod.snd)) where
  tables := router.tables_afterCalls _
  routes := router.routes_setRoute way endpoints
  callVolume := rfl
  factor := by
    have louder : (0.5 : Float32) < 1 := by decide +kernel
    have ratio : (0.5 : Float32) / 1 = 0.5 := by decide +kernel
    change (if _ && decide ((0.5 : Float32) < 1) then (0.5 : Float32) / 1 else 1) = _
    rw [ratio, decide_eq_true louder, Bool.and_true]
  settled := rfl

/-- Setting the volume of calls to what it is. -/
theorem setCallVolume_self {volume : Float32} (same : router.callVolume = volume) :
    router.setCallVolume volume = router.rebalance := by
  subst same
  rfl

end Router

namespace Run

variable {run : Run} {router : Router} {lane : Lane}

/-- The run with other endpoints stored for a lane, and nothing else changed. -/
def storing (run : Run) (lane : Lane) (endpoints : EndpointSet) : Run :=
  { run with machine := run.machine.reroute fun router => (router.store lane endpoints, []) }

theorem router_storing (there : run.machine.hardware.router = some router) (lane : Lane)
    (endpoints : EndpointSet) :
    (run.storing lane endpoints).machine.hardware.router = some (router.store lane endpoints) :=
  congrArg (Option.map fun router : Router => router.store lane endpoints) there

/-- Storing the route that is stored is doing nothing. -/
theorem storing_self (there : run.machine.hardware.router = some router) :
    run.storing lane (router.routes.get lane) = run := by
  unfold storing
  rw [Machine.reroute_of_some _ there, Router.store_self, ← there]
  rfl

/-- Setting the volume of calls to what it is, while the router is balanced, sets the gain of the
playback lane first. -/
theorem exists_writes_eq {gain : Gain} (there : run.machine.hardware.router = some router)
    (controlled : router.tables.laneGain? .playback = some gain)
    (settled : router.balancedFactor ≤ router.playbackFactor)
    (volume : router.callVolume = 1) :
    ∃ rest, (run.calling repeating).writes = run.writes ++
      ⟨gain.control, .number (gain.level router.balancedFactor).toInt32⟩ :: rest := by
  obtain ⟨rest, balanced⟩ := Router.exists_rebalance_eq controlled settled
  have steps : ((RouterCall.setCallVolume 1).onRouter router).2 =
      Router.gainStep router.balancedFactor gain :: rest :=
    (congrArg Prod.snd (Router.setCallVolume_self volume)).trans balanced
  refine ⟨rest.filterMap RouteStep.write?, ?_⟩
  have under : (run.under {}).machine.hardware.router = some router := there
  change ((RouterCall.setCallVolume 1).perform (run.under {})).2.writes = _
  rw [perform_of_some under, writes_steered, steps]
  exact congrArg (run.writes ++ ·) (List.filter_eq_self.mpr fun write _ => write.spares_none)

/-- Once endpoints are on the other audible lane and media is at half the volume of calls, the gain
of the playback lane shows whether the lane shares one of the endpoints. -/
theorem exists_writes_halving {way : Lane} {gain : Gain} (ne : way ≠ lane)
    (shared : ∀ router : Router,
      router.isShared = (router.routes.get lane).meets (router.routes.get way))
    (there : run.machine.hardware.router = some router)
    (controlled : router.tables.laneGain? .playback = some gain) (endpoints : EndpointSet) :
    ∃ rest, (run.calling (halving way endpoints ++ repeating)).writes =
      (run.calling (halving way endpoints)).writes ++ ⟨gain.control, .number (gain.level
        (if (router.routes.get lane).meets endpoints then 0.5 else 1)).toInt32⟩ :: rest := by
  have halved := router.halved_afterCalls way endpoints
  have here := router_calling (halving way endpoints) there
  generalize router.afterCalls ((halving way endpoints).map Prod.snd) = after at halved here
  have meets : after.isShared = (router.routes.get lane).meets endpoints := by
    rw [shared, halved.routes, ByLane.get_set_self, ByLane.get_set_of_ne _ _ ne.symm]
  have settled : after.balancedFactor ≤ after.playbackFactor := by
    rw [halved.settled, halved.factor]
    split <;> decide +kernel
  rw [← halved.tables] at controlled
  rw [← meets, ← halved.factor]
  obtain ⟨rest, writes⟩ := exists_writes_eq here controlled settled halved.callVolume
  refine ⟨rest, Eq.trans ?_ writes⟩
  unfold calling
  rw [List.foldl_append]

/-- Runs that write the same all the time, whatever calls are made on their routers, as long as
those leave a lane off. -/
def SameWrites (lane : Lane) (run twin : Run) : Prop :=
  ∀ calls, LeavesOff lane calls → (twin.calling calls).writes = (run.calling calls).writes

/-- Where routers that only differ in what they store for an audible lane write the same all the
time, they store the same. -/
theorem SameWrites.stored {endpoints : EndpointSet}
    (same : run.SameWrites lane (run.storing lane endpoints))
    (there : run.machine.hardware.router = some router) (audible : lane.isAudible = true)
    (scales : router.tables.Scales) : endpoints = router.routes.get lane := by
  obtain ⟨gain, controlled, scaled⟩ := scales
  obtain ⟨way, ne, shared⟩ := Router.exists_isShared_eq audible
  by_contra differ
  obtain ⟨part, apart⟩ := EndpointSet.exists_meets_ne differ
  have twinThere := router_storing there lane endpoints
  obtain ⟨rest, writes⟩ := exists_writes_halving ne shared there controlled part
  obtain ⟨twinRest, twinWrites⟩ := exists_writes_halving ne shared twinThere controlled part
  have leaves : LeavesOff lane (halving way part ++ repeating) := by
    unfold LeavesOff halving repeating
    simp
  have earlier := same (halving way part) fun entry member =>
    leaves entry (List.mem_append_left _ member)
  have later := same _ leaves
  rw [writes, twinWrites, earlier] at later
  have level := (List.cons.inj (List.append_cancel_left later)).1
  have stored : (router.store lane endpoints).routes.get lane = endpoints :=
    router.routes.get_set_self lane endpoints
  rw [stored] at level
  simp only [Bench.ControlWrite.mk.injEq, ControlValue.number.injEq, true_and] at level
  have level := congrArg Int32.toUInt32 level
  -- One run is at half the volume there, and the other is not.
  cases here : (router.routes.get lane).meets part <;> cases beside : endpoints.meets part
  · exact apart (beside.trans here.symm)
  · rw [here, beside] at level
    exact scaled level
  · rw [here, beside] at level
    exact scaled level.symm
  · exact apart (beside.trans here.symm)

/-- Two runs that went on from routers with different endpoints stored for a lane: what they have in
common all the same. -/
structure StoredInert (tables : CodecTables) (lane : Lane) (run twin : Run) : Prop where
  /-- The links are held, opened and closed alike. -/
  radio : twin.radio = run.radio
  /-- All controls but the gains are written alike. -/
  beyondGains : twin.writes.filter tables.beyondGains = run.writes.filter tables.beyondGains
  /-- If the lane is not audible, all controls are. -/
  inaudible : lane.isAudible = false → twin.writes = run.writes

/-- **Stored endpoints.** As long as a lane is off, what is stored for it shows in nothing but the
gains, and in those only if the lane is audible. On tables whose playback lane has a gain, different
endpoints stored for an audible lane do show there. -/
theorem storedInert (there : run.machine.hardware.router = some router)
    (off : router.disabled.get lane = true) (endpoints : EndpointSet) :
    (∀ calls, LeavesOff lane calls → StoredInert router.tables lane (run.calling calls)
      ((run.storing lane endpoints).calling calls)) ∧
    (router.tables.Scales → (run.SameWrites lane (run.storing lane endpoints) ↔
      lane.isAudible = false ∨ endpoints = router.routes.get lane)) := by
  have twinThere := router_storing there lane endpoints
  have inert : ∀ calls, LeavesOff lane calls → StoredInert router.tables lane (run.calling calls)
      ((run.storing lane endpoints).calling calls) := by
    intro calls leaves
    have start (counts : ControlWrite → Bool) : run.Agree counts (run.storing lane endpoints) :=
      ⟨rfl, rfl⟩
    have alike := (start router.tables.beyondGains).calling
      (Router.unwinding_alike router.tables lane) there twinThere
      ⟨rfl, Router.alike_store off endpoints⟩ leaves
    refine ⟨alike.radio, alike.writes, fun inaudible => ?_⟩
    have agree := (start fun _ => true).calling (Router.unwinding_store inaudible) there twinThere
      ⟨off, endpoints, rfl⟩ leaves
    simpa only [List.filter_true] using agree.writes
  refine ⟨inert, fun scales => ⟨fun same => ?_, ?_⟩⟩
  · cases audible : lane.isAudible with
    | false => exact .inl rfl
    | true => exact .inr (same.stored there audible scales)
  · rintro (inaudible | rfl) calls leaves
    · exact (inert calls leaves).inaudible inaudible
    · rw [storing_self there]

/-- A fresh router for the stock codec that has playback off. -/
def silencedRouter : Router :=
  { tables := .stock, disabled := ⟨false, true, false, false⟩ }

theorem off_silencedRouter : silencedRouter.disabled.get .playback = true :=
  rfl

/-- That router on a mixer without faults. -/
def silencedStock : Run :=
  wiredStock.calling [({}, .setDisabled .playback true)]

theorem router_silencedStock : silencedStock.machine.hardware.router = some silencedRouter := by
  have there := router_calling [({}, .setDisabled .playback true)] wired_stock.router
  have turned : Router.afterCalls { tables := .stock } [.setDisabled .playback true] =
      silencedRouter := rfl
  rw [List.map_singleton, turned] at there
  unfold silencedStock
  exact there

theorem scales_stock : CodecTables.stock.Scales :=
  ⟨⟨"Master Playback Volume", 231⟩, by decide +kernel, by decide +kernel⟩

/-- Media at half its volume. -/
def mediaHalved : List (Conditions × RouterCall) :=
  [({}, .setMediaVolume 0.5)]

/-- Nothing in the steps turns the lane on again. -/
theorem leavesOff_mediaHalved : LeavesOff .playback mediaHalved := by
  unfold LeavesOff mediaHalved
  simp

/-- The speaker stored for playback that is off leaves the links and the switches alone, but not
the gains. -/
theorem storedInert_silencedStock :
    StoredInert .stock .playback (silencedStock.calling mediaHalved)
      ((silencedStock.storing .playback (.ofList [.speaker])).calling mediaHalved) ∧
    ¬ silencedStock.SameWrites .playback
      (silencedStock.storing .playback (.ofList [.speaker])) := by
  obtain ⟨inert, differ⟩ := storedInert router_silencedStock off_silencedRouter
    (.ofList [.speaker])
  refine ⟨inert mediaHalved leavesOff_mediaHalved, fun same => ?_⟩
  rcases (differ scales_stock).mp same with inaudible | stored
  · cases inaudible
  · exact absurd stored (by decide)

/-- The speaker stored for playback that is off has its gain set with the volume of media. -/
theorem not_storedInert : ¬ ∀ (run : Run) (router : Router) (lane : Lane) (endpoints : EndpointSet)
    (calls : List (Conditions × RouterCall)), run.machine.hardware.router = some router →
      router.disabled.get lane = true → LeavesOff lane calls →
        ((run.storing lane endpoints).calling calls).writes = (run.calling calls).writes ∧
          ((run.storing lane endpoints).calling calls).radio = (run.calling calls).radio := by
  intro holds
  have same := (holds silencedStock silencedRouter .playback (.ofList [.speaker]) mediaHalved
    router_silencedStock off_silencedRouter leavesOff_mediaHalved).1
  exact absurd same (by decide +kernel)

end Run

end PhoneAudio
