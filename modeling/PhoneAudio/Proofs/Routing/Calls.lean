import PhoneAudio.Proofs.Machine.Apart
import PhoneAudio.Proofs.Machine.Conditions
import PhoneAudio.Routing.Stock

/-!
# Calls on the router

Runs of calls on a router that was just put on its mixer (`PhoneAudio.Run.calling`), and what the
router does about a call: it reverts the wirings that one lane has in use, applies those that the
lane has in use afterwards, and sets gains around that (`PhoneAudio.RouterCall.works`).
-/

namespace PhoneAudio

/-- A call on the router. -/
inductive RouterCall
  | setRoute (lane : Lane) (endpoints : EndpointSet)
  | setDisabled (lane : Lane) (off : Bool)
  | setCallVolume (volume : Float32)
  | setMediaVolume (volume : Float32)
deriving Inhabited

namespace RouterCall

/-- What the router makes of a call. -/
def onRouter : RouterCall → Router → Router × List RouteStep
  | setRoute lane endpoints => (·.setRoute lane endpoints)
  | setDisabled lane off => (·.setDisabled lane off)
  | setCallVolume volume => (·.setCallVolume volume)
  | setMediaVolume volume => (·.setMediaVolume volume)

/-- Performs a call. -/
def perform : RouterCall → Act Unit
  | setRoute lane endpoints => Act.setRoute lane endpoints
  | setDisabled lane off => Act.setLaneDisabled lane off
  | setCallVolume volume => Act.routeCallVolume volume
  | setMediaVolume volume => Act.routeMediaVolume volume

/-- A call on the router is performed by routing. -/
theorem perform_eq (call : RouterCall) : call.perform = Act.reroute call.onRouter := by
  cases call <;> rfl

/-- The lane that a call has to apply anew, if there is one. -/
def lane? (router : Router) : RouterCall → Option Lane
  | setRoute lane _ => some lane
  | setDisabled lane off => if router.disabled.get lane = off then none else some lane
  | setCallVolume _ => none
  | setMediaVolume _ => none

end RouterCall

/-- The gains that a router sets on its own. -/
def CodecTables.routedGains (tables : CodecTables) : List Gain :=
  tables.endpointGains.map Prod.snd ++ (tables.laneGain? .playback).toList

namespace Router

/-- The wirings that a lane has in use: those of its endpoints in table order, and none while it is
off. -/
def inUse (router : Router) (lane : Lane) : List Wiring :=
  if router.disabled.get lane then []
  else router.tables.wiringOf lane (router.routes.get lane)

/-- The router after calls. -/
def afterCalls (router : Router) (calls : List RouterCall) : Router :=
  calls.foldl (fun router call => (call.onRouter router).1) router

/-- Steps that set gains and do nothing else. -/
def SetsGains (router : Router) (steps : List RouteStep) : Prop :=
  ∀ step ∈ steps, ∃ volume, ∃ gain ∈ router.tables.routedGains, step = gainStep volume gain

theorem SetsGains.nil {router : Router} : router.SetsGains [] :=
  nofun

/-- Steps that set gains may follow one another. -/
theorem SetsGains.append {router : Router} {steps more : List RouteStep}
    (first : router.SetsGains steps) (rest : router.SetsGains more) :
    router.SetsGains (steps ++ more) :=
  fun step member => (List.mem_append.mp member).elim (first step) (rest step)

section Steps

variable (router : Router)

/-- The gains of endpoints are gains that are routed. -/
theorem setsGains_endpointGainSteps (endpoints : EndpointSet) (volume : Float32) :
    router.SetsGains (endpointGainSteps router.tables endpoints volume) := by
  intro step member
  obtain ⟨gain, selected, rfl⟩ := List.mem_map.mp member
  obtain ⟨entry, listed, rfl⟩ := List.mem_map.mp selected
  have there := List.mem_map_of_mem (f := Prod.snd) (List.mem_filter.mp listed).1
  exact ⟨volume, entry.2, List.mem_append_left _ there, rfl⟩

/-- The gain of a lane is one too. -/
theorem setsGains_laneGainSteps (volume : Float32) :
    router.SetsGains (laneGainSteps router.tables .playback volume) := by
  intro step member
  obtain ⟨gain, there, rfl⟩ := List.mem_map.mp member
  exact ⟨volume, gain, List.mem_append_right _ there, rfl⟩

theorem setsGains_muteFor (lane : Lane) : router.SetsGains (router.muteFor lane) := by
  unfold muteFor
  split
  · exact (router.setsGains_endpointGainSteps _ _).append (router.setsGains_endpointGainSteps _ _)
  · exact .nil

/-- Balancing only sets gains. -/
theorem setsGains_rebalance : router.SetsGains router.rebalance.2 := by
  have factor := router.setsGains_laneGainSteps router.balancedFactor
  have sometimes (condition : Prop) [Decidable condition] : router.SetsGains
      (if condition then laneGainSteps router.tables .playback router.balancedFactor else []) := by
    split
    · exact factor
    · exact .nil
  have endpoints := (router.setsGains_endpointGainSteps router.routes.playback
    router.playbackLevel).append
      (router.setsGains_endpointGainSteps router.routes.downlink router.callVolume)
  exact ((sometimes _).append endpoints).append (sometimes _)

theorem setsGains_rebalanceFor (lane : Lane) : router.SetsGains (router.rebalanceFor lane).2 := by
  unfold rebalanceFor
  split
  · exact router.setsGains_rebalance
  · exact .nil

variable {router} {lane : Lane}

theorem inUse_of_off (off : router.disabled.get lane = true) : router.inUse lane = [] :=
  if_pos off

/-- The wirings in use of a lane that is on are those of its endpoints. -/
theorem inUse_of_on (on : router.disabled.get lane = false) :
    router.inUse lane = router.tables.wiringOf lane (router.routes.get lane) :=
  if_neg (by simp [on])

/-- A lane that is on is disabled wiring by wiring. -/
theorem disableLane_of_on (on : router.disabled.get lane = false) :
    router.disableLane lane = (router.inUse lane).flatMap disableSteps := by
  rw [inUse_of_on on]
  rfl

/-- A lane that is on is enabled wiring by wiring. -/
theorem enableLane_of_on (on : router.disabled.get lane = false) :
    router.enableLane lane = (router.inUse lane).flatMap enableSteps := by
  rw [inUse_of_on on]
  rfl

theorem inUse_rebalanceFor (audible lane : Lane) :
    (router.rebalanceFor audible).1.inUse lane = router.inUse lane := by
  unfold rebalanceFor
  split <;> rfl

theorem tables_rebalanceFor (audible : Lane) :
    (router.rebalanceFor audible).1.tables = router.tables := by
  unfold rebalanceFor
  split <;> rfl

/-- A lane only uses what is stored for itself. -/
theorem inUse_congr {other : Router} (tables : other.tables = router.tables)
    (disabled : other.disabled.get lane = router.disabled.get lane)
    (routes : other.routes.get lane = router.routes.get lane) :
    other.inUse lane = router.inUse lane := by
  unfold inUse
  rw [tables, disabled, routes]

end Steps

/-- What the router does when a lane has to be applied anew: it reverts the wirings in use and
applies those in use afterwards. -/
def renewal (before after : Router) (lane : Lane) : List RouteStep :=
  (before.inUse lane).flatMap disableSteps ++ (after.inUse lane).flatMap enableSteps

/-- How a call works: it sets gains before and after one lane is applied anew, if there is one, and
leaves all other lanes. -/
structure Works (before : Router) (lane? : Option Lane) (after : Router)
    (steps : List RouteStep) : Prop where
  tables : after.tables = before.tables
  others : ∀ lane, lane? ≠ some lane → after.inUse lane = before.inUse lane
  steps : ∃ silence gains, before.SetsGains silence ∧ before.SetsGains gains ∧
    steps = silence ++ lane?.toList.flatMap (before.renewal after) ++ gains

/-- Setting a route reverts the wirings of its lane and applies others. -/
theorem works_setRoute (router : Router) (lane : Lane) (endpoints : EndpointSet) :
    router.Works (some lane) (router.setRoute lane endpoints).1
      (router.setRoute lane endpoints).2 := by
  have apart : ∀ other, some lane ≠ some other →
      (router.store lane endpoints).inUse other = router.inUse other := by
    intro other ne
    exact inUse_congr rfl rfl (router.routes.get_set_of_ne endpoints fun same => ne (same ▸ rfl))
  unfold setRoute
  split
  · rename_i off
    refine ⟨rfl, apart, [], [], .nil, .nil, ?_⟩
    have after : (router.store lane endpoints).inUse lane = [] := inUse_of_off off
    simp [renewal, inUse_of_off off, after]
  · rename_i on
    rw [Bool.not_eq_true] at on
    have stored : (router.store lane endpoints).disabled.get lane = false := on
    refine ⟨tables_rebalanceFor lane, fun other ne => ?_, _, _, router.setsGains_muteFor lane,
      (router.store lane endpoints).setsGains_rebalanceFor lane, ?_⟩
    · exact (inUse_rebalanceFor lane other).trans (apart other ne)
    · simp [renewal, inUse_rebalanceFor, disableLane_of_on on, enableLane_of_on stored]

/-- The router with a lane marked as off or on. -/
def turned (router : Router) (lane : Lane) (off : Bool) : Router :=
  { router with disabled := router.disabled.set lane off }

/-- Enabling or disabling a lane applies or reverts its wirings, if it changes anything. -/
theorem works_setDisabled (router : Router) (lane : Lane) (off : Bool) :
    router.Works (if router.disabled.get lane = off then none else some lane)
      (router.setDisabled lane off).1 (router.setDisabled lane off).2 := by
  have apart : ∀ other, some lane ≠ some other →
      (router.turned lane off).inUse other = router.inUse other := by
    intro other ne
    exact inUse_congr rfl (router.disabled.get_set_of_ne off fun same => ne (same ▸ rfl)) rfl
  have marked : (router.turned lane off).disabled.get lane = off :=
    router.disabled.get_set_self lane off
  unfold setDisabled
  split
  · exact ⟨rfl, fun _ _ => rfl, [], [], .nil, .nil, rfl⟩
  rename_i change
  cases off with
  | true =>
      rw [Bool.not_eq_true] at change
      refine ⟨rfl, apart, [], [], .nil, .nil, ?_⟩
      change router.disableLane lane =
        [] ++ [lane].flatMap (router.renewal (router.turned lane true)) ++ []
      simp [renewal, disableLane_of_on change, inUse_of_off marked]
  | false =>
      rw [Bool.not_eq_false] at change
      have same : ∀ other, { (router.rebalanceFor lane).1 with
          disabled := (router.rebalanceFor lane).1.disabled.set lane false }.inUse other =
            (router.turned lane false).inUse other := by
        intro other
        unfold rebalanceFor
        split <;> rfl
      have enabled : router.enableLane lane = (router.turned lane false).enableLane lane := rfl
      refine ⟨tables_rebalanceFor lane, fun other ne => (same other).trans (apart other ne), _, _,
        router.setsGains_muteFor lane, router.setsGains_rebalanceFor lane, ?_⟩
      simp [renewal, same, inUse_of_off change, enabled, enableLane_of_on marked]

end Router

/-- **Calls.** Every call reverts what one lane has in use and applies what the lane has in use
afterwards, if a lane is concerned at all, and sets gains around that. -/
theorem RouterCall.works (call : RouterCall) (router : Router) :
    router.Works (call.lane? router) (call.onRouter router).1 (call.onRouter router).2 := by
  cases call with
  | setRoute lane endpoints => exact router.works_setRoute lane endpoints
  | setDisabled lane off => exact router.works_setDisabled lane off
  | setCallVolume volume =>
      let changed := { router with callVolume := volume }
      exact ⟨rfl, fun _ _ => rfl, [], changed.rebalance.2, .nil, changed.setsGains_rebalance, rfl⟩
  | setMediaVolume volume =>
      let changed := { router with mediaVolume := volume }
      exact ⟨rfl, fun _ _ => rfl, [], changed.rebalance.2, .nil, changed.setsGains_rebalance, rfl⟩

namespace Run

/-- A run in which a router was just put on its mixer, with no hold of a Bluetooth link. -/
def Wired (tables : CodecTables) (run : Run) : Prop :=
  ∃ before : Run, before.machine.hardware.links = {} ∧
    Act.openRouter tables before = (.ok (), run)

/-- The run after calls, each under its own conditions. -/
def calling (run : Run) (calls : List (Conditions × RouterCall)) : Run :=
  calls.foldl (fun run entry => (entry.2.perform (run.under entry.1)).2) run

/-- The run with another router that has taken some of its steps. -/
def steered (run : Run) (router : Router) (steps : List RouteStep) : Run :=
  (Act.takeSteps steps (Act.changeHardware (fun hardware =>
    { hardware with router := some router }) run).2).2

variable {run : Run}

/-- A call on a router gives the next one and takes all its steps. -/
theorem perform_of_some {router : Router} (there : run.machine.hardware.router = some router)
    (call : RouterCall) :
    (call.perform run).2 = run.steered (call.onRouter router).1 (call.onRouter router).2 := by
  rw [call.perform_eq, Act.reroute_of_some there]
  rfl

theorem router_steered (run : Run) (router : Router) (steps : List RouteStep) :
    (run.steered router steps).machine.hardware.router = some router :=
  congrArg (fun machine => machine.hardware.router) (Act.keeps_takeSteps steps _)

/-- The run after the mixer was asked to open. -/
def asking (run : Run) : Run :=
  (Act.call .router .openingMixer .openMixer
    (Act.onMixer fun mixer => (mixer.tryOpen, mixer)) run).2

/-- A mixer that opens gets a router, which starts with its first steps. -/
theorem openRouter_eq (tables : CodecTables) (run : Run) :
    Act.openRouter tables run =
      match run.machine.drivers.mixer.tryOpen with
      | .error error => (.error error, run.asking)
      | .ok () =>
          (.ok (), run.asking.steered { tables := tables } (Router.initialSteps tables)) := by
  have answer : (Act.call .router .openingMixer .openMixer
      (Act.onMixer fun mixer => (mixer.tryOpen, mixer)) run).1 =
        run.machine.drivers.mixer.tryOpen := rfl
  unfold Act.openRouter
  rw [Act.bind_apply, answer]
  cases run.machine.drivers.mixer.tryOpen <;> rfl

/-- A router that was opened has taken the first steps of its tables. -/
theorem Wired.steps {tables : CodecTables} (wired : run.Wired tables) :
    ∃ before : Run, before.machine.hardware.links = {} ∧
      run = before.steered { tables := tables } (Router.initialSteps tables) := by
  obtain ⟨before, free, opened⟩ := wired
  rw [openRouter_eq] at opened
  cases opens : before.machine.drivers.mixer.tryOpen with
  | error error =>
      rw [opens] at opened
      cases opened
  | ok =>
      rw [opens] at opened
      exact ⟨before.asking, free, (congrArg Prod.snd opened).symm⟩

/-- It has the tables that it was opened with, and nothing else yet. -/
theorem Wired.router {tables : CodecTables} (wired : run.Wired tables) :
    run.machine.hardware.router = some { tables := tables } := by
  obtain ⟨before, -, rfl⟩ := wired.steps
  exact before.router_steered _ _

/-- On a mixer that opens, a router can be put. -/
theorem wired_openRouter {before : Run} (free : before.machine.hardware.links = {})
    (opens : before.machine.drivers.mixer.tryOpen = .ok ()) (tables : CodecTables) :
    (Act.openRouter tables before).2.Wired tables := by
  refine ⟨before, free, Prod.ext ?_ rfl⟩
  rw [openRouter_eq, opens]

/-- A router for the stock codec on a mixer without faults. -/
def wiredStock : Run :=
  (Act.openRouter .stock {}).2

theorem wired_stock : wiredStock.Wired .stock :=
  wired_openRouter rfl rfl .stock

section Calling

variable {router : Router} (calls : List (Conditions × RouterCall))

/-- Calls lead to the router that they lead to, whatever the drivers do. -/
theorem router_calling (there : run.machine.hardware.router = some router) :
    (run.calling calls).machine.hardware.router =
      some (router.afterCalls (calls.map Prod.snd)) := by
  induction calls generalizing run router with
  | nil => exact there
  | cons entry more ih =>
      obtain ⟨conditions, call⟩ := entry
      have under : (run.under conditions).machine.hardware.router = some router := there
      refine ih ((congrArg (fun run => run.machine.hardware.router)
        (perform_of_some under call)).trans (router_steered _ _ _))

/-- The last of the calls. -/
theorem calling_concat (there : run.machine.hardware.router = some router)
    (conditions : Conditions) (call : RouterCall) :
    run.calling (calls ++ [(conditions, call)]) =
      ((run.calling calls).under conditions).steered
        (call.onRouter (router.afterCalls (calls.map Prod.snd))).1
        (call.onRouter (router.afterCalls (calls.map Prod.snd))).2 := by
  have under : ((run.calling calls).under conditions).machine.hardware.router =
    some (router.afterCalls (calls.map Prod.snd)) := router_calling calls there
  rw [← perform_of_some under]
  exact List.foldl_append

end Calling

end Run

/-- A fresh router uses nothing. -/
theorem Router.inUse_fresh (tables : CodecTables) (lane : Lane) :
    { tables := tables : Router }.inUse lane = [] := by
  have none : ∀ endpoint, EndpointSet.none.has endpoint = false := by
    intro endpoint
    cases endpoint <;> rfl
  cases lane <;> simp [Router.inUse, CodecTables.wiringOf, ByLane.fill, ByLane.get, none]

/-- Calls one after the other, the last of them last. -/
theorem Router.afterCalls_concat (router : Router) (calls : List RouterCall) (call : RouterCall) :
    router.afterCalls (calls ++ [call]) = (call.onRouter (router.afterCalls calls)).1 :=
  List.foldl_append

/-- Calls leave the tables. -/
theorem Router.tables_afterCalls (router : Router) (calls : List RouterCall) :
    (router.afterCalls calls).tables = router.tables := by
  induction calls generalizing router with
  | nil => rfl
  | cons call more ih => exact (ih _).trans (call.works router).tables

end PhoneAudio
