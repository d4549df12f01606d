import PhoneAudio.Proofs.Routing.Inert

/-!
# Endpoints staged for a lane

New endpoints for a lane can be staged: the lane is turned off, the endpoints are stored, and the
lane is turned on again. The router ends up as if it had replaced the endpoints at once, the links
do the same, and so do all controls but the gains (`PhoneAudio.Run.stagesAlike`). The gains differ
on the way: staging does not silence the endpoints that were in use.
-/

namespace PhoneAudio

open Bench (ControlWrite)

/-- The calls that stage endpoints for a lane. -/
def RouterCall.staging (lane : Lane) (endpoints : EndpointSet) : List RouterCall :=
  [.setDisabled lane true, .setRoute lane endpoints, .setDisabled lane false]

namespace Router

/-- The steps of calls, one call after the other. -/
def stepsOf (router : Router) : List RouterCall → List RouteStep
  | [] => []
  | call :: rest => (call.onRouter router).2 ++ (call.onRouter router).1.stepsOf rest

section Staging

variable {router : Router} {lane : Lane} (endpoints : EndpointSet)

/-- Disabling a lane that is on turns it off and reverts its wirings. -/
theorem setDisabled_true (on : router.disabled.get lane = false) :
    router.setDisabled lane true = (router.turned lane true, router.disableLane lane) := by
  unfold setDisabled
  rw [on]
  rfl

/-- Endpoints of a lane that was turned off are only stored. -/
theorem setRoute_turned :
    (router.turned lane true).setRoute lane endpoints =
      ((router.store lane endpoints).turned lane true, []) := by
  have off : (router.turned lane true).disabled.get lane = true :=
    router.disabled.get_set_self lane true
  unfold setRoute
  rw [if_pos off]
  rfl

/-- Whether a lane is off has no part in the gains. -/
theorem rebalanceFor_turned (way : Lane) (off : Bool) :
    (router.turned lane off).rebalanceFor way =
      ((router.rebalanceFor way).1.turned lane off, (router.rebalanceFor way).2) := by
  unfold rebalanceFor
  split <;> rfl

/-- A lane that is turned off and on again is on. -/
theorem turned_turned (on : router.disabled.get lane = false) (way : Lane) :
    (((router.rebalanceFor way).1.turned lane true).turned lane false) =
      (router.rebalanceFor way).1 := by
  have same : ((router.rebalanceFor way).1.disabled.set lane true).set lane false =
      (router.rebalanceFor way).1.disabled := by
    rw [disabled_rebalanceFor]
    cases lane <;> simp only [ByLane.set, ByLane.get] at on ⊢ <;> rw [← on]
  unfold turned
  rw [same]

/-- Turning a lane on applies what is stored for it. -/
theorem setDisabled_turned (on : router.disabled.get lane = false) :
    (router.turned lane true).setDisabled lane false =
      ((router.rebalanceFor lane).1,
        router.muteFor lane ++ router.enableLane lane ++ (router.rebalanceFor lane).2) := by
  have off : (router.turned lane true).disabled.get lane = true :=
    router.disabled.get_set_self lane true
  unfold setDisabled
  rw [off, rebalanceFor_turned]
  exact Prod.ext (turned_turned on lane) rfl

/-- Setting the route of a lane that is on mutes, disables, enables and balances. -/
theorem setRoute_of_on (on : router.disabled.get lane = false) :
    router.setRoute lane endpoints =
      (((router.store lane endpoints).rebalanceFor lane).1,
        router.muteFor lane ++ router.disableLane lane ++
          (router.store lane endpoints).enableLane lane ++
            ((router.store lane endpoints).rebalanceFor lane).2) := by
  unfold setRoute
  rw [if_neg (by rw [on]; exact Bool.false_ne_true)]

/-- Staging leaves the router as replacing the endpoints at once does. -/
theorem afterCalls_staging (on : router.disabled.get lane = false) :
    router.afterCalls (RouterCall.staging lane endpoints) = (router.setRoute lane endpoints).1 := by
  have stored : (router.store lane endpoints).disabled.get lane = false := on
  change (((router.setDisabled lane true).1.setRoute lane endpoints).1.setDisabled lane false).1 = _
  rw [setDisabled_true on, setRoute_turned, setDisabled_turned stored, setRoute_of_on endpoints on]

/-- The lane is reverted first, and then applied like any lane that is turned on. -/
theorem stepsOf_staging (on : router.disabled.get lane = false) :
    router.stepsOf (RouterCall.staging lane endpoints) =
      router.disableLane lane ++ ((router.store lane endpoints).muteFor lane ++
        (router.store lane endpoints).enableLane lane ++
          ((router.store lane endpoints).rebalanceFor lane).2) := by
  have stored : (router.store lane endpoints).disabled.get lane = false := on
  change (router.setDisabled lane true).2 ++
    (((router.setDisabled lane true).1.setRoute lane endpoints).2 ++
      ((((router.setDisabled lane true).1.setRoute lane endpoints).1.setDisabled lane false).2 ++
        [])) = _
  rw [setDisabled_true on, setRoute_turned, setDisabled_turned stored, List.append_nil,
    List.nil_append]

/-- Staging takes the steps of replacing the endpoints at once, gains apart. -/
theorem counted_staging (on : router.disabled.get lane = false) :
    counted router.tables.beyondGains (router.stepsOf (RouterCall.staging lane endpoints)) =
      counted router.tables.beyondGains (router.setRoute lane endpoints).2 := by
  have silent := (router.setsGains_muteFor lane).counted
  have silentAfter := ((router.store lane endpoints).setsGains_muteFor lane).counted
  have level := ((router.store lane endpoints).setsGains_rebalanceFor lane).counted
  have tables : (router.store lane endpoints).tables = router.tables := rfl
  rw [tables] at silentAfter level
  rw [stepsOf_staging endpoints on, setRoute_of_on endpoints on]
  simp only [counted_append, silent, silentAfter, level, List.nil_append, List.append_nil]

/-- For a lane that is not audible, the steps are the same. -/
theorem stepsOf_staging_of_inaudible (on : router.disabled.get lane = false)
    (inaudible : lane.isAudible = false) :
    router.stepsOf (RouterCall.staging lane endpoints) = (router.setRoute lane endpoints).2 := by
  have silent : router.muteFor lane = [] := if_neg (by simp [inaudible])
  have silentAfter : (router.store lane endpoints).muteFor lane = [] :=
    if_neg (by simp [inaudible])
  rw [stepsOf_staging endpoints on, setRoute_of_on endpoints on, silent, silentAfter,
    List.nil_append, List.nil_append, List.append_assoc]

end Staging

end Router

/-- Steps are taken one after the other. -/
theorem Act.takeSteps_append (steps more : List RouteStep) (run : Run) :
    (takeSteps (steps ++ more) run).2 = (takeSteps more (takeSteps steps run).2).2 := by
  induction steps generalizing run with
  | nil => rfl
  | cons step rest ih => exact ih (takeStep step run).2

namespace Run

variable {counts : ControlWrite → Bool} {run twin third : Run}

/-- Agreeing is transitive. -/
theorem Agree.trans (first : run.Agree counts twin) (second : twin.Agree counts third) :
    run.Agree counts third :=
  ⟨second.radio.trans first.radio, second.writes.trans first.writes⟩

theorem faults_steered (run : Run) (router : Router) (steps : List RouteStep) :
    (run.steered router steps).machine.drivers.mixer.faults = run.machine.drivers.mixer.faults := by
  have start : (Act.changeHardware (fun hardware => { hardware with router := some router })
    run).2.Mixes run.machine.drivers.mixer := rfl
  obtain ⟨_, rfl, controls, same⟩ := Act.mixes_takeSteps steps _ start
  unfold steered
  rw [same]
  rfl

/-- Where a router takes over from another between two steps, the steps do the same. -/
theorem agree_steered_steered (run : Run) (router other : Router) (steps more : List RouteStep) :
    (run.steered other (steps ++ more)).Agree counts
      ((run.steered router steps).steered other more) where
  radio := by
    have started : (run.steered router steps).radio = (run.steered other steps).radio :=
      radio_steered rfl router other rfl
    have renewed : (Act.changeHardware (fun hardware => { hardware with router := some other })
        (run.steered router steps)).2.radio = (run.steered other steps).radio := started
    unfold steered at renewed ⊢
    rw [Act.takeSteps_append]
    exact (Act.goesBy_takeSteps more _ _ renewed).2
  writes := by
    rw [writes_steered, writes_steered, writes_steered, faults_steered, List.append_assoc,
      ← List.filter_append, ← List.filterMap_append]

/-- The run after calls, with the drivers left to themselves. -/
def performing (run : Run) (calls : List RouterCall) : Run :=
  calls.foldl (fun run call => (call.perform run).2) run

/-- The first call is performed first. -/
theorem performing_cons {router : Router} (there : run.machine.hardware.router = some router)
    (call : RouterCall) (rest : List RouterCall) :
    run.performing (call :: rest) =
      (run.steered (call.onRouter router).1 (call.onRouter router).2).performing rest := by
  rw [← perform_of_some there]
  rfl

/-- Calls one after the other lead to the router that they lead to. -/
theorem router_performing {router : Router} (there : run.machine.hardware.router = some router)
    (calls : List RouterCall) :
    (run.performing calls).machine.hardware.router = some (router.afterCalls calls) := by
  induction calls generalizing run router with
  | nil => exact there
  | cons call rest ih =>
      rw [performing_cons there]
      exact ih (router_steered _ _ _)

/-- Calls do what their steps do together. -/
theorem agree_performing {router : Router} (there : run.machine.hardware.router = some router)
    (calls : List RouterCall) :
    (run.steered (router.afterCalls calls) (router.stepsOf calls)).Agree counts
      (run.performing calls) := by
  induction calls generalizing run router with
  | nil => exact ⟨rfl, rfl⟩
  | cons call rest ih =>
      rw [performing_cons there]
      exact (agree_steered_steered run _ _ _ _).trans (ih (router_steered _ _ _))

/-- **Staging.** For a lane that is on, staging endpoints and replacing them at once leave the same
router, with the same endpoints, lanes that are off and volumes. The links are held, opened and
closed alike, and all controls but the gains are written alike. If the lane is not audible, all
controls are. -/
theorem stagesAlike {router : Router} (there : run.machine.hardware.router = some router)
    {lane : Lane} (on : router.disabled.get lane = false) (endpoints : EndpointSet) :
    let direct := run.performing [.setRoute lane endpoints]
    let staged := run.performing (RouterCall.staging lane endpoints)
    (∃ after, direct.machine.hardware.router = some after ∧
        staged.machine.hardware.router = some after) ∧
      direct.Agree router.tables.beyondGains staged ∧
      (lane.isAudible = false → direct.Agree (fun _ => true) staged) := by
  intro direct staged
  have together : direct = run.steered (router.setRoute lane endpoints).1
    (router.setRoute lane endpoints).2 := performing_cons there _ []
  have apart : ∀ counts,
      Router.counted counts (router.stepsOf (RouterCall.staging lane endpoints)) =
        Router.counted counts (router.setRoute lane endpoints).2 → direct.Agree counts staged := by
    intro counts same
    have start : run.Agree counts run := ⟨rfl, rfl⟩
    rw [together]
    exact (start.steered rfl _ _ same).trans (agree_performing there _)
  refine ⟨⟨(router.setRoute lane endpoints).1, ?_, ?_⟩, ?_, fun inaudible => ?_⟩
  · rw [together, router_steered]
  · rw [← Router.afterCalls_staging endpoints on]
    exact router_performing there _
  · exact apart _ (Router.counted_staging endpoints on)
  · exact apart _ (congrArg _ (Router.stepsOf_staging_of_inaudible endpoints on inaudible))

/-- Playback on a headset whose link does not open. -/
def headsetDown : List (Conditions × RouterCall) :=
  [({ openScript := [.fails .disconnected] }, .setRoute .playback (.ofList [.bluetooth]))]

/-- Playback on the headset, with the link held all the same, goes on with the speaker added.
Replacing the endpoints at once has the earlier ones silenced first, and staging them has not. -/
theorem stagesAlike_headset :
    let run := wiredStock.calling headsetDown
    let direct := run.performing [.setRoute .playback (.ofList [.bluetooth, .speaker])]
    let staged := run.performing (RouterCall.staging .playback (.ofList [.bluetooth, .speaker]))
    (∃ after, direct.machine.hardware.router = some after ∧
        staged.machine.hardware.router = some after) ∧
      direct.Agree CodecTables.stock.beyondGains staged ∧ direct.writes ≠ staged.writes := by
  have there := router_calling headsetDown wired_stock.router
  have tables := Router.tables_afterCalls { tables := .stock } (headsetDown.map Prod.snd)
  have on : (Router.afterCalls { tables := .stock }
    (headsetDown.map Prod.snd)).disabled.get .playback = false := by decide +kernel
  generalize Router.afterCalls { tables := .stock } (headsetDown.map Prod.snd) = router
    at there tables on
  have alike := stagesAlike there on (.ofList [.bluetooth, .speaker])
  rw [tables] at alike
  exact ⟨alike.1, alike.2.1, by decide +kernel⟩

end Run

end PhoneAudio
