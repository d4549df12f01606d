import PhoneAudio.Proofs.Routing.Calls

/-!
# Writes

What steps of the router leave in the log of the mixer. A control that is missing or refuses writes
loses its own writes and no others: every write that the steps ask for is attempted
(`PhoneAudio.Act.lookups_takeSteps`), and those to all other controls are logged in order
(`PhoneAudio.Act.mixes_takeSteps`).
-/

namespace PhoneAudio

namespace Bench

/-- The controls that are missing, and those that refuse writes. -/
structure Faults where
  missing : List String := []
  rejected : List String := []

/-- Whether a write goes through in spite of the faults. -/
def Faults.spares (faults : Faults) (write : ControlWrite) : Bool :=
  !faults.missing.contains write.control && !faults.rejected.contains write.control

/-- Without faults, every write goes through. -/
theorem ControlWrite.spares_none (write : ControlWrite) : Faults.spares {} write = true :=
  rfl

namespace Mixer

/-- The faults of the mixer. -/
def faults (mixer : Mixer) : Faults :=
  ⟨mixer.missing, mixer.rejected⟩

theorem spares_faults (mixer : Mixer) (control : String) (value : ControlValue) :
    mixer.faults.spares ⟨control, value⟩ =
      (!mixer.missing.contains control && !mixer.rejected.contains control) :=
  rfl

/-- The mixer after more writes, with other controls found. -/
def logged (mixer : Mixer) (controls : List String) (writes : List ControlWrite) : Mixer :=
  { mixer with controls := controls, writes := mixer.writes ++ writes }

variable {mixer : Mixer}

theorem logged_nil (controls : List String) :
    mixer.logged controls [] = { mixer with controls := controls } := by
  unfold logged
  rw [List.append_nil]

/-- What is logged twice is logged one after the other. -/
theorem logged_logged (controls more : List String) (writes rest : List ControlWrite) :
    (mixer.logged controls writes).logged more rest = mixer.logged more (writes ++ rest) := by
  unfold logged
  rw [List.append_assoc]

/-- A control that is missing is not found. -/
theorem find_of_missing {control : String} (missing : mixer.missing.contains control = true) :
    mixer.find control = (none, mixer) :=
  if_pos missing

/-- A control that is there is found, which writes nothing. -/
theorem exists_find {control : String} (there : ¬ mixer.missing.contains control = true) :
    ∃ handle controls, mixer.find control = (some handle, mixer.logged controls []) ∧
      controls[handle]? = some control := by
  unfold find
  rw [if_neg there]
  cases listed : mixer.controls.idxOf? control with
  | none =>
      refine ⟨_, _, Prod.ext rfl (logged_nil _).symm, ?_⟩
      rw [List.getElem?_append_right (Nat.le_refl _), Nat.sub_self]
      rfl
  | some handle =>
      obtain ⟨inside, here, -⟩ := List.idxOf?_eq_some_iff.mp listed
      refine ⟨handle, mixer.controls, Prod.ext rfl (logged_nil _).symm, ?_⟩
      exact List.getElem?_eq_some_iff.mpr ⟨inside, here⟩

/-- Writing to a control that was found logs the write, unless the control refuses it. -/
theorem write_found {handle : Nat} {control : String}
    (found : mixer.controls[handle]? = some control) (value : ControlValue) :
    (mixer.write handle value).2 = if mixer.rejected.contains control then mixer
      else mixer.logged mixer.controls [⟨control, value⟩] := by
  unfold write
  rw [found]
  dsimp only
  split <;> rfl

end Mixer

end Bench

open Bench (ControlWrite)

/-- What a step writes. -/
def RouteStep.write? : RouteStep → Option ControlWrite
  | write control value => some ⟨control, value⟩
  | hold _ => none
  | letGo _ => none

/-- A run on a mixer. -/
def Run.Mixes (run : Run) (mixer : Bench.Mixer) : Prop :=
  run.machine.drivers.mixer = mixer

namespace Act

variable {mixer : Bench.Mixer}

theorem mixes_call {α : Type} (activity : Activity) (what : Happening)
    (effect : Bench.Mixer → α × Bench.Mixer) :
    Leads Run.Mixes (call .router activity what (onMixer effect)) mixer fun answer after =>
      (answer, after) = effect mixer := by
  rintro run rfl
  exact ⟨_, rfl, rfl⟩

/-- Writing to a control logs the write, if the mixer spares it. -/
theorem mixes_writeControl (control : String) (value : ControlValue) :
    Leads Run.Mixes (writeControl control value) mixer fun _ after =>
      ∃ controls, after =
        mixer.logged controls ([⟨control, value⟩].filter mixer.faults.spares) := by
  rw [List.filter_cons, List.filter_nil, Bench.Mixer.spares_faults]
  by_cases missing : mixer.missing.contains control = true
  · apply (mixes_call _ _ _).bind
    intro answer middle looked
    obtain ⟨rfl, rfl⟩ := Prod.mk.inj (looked.trans (Bench.Mixer.find_of_missing missing))
    rw [missing]
    exact leads_pure _ ⟨middle.controls, (Bench.Mixer.logged_nil _).symm⟩
  · obtain ⟨handle, controls, found, listed⟩ := Bench.Mixer.exists_find missing
    apply (mixes_call _ _ _).bind
    intro answer middle looked
    obtain ⟨rfl, rfl⟩ := Prod.mk.inj (looked.trans found)
    apply (mixes_call _ _ _).bind
    intro answer after set
    have written := (congrArg Prod.snd set).trans (Bench.Mixer.write_found listed value)
    rw [Bool.not_eq_true] at missing
    rw [missing]
    refine leads_pure _ ⟨controls, written.trans ?_⟩
    change (if mixer.rejected.contains control = true then _ else _) = _
    cases mixer.rejected.contains control with
    | false => exact Bench.Mixer.logged_logged _ _ _ _
    | true => rfl

/-- A step of routing logs its write, if it has one and the mixer spares it. -/
theorem mixes_takeStep (step : RouteStep) :
    Leads Run.Mixes (takeStep step) mixer fun _ after =>
      ∃ controls, after =
        mixer.logged controls (step.write?.toList.filter mixer.faults.spares) := by
  -- Links leave the mixer.
  have links : ∀ {action : Act Unit}, Keeps Run.rest action →
      Leads Run.Mixes action mixer fun _ after =>
        ∃ controls, after = mixer.logged controls [] := by
    intro action keeps run shown
    have same : (action run).2.machine.drivers.mixer = run.machine.drivers.mixer :=
      congrArg (fun rest => rest.2.1) (keeps run)
    exact ⟨mixer, same.trans shown, mixer.controls, (Bench.Mixer.logged_nil _).symm⟩
  cases step with
  | write control value => exact mixes_writeControl control value
  | hold link => exact links (keeps_holdLink link)
  | letGo link => exact links (keeps_letGoLink link)

/-- All that the steps write is logged, apart from writes to missing or refusing controls. -/
theorem mixes_takeSteps (steps : List RouteStep) :
    Leads Run.Mixes (takeSteps steps) mixer fun _ after =>
      ∃ controls, after = mixer.logged controls
        ((steps.filterMap RouteStep.write?).filter mixer.faults.spares) := by
  induction steps generalizing mixer with
  | nil => exact leads_pure _ ⟨mixer.controls, (Bench.Mixer.logged_nil _).symm⟩
  | cons step rest ih =>
      apply (mixes_takeStep step).bind
      rintro _ _ ⟨controls, rfl⟩
      apply ih.mono
      rintro _ _ ⟨controls, rfl⟩
      refine ⟨controls, (Bench.Mixer.logged_logged _ _ _ _).trans ?_⟩
      cases step with
      | write control value =>
          have split : (RouteStep.write control value :: rest).filterMap RouteStep.write? =
              [⟨control, value⟩] ++ rest.filterMap RouteStep.write? := rfl
          rw [split, List.filter_append]
          rfl
      | hold link => rfl
      | letGo link => rfl

end Act

/-- The control that something that happens looks up. -/
def Happening.lookup? : Happening → Option String
  | findControl control => some control
  | _ => none

/-- The controls looked up so far. -/
def Run.lookups (run : Run) : List String :=
  run.mixerCalls.filterMap Happening.lookup?

namespace Act

theorem lookups_call {α : Type} (activity : Activity) (what : Happening)
    (mixer : what.isMixerCall = true) (effect : Drivers → α × Drivers) (run : Run) :
    (call .router activity what effect run).2.lookups = run.lookups ++ what.lookup?.toList := by
  unfold Run.lookups
  rw [mixerCalls_call, List.filter_cons_of_pos mixer, List.filter_nil, List.filterMap_append]
  cases what <;> rfl

/-- A control is looked up once for each write. -/
theorem lookups_writeControl (control : String) (value : ControlValue) (run : Run) :
    (writeControl control value run).2.lookups = run.lookups ++ [control] := by
  have found := lookups_call .findingControl (.findControl control) rfl
    (onMixer (·.find control)) run
  unfold writeControl
  rw [bind_apply]
  generalize call .router .findingControl (.findControl control) (onMixer (·.find control)) run =
    answered at found ⊢
  obtain ⟨handle, after⟩ := answered
  cases handle with
  | none => exact found
  | some handle =>
      have set := lookups_call .settingControl (.setControl control value) rfl
        (onMixer (·.write handle value)) after
      exact (set.trans (List.append_nil _)).trans found

/-- Every write that the steps ask for is attempted, whatever becomes of the others. -/
theorem lookups_takeSteps (steps : List RouteStep) (run : Run) :
    (takeSteps steps run).2.lookups =
      run.lookups ++ (steps.filterMap RouteStep.write?).map ControlWrite.control := by
  have links {action : Act Unit} (keeps : Keeps Run.rest action) (run : Run) :
      (action run).2.lookups = run.lookups :=
    congrArg (fun rest => rest.2.2.filterMap Happening.lookup?) (keeps run)
  induction steps generalizing run with
  | nil => exact (List.append_nil _).symm
  | cons step rest ih =>
      apply (ih (takeStep step run).2).trans
      cases step with
      | write control value =>
          rw [takeStep, lookups_writeControl, List.append_assoc]
          rfl
      | hold link =>
          rw [takeStep, links (keeps_holdLink link)]
          rfl
      | letGo link =>
          rw [takeStep, links (keeps_letGoLink link)]
          rfl

end Act

namespace Run

/-- The writes that the mixer has logged. -/
def writes (run : Run) : List ControlWrite :=
  run.machine.drivers.mixer.writes

/-- What a run logs when a router takes steps. -/
theorem writes_steered (run : Run) (router : Router) (steps : List RouteStep) :
    (run.steered router steps).writes = run.writes ++
      (steps.filterMap RouteStep.write?).filter run.machine.drivers.mixer.faults.spares := by
  have start : (Act.changeHardware (fun hardware => { hardware with router := some router })
    run).2.Mixes run.machine.drivers.mixer := rfl
  obtain ⟨_, rfl, controls, same⟩ := Act.mixes_takeSteps steps _ start
  exact congrArg Bench.Mixer.writes same

/-- Steps look up the control of each write. -/
theorem lookups_steered (run : Run) (router : Router) (steps : List RouteStep) :
    (run.steered router steps).lookups =
      run.lookups ++ (steps.filterMap RouteStep.write?).map ControlWrite.control :=
  Act.lookups_takeSteps steps _

end Run

end PhoneAudio
