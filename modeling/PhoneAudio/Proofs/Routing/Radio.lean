import PhoneAudio.Proofs.Routing.Calls

/-!
# What the Bluetooth links go by

What becomes of the Bluetooth links and the PCM driver when steps are taken, and which calls they
get, depends on the holds that are taken and let go of, and neither on the router nor on the mixer
(`PhoneAudio.Run.radio_steered`).
-/

namespace PhoneAudio

/-- Whether a step takes or lets go of a hold. -/
def RouteStep.isHold : RouteStep → Bool
  | write .. => false
  | hold _ | letGo _ => true

/-- Whether something that happens is a call to the PCM driver. -/
def Happening.isPcmCall : Happening → Bool
  | openPcm .. | closePcm .. | startPcm .. | writePcm .. | readPcm .. => true
  | _ => false

namespace Run

/-- The calls to the PCM driver so far. -/
def pcmCalls (run : Run) : List Happening :=
  (run.history.map Moment.what).filter Happening.isPcmCall

/-- The Bluetooth links, the PCM driver and the calls to it. -/
def radio (run : Run) : Links × Bench.Pcm × List Happening :=
  (run.machine.hardware.links, run.machine.drivers.pcm, run.pcmCalls)

end Run

namespace Act

variable {α γ β : Type} {view : Run → β}

/-- An action goes by what is viewed of a run: on runs that look alike it has the same answer, and
they look alike afterwards. -/
def GoesBy (view : Run → β) (action : Act α) : Prop :=
  ∀ run twin, view run = view twin →
    (action run).1 = (action twin).1 ∧ view (action run).2 = view (action twin).2

theorem goesBy_pure (answer : α) : GoesBy view (pure answer : Act α) :=
  fun _ _ same => ⟨rfl, same⟩

/-- Going by a view is handed on from one action to the next. -/
theorem GoesBy.bind {action : Act α} {next : α → Act γ} (first : GoesBy view action)
    (second : ∀ answer, GoesBy view (next answer)) : GoesBy view (action >>= next) := by
  intro run twin same
  obtain ⟨answers, between⟩ := first run twin same
  rw [bind_apply, bind_apply, ← answers]
  exact second _ _ _ between

/-- An action without an answer that leaves what is viewed goes by it. -/
theorem Keeps.goesBy {action : Act Unit} (keeps : Keeps view action) : GoesBy view action :=
  fun run twin same => ⟨rfl, (keeps run).trans (same.trans (keeps twin).symm)⟩

theorem pcmCalls_note (what : Happening) (run : Run) :
    (note what run).2.pcmCalls = run.pcmCalls ++ [what].filter Happening.isPcmCall :=
  happened_note _ what run

/-- Reading nothing of the audio hardware but the links. -/
theorem goesBy_links {next : Hardware → Act α}
    (reads : ∀ hardware other, hardware.links = other.links → next hardware = next other)
    (goes : ∀ hardware, GoesBy Run.radio (next hardware)) :
    GoesBy Run.radio (hardware >>= next) := by
  intro run twin same
  have links : run.machine.hardware.links = twin.machine.hardware.links :=
    congrArg Prod.fst same
  change (next run.machine.hardware run).1 = (next twin.machine.hardware twin).1 ∧
    (next run.machine.hardware run).2.radio = (next twin.machine.hardware twin).2.radio
  rw [reads _ _ links]
  exact goes _ run twin same

theorem goesBy_setLink (direction : Direction) (link : LinkEnd) :
    GoesBy Run.radio (setLink direction link) :=
  fun _ _ same => ⟨rfl, congrArg (fun radio => (radio.1.set direction link, radio.2)) same⟩

theorem goesBy_bareCall (what : Happening) (effect : Bench.Pcm → α × Bench.Pcm) :
    GoesBy Run.radio (bareCall what (onPcm effect)) := by
  intro run twin same
  have pcm : run.machine.drivers.pcm = twin.machine.drivers.pcm :=
    congrArg (fun radio => radio.2.1) same
  have calls : run.pcmCalls = twin.pcmCalls := congrArg (fun radio => radio.2.2) same
  have called : (note what run).2.pcmCalls = (note what twin).2.pcmCalls := by
    rw [pcmCalls_note, pcmCalls_note, calls]
  constructor
  · exact congrArg (fun pcm => (effect pcm).1) pcm
  · refine Prod.ext ?_ (Prod.ext ?_ called)
    · exact congrArg (fun radio => radio.1) same
    · exact congrArg (fun pcm => (effect pcm).2) pcm

/-- Opening a link depends on the links and the PCM driver alone. -/
theorem goesBy_openLink (direction : Direction) : GoesBy Run.radio (openLink direction) := by
  apply (goesBy_bareCall _ _).bind
  intro opened
  cases opened with
  | error error => exact goesBy_pure _
  | ok pcm =>
      dsimp only
      split
      · exact (goesBy_bareCall _ _).bind fun _ => goesBy_pure _
      · exact goesBy_pure _

theorem goesBy_closeLink (direction : Direction) : GoesBy Run.radio (closeLink direction) := by
  apply goesBy_links
  · intro hardware other same
    dsimp only
    rw [same]
  · intro hardware
    apply (goesBy_setLink _ _).bind
    intro _
    cases (hardware.links.get direction).pcm with
    | none => exact goesBy_pure _
    | some pcm => exact goesBy_bareCall _ fun driver => ((), driver.closePcm pcm)

/-- Holding a link depends on the links and the PCM driver alone. -/
theorem goesBy_holdLink (direction : Direction) : GoesBy Run.radio (holdLink direction) := by
  apply goesBy_links
  · intro hardware other same
    dsimp only
    rw [same]
  · intro hardware
    dsimp only
    cases Word.next? (hardware.links.get direction).holds with
    | none => exact goesBy_pure _
    | some holds =>
        apply (goesBy_setLink _ _).bind
        intro _
        split
        · exact (goesBy_openLink direction).bind fun pcm => goesBy_setLink direction ⟨1, pcm⟩
        · exact goesBy_pure _

theorem goesBy_letGoLink (direction : Direction) : GoesBy Run.radio (letGoLink direction) := by
  apply goesBy_links
  · intro hardware other same
    dsimp only
    rw [same]
  · intro hardware
    dsimp only
    split
    · apply (goesBy_setLink _ _).bind
      intro _
      split
      · exact goesBy_closeLink direction
      · exact goesBy_pure _
    · exact goesBy_pure _

/-- A call to the mixer leaves the links and the PCM driver. -/
theorem keeps_radio_mixerCall (activity : Activity) (what : Happening)
    (other : what.isPcmCall = false) (effect : Bench.Mixer → α × Bench.Mixer) :
    Keeps Run.radio (call .router activity what (onMixer effect)) := by
  intro run
  have calls := happened_note_of_other other (setActivity activity .router run).2
  exact Prod.ext rfl (Prod.ext rfl calls)

theorem keeps_radio_writeControl (control : String) (value : ControlValue) :
    Keeps Run.radio (writeControl control value) := by
  apply (keeps_radio_mixerCall _ _ rfl _).bind
  intro handle
  cases handle with
  | none => exact keeps_pure _
  | some handle => exact (keeps_radio_mixerCall _ _ rfl _).bind fun _ => keeps_pure _

/-- A step of routing depends on the links and the PCM driver alone, as far as these are concerned.
-/
theorem goesBy_takeStep (step : RouteStep) : GoesBy Run.radio (takeStep step) := by
  cases step with
  | write control value => exact (keeps_radio_writeControl control value).goesBy
  | hold link => exact goesBy_holdLink link
  | letGo link => exact goesBy_letGoLink link

theorem goesBy_takeSteps (steps : List RouteStep) : GoesBy Run.radio (takeSteps steps) := by
  induction steps with
  | nil => exact goesBy_pure _
  | cons step rest ih => exact (goesBy_takeStep step).bind fun _ => ih

/-- Writes among the steps do nothing to the links. -/
theorem radio_takeSteps (steps : List RouteStep) (run : Run) :
    (takeSteps steps run).2.radio = (takeSteps (steps.filter RouteStep.isHold) run).2.radio := by
  induction steps generalizing run with
  | nil => rfl
  | cons step rest ih =>
      cases step with
      | write control value =>
          have written := keeps_radio_writeControl control value run
          exact (goesBy_takeSteps rest _ run written).2.trans (ih run)
      | hold link => exact ih (holdLink link run).2
      | letGo link => exact ih (letGoLink link run).2

end Act

namespace Run

variable {run twin : Run}

/-- Faults of the mixer do nothing to the links. -/
theorem radio_under (same : run.radio = twin.radio) (conditions : Conditions)
    (missing rejected : List String) :
    (run.under conditions).radio =
      (twin.under { conditions with missing := missing, rejected := rejected }).radio :=
  congrArg (fun radio : Links × Bench.Pcm × List Happening =>
    (radio.1, ({ pcm := radio.2.1 : Drivers }.under conditions).pcm, radio.2.2)) same

/-- Routers that take and let go of the same holds do the same to the links. -/
theorem radio_steered (same : run.radio = twin.radio) (router other : Router)
    {steps more : List RouteStep}
    (holds : steps.filter RouteStep.isHold = more.filter RouteStep.isHold) :
    (run.steered router steps).radio = (twin.steered other more).radio := by
  unfold steered
  rw [Act.radio_takeSteps, holds, Act.radio_takeSteps more]
  apply (Act.goesBy_takeSteps _ _ _ _).2
  exact same

end Run

end PhoneAudio
