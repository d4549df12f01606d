import PhoneAudio.Machine.Run

/-!
# Where actions lead

Reasoning about an action by what a run shows: a run is related to an abstract state, and the action
leads from every run that shows one state to a run that shows another (`PhoneAudio.Act.Leads`). The
rules follow the way actions are put together.
-/

namespace PhoneAudio

namespace Act

variable {α γ β : Type} {shows : Run → β → Prop} {before : β}

theorem bind_apply (action : Act α) (next : α → Act γ) (run : Run) :
    (action >>= next) run = next (action run).1 (action run).2 :=
  rfl

theorem pure_apply (answer : α) (run : Run) : (pure answer : Act α) run = (answer, run) :=
  rfl

theorem machine_apply (run : Run) : machine run = (run.machine, run) :=
  rfl

theorem hardware_apply (run : Run) : hardware run = (run.machine.hardware, run) :=
  rfl

theorem stream_apply (id : StreamId) (run : Run) :
    stream id run = (run.machine.stream id, run) :=
  rfl

/-- From every run that shows a state, an action leads to a run that shows a state as described,
with an answer as described. -/
def Leads (shows : Run → β → Prop) (action : Act α) (before : β) (post : α → β → Prop) : Prop :=
  ∀ run, shows run before → ∃ after, shows (action run).2 after ∧ post (action run).1 after

/-- An action leads to less than it leads to. -/
theorem Leads.mono {action : Act α} {post weaker : α → β → Prop}
    (leads : Leads shows action before post)
    (weaken : ∀ answer after, post answer after → weaker answer after) :
    Leads shows action before weaker := by
  intro run shown
  obtain ⟨after, holds, described⟩ := leads run shown
  exact ⟨after, holds, weaken _ _ described⟩

theorem leads_pure (answer : α) {post : α → β → Prop} (holds : post answer before) :
    Leads shows (pure answer) before post :=
  fun _ shown => ⟨before, shown, holds⟩

/-- An action leads where its second part leads from where its first part led. -/
theorem Leads.bind {action : Act α} {next : α → Act γ} {between : α → β → Prop}
    {post : γ → β → Prop} (first : Leads shows action before between)
    (second : ∀ answer middle, between answer middle →
      Leads shows (next answer) middle post) :
    Leads shows (action >>= next) before post := by
  intro run shown
  obtain ⟨middle, holds, described⟩ := first run shown
  exact second _ middle described _ holds

/-- An action that leads to one state only, followed by another. -/
theorem Leads.then {action : Act α} {next : α → Act γ} {middle : β} {post : γ → β → Prop}
    (first : Leads shows action before fun _ after => after = middle)
    (second : ∀ answer, Leads shows (next answer) middle post) :
    Leads shows (action >>= next) before post := by
  refine first.bind fun answer after same => ?_
  rw [same]
  exact second answer

theorem Leads.after_pure {answer : α} {next : α → Act γ} {post : γ → β → Prop}
    (leads : Leads shows (next answer) before post) :
    Leads shows (pure answer >>= next) before post :=
  leads

/-- An action that only reads what is shown, followed by another. -/
theorem Leads.read {action : Act α} {next : α → Act γ} {answers : α → Prop}
    {post : γ → β → Prop}
    (first : Leads shows action before fun answer after => after = before ∧ answers answer)
    (second : ∀ answer, answers answer → Leads shows (next answer) before post) :
    Leads shows (action >>= next) before post := by
  refine first.bind fun answer after ⟨same, described⟩ => ?_
  rw [same]
  exact second answer described

/-- An action that shows nothing leaves what is shown. -/
theorem leads_of_unseen {action : Act α}
    (unseen : ∀ run state, shows run state → shows (action run).2 state) :
    Leads shows action before fun _ after => after = before :=
  fun run shown => ⟨before, unseen run before shown, rfl⟩

end Act

end PhoneAudio
