import PhoneAudio.Handset.Transfer

/-!
# What sources report

A filter fails exactly when the source under it does, with the same failure, and asks it for nothing
more after that. So the failure that a read ends with is the only one that its source met
(`PhoneAudio.Act.collect_reports`), unless the read ends because no frames came.
-/

namespace PhoneAudio

/-- The failure of an outcome, if it failed. -/
def failures {ε α : Type} : Except ε α → List ε
  | .ok _ => []
  | .error error => [error]

/-- Mapping an answer leaves its failure. -/
theorem failures_map {ε α β : Type} (f : α → β) (outcome : Except ε α) :
    failures (outcome.map f) = failures outcome := by
  cases outcome <;> rfl

/-- A relation between the state before and after that says which failures were met in between, and
goes on from one state to the next. -/
structure Meeting {σ : Type} (meets : σ → List PcmError → σ → Prop) : Prop where
  refl : ∀ state, meets state [] state
  trans : ∀ {first middle last failures more}, meets first failures middle →
    meets middle more last → meets first (failures ++ more) last

/-- A source that fails exactly when it met a failure. -/
def Source.Reports {σ : Type} (source : Source σ) (meets : σ → List PcmError → σ → Prop) : Prop :=
  ∀ wanted state, meets state (failures (source wanted state).1.frames) (source wanted state).2

variable {σ : Type} {source : Source σ} {meets : σ → List PcmError → σ → Prop}

/-- Failures are met behind a filter that keeps its own state. -/
theorem Meeting.behind {φ : Type} (meeting : Meeting meets) :
    Meeting fun (first : φ × σ) failures last => meets first.2 failures last.2 :=
  ⟨fun state => meeting.refl state.2, meeting.trans⟩

namespace Source.Reports

theorem downmix (reports : source.Reports meets) :
    (Downmix.through source).Reports fun first failures last => meets first.2 failures last.2 :=
  fun wanted state => reports (2 * min wanted state.1.capacity) state.2

theorem optionally {φ : Type} {through : Source σ → Source (φ × σ)} (reports : source.Reports meets)
    (filtered : (through source).Reports fun first failures last =>
      meets first.2 failures last.2) :
    (Source.optionally through source).Reports fun first failures last =>
      meets first.2 failures last.2 := by
  rintro wanted ⟨filter, state⟩
  cases filter with
  | none => exact reports wanted state
  | some filter => exact filtered wanted (filter, state)

end Source.Reports

namespace Decimator

/-- A refill meets the failure that it answers. -/
theorem refill_reports (meeting : Meeting meets) (reports : source.Reports meets)
    (decimator : Decimator) (state : σ) :
    meets state (failures (refill source decimator state).1)
      (refill source decimator state).2.2 := by
  unfold refill
  dsimp only
  split
  · exact meeting.refl state
  · have met := reports ((decimator.capacity - decimator.waiting) * decimator.channels) state
    generalize source ((decimator.capacity - decimator.waiting) * decimator.channels) state =
      delivered at met ⊢
    obtain ⟨⟨samples, frames⟩, after⟩ := delivered
    match frames with
    | .error error => exact met
    | .ok 0 => exact met
    | .ok (got + 1) => exact met

/-- Gathering meets the failure that it ends with. -/
theorem gather_reports (meeting : Meeting meets) (reports : source.Reports meets)
    (rounds wanted : Nat) (decimator : Decimator) (state : σ) :
    meets state (gather source rounds wanted decimator state).1.2.toList
      (gather source rounds wanted decimator state).2.2 := by
  induction rounds generalizing wanted decimator state with
  | zero => exact meeting.refl state
  | succ rounds ih =>
      rw [gather]
      split
      · exact meeting.refl state
      have met := refill_reports meeting reports decimator state
      generalize refill source decimator state = refilled at met
      obtain ⟨outcome, between, next⟩ := refilled
      match outcome with
      | .error error => exact met
      | .ok 0 => exact met
      | .ok (got + 1) => exact meeting.trans met (ih _ _ next)

/-- A decimator fails when the source under it fails. -/
theorem through_reports (meeting : Meeting meets) (reports : source.Reports meets) :
    (through source).Reports fun first failures last => meets first.2 failures last.2 := by
  rintro wanted ⟨decimator, state⟩
  simp only [through]
  generalize wanted / decimator.channels = frames
  have met := gather_reports meeting reports
    (missing (decimator.takeFinished frames).2.stages
      (frames - (decimator.takeFinished frames).1.length))
    (frames - (decimator.takeFinished frames).1.length) (decimator.takeFinished frames).2 state
  generalize gather source _ _ _ _ = gathered at met ⊢
  obtain ⟨⟨more, failure⟩, after, last⟩ := gathered
  cases failure <;> exact met

end Decimator

/-- A pipeline fails when the source under it fails. -/
theorem Pipeline.through_reports (meeting : Meeting meets) (reports : source.Reports meets) :
    (Pipeline.through source).Reports fun first failures last => meets first.2 failures last.2 := by
  have mixed := reports.optionally reports.downmix
  have decimated := mixed.optionally (Decimator.through_reports meeting.behind mixed)
  rintro wanted ⟨pipeline, state⟩
  exact decimated wanted (pipeline.decimator, pipeline.downmix, state)

namespace Act

/-- The error of a read for which no frames came. -/
def noFrames : AudioError :=
  .pcm (.transfer "capture chain produced no frames")

/-- Collecting fails when its source fails, with the same failure, or when no frames come. The
latter means that the source gave none, in one of the states that it keeps to. -/
theorem collect_reports_or_dry (meeting : Meeting meets) (reports : source.Reports meets)
    (channels : Nat) (keeps : σ → Prop) (dry : Prop)
    (stays : ∀ wanted state, keeps state → keeps (source wanted state).2)
    (dries : ∀ frames state, keeps state → 0 < frames →
      (source (frames * channels) state).1.frames = .ok 0 → dry)
    (pulls frames : Nat) (buffer : List Int16) (state : σ) (kept : keeps state) :
    ∃ met, meets state met (collect source channels pulls frames buffer state).2 ∧
      (failures (collect source channels pulls frames buffer state).1.1 = met.map .pcm ∨
        dry ∧ (collect source channels pulls frames buffer state).1.1 = .error noFrames ∧
          met = []) := by
  induction pulls generalizing frames buffer state with
  | zero => exact ⟨[], meeting.refl state, .inl rfl⟩
  | succ pulls ih =>
      rw [collect]
      split
      · exact ⟨[], meeting.refl state, .inl rfl⟩
      rename_i some
      have first := reports (frames * channels) state
      have kept' := stays (frames * channels) state kept
      have given := dries frames state kept (Nat.pos_of_ne_zero some)
      generalize source (frames * channels) state = delivered at first kept' given
      obtain ⟨⟨samples, outcome⟩, next⟩ := delivered
      match outcome with
      | .error error => exact ⟨[error], first, .inl rfl⟩
      | .ok 0 => exact ⟨[], first, .inr ⟨given rfl, rfl, rfl⟩⟩
      | .ok (got + 1) =>
          obtain ⟨met, rest, ended⟩ := ih (frames - (got + 1)) _ next kept'
          exact ⟨met, meeting.trans first rest, ended⟩

/-- **Collecting** fails when its source fails, with the same failure, or when no frames come. -/
theorem collect_reports (meeting : Meeting meets) (reports : source.Reports meets)
    (channels pulls frames : Nat) (buffer : List Int16) (state : σ) :
    ∃ met, meets state met (collect source channels pulls frames buffer state).2 ∧
      (failures (collect source channels pulls frames buffer state).1.1 = met.map .pcm ∨
        (collect source channels pulls frames buffer state).1.1 = .error noFrames ∧ met = []) := by
  obtain ⟨met, moved, same | ⟨-, none⟩⟩ := collect_reports_or_dry meeting reports channels
    (fun _ => True) True (fun _ _ => id) (fun _ _ _ _ _ => trivial) pulls frames buffer state
    trivial
  · exact ⟨met, moved, .inl same⟩
  · exact ⟨met, moved, .inr none⟩

end Act

end PhoneAudio
