import PhoneAudio.Capture.Pipeline
import PhoneAudio.Proofs.Resample.Batch

/-!
# Decimation of a stream

A decimator is fed frames in pieces and hands finished frames out in pieces. Its stages always hold
exactly what they still need of the frames fed so far, and what was handed out together with what is
finished is what the stages make of those frames taken as one recording
(`PhoneAudio.Decimator.Holds`). The rounds that a request is given suffice for it, so that a short
answer means that nothing finished is left (`PhoneAudio.Decimator.through_serves`).
-/

namespace PhoneAudio

namespace Frame

theorem length_split (channels count : Nat) (samples : List Int16) :
    (split channels count samples).length = count := by
  induction count generalizing samples with
  | zero => rfl
  | succ count ih => rw [split, List.length_cons, ih]

/-- Frames of one width are found again in their samples. -/
theorem split_toSamples {channels : Nat} {frames : List Frame}
    (widths : ∀ frame ∈ frames, frame.length = channels) :
    split channels frames.length (toSamples frames) = frames := by
  induction frames with
  | nil => rfl
  | cons frame frames ih =>
      have width : frame.length = channels := widths frame (List.mem_cons_self ..)
      have rest := ih fun other member => widths other (List.mem_cons_of_mem _ member)
      have flat : toSamples (frame :: frames) = frame ++ toSamples frames := List.flatten_cons ..
      rw [List.length_cons, split, flat, ← width, List.take_left', List.drop_left', width, rest]
      · rfl
      · rfl

/-- Frames with a sample for each channel have so many samples. -/
theorem length_toSamples {channels : Nat} {frames : List Frame}
    (widths : ∀ frame ∈ frames, frame.length = channels) :
    (toSamples frames).length = frames.length * channels := by
  induction frames with
  | nil => simp [toSamples]
  | cons frame frames ih =>
      have flat : toSamples (frame :: frames) = frame ++ toSamples frames := List.flatten_cons ..
      have same := ih fun other member => widths other (List.mem_cons_of_mem _ member)
      rw [flat, List.length_append, same, widths frame (List.mem_cons_self ..), List.length_cons,
        Nat.succ_mul, Nat.add_comm]

/-- Samples are found again in their frames, if there are no more of them. -/
theorem toSamples_split (channels count : Nat) {samples : List Int16}
    (whole : samples.length = count * channels) :
    toSamples (split channels count samples) = samples := by
  induction count generalizing samples with
  | zero =>
      rw [Nat.zero_mul] at whole
      exact (List.eq_nil_of_length_eq_zero whole).symm
  | succ count ih =>
      have rest : (samples.drop channels).length = count * channels := by
        rw [List.length_drop, whole, Nat.succ_mul, Nat.add_sub_cancel]
      have later := ih rest
      unfold toSamples at later ⊢
      rw [split, List.flatten_cons, later, List.take_append_drop]

/-- Samples behind the frames do not matter. -/
theorem split_take (channels count : Nat) (samples : List Int16) :
    split channels count (samples.take (count * channels)) = split channels count samples := by
  induction count generalizing samples with
  | zero => rfl
  | succ count ih =>
      have first : min channels ((count + 1) * channels) = channels :=
        Nat.min_eq_left (Nat.le_mul_of_pos_left channels (Nat.succ_pos count))
      have rest : (count + 1) * channels - channels = count * channels := by
        rw [Nat.succ_mul, Nat.add_sub_cancel]
      rw [split, split, List.take_take, first, List.drop_take, rest, ih]

/-- The first frames of some are cut from the same samples. -/
theorem take_split (channels : Nat) {kept count : Nat} (le : kept ≤ count)
    (samples : List Int16) :
    (split channels count samples).take kept = split channels kept samples := by
  induction kept generalizing count samples with
  | zero => exact List.take_zero
  | succ kept ih =>
      obtain ⟨count, rfl⟩ := Nat.exists_eq_add_of_le' (Nat.zero_lt_of_lt le)
      rw [split, List.take_succ_cons, split, ih (Nat.le_of_succ_le_succ le)]

end Frame

theorem length_padded {α : Type} [OfNat α 0] (count : Nat) (values : List α) :
    (padded count values).length = count := by
  unfold padded
  rw [List.length_append, List.length_take, List.length_replicate]
  omega

theorem padded_length (samples : List Int16) : padded samples.length samples = samples := by
  simp [padded]

theorem take_padded {count more : Nat} (le : count ≤ more) (samples : List Int16) :
    (padded more samples).take count = padded count samples := by
  unfold padded
  rw [List.take_append, List.take_take, List.take_replicate, List.length_take, Nat.min_eq_left le]
  congr 2
  omega

/-- Frames of padded samples are split off without losing any. -/
theorem Frame.ofSamples_padded {channels : Nat} (positive : 0 < channels) (count : Nat)
    (samples : List Int16) :
    ofSamples channels (padded (count * channels) samples) =
      split channels count (padded (count * channels) samples) := by
  rw [ofSamples, length_padded, Nat.mul_div_cancel _ positive]

namespace Delivery

/-- The frames that a delivery counts, with so many channels. -/
def frameList (channels : Nat) (delivery : Delivery) : List Frame :=
  match delivery.frames with
  | .ok got => Frame.split channels got (padded (got * channels) delivery.samples)
  | .error _ => []

theorem length_frameList (channels : Nat) {delivery : Delivery} {got : Nat}
    (counted : delivery.frames = .ok got) : (delivery.frameList channels).length = got := by
  unfold frameList
  rw [counted]
  exact Frame.length_split ..

/-- The frames of a delivery that was made of frames are these frames. -/
theorem frameList_toSamples {channels : Nat} {frames : List Frame}
    (widths : ∀ frame ∈ frames, frame.length = channels) :
    frameList channels ⟨Frame.toSamples frames, .ok frames.length⟩ = frames := by
  change Frame.split channels frames.length
    (padded (frames.length * channels) (Frame.toSamples frames)) = frames
  rw [← Frame.length_toSamples widths, padded_length, Frame.split_toSamples widths]

/-- A delivery of samples counts their whole frames. -/
theorem frameList_ofSamples (channels : Nat) (samples : List Int16) :
    (ofSamples channels samples).frameList channels = Frame.ofSamples channels samples := by
  have whole := Nat.div_mul_le_self samples.length channels
  unfold frameList ofSamples Frame.ofSamples padded
  dsimp only
  rw [Nat.sub_eq_zero_of_le whole, List.replicate_zero, List.append_nil, Frame.split_take]

/-- The samples of a delivery's frames are those delivered, with silence where there are fewer. -/
theorem toSamples_frameList (channels : Nat) {delivery : Delivery} {got : Nat}
    (counted : delivery.frames = .ok got) :
    Frame.toSamples (delivery.frameList channels) = padded (got * channels) delivery.samples := by
  unfold frameList
  rw [counted]
  exact Frame.toSamples_split channels got (length_padded ..)

end Delivery

namespace Source

variable {σ : Type}

/-- What a source appends to a log, in the states that it keeps to: it counts no more frames than
were asked for and has written those, and the log grows by the frames that it counts. -/
structure Appends (source : Source σ) (channels : Nat) (keeps : σ → Prop)
    (log : σ → List Frame) : Prop where
  stays : ∀ wanted state, keeps state → keeps (source wanted state).2
  within : ∀ wanted state got, keeps state → (source wanted state).1.frames = .ok got →
    got * channels ≤ wanted
  written : ∀ wanted state got, keeps state → (source wanted state).1.frames = .ok got →
    got * channels ≤ (source wanted state).1.samples.length
  log_eq : ∀ wanted state, keeps state →
    log (source wanted state).2 = log state ++ (source wanted state).1.frameList channels

end Source

namespace Decimator

open Resample

/-- What stages in a row make of a recording. -/
def cascade (channels : Nat) (stages : List Stage) (recording : List Frame) : List Frame :=
  stages.foldl (fun frames stage => stage.batch channels frames) recording

/-- Stages that were fed a recording hold what they still need of it, and made these frames. -/
def Holds (channels : Nat) : List (Stage × List Frame) → List Frame → List Frame → Prop
  | [], recording, made => made = recording
  | (stage, held) :: rest, recording, made =>
    held = recording.drop (stage.consumed recording.length) ∧
      Holds channels rest (stage.batch channels recording) made

/-- What has been made is what the stages make of the whole recording at once. -/
theorem Holds.made_eq {channels : Nat} {stages : List (Stage × List Frame)}
    {recording made : List Frame} (holds : Holds channels stages recording made) :
    made = cascade channels (stages.map Prod.fst) recording := by
  induction stages generalizing recording with
  | nil => exact holds
  | cons entry rest ih => exact ih holds.2

/-- Stages that hold nothing were fed nothing. -/
theorem holds_nil (channels : Nat) (stages : List Stage) :
    Holds channels (stages.map fun stage => (stage, [])) [] [] := by
  induction stages with
  | nil => rfl
  | cons stage rest ih =>
      have none : stage.batch channels [] = [] := by cases stage <;> rfl
      refine ⟨(List.drop_nil).symm, ?_⟩
      rw [none]
      exact ih

/-- What has been made has a sample for each channel. -/
theorem Holds.length_of_mem {channels : Nat} {stages : List (Stage × List Frame)}
    {recording made : List Frame} (holds : Holds channels stages recording made)
    (some : stages ≠ []) : ∀ frame ∈ made, frame.length = channels := by
  induction stages generalizing recording with
  | nil => exact (some rfl).elim
  | cons entry rest ih =>
      cases rest with
      | nil =>
          intro frame member
          rw [show made = entry.1.batch channels recording from holds.2] at member
          exact Stage.length_of_mem_batch member
      | cons next rest => exact ih holds.2 (List.cons_ne_nil _ _)

/-- **Feeding in pieces.** After more frames the stages hold what they still need of all of them. -/
theorem Holds.pass {channels : Nat} {stages : List (Stage × List Frame)}
    {recording made : List Frame} (holds : Holds channels stages recording made)
    (frames : List Frame) :
    Holds channels (pass channels stages frames).1 (recording ++ frames)
      (made ++ (pass channels stages frames).2) := by
  induction stages generalizing recording frames with
  | nil =>
      rw [show made = recording from holds]
      rfl
  | cons entry rest ih =>
      obtain ⟨stage, held⟩ := entry
      obtain ⟨rfl, later⟩ := holds
      have next := ih later (stage.run channels
        (recording.drop (stage.consumed recording.length) ++ frames))
      refine ⟨?_, ?_⟩
      · have within := stage.consumed_le recording.length
        have whole := stage.consumed_add recording.length frames.length
        rw [← List.length_append, ← List.length_drop, ← List.length_append] at whole
        rw [whole, ← List.drop_drop, List.drop_append_of_le_length within]
      · rw [Stage.batch_append, ← Stage.run_eq_batch _ _ (_ ++ frames)]
        exact next

/-- Stages stay the stages they are when frames pass. -/
theorem map_fst_pass (channels : Nat) (stages : List (Stage × List Frame)) (frames : List Frame) :
    (pass channels stages frames).1.map Prod.fst = stages.map Prod.fst := by
  induction stages generalizing frames with
  | nil => rfl
  | cons entry rest ih => exact congrArg (entry.1 :: ·) (ih _)

/-- The number of frames that a stage makes of a number of frames. -/
theorem length_run (stage : Stage) (channels : Nat) (frames : List Frame) :
    (stage.run channels frames).length = stage.made * stage.rounds frames.length := by
  rw [Stage.run_eq_batch, Stage.batch, List.length_map, List.length_range]

/-- More frames take more input. -/
theorem inputFor_mono (stage : Stage) (held : Nat) {less more : Nat} (le : less ≤ more) :
    stage.inputFor held less ≤ stage.inputFor held more := by
  cases stage <;> simp only [Stage.inputFor, blockIn, blockOut, lookahead] <;> split <;> split <;>
    omega

/-- Each frame that comes is one less to come. -/
theorem inputFor_after (stage : Stage) (held come wanted : Nat) :
    stage.inputFor (held + come - stage.consumed (held + come))
        (wanted - stage.made * stage.rounds (held + come)) ≤
      stage.inputFor held wanted - come := by
  rw [Stage.consumed_eq]
  unfold Stage.inputFor
  split
  · exact Nat.zero_le _
  · rename_i left
    rw [if_neg (fun none => left (by rw [none, Nat.zero_sub]))]
    cases stage <;>
      simp only [Stage.made, Stage.spent, Stage.rounds, Stage.ahead, blockIn, blockOut, lookahead]
        at left ⊢ <;> omega

/-- Feeding frames lowers the number of frames that are missing by as many, at least. -/
theorem missing_pass (channels : Nat) (stages : List (Stage × List Frame)) (frames : List Frame)
    (wanted : Nat) :
    missing (pass channels stages frames).1 (wanted - (pass channels stages frames).2.length) ≤
      missing stages wanted - frames.length := by
  induction stages generalizing frames with
  | nil => exact Nat.le_refl _
  | cons entry rest ih =>
      obtain ⟨stage, held⟩ := entry
      have made := length_run stage channels (held ++ frames)
      have later := ih (stage.run channels (held ++ frames))
      rw [made, List.length_append] at later
      have step := inputFor_after stage held.length frames.length (missing rest wanted)
      refine Nat.le_trans ?_ step
      have kept : ((held ++ frames).drop (stage.consumed (held ++ frames).length)).length =
          held.length + frames.length - stage.consumed (held.length + frames.length) := by
        rw [List.length_drop, List.length_append]
      rw [← kept]
      exact inputFor_mono stage _ later

/-- Stages that hold no more than they need lack a frame as long as one is wanted. -/
theorem Holds.missing_pos {channels : Nat} {stages : List (Stage × List Frame)}
    {recording made : List Frame} (holds : Holds channels stages recording made) {wanted : Nat}
    (some : 0 < wanted) : 0 < missing stages wanted := by
  induction stages generalizing recording with
  | nil => exact some
  | cons entry rest ih =>
      obtain ⟨stage, held⟩ := entry
      obtain ⟨rfl, later⟩ := holds
      have more := ih later
      rw [missing, List.length_drop, Stage.consumed_eq]
      cases stage <;>
        simp only [Stage.inputFor, Stage.spent, Stage.rounds, Stage.ahead, blockIn, blockOut,
          lookahead] <;> split <;> omega

/-- A decimator was fed a recording, and handed these frames out. -/
def Serves (decimator : Decimator) (recording returned : List Frame) : Prop :=
  Holds decimator.channels decimator.stages recording (returned ++ decimator.finished)

/-- Feeding a decimator makes the recording longer. -/
theorem Serves.feed {decimator : Decimator} {recording returned : List Frame}
    (serves : decimator.Serves recording returned) (frames : List Frame) :
    (decimator.feed frames).Serves (recording ++ frames) returned := by
  have fed := Holds.pass serves frames
  rw [List.append_assoc] at fed
  exact fed

/-- Taking out frames returns them, and leaves the recording. -/
theorem Serves.takeFinished {decimator : Decimator} {recording returned : List Frame}
    (serves : decimator.Serves recording returned) (wanted : Nat) :
    (decimator.takeFinished wanted).2.Serves recording
      (returned ++ (decimator.takeFinished wanted).1) := by
  unfold Serves Decimator.takeFinished
  rw [List.append_assoc, List.take_append_drop]
  exact serves

/-- A decimator just reset was fed nothing. -/
theorem serves_reset (decimator : Decimator) : decimator.reset.Serves [] [] := by
  have empty := holds_nil decimator.channels (decimator.stages.map Prod.fst)
  rw [List.map_map] at empty
  exact empty

theorem reset_feed (decimator : Decimator) (frames : List Frame) :
    (decimator.feed frames).reset = decimator.reset := by
  have kinds := map_fst_pass decimator.channels decimator.stages frames
  have blank := congrArg (List.map fun stage : Stage => (stage, ([] : List Frame))) kinds
  rw [List.map_map, List.map_map] at blank
  simp only [feed, reset, Decimator.mk.injEq, true_and, and_true]
  exact blank

section Kept

variable {σ : Type} {source : Source σ} {keeps : σ → Prop}

/-- A refill keeps the decimator's kind, and what the source keeps to. -/
theorem refill_keeps (stays : ∀ wanted state, keeps state → keeps (source wanted state).2)
    (decimator : Decimator) {state : σ} (kept : keeps state) :
    (refill source decimator state).2.1.reset = decimator.reset ∧
      keeps (refill source decimator state).2.2 := by
  unfold refill
  by_cases room : decimator.capacity - decimator.waiting = 0
  · rw [if_pos room]
    exact ⟨rfl, kept⟩
  · rw [if_neg room]
    have next := stays ((decimator.capacity - decimator.waiting) * decimator.channels) state kept
    rcases equal : source ((decimator.capacity - decimator.waiting) * decimator.channels) state with
      ⟨⟨samples, outcome⟩, final⟩
    rw [equal] at next
    match outcome with
    | .error e => exact ⟨rfl, next⟩
    | .ok 0 => exact ⟨rfl, next⟩
    | .ok (got + 1) => exact ⟨reset_feed decimator _, next⟩

/-- Gathering keeps what the source keeps, and the parts of a decimator that a reset keeps. -/
theorem gather_keeps (stays : ∀ wanted state, keeps state → keeps (source wanted state).2)
    (rounds wanted : Nat) (decimator : Decimator) {state : σ} (kept : keeps state) :
    (gather source rounds wanted decimator state).2.1.reset = decimator.reset ∧
      keeps (gather source rounds wanted decimator state).2.2 := by
  induction rounds generalizing wanted decimator state with
  | zero => exact ⟨rfl, kept⟩
  | succ rounds ih =>
      obtain ⟨kind, next⟩ := refill_keeps stays decimator kept
      rw [gather]
      by_cases stopped : wanted = 0
      · rw [if_pos stopped]
        exact ⟨rfl, kept⟩
      · rw [if_neg stopped]
        rcases equal : refill source decimator state with ⟨answer, between, final⟩
        rw [equal] at kind next
        match answer with
        | .error e => exact ⟨kind, next⟩
        | .ok 0 => exact ⟨kind, next⟩
        | .ok (got + 1) =>
          obtain ⟨later, last⟩ := ih (wanted - (between.takeFinished wanted).1.length)
            (between.takeFinished wanted).2 next
          exact ⟨later.trans kind, last⟩

/-- A pull keeps what the source keeps, and the parts of a decimator that a reset keeps. -/
theorem through_keeps (stays : ∀ wanted state, keeps state → keeps (source wanted state).2)
    (wanted : Nat) (decimator : Decimator) (state : σ) (kept : keeps state) :
    (through source wanted (decimator, state)).2.1.reset = decimator.reset ∧
      keeps (through source wanted (decimator, state)).2.2 :=
  gather_keeps stays _ _ (decimator.takeFinished _).2 kept

theorem channels_eq_of_reset {first second : Decimator} (same : first.reset = second.reset) :
    first.channels = second.channels := by
  have channels := congrArg Decimator.channels same
  exact channels

theorem map_fst_eq_of_reset {first second : Decimator} (same : first.reset = second.reset) :
    first.stages.map Prod.fst = second.stages.map Prod.fst := by
  have stages := congrArg (fun decimator => decimator.stages.map Prod.fst) same
  simp only [reset, List.map_map] at stages
  exact stages

end Kept

section Source

variable {σ : Type} {source : Source σ} {keeps : σ → Prop} {log : σ → List Frame}
  {decimator : Decimator}

/-- A refill counts some frames, which go to the log and into the decimator, or changes neither. -/
theorem refill_cases (positive : 0 < decimator.channels)
    (appends : source.Appends decimator.channels keeps log) {state : σ} (kept : keeps state)
    {answer : Except PcmError Nat} {after : Decimator} {final : σ}
    (equal : refill source decimator state = (answer, after, final)) :
    (∃ got frames, answer = .ok (got + 1) ∧ frames.length = got + 1 ∧
      after = decimator.feed frames ∧ log final = log state ++ frames) ∨
    (∀ got, answer ≠ .ok (got + 1)) ∧ after = decimator ∧ log final = log state := by
  unfold refill at equal
  by_cases room : decimator.capacity - decimator.waiting = 0
  · rw [if_pos room] at equal
    cases equal
    exact .inr ⟨fun got same => by injection same with zero; omega, rfl, rfl⟩
  · rw [if_neg room] at equal
    have within := fun got => appends.within
      ((decimator.capacity - decimator.waiting) * decimator.channels) state got kept
    have grown := appends.log_eq
      ((decimator.capacity - decimator.waiting) * decimator.channels) state kept
    generalize source _ state = delivered at equal within grown
    obtain ⟨⟨samples, outcome⟩, final'⟩ := delivered
    match outcome with
    | .error e =>
      cases equal
      rw [Delivery.frameList, List.append_nil] at grown
      exact .inr ⟨nofun, rfl, grown⟩
    | .ok 0 =>
      cases equal
      simp only [Delivery.frameList, Frame.split, List.append_nil] at grown
      exact .inr ⟨fun got same => by injection same with zero; omega, rfl, grown⟩
    | .ok (got + 1) =>
      have fits : got + 1 ≤ decimator.capacity - decimator.waiting :=
        Nat.le_of_mul_le_mul_right (within _ rfl) positive
      cases equal
      refine .inl ⟨got, _, rfl, Frame.length_split .., ?_, grown⟩
      rw [Nat.min_eq_left fits, Frame.ofSamples_padded positive]

/-- Refilling for as many rounds as frames are missing serves the request, or leaves nothing
finished. -/
theorem gather_serves {rounds wanted : Nat} {state : σ} {returned : List Frame}
    (serves : decimator.Serves (log state) returned) (positive : 0 < decimator.channels)
    (appends : source.Appends decimator.channels keeps log) (kept : keeps state)
    (enough : missing decimator.stages wanted ≤ rounds)
    (empty : 0 < wanted → decimator.finished = [])
    {taken : List Frame} {failure : Option PcmError} {after : Decimator} {final : σ}
    (equal : gather source rounds wanted decimator state = ((taken, failure), after, final)) :
    after.Serves (log final) (returned ++ taken) ∧
      (failure = none → taken.length < wanted → after.finished = []) := by
  induction rounds generalizing wanted decimator state returned taken failure after final with
  | zero =>
      have stopped : wanted = 0 := by
        by_contra some
        have lacking := Holds.missing_pos serves (Nat.pos_of_ne_zero some)
        omega
      cases equal
      rw [List.append_nil]
      exact ⟨serves, fun _ short => absurd short (by rw [stopped]; exact Nat.not_lt_zero _)⟩
  | succ rounds ih =>
      rw [gather] at equal
      by_cases stopped : wanted = 0
      · rw [if_pos stopped] at equal
        cases equal
        rw [List.append_nil]
        exact ⟨serves, fun _ short => absurd short (by rw [stopped]; exact Nat.not_lt_zero _)⟩
      · rw [if_neg stopped] at equal
        have some : 0 < wanted := Nat.pos_of_ne_zero stopped
        rcases refilled : refill source decimator state with ⟨answer, between, next⟩
        rw [refilled] at equal
        have stays := (refill_keeps appends.stays decimator kept).2
        rw [refilled] at stays
        obtain ⟨got, frames, rfl, counted, rfl, grown⟩ | ⟨other, unchanged, same⟩ :=
          refill_cases positive appends kept refilled
        · have fed := serves.feed frames
          rw [← grown] at fed
          have served := fed.takeFinished wanted
          have nothing : decimator.finished = [] := empty some
          have made : (decimator.feed frames).finished =
              (pass decimator.channels decimator.stages frames).2 := by
            change decimator.finished ++ _ = _
            rw [nothing, List.nil_append]
          have left : wanted - ((decimator.feed frames).takeFinished wanted).1.length =
              wanted - (pass decimator.channels decimator.stages frames).2.length := by
            rw [takeFinished, made, List.length_take]
            omega
          have fewer := missing_pass decimator.channels decimator.stages frames wanted
          rw [← left] at fewer
          rcases rest : gather source rounds
              (wanted - ((decimator.feed frames).takeFinished wanted).1.length)
              ((decimator.feed frames).takeFinished wanted).2 next with
            ⟨⟨more, later⟩, last, finish⟩
          have step := ih served positive appends stays
            (Nat.le_trans fewer (by omega))
            (fun lacking => List.drop_eq_nil_of_le (by rw [made]; omega)) rest
          simp only [rest] at equal
          cases equal
          rw [← List.append_assoc]
          refine ⟨step.1, fun whole short => step.2 whole ?_⟩
          rw [List.length_append] at short
          omega
        · rw [unchanged] at equal
          have halted : after = decimator ∧ final = next ∧ taken = [] := by
            match answer, other with
            | .error e, _ => cases equal; exact ⟨rfl, rfl, rfl⟩
            | .ok 0, _ => cases equal; exact ⟨rfl, rfl, rfl⟩
            | .ok (got + 1), other => exact (other got rfl).elim
          obtain ⟨rfl, rfl, rfl⟩ := halted
          rw [List.append_nil, same]
          exact ⟨serves, fun _ _ => empty some⟩

/-- **Serving a request.** A request that succeeds hands out the next frames of what the stages make
of all that the source delivered, and all of them that are finished if it answers short. The frames
that it counts are written. -/
theorem through_serves (positive : 0 < decimator.channels) (staged : decimator.stages ≠ [])
    (appends : source.Appends decimator.channels keeps log) (state : σ) (kept : keeps state)
    {returned : List Frame} (serves : decimator.Serves (log state) returned) {wanted : Nat}
    {delivery : Delivery} {after : Decimator} {final : σ}
    (equal : through source wanted (decimator, state) = (delivery, after, final)) {got : Nat}
    (success : delivery.frames = .ok got) :
    after.Serves (log final) (returned ++ delivery.frameList decimator.channels) ∧
      (got < wanted / decimator.channels → after.finished = []) ∧
      got * decimator.channels ≤ delivery.samples.length := by
  simp only [through] at equal
  generalize wanted / decimator.channels = count at equal ⊢
  have started := serves.takeFinished count
  have first : (decimator.takeFinished count).1.length = min count decimator.finished.length :=
    List.length_take
  have drained : 0 < count - (decimator.takeFinished count).1.length →
      (decimator.takeFinished count).2.finished = [] :=
    fun lacking => List.drop_eq_nil_of_le (by omega)
  rcases rest : gather source
      (missing (decimator.takeFinished count).2.stages
        (count - (decimator.takeFinished count).1.length))
      (count - (decimator.takeFinished count).1.length) (decimator.takeFinished count).2 state with
    ⟨⟨more, failure⟩, last, finish⟩
  have kind := (gather_keeps appends.stays (missing (decimator.takeFinished count).2.stages
    (count - (decimator.takeFinished count).1.length)) (count -
      (decimator.takeFinished count).1.length) (decimator.takeFinished count).2 kept).1
  rw [rest] at kind
  have same : last.reset = decimator.reset := kind
  obtain ⟨ended, short⟩ :=
    gather_serves started positive appends kept (Nat.le_refl _) drained rest
  simp only [rest] at equal
  cases equal
  cases failure with
  | some e => cases success
  | none =>
      cases success
      have widths : ∀ frame ∈ (decimator.takeFinished count).1 ++ more,
          frame.length = decimator.channels := by
        intro frame member
        rw [← channels_eq_of_reset same]
        refine Holds.length_of_mem ended (fun none => staged ?_) frame ?_
        · have kinds := map_fst_eq_of_reset same
          rw [none] at kinds
          exact List.map_eq_nil_iff.mp kinds.symm
        · rw [List.append_assoc, List.append_assoc, ← List.append_assoc _ more]
          exact List.mem_append_right _ (List.mem_append_left _ member)
      refine ⟨?_, fun less => short rfl ?_, Nat.le_of_eq (Frame.length_toSamples widths).symm⟩
      · rw [Option.elim_none, Delivery.frameList_toSamples widths, ← List.append_assoc]
        exact ended
      · rw [List.length_append] at less
        omega

end Source

end Decimator

end PhoneAudio
