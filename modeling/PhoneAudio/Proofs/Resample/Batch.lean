import Mathlib.Algebra.BigOperators.Group.Finset.Basic
import Mathlib.Data.List.GetD
import PhoneAudio.Resample.Stage

/-!
# Rate reduction of a whole recording

What a stage makes of a whole recording, with a formula for each of its frames
(`PhoneAudio.Resample.Stage.batch`). A stage runs through its input recursively, but makes the same
frames (`PhoneAudio.Resample.Stage.run_eq_batch`). When a recording comes in two pieces, the frames
made of it are those made of the first piece, and then those made of what the first piece leaves
over together with the second (`PhoneAudio.Resample.Stage.batch_append`).
-/

namespace PhoneAudio

namespace Resample

open Finset

/-- The sample of a channel at a place of a recording, with silence outside. -/
def sampleAt (frames : List Frame) (channel place : Nat) : Int16 :=
  (frames.getD place []).getD channel 0

/-- The filtered value at a place: the samples from there on weighted by the taps, rounded. -/
def filteredAt (taps : List Int) (samples : Nat → Int16) (place : Nat) : Int :=
  (8192 + ∑ i ∈ range taps.length, (samples (place + i)).toInt * (taps.getD i 0 / 65536)) / 16384

/-- A sample at half the rate. -/
def halvedAt (samples : Nat → Int16) (k : Nat) : Int16 :=
  clip (filteredAt halvingTaps samples (2 * k))

/-- A sample at 320 parts of 441 of the rate: each block of 441 is filtered, and the filtered values
are interpolated at 320 phases. -/
def resampledAt (samples : Nat → Int16) (k : Nat) : Int16 :=
  let phase := k % blockOut * phaseStep
  let place := blockIn * (k / blockOut) + phase / 32768
  let left := filteredAt ratioTaps samples place
  let right := filteredAt ratioTaps samples (place + 1)
  clip (left + (right - left) * (phase % 32768 : Nat) / 32768)

namespace Stage

/-- The frames of input that a stage is done with after one round. -/
def spent : Stage → Nat
  | half => 2
  | ratio => blockIn

/-- The frames that a stage makes in one round. -/
def made : Stage → Nat
  | half => 1
  | ratio => blockOut

/-- The frames behind those of a round that the round looks at. -/
def ahead : Stage → Nat
  | half => 18
  | ratio => lookahead

/-- How many rounds so many frames of input suffice for. -/
def rounds (stage : Stage) (frames : Nat) : Nat :=
  (frames - stage.ahead) / stage.spent

/-- The sample that a stage makes of the samples of a channel. -/
def sample : Stage → (Nat → Int16) → Nat → Int16
  | half => halvedAt
  | ratio => resampledAt

/-- The frame that a stage makes of a recording. -/
def frame (stage : Stage) (channels : Nat) (frames : List Frame) (k : Nat) : Frame :=
  (List.range channels).map fun channel => stage.sample (sampleAt frames channel) k

/-- All frames that a stage makes of a recording. -/
def batch (stage : Stage) (channels : Nat) (frames : List Frame) : List Frame :=
  (List.range (stage.made * stage.rounds frames.length)).map (stage.frame channels frames)

/-- Halving makes a frame for every other frame of the recording that has 19 frames behind it. -/
theorem lt_made_mul_rounds_half (frames k : Nat) :
    k < half.made * half.rounds frames ↔ 2 * k + 19 < frames := by
  simp only [made, rounds, ahead, spent]
  omega

/-- The interpolation makes 320 frames of every block of 441 that has 23 frames behind it. -/
theorem lt_made_mul_rounds_ratio (frames k : Nat) :
    k < ratio.made * ratio.rounds frames ↔ 441 * (k / 320) + 441 + 23 ≤ frames := by
  simp only [made, rounds, ahead, spent, blockIn, blockOut, lookahead]
  omega

/-- What is consumed is so many frames for each round. -/
theorem consumed_eq (stage : Stage) (frames : Nat) :
    stage.consumed frames = stage.spent * stage.rounds frames := by
  cases stage with
  | half =>
      simp only [consumed, spent, rounds, ahead]
      split <;> omega
  | ratio => exact Nat.mul_comm _ _

theorem consumed_le (stage : Stage) (frames : Nat) : stage.consumed frames ≤ frames := by
  rw [consumed_eq]
  cases stage <;> simp only [spent, rounds, ahead, blockIn, lookahead] <;> omega

/-- Rounds are not lost when the input comes in two pieces. -/
theorem rounds_add (stage : Stage) (first second : Nat) :
    stage.rounds (first + second) =
      stage.rounds first + stage.rounds (first - stage.consumed first + second) := by
  rw [consumed_eq]
  cases stage <;> simp only [rounds, ahead, spent, blockIn, lookahead] <;> omega

/-- What is consumed of two pieces together is consumed of the first, and then of its rest with the
second. -/
theorem consumed_add (stage : Stage) (first second : Nat) :
    stage.consumed (first + second) =
      stage.consumed first + stage.consumed (first - stage.consumed first + second) := by
  rw [consumed_eq stage (first + second), rounds_add, Nat.mul_add, ← consumed_eq, ← consumed_eq]

end Stage

/-- Accumulating adds the products of taps and samples, place by place. -/
theorem accumulate_eq (start : Int) (taps : List Int) (samples : List Int16) :
    accumulate start taps samples =
      start + ∑ i ∈ range taps.length, (samples.getD i 0).toInt * taps.getD i 0 := by
  induction taps generalizing start samples with
  | nil => simp [accumulate]
  | cons tap taps ih =>
      cases samples with
      | nil => simp [accumulate]
      | cons sample samples =>
          have step : accumulate start (tap :: taps) (sample :: samples) =
              accumulate (start + sample.toInt * tap) taps samples := rfl
          rw [step, ih, List.length_cons, sum_range_succ']
          simp only [List.getD_cons_succ, List.getD_cons_zero]
          omega

/-- Filtering a run of samples gives the filtered value at its first place. -/
theorem fir_cutTaps (taps : List Int) (samples : List Int16) :
    fir (cutTaps taps) samples = filteredAt taps (fun i => samples.getD i 0) 0 := by
  unfold fir filteredAt cutTaps
  rw [accumulate_eq, List.length_map]
  congr 2
  apply sum_congr rfl
  intro i _
  have cut : (taps.map fun tap => tap / 65536).getD i 0 = taps.getD i 0 / 65536 := by
    exact List.getD_map taps 0 fun tap : Int => tap / 65536
  rw [cut, Nat.zero_add]

/-- A filtered value depends on no more samples than there are taps. -/
theorem filteredAt_congr (taps : List Int) {samples others : Nat → Int16} {place shifted : Nat}
    (same : ∀ i < taps.length, samples (place + i) = others (shifted + i)) :
    filteredAt taps samples place = filteredAt taps others shifted := by
  unfold filteredAt
  congr 2
  apply sum_congr rfl
  intro i member
  rw [same i (mem_range.mp member)]

theorem getD_column (channel : Nat) (frames : List Frame) (place : Nat) :
    (Frame.column channel frames).getD place 0 = sampleAt frames channel place := by
  unfold Frame.column sampleAt
  exact List.getD_map frames [] fun frame : Frame => frame.getD channel 0

theorem sampleAt_drop (frames : List Frame) (channel count place : Nat) :
    sampleAt (frames.drop count) channel place = sampleAt frames channel (count + place) := by
  simp only [sampleAt, List.getD_eq_getElem?_getD, List.getElem?_drop]

theorem sampleAt_take (frames : List Frame) (channel count : Nat) {place : Nat}
    (inside : place < count) :
    sampleAt (frames.take count) channel place = sampleAt frames channel place := by
  simp only [sampleAt, List.getD_eq_getElem?_getD, List.getElem?_take_of_lt inside]

theorem sampleAt_append (frames more : List Frame) (channel : Nat) {place : Nat}
    (inside : place < frames.length) :
    sampleAt (frames ++ more) channel place = sampleAt frames channel place := by
  simp only [sampleAt, List.getD_eq_getElem?_getD, List.getElem?_append_left inside]

namespace Stage

/-- What a stage makes of the rest of a recording are the later frames of what it makes of all. -/
theorem frame_drop (stage : Stage) (channels : Nat) (frames : List Frame) (count k : Nat) :
    stage.frame channels (frames.drop (stage.spent * count)) k =
      stage.frame channels frames (stage.made * count + k) := by
  unfold frame
  apply List.map_congr_left
  intro channel _
  cases stage with
  | half =>
      simp only [sample, halvedAt, made, spent]
      congr 1
      apply filteredAt_congr
      intro i _
      rw [sampleAt_drop]
      congr 1
      omega
  | ratio =>
      have turn : (320 * count + k) / 320 = count + k / 320 := by omega
      have phase : (320 * count + k) % 320 = k % 320 := by omega
      have shift : ∀ place, filteredAt ratioTaps
            (sampleAt (frames.drop (441 * count)) channel) (441 * (k / 320) + place) =
          filteredAt ratioTaps (sampleAt frames channel) (441 * (count + k / 320) + place) := by
        intro place
        apply filteredAt_congr
        intro i _
        rw [sampleAt_drop]
        congr 1
        omega
      simp only [sample, resampledAt, made, spent, blockIn, blockOut, turn, phase, Nat.add_assoc,
        shift]

/-- A complete round does not depend on what comes later. -/
theorem frame_append (stage : Stage) (channels : Nat) (frames more : List Frame) {k : Nat}
    (complete : k < stage.made * stage.rounds frames.length) :
    stage.frame channels (frames ++ more) k = stage.frame channels frames k := by
  unfold frame
  apply List.map_congr_left
  intro channel _
  cases stage with
  | half =>
      rw [lt_made_mul_rounds_half] at complete
      simp only [sample, halvedAt]
      congr 1
      apply filteredAt_congr
      intro i inside
      have taps : halvingTaps.length = 20 := rfl
      exact sampleAt_append _ _ _ (by omega)
  | ratio =>
      rw [lt_made_mul_rounds_ratio] at complete
      have phase : k % 320 * 45158 / 32768 ≤ 439 := by omega
      have inner : ∀ place ≤ 440, filteredAt ratioTaps (sampleAt (frames ++ more) channel)
            (441 * (k / 320) + place) =
          filteredAt ratioTaps (sampleAt frames channel) (441 * (k / 320) + place) := by
        intro place bound
        apply filteredAt_congr
        intro i inside
        have taps : ratioTaps.length = 24 := rfl
        exact sampleAt_append _ _ _ (by omega)
      simp only [sample, resampledAt, blockIn, blockOut, phaseStep, Nat.add_assoc]
      rw [inner _ (by omega), inner _ (by omega)]

/-- The frames of some more rounds are those of the first rounds, then those that the rest of the
recording gives. -/
theorem map_frame_add (stage : Stage) (channels : Nat) (frames : List Frame) (count more : Nat) :
    (List.range (stage.made * (count + more))).map (stage.frame channels frames) =
      (List.range (stage.made * count)).map (stage.frame channels frames) ++
        (List.range (stage.made * more)).map
          (stage.frame channels (frames.drop (stage.spent * count))) := by
  rw [Nat.mul_add, List.range_add, List.map_append, List.map_map]
  congr 1
  apply List.map_congr_left
  intro k _
  exact (stage.frame_drop channels frames count k).symm

/-- **A recording in two pieces.** The frames made of it are those made of the first piece, followed
by those made of what the first piece leaves over together with the second. -/
theorem batch_append (stage : Stage) (channels : Nat) (frames more : List Frame) :
    stage.batch channels (frames ++ more) =
      stage.batch channels frames ++
        stage.batch channels (frames.drop (stage.consumed frames.length) ++ more) := by
  have rest : (frames.drop (stage.consumed frames.length) ++ more).length =
      frames.length - stage.consumed frames.length + more.length := by
    rw [List.length_append, List.length_drop]
  have whole : frames.drop (stage.consumed frames.length) ++ more =
      (frames ++ more).drop (stage.spent * stage.rounds frames.length) := by
    rw [← consumed_eq, List.drop_append_of_le_length (stage.consumed_le _)]
  unfold batch
  rw [rest, whole, List.length_append, rounds_add, map_frame_add]
  congr 1
  apply List.map_congr_left
  intro k member
  exact stage.frame_append channels frames more (List.mem_range.mp member)

/-- Every frame that a stage makes has a sample for each channel. -/
theorem length_of_mem_batch {stage : Stage} {channels : Nat} {frames : List Frame} {made : Frame}
    (member : made ∈ stage.batch channels frames) : made.length = channels := by
  obtain ⟨k, _, rfl⟩ := List.mem_map.mp member
  simp only [frame, List.length_map, List.length_range]

end Stage

/-- A filtered sample is what the filter makes of the samples from its place on. -/
theorem getD_filtered (taps : List Int) {count place : Nat} (samples : List Int16)
    (inside : place < count) :
    (filtered taps count samples).getD place 0 = fir taps (samples.drop place) := by
  induction count generalizing samples place with
  | zero => exact absurd inside (Nat.not_lt_zero _)
  | succ count ih =>
      cases place with
      | zero => rfl
      | succ place =>
          have step := ih (samples.drop 1) (Nat.lt_of_succ_lt_succ inside)
          rw [List.drop_drop, Nat.add_comm 1 place] at step
          exact step

/-- The interpolated samples of a block do not depend on what comes before it. -/
theorem resampleBlock_eq (samples : List Int16) :
    resampleBlock samples = (List.range blockOut).map (resampledAt fun i => samples.getD i 0) := by
  unfold resampleBlock
  apply List.map_congr_left
  intro k member
  have inside : k < 320 := List.mem_range.mp member
  have first : k / blockOut = 0 := Nat.div_eq_of_lt inside
  have place : k % blockOut = k := Nat.mod_eq_of_lt inside
  have value : ∀ whole < blockIn, (filtered lowPass blockIn samples).getD whole 0 =
      filteredAt ratioTaps (fun i => samples.getD i 0) whole := by
    intro whole bound
    rw [getD_filtered _ _ bound, lowPass, fir_cutTaps]
    apply filteredAt_congr
    intro i _
    simp only [List.getD_eq_getElem?_getD, List.getElem?_drop, Nat.zero_add]
  have phase : k * 45158 / 32768 + 1 < 441 := by omega
  simp only [interpolate, resampledAt, first, place, phaseStep, Nat.mul_zero, Nat.zero_add]
  rw [value _ (Nat.lt_of_succ_lt phase), value _ phase]

/-- A block has the frames that the stage makes of its input. -/
theorem block_eq (channels : Nat) (frames : List Frame) :
    block channels frames = (List.range blockOut).map (Stage.ratio.frame channels frames) := by
  unfold block Stage.frame
  apply List.map_congr_left
  intro k member
  have inside : k < blockOut := List.mem_range.mp member
  rw [List.map_map]
  apply List.map_congr_left
  intro channel _
  simp only [Function.comp_apply, resampleBlock_eq, getD_column]
  rw [List.getD_eq_getElem?_getD, List.getElem?_map, List.getElem?_range inside]
  have first : k / 320 = 0 := Nat.div_eq_of_lt inside
  have phase : k % 320 * 45158 / 32768 ≤ 439 := by omega
  simp only [Option.map_some, Option.getD_some, Stage.sample, resampledAt, blockIn, blockOut,
    phaseStep, lookahead, first]
  have near : ∀ place ≤ 440, filteredAt ratioTaps
        (sampleAt (frames.take (441 + 23)) channel) (441 * 0 + place) =
      filteredAt ratioTaps (sampleAt frames channel) (441 * 0 + place) := by
    intro place bound
    apply filteredAt_congr
    intro i within
    have taps : ratioTaps.length = 24 := rfl
    exact sampleAt_take frames channel _ (by omega)
  rw [Nat.add_assoc, near _ (by omega), near _ (by omega)]

/-- Blocks one after the other have the frames that the stage makes of the whole input. -/
theorem resampleBlocks_eq (channels count : Nat) (frames : List Frame) :
    resampleBlocks channels count frames =
      (List.range (blockOut * count)).map (Stage.ratio.frame channels frames) := by
  induction count generalizing frames with
  | zero => rfl
  | succ count ih =>
      have step := Stage.ratio.map_frame_add channels frames 1 count
      simp only [Stage.made, Stage.spent, Nat.mul_one] at step
      rw [Nat.add_comm count 1, step, Nat.add_comm 1 count, resampleBlocks, ih, block_eq]

/-- The filter on 20 frames gives the first frame at half the rate. -/
theorem eachChannel_halfBand (channels : Nat) (first second : Frame) (rest : List Frame) :
    eachChannel channels (fun samples => clip (fir halfBand samples))
        (first :: second :: rest.take 18) =
      Stage.half.frame channels (first :: second :: rest) 0 := by
  unfold eachChannel Stage.frame
  apply List.map_congr_left
  intro channel _
  simp only [Stage.sample, halvedAt, halfBand]
  rw [fir_cutTaps]
  congr 1
  apply filteredAt_congr
  intro i inside
  have taps : halvingTaps.length = 20 := rfl
  rw [getD_column]
  exact sampleAt_take (first :: second :: rest) channel 20 (by omega)

/-- Every other frame is made by halving. -/
theorem decimate_eq (channels : Nat) (frames : List Frame) :
    decimate channels frames = Stage.half.batch channels frames := by
  fun_induction decimate channels frames with
  | case1 first second rest look enough ih =>
      have long : 18 ≤ rest.length := by
        simp only [look, List.length_take] at enough
        omega
      have rounds : Stage.half.rounds (first :: second :: rest).length =
          1 + Stage.half.rounds rest.length := by
        simp only [Stage.rounds, Stage.ahead, Stage.spent, List.length_cons]
        omega
      have whole : Stage.half.batch channels (first :: second :: rest) =
          [Stage.half.frame channels (first :: second :: rest) 0] ++
            Stage.half.batch channels rest := by
        unfold Stage.batch
        rw [rounds, Stage.map_frame_add]
        rfl
      rw [whole, ih, eachChannel_halfBand]
      rfl
  | case2 first second rest look short =>
      have none : Stage.half.rounds (first :: second :: rest).length = 0 := by
        simp only [look, List.length_take] at short
        simp only [Stage.rounds, Stage.ahead, Stage.spent, List.length_cons]
        omega
      rw [Stage.batch, none]
      rfl
  | case3 frames short =>
      have none : Stage.half.rounds frames.length = 0 := by
        match frames, short with
        | [], _ => rfl
        | [_], _ => simp only [Stage.rounds, Stage.ahead, Stage.spent, List.length_singleton]
        | first :: second :: rest, short => exact (short first second rest rfl).elim
      rw [Stage.batch, none]
      rfl

namespace Stage

/-- **A stage makes the frames of its formulas.** -/
theorem run_eq_batch (stage : Stage) (channels : Nat) (frames : List Frame) :
    stage.run channels frames = stage.batch channels frames := by
  cases stage with
  | half => exact decimate_eq channels frames
  | ratio => exact resampleBlocks_eq channels _ frames

end Stage

end Resample

end PhoneAudio
