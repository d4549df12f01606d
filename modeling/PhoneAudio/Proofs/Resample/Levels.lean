import Mathlib.Algebra.BigOperators.Ring.Finset
import Mathlib.Algebra.Order.Group.Int
import Mathlib.Tactic.Linarith
import PhoneAudio.Proofs.Resample.Batch

/-!
# Levels of equal samples

The taps of a filter do not add up to one exactly, and a filtered value is rounded and clipped. So a
stage changes the level of equal samples, but makes equal samples of them again: what it makes of
equal frames are frames of one level (`PhoneAudio.Resample.Stage.batch_replicate`), which is off by
12 at most after a halving and by 4 at most after the interpolation
(`PhoneAudio.Resample.Stage.level_near`). The errors of stages in a row add up
(`PhoneAudio.Resample.levelAfter_near`).
-/

namespace PhoneAudio

namespace Resample

open Finset

/-- What a filter multiplies equal samples by, with 14 binary places. -/
def gain (taps : List Int) : Int :=
  ∑ i ∈ range taps.length, taps.getD i 0 / 65536

/-- The gains of both filters are near one, in units of 1/16384. -/
theorem gain_halvingTaps : gain halvingTaps = 16390 := by
  decide

theorem gain_ratioTaps : gain ratioTaps = 16386 := by
  decide

/-- The filtered value of equal samples. -/
theorem filteredAt_of_forall_eq {taps : List Int} {samples : Nat → Int16} {place : Nat}
    {sample : Int16} (equal : ∀ i < taps.length, samples (place + i) = sample) :
    filteredAt taps samples place = (8192 + sample.toInt * gain taps) / 16384 := by
  rw [filteredAt, gain, mul_sum]
  congr 2
  apply sum_congr rfl
  intro i member
  rw [equal i (mem_range.mp member)]

/-- A clipped number is the closest one that a sample has. -/
theorem toInt_clip (x : Int) : (clip x).toInt = max (-32768) (min 32767 x) := by
  refine Int16.toInt_ofInt_of_le ?_ ?_
  · exact le_max_left (-32768) _
  · exact max_lt (by decide) (min_lt_of_left_lt (by decide))

theorem sampleAt_replicate (frame : Frame) (channel : Nat) {count place : Nat}
    (inside : place < count) :
    sampleAt (List.replicate count frame) channel place = frame.getD channel 0 := by
  have there : (List.replicate count frame).getD place [] = frame := List.getD_replicate _ inside
  rw [sampleAt, there]

namespace Stage

/-- The taps of a stage. -/
def taps : Stage → List Int
  | half => halvingTaps
  | ratio => ratioTaps

/-- The level at which a stage passes equal samples. -/
def level (stage : Stage) (sample : Int16) : Int16 :=
  clip ((8192 + sample.toInt * gain stage.taps) / 16384)

/-- How far a stage is off at most. -/
def tolerance : Stage → Nat
  | half => 12
  | ratio => 4

/-- A stage passes equal samples almost at their level, also where it clips. -/
theorem level_near (stage : Stage) (sample : Int16) :
    |(stage.level sample).toInt - sample.toInt| ≤ stage.tolerance := by
  have least := sample.le_toInt
  have most := sample.toInt_lt
  rw [level, toInt_clip, abs_le]
  cases stage with
  | half =>
      rw [taps, gain_halvingTaps, tolerance]
      omega
  | ratio =>
      rw [taps, gain_ratioTaps, tolerance]
      omega

/-- **Equal frames** come out of a stage as equal frames: as far as a frame can be made at all, the
samples that it takes are all there. -/
theorem frame_replicate (stage : Stage) (frame : Frame) {count k : Nat}
    (complete : k < stage.made * stage.rounds count) :
    stage.frame frame.length (List.replicate count frame) k = frame.map stage.level := by
  have columns : frame.map stage.level =
      (List.range frame.length).map fun channel => stage.level (frame.getD channel 0) := by
    apply List.ext_getElem
    · rw [List.length_map, List.length_map, List.length_range]
    · intro channel inside _
      rw [List.length_map] at inside
      rw [List.getElem_map, List.getElem_map, List.getElem_range, List.getD_eq_getElem _ _ inside]
  rw [columns, Stage.frame]
  apply List.map_congr_left
  intro channel _
  cases stage with
  | half =>
      rw [lt_made_mul_rounds_half] at complete
      have taps : halvingTaps.length = 20 := rfl
      rw [sample, halvedAt, level, filteredAt_of_forall_eq fun i inside =>
        sampleAt_replicate frame channel (show 2 * k + i < count by omega)]
      rfl
  | ratio =>
      rw [lt_made_mul_rounds_ratio] at complete
      have taps : ratioTaps.length = 24 := rfl
      have phase : k % 320 * 45158 / 32768 ≤ 439 := by omega
      -- Two neighbouring values are the same, and there is nothing between them.
      have value : ∀ place ≤ 440, filteredAt ratioTaps
          (sampleAt (List.replicate count frame) channel) (441 * (k / 320) + place) =
            (8192 + (frame.getD channel 0).toInt * gain ratioTaps) / 16384 := by
        intro place bound
        exact filteredAt_of_forall_eq fun i inside =>
          sampleAt_replicate frame channel (by omega)
      simp only [sample, resampledAt, blockIn, blockOut, phaseStep, Nat.add_assoc]
      rw [value _ (by omega), value _ (by omega), sub_self, zero_mul, Int.zero_ediv, add_zero]
      rfl

/-- A stage makes one frame of one frame: its samples at the stage's level. -/
theorem batch_replicate (stage : Stage) (count : Nat) (frame : Frame) :
    stage.batch frame.length (List.replicate count frame) =
      List.replicate (stage.made * stage.rounds count) (frame.map stage.level) := by
  rw [batch, List.length_replicate, List.eq_replicate_iff]
  refine ⟨?_, fun made member => ?_⟩
  · rw [List.length_map, List.length_range]
  · obtain ⟨k, inside, rfl⟩ := List.mem_map.mp member
    exact stage.frame_replicate frame (List.mem_range.mp inside)

end Stage

/-- The level at which stages in a row pass equal samples. -/
def levelAfter (stages : List Stage) (sample : Int16) : Int16 :=
  stages.foldl (fun sample stage => stage.level sample) sample

/-- The errors of stages in a row add up. -/
theorem levelAfter_near (stages : List Stage) (sample : Int16) :
    |(levelAfter stages sample).toInt - sample.toInt| ≤ (stages.map Stage.tolerance).sum := by
  induction stages generalizing sample with
  | nil => simp [levelAfter]
  | cons stage rest ih =>
      have first := stage.level_near sample
      have later := ih (stage.level sample)
      have both := abs_sub_le (levelAfter rest (stage.level sample)).toInt
        (stage.level sample).toInt sample.toInt
      rw [List.map_cons, List.sum_cons, Nat.cast_add]
      change |(levelAfter rest (stage.level sample)).toInt - sample.toInt| ≤ _
      linarith

end Resample

end PhoneAudio
