import Mathlib.Algebra.BigOperators.Ring.Finset
import Mathlib.Algebra.Order.BigOperators.Group.Finset
import Mathlib.Algebra.Order.Ring.Abs
import PhoneAudio.Proofs.Capture.Decimation

/-!
# Checked rate reduction

The stages on buffers of interleaved samples, with every access checked against the end of its
buffer and every number against its width: `PhoneAudio.Checked.halve` and
`PhoneAudio.Checked.resample`. No check ever fails, whatever the samples, and what comes out are
the frames that the stages make (`PhoneAudio.Checked.run_eq`).
-/

namespace PhoneAudio

/-- What a checked computation can run into: a place outside its buffer, a difference below zero, a
number that is too wide, a division by zero, and a loop that is not over. -/
inductive Fault
  | outside
  | underflow
  | overflow
  | division
  | unfinished
deriving DecidableEq

/-- A computation that checks what it does. -/
abbrev Checked (α : Type) :=
  Except Fault α

namespace Checked

open Resample Finset

section Buffers

variable {α : Type}

/-- Reads from a buffer. -/
def item (buffer : List α) (place : Nat) : Checked α :=
  match buffer[place]? with
  | some entry => .ok entry
  | none => .error .outside

/-- Writes into a buffer. -/
def put (buffer : List α) (place : Nat) (entry : α) : Checked (List α) :=
  if place < buffer.length then .ok (buffer.set place entry) else .error .outside

/-- The front of a buffer. -/
def front (buffer : List α) (count : Nat) : Checked (List α) :=
  if count ≤ buffer.length then .ok (buffer.take count) else .error .outside

/-- A buffer without its front. -/
def behind (buffer : List α) (count : Nat) : Checked (List α) :=
  if count ≤ buffer.length then .ok (buffer.drop count) else .error .outside

end Buffers

/-- A difference of counts. -/
def minus (whole part : Nat) : Checked Nat :=
  if part ≤ whole then .ok (whole - part) else .error .underflow

/-- A quotient of counts. -/
def quotient (whole part : Nat) : Checked Nat :=
  if part = 0 then .error .division else .ok (whole / part)

/-- The remainder of a quotient of counts. -/
def remainder (whole part : Nat) : Checked Nat :=
  if part = 0 then .error .division else .ok (whole % part)

/-- A signed number of so many bits. -/
def signed (bits : Nat) (x : Int) : Checked Int :=
  if -2 ^ (bits - 1) ≤ x ∧ x < 2 ^ (bits - 1) then .ok x else .error .overflow

/-- An unsigned number of so many bits. -/
def unsigned (bits : Nat) (x : Nat) : Checked Nat :=
  if x < 2 ^ bits then .ok x else .error .overflow

/-- The filtered value of every so-manieth sample from a place on. The products, and all sums on the
way, are signed numbers of 32 bits. -/
def fir (taps : List Int) (input : List Int16) (start stride : Nat) : Checked Int := do
  let mut sum : Int := 8192
  for (tap, i) in taps.zipIdx do
    let sample ← item input (start + i * stride)
    let product ← signed 32 (sample.toInt * (tap / 65536))
    sum ← signed 32 (sum + product)
  return sum / 16384

/-- Filters so many frames and leaves out every second one. The result goes behind what is in a
buffer, with the number of frames that are done with. -/
def halve (input : List Int16) (frames channels : Nat) (output : List Int16) :
    Checked (List Int16 × Nat) := do
  let taps := halvingTaps.length
  if frames < taps then
    return (output, 0)
  let consumed ← minus (← minus frames (frames % 2)) (← minus taps 2)
  let produced := consumed / 2
  let base := output.length
  let mut output := output ++ List.replicate (produced * channels) 0
  for k in List.range produced do
    for c in List.range channels do
      let sum ← fir halvingTaps input (2 * k * channels + c) channels
      output ← put output (base + k * channels + c) (clip sum)
  return (output, consumed)

/-- Interpolates the filtered values of a channel in a block, 441 to 320. The result goes to every
so-manieth place behind what is in a buffer. The phase is an unsigned number of 32 bits. -/
def interpolate (filtered : List Int) (base stride channel : Nat) (output : List Int16) :
    Checked (List Int16) := do
  let mut output := output
  let mut phase := 0
  for j in List.range blockOut do
    let whole := phase / 32768
    let left ← item filtered whole
    let right ← item filtered (whole + 1)
    let product ← signed 64 ((right - left) * (phase % 32768 : Nat))
    let value ← signed 32 (left + product / 32768)
    output ← put output (base + j * stride + channel) (clip value)
    phase ← unsigned 32 (phase + phaseStep)
  return output

/-- Filters so many frames and interpolates them in blocks. The result goes behind what is in a
buffer, with the number of frames that are done with. -/
def resample (input : List Int16) (frames channels : Nat) (output : List Int16) :
    Checked (List Int16 × Nat) := do
  let overlap ← minus ratioTaps.length 1
  if frames < overlap then
    return (output, 0)
  let blocks := (← minus frames overlap) / blockIn
  let mut output := output
  for block in List.range blocks do
    let base := output.length
    output := output ++ List.replicate (blockOut * channels) 0
    for c in List.range channels do
      let filtered ← (List.range blockIn).mapM fun j =>
        fir ratioTaps input ((block * blockIn + j) * channels + c) channels
      output ← interpolate filtered base channels c output
  return (output, blocks * blockIn)

/-- A stage on a buffer. -/
def run (stage : Stage) (input : List Int16) (frames channels : Nat) (output : List Int16) :
    Checked (List Int16 × Nat) :=
  match stage with
  | .half => halve input frames channels output
  | .ratio => resample input frames channels output

section Steps

variable {α β : Type}

/-- A step that succeeds goes on to the next. -/
theorem bind_eq {first : Checked α} {next : α → Checked β} {entry : α} {result : Checked β}
    (ran : first = .ok entry) (rest : next entry = result) : first >>= next = result := by
  rw [ran]
  exact rest

/-- A loop comes to what its rounds come to, one after the other. -/
theorem forIn_eq {entries : List α} (made : Nat → β) {start : β} (started : made 0 = start)
    {body : α → β → Checked (ForInStep β)}
    (step : ∀ k (inside : k < entries.length),
      body entries[k] (made k) = .ok (.yield (made (k + 1)))) :
    forIn entries start body = .ok (made entries.length) := by
  induction entries generalizing made start with
  | nil => exact congrArg _ started.symm
  | cons entry entries ih =>
      subst started
      rw [List.forIn_cons]
      exact bind_eq (step 0 (Nat.zero_lt_succ _))
        (ih (fun k => made (k + 1)) rfl fun k inside => step (k + 1) (Nat.succ_lt_succ inside))

/-- A loop over a range whose steps do not fail makes what its steps make one after the other. -/
theorem forIn_range_eq {count : Nat} (made : Nat → β) {start : β} (started : made 0 = start)
    {body : Nat → β → Checked (ForInStep β)}
    (step : ∀ k < count, body k (made k) = .ok (.yield (made (k + 1)))) :
    forIn (List.range count) start body = .ok (made count) := by
  have ended := @forIn_eq _ _ (List.range count) made start started body fun k inside => by
    rw [List.length_range] at inside
    rw [List.getElem_range]
    exact step k inside
  rwa [List.length_range] at ended

/-- A list is mapped without a fault if no entry makes one. -/
theorem mapM_eq {entries : List α} {body : α → Checked β} {value : α → β}
    (step : ∀ entry ∈ entries, body entry = .ok (value entry)) :
    entries.mapM body = .ok (entries.map value) := by
  induction entries with
  | nil => rfl
  | cons entry entries ih =>
      obtain ⟨first, rest⟩ := List.forall_mem_cons.mp step
      rw [List.mapM_cons, first, ih rest]
      rfl

theorem item_of_some {buffer : List α} {place : Nat} {entry : α}
    (present : buffer[place]? = some entry) : item buffer place = .ok entry := by
  rw [item, present]

/-- A place inside a buffer is read. -/
theorem item_eq {buffer : List α} {place : Nat} (inside : place < buffer.length)
    (fallback : α) : item buffer place = .ok (buffer.getD place fallback) := by
  rw [item, List.getElem?_eq_getElem inside, List.getD_eq_getElem _ _ inside]

end Steps

/-- A number that is narrow enough keeps its value in so many bits. -/
theorem signed_eq {bits : Nat} {x : Int} (narrow : |x| < 2 ^ (bits - 1)) :
    signed bits x = .ok x := by
  obtain ⟨least, most⟩ := abs_lt.mp narrow
  exact if_pos ⟨least.le, most⟩

/-- A difference that is not negative is no fault. -/
theorem minus_eq {whole part : Nat} (le : part ≤ whole) : minus whole part = .ok (whole - part) :=
  if_pos le

theorem quotient_eq {whole part : Nat} (positive : 0 < part) :
    quotient whole part = .ok (whole / part) :=
  if_neg positive.ne'

theorem remainder_eq {whole part : Nat} (positive : 0 < part) :
    remainder whole part = .ok (whole % part) :=
  if_neg positive.ne'

/-! ## Filters -/

/-- Taps whose weighted sums of samples always fit into 32 bits, rounding included. -/
def Narrow (taps : List Int) : Prop :=
  8192 + 32768 * ∑ i ∈ range taps.length, |taps.getD i 0 / 65536| < 2 ^ 31

/-- The taps of the halving filter are narrow, and so are those of the other. -/
theorem narrow_halvingTaps : Narrow halvingTaps := by
  unfold Narrow
  decide +kernel

theorem narrow_ratioTaps : Narrow ratioTaps := by
  unfold Narrow
  decide +kernel

variable {taps : List Int}

theorem abs_toInt_le (sample : Int16) : |sample.toInt| ≤ 32768 := by
  have least := sample.le_toInt
  have most := sample.toInt_lt
  rw [abs_le]
  omega

/-- No product is wider than all of them together can be. -/
theorem abs_product_le (sample : Int16) (tap : Int) : |sample.toInt * tap| ≤ 32768 * |tap| := by
  rw [abs_mul]
  exact mul_le_mul_of_nonneg_right (abs_toInt_le sample) (abs_nonneg tap)

/-- The product of a sample and a tap fits in 32 bits. -/
theorem Narrow.product (narrow : Narrow taps) (sample : Int16) {i : Nat}
    (inside : i < taps.length) : |sample.toInt * (taps.getD i 0 / 65536)| < 2 ^ 31 := by
  have part : |taps.getD i 0 / 65536| ≤ ∑ i ∈ range taps.length, |taps.getD i 0 / 65536| :=
    single_le_sum (fun i _ => abs_nonneg (taps.getD i 0 / 65536)) (mem_range.mpr inside)
  have bound := abs_product_le sample (taps.getD i 0 / 65536)
  unfold Narrow at narrow
  omega

/-- **No sum on the way is too wide.** -/
theorem Narrow.partialSum (narrow : Narrow taps) (samples : Nat → Int16) {count : Nat}
    (le : count ≤ taps.length) :
    |8192 + ∑ i ∈ range count, (samples i).toInt * (taps.getD i 0 / 65536)| < 2 ^ 31 := by
  have bound : |∑ i ∈ range count, (samples i).toInt * (taps.getD i 0 / 65536)| ≤
      32768 * ∑ i ∈ range taps.length, |taps.getD i 0 / 65536| := by
    calc |∑ i ∈ range count, (samples i).toInt * (taps.getD i 0 / 65536)|
        ≤ ∑ i ∈ range count, |(samples i).toInt * (taps.getD i 0 / 65536)| :=
          abs_sum_le_sum_abs _ _
      _ ≤ ∑ i ∈ range count, 32768 * |taps.getD i 0 / 65536| :=
          sum_le_sum fun i _ => abs_product_le (samples i) _
      _ = 32768 * ∑ i ∈ range count, |taps.getD i 0 / 65536| := (mul_sum ..).symm
      _ ≤ 32768 * ∑ i ∈ range taps.length, |taps.getD i 0 / 65536| :=
          mul_le_mul_of_nonneg_left (sum_le_sum_of_subset_of_nonneg
            (range_subset_range.mpr le) fun i _ _ => abs_nonneg _) (by decide)
  have rounded := abs_add_le 8192 (∑ i ∈ range count, (samples i).toInt * (taps.getD i 0 / 65536))
  unfold Narrow at narrow
  have half : |(8192 : Int)| = 8192 := rfl
  omega

/-- The checked filter gives the filtered value. -/
theorem fir_eq (narrow : Narrow taps) {input : List Int16} {start stride : Nat}
    (inside : ∀ i < taps.length, start + i * stride < input.length) :
    fir taps input start stride =
      .ok (filteredAt taps (fun i => input.getD (start + i * stride) 0) 0) := by
  unfold fir filteredAt
  refine bind_eq (forIn_eq (fun count => 8192 + ∑ i ∈ range count,
    (input.getD (start + i * stride) 0).toInt * (taps.getD i 0 / 65536)) rfl fun k within => ?_) ?_
  · rw [List.length_zipIdx] at within
    rw [List.getElem_zipIdx, Nat.zero_add, ← List.getD_eq_getElem _ 0]
    refine bind_eq (item_eq (inside k within) 0)
      (bind_eq (signed_eq ?_) (bind_eq (signed_eq ?_) ?_))
    · exact narrow.product _ within
    · have sum := narrow.partialSum (fun i => input.getD (start + i * stride) 0) within
      rwa [sum_range_succ, ← add_assoc] at sum
    · rw [sum_range_succ, ← add_assoc]
      rfl
  · simp only [List.length_zipIdx, Nat.zero_add]
    rfl

section Places

variable {channels : Nat} {samples : List Int16}

/-- A frame that is split off is a piece of the samples. -/
theorem getD_split (channels : Nat) {count place : Nat} (inside : place < count)
    (samples : List Int16) :
    (Frame.split channels count samples).getD place [] =
      (samples.drop (place * channels)).take channels := by
  induction count generalizing samples place with
  | zero => exact absurd inside (Nat.not_lt_zero _)
  | succ count ih =>
      cases place with
      | zero => rw [Nat.zero_mul]; rfl
      | succ place =>
          have rest := ih (Nat.lt_of_succ_lt_succ inside) (samples.drop channels)
          rw [List.drop_drop, Nat.add_comm, ← Nat.succ_mul] at rest
          exact rest

/-- The samples of a frame lie one behind the other. -/
theorem place_lt {place channel : Nat} (inside : place < samples.length / channels)
    (present : channel < channels) : place * channels + channel < samples.length := by
  have whole : (place + 1) * channels ≤ samples.length := Nat.mul_le_of_le_div _ _ _ inside
  rw [Nat.succ_mul] at whole
  omega

/-- A sample of a frame stands in the row of the frame and the column of the channel. -/
theorem sampleAt_ofSamples {place channel : Nat} (inside : place < samples.length / channels)
    (present : channel < channels) :
    sampleAt (Frame.ofSamples channels samples) channel place =
      samples.getD (place * channels + channel) 0 := by
  rw [sampleAt, Frame.ofSamples, getD_split channels inside]
  simp only [List.getD_eq_getElem?_getD, List.getElem?_take_of_lt present, List.getElem?_drop]

/-- The checked filter gives the filtered value of a channel where it has all its samples. -/
theorem fir_channel (narrow : Narrow taps) {place channel : Nat}
    (fits : place + taps.length ≤ samples.length / channels) (present : channel < channels) :
    fir taps samples (place * channels + channel) channels =
      .ok (filteredAt taps (sampleAt (Frame.ofSamples channels samples) channel) place) := by
  have along (i : Nat) : place * channels + channel + i * channels =
      (place + i) * channels + channel := by
    rw [Nat.add_mul]
    omega
  rw [fir_eq narrow fun i inside => ?_]
  · congr 1
    apply filteredAt_congr
    intro i inside
    rw [Nat.zero_add, along, sampleAt_ofSamples (by omega) present]
  · rw [along]
    exact place_lt (by omega) present

end Places

/-- A buffer with so many places more, of which some were written and the others are silent. -/
def filled (output : List Int16) (count : Nat) (sample : Nat → Int16) (written : Nat → Prop)
    [DecidablePred written] : List Int16 :=
  output ++ (List.range count).map fun place => if written place then sample place else 0

section Filled

variable {output : List Int16} {count : Nat} {sample : Nat → Int16} {earlier later : Nat → Prop}
  [DecidablePred earlier] [DecidablePred later]

theorem filled_congr (same : ∀ place < count, earlier place ↔ later place) :
    filled output count sample earlier = filled output count sample later := by
  unfold filled
  congr 1
  exact List.map_congr_left fun place member =>
    if_congr (same place (List.mem_range.mp member)) rfl rfl

/-- Before anything is written, the new places are silent. -/
theorem filled_none (nowhere : ∀ place < count, ¬ earlier place) :
    filled output count sample earlier = output ++ List.replicate count 0 := by
  have silent : (List.range count).map (fun place => if earlier place then sample place else 0) =
      (List.range count).map fun _ => 0 :=
    List.map_congr_left fun place member => if_neg (nowhere place (List.mem_range.mp member))
  rw [filled, silent, List.map_const', List.length_range]

/-- Once every place is written, the samples are behind the output. -/
theorem filled_all (everywhere : ∀ place < count, earlier place) :
    filled output count sample earlier = output ++ (List.range count).map sample := by
  unfold filled
  congr 1
  exact List.map_congr_left fun place member => if_pos (everywhere place (List.mem_range.mp member))

/-- One more place is written. -/
theorem put_filled {place : Nat} (inside : place < count) {entry : Int16}
    (value : sample place = entry)
    (more : ∀ other < count, later other ↔ earlier other ∨ other = place) :
    put (filled output count sample earlier) (output.length + place) entry =
      .ok (filled output count sample later) := by
  subst value
  have bound : output.length + place < (filled output count sample earlier).length := by
    rw [filled, List.length_append, List.length_map, List.length_range]
    omega
  rw [put, if_pos bound]
  congr 1
  unfold filled
  rw [List.set_append_right _ _ (Nat.le_add_right ..), Nat.add_sub_cancel_left]
  congr 1
  apply List.ext_getElem
  · simp only [List.length_set, List.length_map, List.length_range]
  · intro other _ within
    rw [List.length_map, List.length_range] at within
    simp only [List.getElem_set, List.getElem_map, List.getElem_range, more other within]
    by_cases same : place = other
    · rw [if_pos same, if_pos (.inr same.symm), same]
    · rw [if_neg same]
      refine if_congr ?_ rfl rfl
      rw [or_iff_left (Ne.symm same)]

end Filled

/-- A place belongs to a channel of a frame. -/
theorem eq_place_iff {channels channel : Nat} (present : channel < channels) (place k : Nat) :
    place = k * channels + channel ↔ place / channels = k ∧ place % channels = channel := by
  have positive : 0 < channels := Nat.zero_lt_of_lt present
  constructor
  · rintro rfl
    rw [Nat.mul_comm, Nat.mul_add_div positive, Nat.div_eq_of_lt present, Nat.add_zero,
      Nat.mul_add_mod, Nat.mod_eq_of_lt present]
    exact ⟨rfl, rfl⟩
  · rintro ⟨rfl, rfl⟩
    rw [Nat.mul_comm]
    exact (Nat.div_add_mod ..).symm

theorem place_lt_mul {channels channel k count : Nat} (inside : k < count)
    (present : channel < channels) : k * channels + channel < count * channels := by
  have whole := Nat.mul_le_mul_right channels inside
  rw [Nat.succ_mul] at whole
  omega

theorem row_lt {channels count place : Nat} (inside : place < count * channels) :
    place / channels < count :=
  Nat.div_lt_of_lt_mul (by rwa [Nat.mul_comm])

theorem column_lt {channels count place : Nat} (inside : place < count * channels) :
    place % channels < channels :=
  Nat.mod_lt _ (Nat.pos_of_mul_pos_left (Nat.zero_lt_of_lt inside))

/-- One more channel of a frame, in a buffer that is written frame after frame. -/
theorem row_succ {channels channel : Nat} (present : channel < channels) (k : Nat) {count : Nat} :
    ∀ place < count,
      (place / channels < k ∨ place / channels = k ∧ place % channels < channel + 1 ↔
        (place / channels < k ∨ place / channels = k ∧ place % channels < channel) ∨
          place = k * channels + channel) := by
  intro place _
  rw [eq_place_iff present, Nat.lt_succ_iff_lt_or_eq]
  tauto

/-- All channels of a frame. -/
theorem rows_succ {channels : Nat} (k : Nat) {count : Nat} :
    ∀ place < count * channels,
      (place / channels < k ∨ place / channels = k ∧ place % channels < channels ↔
        place / channels < k + 1) := by
  intro place inside
  rw [and_iff_left (column_lt inside), Nat.lt_succ_iff_lt_or_eq]

/-- One more frame of a channel, in a buffer that is written channel after channel. -/
theorem column_succ {channels channel : Nat} (present : channel < channels) (j : Nat)
    {count : Nat} :
    ∀ place < count,
      (place % channels < channel ∨ place % channels = channel ∧ place / channels < j + 1 ↔
        (place % channels < channel ∨ place % channels = channel ∧ place / channels < j) ∨
          place = j * channels + channel) := by
  intro place _
  rw [eq_place_iff present, Nat.lt_succ_iff_lt_or_eq]
  tauto

/-- All frames of a channel. -/
theorem columns_succ {channels channel count : Nat} :
    ∀ place < count * channels,
      (place % channels < channel ∨ place % channels = channel ∧ place / channels < count ↔
        place % channels < channel + 1) := by
  intro place inside
  rw [and_iff_left (row_lt inside), Nat.lt_succ_iff_lt_or_eq]

/-- Frames are written one behind the other. -/
theorem toSamples_map_range (channels count : Nat) (sample : Nat → Nat → Int16) :
    Frame.toSamples ((List.range count).map fun k =>
        (List.range channels).map fun channel => sample channel k) =
      (List.range (count * channels)).map fun place =>
        sample (place % channels) (place / channels) := by
  induction count with
  | zero => rw [Nat.zero_mul]; rfl
  | succ count ih =>
      rw [List.range_succ, List.map_append, Frame.toSamples, List.flatten_append,
        ← Frame.toSamples, ih, Nat.succ_mul, List.range_add, List.map_append, List.map_map]
      congr 1
      rw [List.map_singleton, List.flatten_singleton]
      apply List.map_congr_left
      intro channel member
      obtain ⟨frame, rest⟩ := (eq_place_iff (List.mem_range.mp member) _ count).mp rfl
      rw [Function.comp_apply, frame, rest]

/-! ## Stages -/

/-- The samples of the frames that a stage makes, given by their places. -/
def made (stage : Stage) (channels : Nat) (frames : List Frame) (place : Nat) : Int16 :=
  stage.sample (sampleAt frames (place % channels)) (place / channels)

/-- What a stage makes at the place of a channel in a row is the sample of that channel. -/
theorem made_place (stage : Stage) {channels channel : Nat} (present : channel < channels)
    (frames : List Frame) (k : Nat) :
    made stage channels frames (k * channels + channel) =
      stage.sample (sampleAt frames channel) k := by
  obtain ⟨frame, rest⟩ := (eq_place_iff present _ k).mp rfl
  rw [made, frame, rest]

/-- The samples of what a stage makes, place by place. -/
theorem toSamples_run (stage : Stage) (channels : Nat) (frames : List Frame) :
    Frame.toSamples (stage.run channels frames) =
      (List.range (stage.made * stage.rounds frames.length * channels)).map
        (made stage channels frames) := by
  rw [Stage.run_eq_batch]
  exact toSamples_map_range channels _ fun channel => stage.sample (sampleAt frames channel)

/-- Halving does not fault, and puts behind the output what the stage makes of the frames. -/
theorem halve_eq (channels : Nat) (input output : List Int16) :
    halve input (input.length / channels) channels output =
      .ok (output ++ Frame.toSamples (Stage.half.run channels (Frame.ofSamples channels input)),
        Stage.half.consumed (input.length / channels)) := by
  have frames : (Frame.ofSamples channels input).length = input.length / channels :=
    Frame.length_split ..
  have taps : halvingTaps.length = 20 := rfl
  rw [toSamples_run, frames]
  unfold halve
  simp only [taps]
  by_cases few : input.length / channels < 20
  · have none : Stage.half.rounds (input.length / channels) = 0 := by
      simp only [Stage.rounds, Stage.ahead, Stage.spent]
      omega
    rw [if_pos few, Stage.consumed, if_pos few, none, Nat.mul_zero, Nat.zero_mul, List.range_zero,
      List.map_nil, List.append_nil]
    rfl
  rw [if_neg few]
  have spent : input.length / channels - input.length / channels % 2 - (20 - 2) =
      Stage.half.consumed (input.length / channels) := (if_neg few).symm
  have produced : Stage.half.consumed (input.length / channels) / 2 =
      Stage.half.rounds (input.length / channels) := by
    rw [Stage.consumed_eq]
    exact Nat.mul_div_cancel_left _ (by decide)
  refine bind_eq (minus_eq (Nat.mod_le ..)) (bind_eq (minus_eq (by decide))
    (bind_eq (minus_eq (by omega)) ?_))
  rw [spent, produced, Stage.made, Nat.one_mul]
  have enough := Stage.lt_made_mul_rounds_half (input.length / channels)
  rw [Stage.made, Nat.one_mul] at enough
  generalize Stage.half.rounds (input.length / channels) = rounds at enough ⊢
  refine bind_eq (forIn_range_eq (fun k => filled output (rounds * channels)
    (made .half channels (Frame.ofSamples channels input)) fun place => place / channels < k)
    ?_ fun k inside => ?_) ?_
  · exact filled_none fun place _ => Nat.not_lt_zero _
  · refine bind_eq (forIn_range_eq (fun c => filled output (rounds * channels)
      (made .half channels (Frame.ofSamples channels input)) fun place =>
        place / channels < k ∨ place / channels = k ∧ place % channels < c)
      ?_ fun c present => ?_) ?_
    · exact filled_congr fun place _ => or_iff_left fun row => Nat.not_lt_zero _ row.2
    · refine bind_eq (fir_channel narrow_halvingTaps ?_ present) (bind_eq ?_ rfl)
      · rw [taps]
        exact (enough k).mp inside
      · rw [Nat.add_assoc]
        exact put_filled (place_lt_mul inside present) (made_place .half present _ k)
          (row_succ present k)
    · exact congrArg (fun output => Except.ok (ForInStep.yield output)) (filled_congr (rows_succ k))
  · exact congrArg (fun output => Except.ok (output, _)) (filled_all fun place => row_lt)

/-- What a filter makes of samples is no more than four times the greatest sample. -/
theorem abs_filteredAt_le (narrow : Narrow taps) (samples : Nat → Int16) (place : Nat) :
    |filteredAt taps samples place| ≤ 131072 := by
  have sum := abs_lt.mp (narrow.partialSum (fun i => samples (place + i)) (Nat.le_refl _))
  rw [abs_le, filteredAt]
  omega

/-- An interpolated value needs no more bits than the values around it, give or take one. -/
theorem interpolated_narrow {left right : Int} (first : |left| ≤ 131072) (second : |right| ≤ 131072)
    (phase : Nat) :
    |(right - left) * (phase % 32768 : Nat)| < 2 ^ 63 ∧
      |left + (right - left) * (phase % 32768 : Nat) / 32768| < 2 ^ 31 := by
  have part : phase % 32768 < 32768 := Nat.mod_lt _ (by decide)
  have slope : |right - left| ≤ 262144 := by
    rw [abs_le] at first second ⊢
    omega
  have product : |(right - left) * (phase % 32768 : Nat)| ≤ 262144 * 32768 := by
    rw [abs_mul]
    refine mul_le_mul slope ?_ (abs_nonneg _) (by decide)
    rw [Nat.abs_cast]
    omega
  refine ⟨by omega, ?_⟩
  rw [abs_le] at first product
  rw [abs_lt]
  omega

/-- An interpolated block does not fault, and is what the block's samples are. -/
theorem interpolate_eq {values : Nat → Int} (narrow : ∀ i, |values i| ≤ 131072)
    {output : List Int16} {sample : Nat → Int16} {channels channel : Nat}
    (present : channel < channels)
    (value : ∀ j < blockOut, sample (j * channels + channel) =
      clip (Resample.interpolate ((List.range blockIn).map values) (j * phaseStep))) :
    interpolate ((List.range blockIn).map values) output.length channels channel
        (filled output (blockOut * channels) sample fun place => place % channels < channel) =
      .ok (filled output (blockOut * channels) sample
        fun place => place % channels < channel + 1) := by
  have within (place : Nat) (inside : place < blockIn) :
      ((List.range blockIn).map values).getD place 0 = values place := by
    rw [List.getD_eq_getElem _ _ (by rwa [List.length_map, List.length_range]), List.getElem_map,
      List.getElem_range]
  have read (place : Nat) (inside : place < blockIn) :
      item ((List.range blockIn).map values) place =
        .ok (((List.range blockIn).map values).getD place 0) :=
    item_eq (by rwa [List.length_map, List.length_range]) 0
  unfold interpolate
  refine bind_eq (forIn_range_eq (fun j => (filled output (blockOut * channels) sample fun place =>
    place % channels < channel ∨ place % channels = channel ∧ place / channels < j,
      j * phaseStep)) ?_ fun j inside => ?_) ?_
  · refine Prod.ext (filled_congr fun place _ => ?_) (Nat.zero_mul _)
    exact or_iff_left fun column => Nat.not_lt_zero _ column.2
  · -- The last phase reads the places 439 and 440 of the block.
    have bounds : j * phaseStep / 32768 + 1 < blockIn ∧ j * phaseStep + phaseStep < 2 ^ 32 := by
      unfold blockOut at inside
      unfold blockIn phaseStep
      omega
    obtain ⟨last, short⟩ := bounds
    have first := narrow (j * phaseStep / 32768)
    have second := narrow (j * phaseStep / 32768 + 1)
    rw [← within _ (Nat.lt_of_succ_lt last)] at first
    rw [← within _ last] at second
    obtain ⟨product, sum⟩ := interpolated_narrow first second (j * phaseStep)
    refine bind_eq (read _ (Nat.lt_of_succ_lt last)) (bind_eq (read _ last)
      (bind_eq (signed_eq product) (bind_eq (signed_eq sum) ?_)))
    rw [Nat.add_assoc output.length, Nat.succ_mul]
    exact bind_eq (put_filled (place_lt_mul inside present) (value j inside)
      (column_succ present j)) (bind_eq (if_pos short) rfl)
  · exact congrArg Except.ok (filled_congr columns_succ)

/-- A block is interpolated from its own filtered values. -/
theorem resampledAt_block (samples : Nat → Int16) (block : Nat) {j : Nat} (inside : j < blockOut) :
    resampledAt samples (block * blockOut + j) =
      clip (Resample.interpolate ((List.range blockIn).map fun i =>
        filteredAt ratioTaps samples (block * blockIn + i)) (j * phaseStep)) := by
  unfold blockOut at inside
  have turn : (block * 320 + j) / 320 = block := by omega
  have part : (block * 320 + j) % 320 = j := by omega
  have last : j * 45158 / 32768 + 1 < 441 := by omega
  have value (place : Nat) (within : place < 441) :
      ((List.range 441).map fun i => filteredAt ratioTaps samples (block * 441 + i)).getD place 0 =
        filteredAt ratioTaps samples (block * 441 + place) := by
    rw [List.getD_eq_getElem _ _ (by rwa [List.length_map, List.length_range]), List.getElem_map,
      List.getElem_range]
  simp only [resampledAt, Resample.interpolate, blockIn, blockOut, phaseStep, turn, part,
    value _ (Nat.lt_of_succ_lt last), value _ last, Nat.mul_comm 441, Nat.add_assoc]

/-- Resampling does not fault, and puts behind the output what the stage makes of the frames. -/
theorem resample_eq (channels : Nat) (input output : List Int16) :
    resample input (input.length / channels) channels output =
      .ok (output ++ Frame.toSamples (Stage.ratio.run channels (Frame.ofSamples channels input)),
        Stage.ratio.consumed (input.length / channels)) := by
  have frames : (Frame.ofSamples channels input).length = input.length / channels :=
    Frame.length_split ..
  have taps : ratioTaps.length = 24 := rfl
  rw [toSamples_run, frames]
  unfold resample
  refine bind_eq (minus_eq (by decide)) ?_
  rw [taps]
  by_cases few : input.length / channels < 24 - 1
  · have none : (input.length / channels - lookahead) / blockIn = 0 := by
      unfold lookahead blockIn
      omega
    rw [if_pos few, Stage.consumed, blocks, Stage.rounds, Stage.ahead, Stage.spent, none,
      Nat.mul_zero, Nat.zero_mul, Nat.zero_mul, List.range_zero, List.map_nil, List.append_nil]
    rfl
  rw [if_neg few]
  refine bind_eq (minus_eq (by omega)) ?_
  have blocks_eq : (input.length / channels - (24 - 1)) / blockIn =
      Stage.ratio.rounds (input.length / channels) := rfl
  have enough (block : Nat) (inside : block < Stage.ratio.rounds (input.length / channels)) :
      block * 441 + 441 + 23 ≤ input.length / channels := by
    simp only [Stage.rounds, Stage.ahead, Stage.spent, blockIn, lookahead] at inside
    omega
  have consumed : Stage.ratio.consumed (input.length / channels) =
      Stage.ratio.rounds (input.length / channels) * blockIn := rfl
  rw [blocks_eq, consumed]
  generalize Stage.ratio.rounds (input.length / channels) = rounds at enough ⊢
  have places : Stage.ratio.made * rounds * channels = rounds * (blockOut * channels) := by
    rw [Stage.made, Nat.mul_comm blockOut, Nat.mul_assoc]
  rw [places]
  generalize value : made .ratio channels (Frame.ofSamples channels input) = sample
  refine bind_eq (forIn_range_eq (fun block =>
      output ++ (List.range (block * (blockOut * channels))).map sample)
    ?_ fun block inside => ?_) rfl
  · rw [Nat.zero_mul, List.range_zero, List.map_nil, List.append_nil]
  · have whole := enough block inside
    refine bind_eq (forIn_range_eq (fun c =>
      filled (output ++ (List.range (block * (blockOut * channels))).map sample)
        (blockOut * channels) (fun place => sample (block * (blockOut * channels) + place))
        fun place => place % channels < c)
      ?_ fun c present => ?_) ?_
    · exact filled_none fun place _ => Nat.not_lt_zero _
    · refine bind_eq (mapM_eq fun j member => fir_channel narrow_ratioTaps ?_ present)
        (bind_eq (interpolate_eq (fun i => abs_filteredAt_le narrow_ratioTaps _ _) present ?_) rfl)
      · have near : j < 441 := List.mem_range.mp member
        rw [taps]
        unfold blockIn
        omega
      · intro j near
        have place : block * (blockOut * channels) + (j * channels + c) =
            (block * blockOut + j) * channels + c := by
          rw [Nat.add_mul, Nat.mul_assoc, Nat.add_assoc]
        rw [← resampledAt_block _ block near, place, ← value]
        exact made_place .ratio present _ _
    · rw [Nat.succ_mul, List.range_add, List.map_append, List.map_map, ← List.append_assoc]
      exact congrArg (fun output => Except.ok (ForInStep.yield output))
        (filled_all fun place => column_lt)

/-- **No check of a stage fails**, and the stage makes the frames that it is to make. -/
theorem run_eq (stage : Stage) (channels : Nat) (input output : List Int16) :
    run stage input (input.length / channels) channels output =
      .ok (output ++ Frame.toSamples (stage.run channels (Frame.ofSamples channels input)),
        stage.consumed (input.length / channels)) := by
  cases stage with
  | half => exact halve_eq channels input output
  | ratio => exact resample_eq channels input output

end Checked

end PhoneAudio
