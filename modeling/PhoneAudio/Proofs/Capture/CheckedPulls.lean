import PhoneAudio.Bench.ScriptedSource
import PhoneAudio.Proofs.Capture.CheckedStages
import PhoneAudio.Proofs.Capture.Collecting
import PhoneAudio.Proofs.Capture.Rounds

/-!
# Checked pulls

A decimator on buffers of interleaved samples, one for each stage and one for what is finished, that
checks every access (`PhoneAudio.Checked.Sampler`). In whatever state a decimator can be, its pulls
come to what they come to on buffers, where no check fails
(`PhoneAudio.Checked.neverFaults`). The same holds for the downmix.
-/

namespace PhoneAudio

namespace Checked

open Resample

/-- A decimator on buffers of interleaved samples: one for what each stage holds, and one for what
is finished. -/
structure Sampler where
  channels : Nat
  capacity : Nat
  stages : List Stage
  buffers : List (List Int16)
deriving DecidableEq

namespace Sampler

/-- Moves as many finished frames to the front of a buffer as fit; their number is the answer. -/
def drain (sampler : Sampler) (out : List Int16) : Checked (Nat × List Int16 × Sampler) := do
  match sampler.buffers.getLast? with
  | none => return (0, out, sampler)
  | some pending =>
    let most := min pending.length out.length
    let count ← minus most (← remainder most sampler.channels)
    let _ ← front out count
    let taken ← front pending count
    let pending ← behind pending count
    let frames ← quotient count sampler.channels
    return (frames, taken ++ out.drop count,
      { sampler with buffers := sampler.buffers.dropLast ++ [pending] })

/-- Lets the source fill the first buffer. What does not fit is not written, and what the source
does not count is taken away again. -/
def fill {σ : Type} (source : Source σ) (sampler : Sampler) (state : σ) :
    Checked (Except PcmError Nat × Sampler × σ) := do
  let head ← item sampler.buffers 0
  let filled ← quotient head.length sampler.channels
  if filled ≥ sampler.capacity then
    return (.ok 0, sampler, state)
  let head := padded (sampler.capacity * sampler.channels) head
  let space ← behind head (filled * sampler.channels)
  let (delivery, state) := source space.length state
  let head := head.take (filled * sampler.channels) ++ (delivery.fill space).take space.length
  match delivery.frames with
  | .ok got =>
    let head := head.take ((filled + got) * sampler.channels)
    return (.ok got, { sampler with buffers := sampler.buffers.set 0 head }, state)
  | .error error =>
    let head := head.take (filled * sampler.channels)
    return (.error error, { sampler with buffers := sampler.buffers.set 0 head }, state)

/-- Lets a stage work on its buffer: what it makes goes behind the next one. -/
def step (channels : Nat) (stage : Stage) (i : Nat) (buffers : List (List Int16)) :
    Checked (List (List Int16)) := do
  let _ ← front buffers (i + 1)
  let input ← item buffers i
  let output ← item buffers (i + 1)
  let frames ← quotient input.length channels
  let (output, consumed) ← run stage input frames channels output
  let input ← behind input (consumed * channels)
  return (buffers.set i input).set (i + 1) output

/-- Lets the stages work, one after the other. -/
def advance (sampler : Sampler) : Checked Sampler := do
  let mut buffers := sampler.buffers
  for (stage, i) in sampler.stages.zipIdx do
    buffers ← step sampler.channels stage i buffers
  return { sampler with buffers := buffers }

/-- Refills until so many frames are in a buffer, the source gives none, or it fails. It is a fault
if so many rounds do not suffice. -/
def gather {σ : Type} (source : Source σ) :
    Nat → Nat → Nat → List Int16 → Sampler → σ →
      Checked (Except PcmError Nat × List Int16 × Sampler × σ)
  | 0, wanted, produced, out, sampler, state =>
    if produced < wanted then throw .unfinished else return (.ok produced, out, sampler, state)
  | rounds + 1, wanted, produced, out, sampler, state =>
    if produced < wanted then do
      match ← fill source sampler state with
      | (.error error, sampler, state) => return (.error error, out, sampler, state)
      | (.ok 0, sampler, state) => return (.ok produced, out, sampler, state)
      | (.ok _, sampler, state) =>
        let sampler ← sampler.advance
        let space ← behind out (produced * sampler.channels)
        let (more, space, sampler) ← sampler.drain space
        gather source rounds wanted (produced + more)
          (out.take (produced * sampler.channels) ++ space) sampler state
    else return (.ok produced, out, sampler, state)

/-- Pulls as many frames as fit into a buffer. -/
def pull {σ : Type} (source : Source σ) (rounds : Nat) (out : List Int16) (sampler : Sampler)
    (state : σ) : Checked (Except PcmError Nat × List Int16 × Sampler × σ) := do
  let wanted ← quotient out.length sampler.channels
  let (produced, out, sampler) ← sampler.drain out
  gather source rounds wanted produced out sampler state

end Sampler

/-- The pairs of samples of a buffer. -/
def pairs : List Int16 → List (Int16 × Int16)
  | left :: right :: rest => (left, right) :: pairs rest
  | _ => []

/-- The mean of a pair of samples: the sum is a signed number of 32 bits, the mean one of 16. -/
def mean (pair : Int16 × Int16) : Checked Int16 := do
  let sum ← signed 32 (pair.1.toInt + pair.2.toInt)
  let mean ← signed 16 (sum.tdiv 2)
  return Int16.ofInt mean

/-- Pulls as many mono frames as fit into a buffer over a stereo source, which fills the front of
another buffer. -/
def mix {σ : Type} (source : Source σ) (capacity : Nat) (out scratch : List Int16) (state : σ) :
    Checked (Except PcmError Nat × List Int16 × List Int16 × σ) := do
  let most := min out.length capacity
  let space ← front scratch (most * 2)
  let (delivery, state) := source space.length state
  let scratch := (delivery.fill space).take space.length ++ scratch.drop space.length
  match delivery.frames with
  | .ok got =>
    let means ← ((out.zip (pairs scratch)).take got).mapM fun entry => mean entry.2
    return (.ok got, means ++ out.drop means.length, scratch, state)
  | .error error => return (.error error, out, scratch, state)

end Checked

namespace Frame

theorem toSamples_append (frames more : List Frame) :
    toSamples (frames ++ more) = toSamples frames ++ toSamples more :=
  List.flatten_append ..

/-- Frames that are split off have a sample for each channel. -/
theorem length_of_mem_split {channels count : Nat} {samples : List Int16}
    (enough : count * channels ≤ samples.length) :
    ∀ frame ∈ split channels count samples, frame.length = channels := by
  induction count generalizing samples with
  | zero => exact List.forall_mem_nil _
  | succ count ih =>
      rw [Nat.succ_mul] at enough
      refine List.forall_mem_cons.mpr ⟨?_, ih ?_⟩
      · rw [List.length_take]
        omega
      · rw [List.length_drop]
        omega

section Widths

variable {channels : Nat} {frames : List Frame}

/-- Frames of one width are found again in their samples. -/
theorem ofSamples_toSamples (positive : 0 < channels)
    (widths : ∀ frame ∈ frames, frame.length = channels) :
    ofSamples channels (toSamples frames) = frames := by
  rw [ofSamples, length_toSamples widths, Nat.mul_div_cancel _ positive, split_toSamples widths]

theorem length_toSamples_take (widths : ∀ frame ∈ frames, frame.length = channels) {count : Nat}
    (le : count ≤ frames.length) : (toSamples (frames.take count)).length = count * channels := by
  rw [length_toSamples fun frame member => widths frame (List.mem_of_mem_take member),
    List.length_take, Nat.min_eq_left le]

/-- The first samples are those of the first frames. -/
theorem take_toSamples (widths : ∀ frame ∈ frames, frame.length = channels) {count : Nat}
    (le : count ≤ frames.length) :
    (toSamples frames).take (count * channels) = toSamples (frames.take count) := by
  have whole := toSamples_append (frames.take count) (frames.drop count)
  rw [List.take_append_drop] at whole
  rw [whole, List.take_left' (length_toSamples_take widths le)]

/-- The samples behind them are those of the frames behind. -/
theorem drop_toSamples (widths : ∀ frame ∈ frames, frame.length = channels) {count : Nat}
    (le : count ≤ frames.length) :
    (toSamples frames).drop (count * channels) = toSamples (frames.drop count) := by
  have whole := toSamples_append (frames.take count) (frames.drop count)
  rw [List.take_append_drop] at whole
  rw [whole, List.drop_left' (length_toSamples_take widths le)]

end Widths

end Frame

namespace Decimator

open Resample

/-- The frames of a decimator in buffers. -/
def sampler (decimator : Decimator) : Checked.Sampler where
  channels := decimator.channels
  capacity := decimator.capacity
  stages := decimator.stages.map Prod.fst
  buffers := (decimator.stages.map fun entry => Frame.toSamples entry.2) ++
    [Frame.toSamples decimator.finished]

@[simp] theorem channels_sampler (decimator : Decimator) :
    decimator.sampler.channels = decimator.channels :=
  rfl

@[simp] theorem capacity_sampler (decimator : Decimator) :
    decimator.sampler.capacity = decimator.capacity :=
  rfl

/-- A decimator with stages, of whose frames each has a sample for each channel. -/
structure Even (decimator : Decimator) : Prop where
  positive : 0 < decimator.channels
  staged : decimator.stages ≠ []
  held : ∀ entry ∈ decimator.stages, ∀ frame ∈ entry.2, frame.length = decimator.channels
  finished : ∀ frame ∈ decimator.finished, frame.length = decimator.channels

namespace Even

variable {decimator : Decimator}

theorem takeFinished (even : decimator.Even) (wanted : Nat) :
    (decimator.takeFinished wanted).2.Even :=
  ⟨even.positive, even.staged, even.held,
    fun frame member => even.finished frame (List.mem_of_mem_drop member)⟩

/-- What is taken out has a sample for each channel. -/
theorem widths_takeFinished (even : decimator.Even) (wanted : Nat) :
    ∀ frame ∈ (decimator.takeFinished wanted).1, frame.length = decimator.channels :=
  fun frame member => even.finished frame (List.mem_of_mem_take member)

/-- The first stage holds frames of full width. -/
theorem exists_first (even : decimator.Even) :
    ∃ stage held rest, decimator.stages = (stage, held) :: rest ∧
      (Frame.toSamples held).length = decimator.waiting * decimator.channels ∧
      decimator.sampler.buffers = Frame.toSamples held ::
        ((rest.map fun entry => Frame.toSamples entry.2) ++
          [Frame.toSamples decimator.finished]) := by
  rcases stages : decimator.stages with _ | ⟨⟨stage, held⟩, rest⟩
  · exact absurd stages even.staged
  · have widths := even.held (stage, held) (stages ▸ List.mem_cons_self ..)
    refine ⟨stage, held, rest, rfl, ?_, ?_⟩
    · rw [Frame.length_toSamples widths, waiting, stages]
    · rw [sampler, stages]
      rfl

/-- What is taken out of the finished frames goes to the front of a buffer. -/
theorem drain_eq (even : decimator.Even) (out : List Int16) :
    decimator.sampler.drain out =
      .ok ((decimator.takeFinished (out.length / decimator.channels)).1.length,
        Frame.toSamples (decimator.takeFinished (out.length / decimator.channels)).1 ++
          out.drop ((decimator.takeFinished (out.length / decimator.channels)).1.length *
            decimator.channels),
        (decimator.takeFinished (out.length / decimator.channels)).2.sampler) := by
  have last : decimator.sampler.buffers.getLast? = some (Frame.toSamples decimator.finished) :=
    List.getLast?_concat ..
  obtain ⟨count, fit⟩ :
      ∃ count, count = min (out.length / decimator.channels) decimator.finished.length := ⟨_, rfl⟩
  have taken : decimator.takeFinished (out.length / decimator.channels) =
      (decimator.finished.take count,
        { decimator with finished := decimator.finished.drop count }) := by
    rw [fit, Decimator.takeFinished, ← List.take_eq_take_min, ← List.drop_eq_drop_min]
  have le : count ≤ decimator.finished.length := fit ▸ Nat.min_le_right ..
  have room : count * decimator.channels ≤ out.length :=
    Nat.mul_le_of_le_div _ _ _ (fit ▸ Nat.min_le_left ..)
  have whole := Nat.mul_le_mul_right decimator.channels le
  have most : min (decimator.finished.length * decimator.channels) out.length /
      decimator.channels = count := by
    have monotone : Monotone fun samples => samples / decimator.channels :=
      fun _ _ le => Nat.div_le_div_right le
    rw [monotone.map_min, Nat.mul_div_cancel _ even.positive, fit, Nat.min_comm]
  have rest := Nat.div_mul_self_eq_mod_sub_self
    (x := min (decimator.finished.length * decimator.channels) out.length)
    (k := decimator.channels)
  rw [most] at rest
  have length := Frame.length_toSamples even.finished
  unfold Checked.Sampler.drain
  rw [last, taken]
  simp only [length, channels_sampler]
  refine Checked.bind_eq (Checked.remainder_eq even.positive) (Checked.bind_eq
    (Checked.minus_eq (Nat.mod_le ..)) ?_)
  rw [← rest]
  refine Checked.bind_eq (if_pos room) (Checked.bind_eq (if_pos (length ▸ whole))
    (Checked.bind_eq (if_pos (length ▸ whole))
      (Checked.bind_eq (Checked.quotient_eq even.positive) ?_)))
  rw [Frame.take_toSamples even.finished le, Frame.drop_toSamples even.finished le,
    Nat.mul_div_cancel _ even.positive, List.length_take, Nat.min_eq_left le]
  simp only [sampler, List.dropLast_concat]
  rfl

section Fill

variable {σ : Type} {source : Source σ} {state next : σ}

/-- Nothing is filled in where there is no room. -/
theorem fill_of_full (even : decimator.Even) (full : decimator.room = 0) :
    decimator.sampler.fill source state = .ok (.ok 0, decimator.sampler, state) := by
  obtain ⟨stage, held, rest, stages, length, buffers⟩ := even.exists_first
  unfold Checked.Sampler.fill
  rw [buffers]
  refine Checked.bind_eq rfl (Checked.bind_eq (Checked.quotient_eq even.positive) ?_)
  rw [length, channels_sampler, Nat.mul_div_cancel _ even.positive]
  exact if_pos (Nat.le_of_sub_eq_zero full)

/-- What a source writes into an empty buffer, as far as it counts. -/
theorem take_fill (delivery : Delivery) (space count : Nat) :
    ((delivery.fill (List.replicate space 0)).take space).take count =
      padded (min count space) delivery.samples := by
  rw [List.take_take, Delivery.fill, padded, List.drop_replicate, List.take_append,
    List.take_replicate]
  congr 2
  omega

/-- The samples that a source counts come behind those that the first stage holds. -/
theorem fill_of_free (even : decimator.Even) (free : 0 < decimator.room) {delivery : Delivery}
    (answered : source (decimator.room * decimator.channels) state = (delivery, next)) :
    decimator.sampler.fill source state =
      .ok (delivery.frames,
        { decimator.sampler with
          buffers := decimator.sampler.buffers.modifyHead (· ++ match delivery.frames with
            | .ok got => padded (min got decimator.room * decimator.channels) delivery.samples
            | .error _ => []) },
        next) := by
  obtain ⟨stage, held, rest, stages, length, buffers⟩ := even.exists_first
  have fits : decimator.waiting ≤ decimator.capacity := Nat.le_of_lt (Nat.lt_of_sub_pos free)
  have wider := Nat.mul_le_mul_right decimator.channels fits
  have room : decimator.capacity * decimator.channels - decimator.waiting * decimator.channels =
      decimator.room * decimator.channels := (Nat.sub_mul ..).symm
  have head : padded (decimator.capacity * decimator.channels) (Frame.toSamples held) =
      Frame.toSamples held ++ List.replicate (decimator.room * decimator.channels) 0 := by
    rw [padded, length, room, List.take_of_length_le (length ▸ wider)]
  have space : Checked.behind (padded (decimator.capacity * decimator.channels)
      (Frame.toSamples held)) (decimator.waiting * decimator.channels) =
        .ok (List.replicate (decimator.room * decimator.channels) 0) := by
    have enough : decimator.waiting * decimator.channels ≤
        (padded (decimator.capacity * decimator.channels) (Frame.toSamples held)).length := by
      rwa [length_padded]
    rw [Checked.behind, if_pos enough, head, List.drop_left' length]
  have kept : (padded (decimator.capacity * decimator.channels) (Frame.toSamples held)).take
      (decimator.waiting * decimator.channels) = Frame.toSamples held := by
    rw [head, List.take_left' length]
  unfold Checked.Sampler.fill
  rw [buffers]
  refine Checked.bind_eq rfl (Checked.bind_eq (Checked.quotient_eq even.positive) ?_)
  rw [length, channels_sampler, capacity_sampler, Nat.mul_div_cancel _ even.positive,
    if_neg (Nat.not_le_of_gt (Nat.lt_of_sub_pos free))]
  refine Checked.bind_eq space ?_
  rw [List.length_replicate, answered]
  dsimp only
  rw [kept]
  cases counted : delivery.frames with
  | ok got =>
      have written := take_fill delivery (decimator.room * decimator.channels)
        (got * decimator.channels)
      rw [Nat.mul_min_mul_right] at written
      simp only [Nat.add_mul, ← length, List.take_length_add_append, written]
      rfl
  | error error =>
      simp only [← length, List.take_left, List.append_nil]
      rfl

end Fill

end Even

/-- A stage works on the frames in its buffer. -/
theorem step_eq {channels : Nat} (positive : 0 < channels) (stage : Stage) {input : List Frame}
    (widths : ∀ frame ∈ input, frame.length = channels) (past : List (List Int16))
    {next : List (List Int16)} (more : next ≠ []) :
    Checked.Sampler.step channels stage past.length (past ++ Frame.toSamples input :: next) =
      .ok (past ++ Frame.toSamples (input.drop (stage.consumed input.length)) ::
        next.modifyHead (· ++ Frame.toSamples (stage.run channels input))) := by
  obtain ⟨output, rest, rfl⟩ := List.exists_cons_of_ne_nil more
  have here : (past ++ Frame.toSamples input :: output :: rest)[past.length]? =
      some (Frame.toSamples input) := by
    rw [List.getElem?_append_right (Nat.le_refl _), Nat.sub_self]
    rfl
  have there : (past ++ Frame.toSamples input :: output :: rest)[past.length + 1]? =
      some output := by
    rw [List.getElem?_append_right (Nat.le_add_right ..), Nat.add_sub_cancel_left]
    rfl
  have ran := Checked.run_eq stage channels (Frame.toSamples input) output
  have length := Frame.length_toSamples widths
  rw [length, Nat.mul_div_cancel _ positive, Frame.ofSamples_toSamples positive widths] at ran
  have within := stage.consumed_le input.length
  have enough := Nat.mul_le_mul_right channels within
  have bound : past.length + 1 ≤ (past ++ Frame.toSamples input :: output :: rest).length := by
    rw [List.length_append, List.length_cons]
    omega
  unfold Checked.Sampler.step
  refine Checked.bind_eq (if_pos bound) (Checked.bind_eq (Checked.item_of_some here)
    (Checked.bind_eq (Checked.item_of_some there)
      (Checked.bind_eq (Checked.quotient_eq positive) ?_)))
  rw [length, Nat.mul_div_cancel _ positive]
  refine Checked.bind_eq ran (Checked.bind_eq (if_pos (length ▸ enough)) ?_)
  rw [Frame.drop_toSamples widths within, List.set_append_right _ _ (Nat.le_refl _), Nat.sub_self,
    List.set_append_right _ _ (Nat.le_add_right ..), Nat.add_sub_cancel_left]
  rfl

/-- What stages in a row make of frames goes from buffer to buffer. -/
theorem steps_eq {channels : Nat} (positive : 0 < channels) {stages : List (Stage × List Frame)}
    (held : ∀ entry ∈ stages, ∀ frame ∈ entry.2, frame.length = channels) {frames : List Frame}
    (widths : ∀ frame ∈ frames, frame.length = channels) (finished : List Frame)
    (past : List (List Int16)) :
    (forIn ((stages.map Prod.fst).zipIdx past.length)
        (past ++ ((stages.map fun entry => Frame.toSamples entry.2) ++
          [Frame.toSamples finished]).modifyHead (· ++ Frame.toSamples frames))
        fun entry buffers => do
          let buffers ← Checked.Sampler.step channels entry.1 entry.2 buffers
          pure (ForInStep.yield buffers)) =
      Except.ok (past ++ (((pass channels stages frames).1.map fun entry =>
        Frame.toSamples entry.2) ++
          [Frame.toSamples (finished ++ (pass channels stages frames).2)])) := by
  induction stages generalizing frames past with
  | nil =>
      rw [Frame.toSamples_append]
      rfl
  | cons entry rest ih =>
      obtain ⟨stage, waiting⟩ := entry
      obtain ⟨first, later⟩ := List.forall_mem_cons.mp held
      have input : ∀ frame ∈ waiting ++ frames, frame.length = channels := fun frame member =>
        (List.mem_append.mp member).elim (first frame) (widths frame)
      have made : ∀ frame ∈ stage.run channels (waiting ++ frames), frame.length = channels := by
        rw [stage.run_eq_batch]
        exact fun frame => Stage.length_of_mem_batch
      have step := step_eq positive stage input past (List.append_ne_nil_of_right_ne_nil
        (rest.map fun entry => Frame.toSamples entry.2)
        (List.cons_ne_nil (Frame.toSamples finished) []))
      have more := ih later made (past ++ [Frame.toSamples
        ((waiting ++ frames).drop (stage.consumed (waiting ++ frames).length))])
      rw [List.length_append, List.length_singleton, List.append_assoc, List.append_assoc] at more
      rw [List.map_cons, List.zipIdx_cons, List.forIn_cons, List.map_cons, List.cons_append,
        List.modifyHead_cons, ← Frame.toSamples_append]
      exact Checked.bind_eq (Checked.bind_eq step rfl) more

/-- The stages of a decimator that is fed work on their buffers. -/
theorem Even.advance_eq {decimator : Decimator} (even : decimator.Even) {frames : List Frame}
    (widths : ∀ frame ∈ frames, frame.length = decimator.channels) :
    Checked.Sampler.advance { decimator.sampler with
        buffers := decimator.sampler.buffers.modifyHead (· ++ Frame.toSamples frames) } =
      .ok (decimator.feed frames).sampler := by
  have steps := steps_eq even.positive even.held widths decimator.finished []
  have kinds := map_fst_pass decimator.channels decimator.stages frames
  unfold Checked.Sampler.advance
  refine Checked.bind_eq steps ?_
  rw [feed_eq, sampler, sampler, kinds]
  rfl

/-! ## Pulls -/

/-- Passing leaves frames with a sample for each channel in every stage. -/
theorem held_pass {channels : Nat} {stages : List (Stage × List Frame)}
    (held : ∀ entry ∈ stages, ∀ frame ∈ entry.2, frame.length = channels) {frames : List Frame}
    (widths : ∀ frame ∈ frames, frame.length = channels) :
    ∀ entry ∈ (pass channels stages frames).1, ∀ frame ∈ entry.2, frame.length = channels := by
  induction stages generalizing frames with
  | nil => exact List.forall_mem_nil _
  | cons entry rest ih =>
      obtain ⟨stage, waiting⟩ := entry
      obtain ⟨first, later⟩ := List.forall_mem_cons.mp held
      refine List.forall_mem_cons.mpr ⟨fun frame member => ?_, ih later fun frame member => ?_⟩
      · obtain old | new := List.mem_append.mp (List.mem_of_mem_drop member)
        · exact first frame old
        · exact widths frame new
      · rw [stage.run_eq_batch] at member
        exact Stage.length_of_mem_batch member

theorem Even.whole {decimator : Decimator} (even : decimator.Even) : decimator.Whole :=
  ⟨even.staged, even.finished⟩

theorem Even.feed {decimator : Decimator} (even : decimator.Even) {frames : List Frame}
    (widths : ∀ frame ∈ frames, frame.length = decimator.channels) :
    (decimator.feed frames).Even :=
  ⟨even.positive, (even.whole.feed frames).staged, held_pass even.held widths,
    (even.whole.feed frames).widths⟩

/-- What arrives has a sample for each channel. -/
theorem widths_arriving (decimator : Decimator) (got : Nat) (samples : List Int16) :
    ∀ frame ∈ decimator.arriving got samples, frame.length = decimator.channels :=
  Frame.length_of_mem_split (Nat.div_mul_le_self ..)

/-- The samples of what arrives are those delivered, with silence up to what was counted. -/
theorem toSamples_arriving {decimator : Decimator} (positive : 0 < decimator.channels) (got : Nat)
    (samples : List Int16) :
    Frame.toSamples (decimator.arriving got samples) =
      padded (min got decimator.room * decimator.channels) samples := by
  rw [arriving, Frame.ofSamples_padded positive]
  exact Frame.toSamples_split _ _ (length_padded ..)

section Fill

variable {σ : Type} {source : Source σ} {decimator : Decimator} {state next : σ}
  {samples : List Int16}

theorem modifyHead_append_nil (buffers : List (List Int16)) :
    buffers.modifyHead (· ++ []) = buffers := by
  cases buffers with
  | nil => rfl
  | cons first rest => rw [List.modifyHead_cons, List.append_nil]

/-- A fill hands on a failure of the source and leaves the buffers. -/
theorem Even.fill_of_error (even : decimator.Even) (free : 0 < decimator.room) {error : PcmError}
    (answered : source (decimator.room * decimator.channels) state =
      (⟨samples, .error error⟩, next)) :
    decimator.sampler.fill source state = .ok (.error error, decimator.sampler, next) := by
  have filled := even.fill_of_free free answered
  simp only [modifyHead_append_nil] at filled
  exact filled

/-- A fill that finds nothing leaves the buffers. -/
theorem Even.fill_of_none (even : decimator.Even) (free : 0 < decimator.room)
    (answered : source (decimator.room * decimator.channels) state = (⟨samples, .ok 0⟩, next)) :
    decimator.sampler.fill source state = .ok (.ok 0, decimator.sampler, next) := by
  have filled := even.fill_of_free free answered
  have none : padded 0 samples = [] := List.eq_nil_of_length_eq_zero (length_padded ..)
  simp only [Nat.zero_min, Nat.zero_mul, none, modifyHead_append_nil] at filled
  exact filled

/-- A fill puts what was delivered behind the samples that the first stage holds. -/
theorem Even.fill_of_some (even : decimator.Even) (free : 0 < decimator.room) {got : Nat}
    (answered : source (decimator.room * decimator.channels) state =
      (⟨samples, .ok (got + 1)⟩, next)) :
    decimator.sampler.fill source state =
      .ok (.ok (got + 1), { decimator.sampler with
        buffers := decimator.sampler.buffers.modifyHead
          (· ++ Frame.toSamples (decimator.arriving (got + 1) samples)) }, next) := by
  rw [even.fill_of_free free answered, toSamples_arriving even.positive]

end Fill

/-- A buffer with samples written over what was there. -/
def overwrite (out : List Int16) (place : Nat) (samples : List Int16) : List Int16 :=
  out.take place ++ (samples ++ out.drop (place + samples.length))

theorem overwrite_nil (out : List Int16) (place : Nat) :
    overwrite out place (Frame.toSamples []) = out :=
  List.take_append_drop ..

theorem length_overwrite {out samples : List Int16} {place : Nat}
    (fits : place + samples.length ≤ out.length) :
    (overwrite out place samples).length = out.length := by
  rw [overwrite, List.length_append, List.length_append, List.length_take, List.length_drop]
  omega

/-- Samples are written one behind the other. -/
theorem overwrite_append {out first second : List Int16} {place : Nat}
    (fits : place + first.length ≤ out.length) :
    overwrite (overwrite out place first) (place + first.length) second =
      overwrite out place (first ++ second) := by
  have front : (out.take place ++ first).length = place + first.length := by
    rw [List.length_append, List.length_take]
    omega
  have whole : overwrite out place first =
      out.take place ++ first ++ out.drop (place + first.length) := (List.append_assoc ..).symm
  rw [overwrite, whole, List.take_left' front, ← List.drop_drop, List.drop_left' front,
    List.drop_drop, overwrite, List.length_append]
  simp only [List.append_assoc, Nat.add_assoc]

section Pulls

variable {σ : Type} {source : Source σ} {decimator : Decimator} {state : σ}

/-- No more frames are taken out than are wanted. -/
theorem length_takeFinished_le (decimator : Decimator) (wanted : Nat) :
    (decimator.takeFinished wanted).1.length ≤ wanted := by
  rw [takeFinished, List.length_take]
  exact Nat.min_le_left ..

/-- Refilling comes to the same on buffers. -/
theorem Gathers.checked {lacking : Nat} {calls : List Source.Call} {more : List Frame}
    {failure : Option PcmError} {after : Decimator} {final : σ}
    (gathers : Gathers source lacking decimator state calls ((more, failure), after, final))
    (even : decimator.Even) {rounds : Nat} (enough : calls.length < rounds) {produced wanted : Nat}
    (left : lacking = wanted - produced) {out : List Int16}
    (whole : out.length / decimator.channels = wanted) :
    decimator.sampler.gather source rounds wanted produced out state =
      .ok (failure.elim (.ok (produced + more.length)) .error,
        overwrite out (produced * decimator.channels) (Frame.toSamples more), after.sampler,
        final) := by
  generalize ended : ((more, failure), after, final) = outcome at gathers
  induction gathers generalizing more produced out rounds with
  | enough decimator state =>
      cases ended
      have done : ¬ produced < wanted := by omega
      rw [overwrite_nil]
      cases rounds <;> exact if_neg done
  | crowded state lacking full =>
      cases ended
      have some : produced < wanted := by omega
      obtain ⟨rounds, rfl⟩ := Nat.exists_eq_add_of_lt enough
      rw [overwrite_nil]
      exact (if_pos some).trans (Checked.bind_eq (even.fill_of_full full) rfl)
  | failed lacking free answered =>
      cases ended
      have some : produced < wanted := by omega
      obtain ⟨rounds, rfl⟩ := Nat.exists_eq_add_of_lt enough
      rw [overwrite_nil]
      exact (if_pos some).trans (Checked.bind_eq (even.fill_of_error free answered) rfl)
  | dry lacking free answered =>
      cases ended
      have some : produced < wanted := by omega
      obtain ⟨rounds, rfl⟩ := Nat.exists_eq_add_of_lt enough
      rw [overwrite_nil]
      exact (if_pos some).trans (Checked.bind_eq (even.fill_of_none free answered) rfl)
  | @round lacking got decimator fed state next samples calls further failure final some free
      answered come rest ih =>
      cases ended
      have less : produced < wanted := by omega
      obtain ⟨rounds, rfl⟩ := Nat.exists_eq_add_of_lt enough
      have evenFed : fed.Even := come ▸ even.feed (decimator.widths_arriving (got + 1) samples)
      have channels : fed.channels = decimator.channels := come ▸ rfl
      have advanced := even.advance_eq (decimator.widths_arriving (got + 1) samples)
      rw [← come] at advanced
      rw [← channels] at whole ⊢
      have start : produced * fed.channels ≤ out.length := Nat.mul_le_of_le_div _ _ _ (by omega)
      have room : (out.drop (produced * fed.channels)).length / fed.channels = lacking := by
        rw [List.length_drop, Nat.mul_comm, Nat.sub_mul_div, whole, left]
      have drained := evenFed.drain_eq (out.drop (produced * fed.channels))
      rw [room, List.drop_drop, ← Frame.length_toSamples (evenFed.widths_takeFinished lacking)]
        at drained
      refine (if_pos less).trans (Checked.bind_eq (even.fill_of_some free answered)
        (Checked.bind_eq advanced (Checked.bind_eq (if_pos start) (Checked.bind_eq drained ?_))))
      -- What was taken out stands behind what was there before, and the rest goes on from there.
      have taken := Frame.length_toSamples (evenFed.widths_takeFinished lacking)
      have few := fed.length_takeFinished_le lacking
      have fits : produced * fed.channels + (Frame.toSamples (fed.takeFinished lacking).1).length ≤
          out.length := by
        rw [taken, ← Nat.add_mul]
        exact Nat.mul_le_of_le_div _ _ _ (by omega)
      have gathered := @ih further (evenFed.takeFinished lacking) (calls.length + 1 + rounds)
        (by omega) (produced + (fed.takeFinished lacking).1.length) (by omega)
        (overwrite out (produced * fed.channels) (Frame.toSamples (fed.takeFinished lacking).1))
        (by rw [length_overwrite fits]; exact whole) rfl
      refine gathered.trans ?_
      have place : (produced + (fed.takeFinished lacking).1.length) *
          (fed.takeFinished lacking).2.channels =
            produced * fed.channels + (Frame.toSamples (fed.takeFinished lacking).1).length := by
        rw [taken, ← Nat.add_mul]
        rfl
      rw [place, overwrite_append fits, ← Frame.toSamples_append, List.length_append, Nat.add_assoc]

/-- A pull comes to the same on buffers, if it is given more rounds than it calls its source. -/
theorem Pulls.checked {calls : List Source.Call} {out : List Int16}
    {outcome : Delivery × Decimator × σ}
    (pulls : Pulls source decimator state out.length calls outcome) (even : decimator.Even)
    {rounds : Nat} (enough : calls.length < rounds) :
    decimator.sampler.pull source rounds out state =
      .ok (outcome.1.frames, outcome.1.fill out, outcome.2.1.sampler, outcome.2.2) := by
  obtain ⟨delivery, after, final⟩ := outcome
  obtain ⟨more, failure, gathers, delivered⟩ := pulls
  generalize frames : out.length / decimator.channels = wanted at gathers delivered
  have drained := even.drain_eq out
  have taken := Frame.length_toSamples (even.widths_takeFinished wanted)
  rw [frames, ← taken] at drained
  have fits : 0 + (Frame.toSamples (decimator.takeFinished wanted).1).length ≤ out.length := by
    rw [taken, Nat.zero_add]
    exact Nat.mul_le_of_le_div _ _ _ (frames ▸ decimator.length_takeFinished_le wanted)
  have front : Frame.toSamples (decimator.takeFinished wanted).1 ++
      out.drop (Frame.toSamples (decimator.takeFinished wanted).1).length =
        overwrite out 0 (Frame.toSamples (decimator.takeFinished wanted).1) := by
    rw [overwrite, Nat.zero_add]
    rfl
  have whole : (overwrite out 0 (Frame.toSamples (decimator.takeFinished wanted).1)).length /
      (decimator.takeFinished wanted).2.channels = wanted := by
    rw [length_overwrite fits]
    exact frames
  have gathered := gathers.checked (even.takeFinished wanted) enough rfl whole
  have place : (decimator.takeFinished wanted).1.length *
      (decimator.takeFinished wanted).2.channels =
        0 + (Frame.toSamples (decimator.takeFinished wanted).1).length := by
    rw [taken, Nat.zero_add]
    rfl
  rw [place, overwrite_append fits, ← Frame.toSamples_append] at gathered
  rw [front] at drained
  refine Checked.bind_eq (Checked.quotient_eq even.positive) (Checked.bind_eq drained ?_)
  rw [channels_sampler, frames]
  refine gathered.trans ?_
  cases delivered
  rw [List.length_append, overwrite, Nat.zero_add]
  rfl

/-- Gathering keeps the buffers whole, call by call. -/
theorem Gathers.even {wanted : Nat} {calls : List Source.Call} {taken : List Frame}
    {failure : Option PcmError} {after : Decimator} {final : σ}
    (gathers : Gathers source wanted decimator state calls ((taken, failure), after, final))
    (even : decimator.Even) : after.Even := by
  generalize ended : ((taken, failure), after, final) = outcome at gathers
  induction gathers generalizing taken with
  | enough | crowded | failed | dry =>
      cases ended
      exact even
  | round lacking free answered arrived rest ih =>
      cases ended
      subst arrived
      exact ih ((even.feed (widths_arriving _ _ _)).takeFinished _) rfl

end Pulls

/-- A decimator starts with empty buffers. -/
theorem even_toRate {rate : UInt32} {channels : UInt16} {capacity : Nat} {decimator : Decimator}
    (built : toRate rate channels capacity = .ok decimator) : decimator.Even := by
  have sound := sound_toRate built
  have empty : decimator.stages = (plan rate).map (fun stage => (stage, [])) ∧
      decimator.finished = [] := by
    unfold toRate at built
    split at built
    · cases built
    · split at built
      · cases built
      · cases built
        exact ⟨rfl, rfl⟩
  obtain ⟨stages, finished⟩ := empty
  refine ⟨sound.positive, ?_, ?_, ?_⟩
  · rw [stages]
    exact fun none => plan_ne_nil sound.offered (List.map_eq_nil_iff.mp none)
  · rw [stages]
    intro entry member
    obtain ⟨stage, -, rfl⟩ := List.mem_map.mp member
    exact List.forall_mem_nil _
  · rw [finished]
    exact List.forall_mem_nil _

theorem Even.reset {decimator : Decimator} (even : decimator.Even) : decimator.reset.Even := by
  refine ⟨even.positive, fun none => even.staged (List.map_eq_nil_iff.mp none), ?_,
    List.forall_mem_nil _⟩
  intro entry member
  obtain ⟨other, -, rfl⟩ := List.mem_map.mp member
  exact List.forall_mem_nil _

/-- The buffers of every decimator that is reached are whole. -/
theorem Reachable.even {rate : UInt32} {channels : UInt16} {capacity : Nat} {decimator : Decimator}
    (reachable : Reachable rate channels capacity decimator) : decimator.Even := by
  induction reachable with
  | built built => exact even_toRate built
  | pulled earlier source wanted state ih =>
      obtain ⟨calls, ⟨more, failure, gathers, -⟩, -⟩ := earlier.sound.pulls source wanted state
      exact gathers.even (ih.takeFinished _)
  | reset earlier ih => exact ih.reset

end Decimator

/-! ## Downmix -/

namespace Checked

open Resample

/-- A mean of samples is a sample. -/
theorem mean_eq (pair : Int16 × Int16) : mean pair = .ok (Downmix.mean pair.1 pair.2) := by
  have left := abs_le.mp (abs_toInt_le pair.1)
  have right := abs_le.mp (abs_toInt_le pair.2)
  have leftMost := pair.1.toInt_lt
  have rightMost := pair.2.toInt_lt
  have narrow : -2 ^ (16 - 1) ≤ (pair.1.toInt + pair.2.toInt).tdiv 2 ∧
      (pair.1.toInt + pair.2.toInt).tdiv 2 < 2 ^ (16 - 1) := by
    obtain up | down := Int.le_total 0 (pair.1.toInt + pair.2.toInt)
    · rw [Int.tdiv_eq_ediv_of_nonneg up]
      omega
    · rw [← Int.neg_neg (pair.1.toInt + pair.2.toInt), Int.neg_tdiv,
        Int.tdiv_eq_ediv_of_nonneg (Int.neg_nonneg_of_nonpos down)]
      omega
  refine bind_eq (signed_eq ?_) (bind_eq (if_pos narrow) rfl)
  rw [abs_lt]
  omega

/-- Mixing the first pairs of samples gives their means. -/
theorem mix_take_pairs (count : Nat) (samples : List Int16) :
    Downmix.mix (samples.take (2 * count)) =
      ((pairs samples).take count).map fun pair => Downmix.mean pair.1 pair.2 := by
  induction count generalizing samples with
  | zero => rfl
  | succ count ih =>
      match samples with
      | [] => rfl
      | [single] => rfl
      | left :: right :: rest => exact congrArg (_ :: ·) (ih rest)

theorem map_snd_zip {α β : Type} (first : List α) (second : List β) :
    (first.zip second).map Prod.snd = second.take first.length := by
  induction first generalizing second with
  | nil => rfl
  | cons entry first ih =>
      cases second with
      | nil => rfl
      | cons other second => exact congrArg (other :: ·) (ih second)

theorem length_pairs (samples : List Int16) : (pairs samples).length = samples.length / 2 := by
  fun_induction pairs samples with
  | case1 left right rest ih =>
      simp only [List.length_cons, ih]
      omega
  | case2 samples short =>
      match samples, short with
      | [], _ => rfl
      | [single], _ => exact (Nat.div_eq_of_lt (Nat.lt_succ_self 1)).symm
      | left :: right :: rest, short => exact (short left right rest rfl).elim

/-- What a source writes to the front of a buffer, as far as it is read. -/
theorem take_front (delivery : Delivery) (scratch : List Int16) {count most : Nat}
    (le : count ≤ most) (fits : most ≤ scratch.length) :
    ((delivery.fill (scratch.take most)).take most ++ scratch.drop most).take count =
      padded count (delivery.fill scratch) := by
  have written : (delivery.fill (scratch.take most)).take most =
      (delivery.fill scratch).take most := by
    simp only [Delivery.fill, List.take_append, List.drop_take, List.take_take, Nat.min_self]
  have long : most ≤ (delivery.fill scratch).length := by
    rw [Delivery.fill, List.length_append, List.length_drop]
    omega
  have front : ((delivery.fill scratch).take most).length = most := by
    rw [List.length_take, Nat.min_eq_left long]
  rw [written, List.take_append_of_le_length (front.symm ▸ le), List.take_take,
    Nat.min_eq_left le, padded, Nat.sub_eq_zero_of_le (Nat.le_trans le long), List.replicate_zero,
    List.append_nil]

/-- A mono pull comes to what it comes to on buffers, where no mean is too wide. -/
theorem mix_eq {σ : Type} (source : Source σ) {capacity : Nat} (out : List Int16)
    {scratch : List Int16} (whole : scratch.length = 2 * capacity) (state : σ) :
    ∃ after, after.length = 2 * capacity ∧
      let (delivery, _, final) := Downmix.through source out.length (⟨capacity, scratch⟩, state)
      mix source capacity out scratch state =
        .ok (delivery.frames, delivery.fill out, after, final) := by
  obtain ⟨most, least⟩ : ∃ most, most = min out.length capacity := ⟨_, rfl⟩
  have fits : most * 2 ≤ scratch.length := by
    rw [whole, Nat.mul_comm]
    exact Nat.mul_le_mul_left 2 (least ▸ Nat.min_le_right ..)
  have space : (scratch.take (most * 2)).length = most * 2 := by
    rw [List.length_take, Nat.min_eq_left fits]
  rcases answered : source (most * 2) state with ⟨⟨samples, outcome⟩, final⟩
  obtain ⟨after, filled⟩ : ∃ after, after =
    ((⟨samples, outcome⟩ : Delivery).fill (scratch.take (most * 2))).take (most * 2) ++
      scratch.drop (most * 2) := ⟨_, rfl⟩
  have length : after.length = 2 * capacity := by
    rw [filled, List.length_append, List.length_take, Delivery.fill, List.length_append,
      List.length_drop, List.length_drop, space]
    omega
  refine ⟨after, length, ?_⟩
  have asked : source (2 * most) state = (⟨samples, outcome⟩, final) := by
    rw [Nat.mul_comm, answered]
  simp only [Downmix.through, mix, ← least, asked]
  refine bind_eq (if_pos fits) ?_
  rw [space, answered]
  simp only [← filled]
  cases outcome with
  | error error => rfl
  | ok got =>
      have read : (pairs after).length = capacity := by
        rw [length_pairs, length, Nat.mul_div_cancel_left _ (by decide)]
      have most_le : 2 * min got most ≤ most * 2 := by omega
      have front := take_front ⟨samples, .ok got⟩ scratch most_le fits
      rw [← filled] at front
      have heard : (pairs after).take (min got out.length) =
          (pairs after).take (min got most) := by
        rw [List.take_eq_take_iff, read]
        omega
      have means : ((out.zip (pairs after)).take got).map
          (fun entry => Downmix.mean entry.2.1 entry.2.2) =
            Downmix.mix
              (padded (2 * min got most) ((⟨samples, .ok got⟩ : Delivery).fill scratch)) := by
        rw [← front, mix_take_pairs, ← heard, ← List.take_take, ← map_snd_zip, ← List.map_take,
          List.map_map]
        rfl
      exact bind_eq (mapM_eq fun entry _ => mean_eq entry.2) (means ▸ rfl)

/-- **No check ever fails.** A stage makes the frames that it is to make of whatever is in its
buffer. A decimator, in whatever state it can be, comes to the same on buffers, from any source and
for a buffer of any length. So does the downmix. -/
theorem neverFaults :
    (∀ (stage : Stage) (channels : Nat) (input output : List Int16),
      run stage input (input.length / channels) channels output =
        .ok (output ++ Frame.toSamples (stage.run channels (Frame.ofSamples channels input)),
          stage.consumed (input.length / channels))) ∧
    (∀ {rate : UInt32} {channels : UInt16} {capacity : Nat} {decimator : Decimator},
      Decimator.Reachable rate channels capacity decimator →
      ∀ {σ : Type} (source : Source σ) (out : List Int16) (state : σ) {rounds : Nat},
        Decimator.missing decimator.stages (out.length / decimator.channels) < rounds →
        let (delivery, after, final) := Decimator.through source out.length (decimator, state)
        decimator.sampler.pull source rounds out state =
          .ok (delivery.frames, delivery.fill out, after.sampler, final)) ∧
    ∀ {σ : Type} (source : Source σ) {capacity : Nat} (out : List Int16) {scratch : List Int16},
      scratch.length = 2 * capacity → ∀ state : σ,
        ∃ after, after.length = 2 * capacity ∧
          let (delivery, _, final) := Downmix.through source out.length (⟨capacity, scratch⟩, state)
          mix source capacity out scratch state =
            .ok (delivery.frames, delivery.fill out, after, final) := by
  refine ⟨run_eq, fun reachable _ source out state rounds enough => ?_, mix_eq⟩
  obtain ⟨calls, pulls, few⟩ := reachable.sound.pulls source out.length state
  exact pulls.checked reachable.even (Nat.lt_of_le_of_lt few enough)

/-- Stereo at full scale, which changes its sign from frame to frame. -/
def loud : Bench.ScriptedSource where
  channels := 2
  samples := (List.range 60).map fun i => if i % 4 < 2 then 32767 else -32768

/-- The loudest samples that there are pass the smallest decimator and a downmix. -/
theorem neverFaults_loud :
    (∃ frames out left final,
      Sampler.pull Bench.ScriptedSource.pull 24 [1, 2, 3, 4, 5] ⟨2, 20, [.half], [[], []]⟩ loud =
        .ok (frames, out, left, final) ∧ out = [-1, -1, -1, -1, 5]) ∧
    ∃ frames out after final,
      mix Bench.ScriptedSource.pull 2 [1, 2, 3] [0, 0, 0, 0] loud =
        .ok (frames, out, after, final) ∧ out = [32767, -32768, 3] := by
  have built : Decimator.toRate 22050 2 20 = .ok ⟨22050, 2, 20, [(.half, [])], []⟩ := by
    decide +kernel
  have few : Decimator.missing [(.half, [])] (5 / 2) < 24 := by decide
  have pulled :=
    neverFaults.2.1 (.built built) Bench.ScriptedSource.pull [1, 2, 3, 4, 5] loud few
  have whole : ([0, 0, 0, 0] : List Int16).length = 2 * 2 := rfl
  obtain ⟨after, -, mixed⟩ := neverFaults.2.2 Bench.ScriptedSource.pull [1, 2, 3] whole loud
  exact ⟨⟨_, _, _, _, pulled, by decide +kernel⟩, _, _, _, _, mixed, by decide +kernel⟩

end Checked

end PhoneAudio
