import PhoneAudio.Proofs.Capture.Liveness
import PhoneAudio.Proofs.Resample.Levels

/-!
# The level of a constant recording

A decimator over a source that repeats one frame delivers nothing but one frame, whatever it is
asked for and however the source answers: the frame of the source at the levels at which the stages
pass its samples (`PhoneAudio.Decimator.answers_at_level`). A level is off by 12 for each halving
and by 4 for the interpolation at most, and so by 28 at any rate
(`PhoneAudio.Decimator.levelAfter_plan_near`).
-/

namespace PhoneAudio

open Resample

namespace Delivery

/-- A delivery of nothing but one frame, as often as it counts if it did not fail. -/
def Repeats (frame : Frame) (delivery : Delivery) : Prop :=
  ∃ count, delivery.samples = Frame.toSamples (List.replicate count frame) ∧
    ∀ got, delivery.frames = .ok got → got = count

end Delivery

namespace Source

variable {σ : Type}

/-- In the states that it keeps to, a source counts nothing but one frame. How many of them it
counts in a call is left open, and so is whether it fails. -/
structure Repeats (source : Source σ) (frame : Frame) (keeps : σ → Prop) : Prop where
  stays : ∀ wanted state, keeps state → keeps (source wanted state).2
  same : ∀ wanted state, keeps state →
    ∀ other ∈ (source wanted state).1.frameList frame.length, other = frame

/-- A source that repeats one frame delivers that frame and goes on repeating it. -/
theorem Repeats.answered {source : Source σ} {frame : Frame} {keeps : σ → Prop}
    (repeats : source.Repeats frame keeps) {wanted : Nat} {state next : σ} (kept : keeps state)
    {delivery : Delivery} (answered : source wanted state = (delivery, next)) :
    keeps next ∧ ∀ other ∈ delivery.frameList frame.length, other = frame := by
  have stays := repeats.stays wanted state kept
  have same := repeats.same wanted state kept
  rw [answered] at stays same
  exact ⟨stays, same⟩

/-- The source that gives as many of one frame as it is asked for. -/
def repeating (frame : Frame) : Source Unit := fun wanted state =>
  let frames := List.replicate (wanted / frame.length) frame
  (⟨Frame.toSamples frames, .ok frames.length⟩, state)

theorem repeats_repeating (frame : Frame) : (repeating frame).Repeats frame fun _ => True := by
  refine ⟨fun _ _ kept => kept, fun wanted state _ other member => ?_⟩
  have widths : ∀ other ∈ List.replicate (wanted / frame.length) frame,
      other.length = frame.length := fun other member => by
    rw [List.eq_of_mem_replicate member]
  rw [repeating, Delivery.frameList_toSamples widths] at member
  exact List.eq_of_mem_replicate member

theorem supplies_repeating {frame : Frame} (some : frame ≠ []) :
    (repeating frame).Supplies frame.length fun _ => True := by
  refine ⟨fun _ _ kept => kept, fun frames state _ asked => ?_⟩
  obtain ⟨got, rfl⟩ := Nat.exists_eq_add_of_le' asked
  refine ⟨got, ?_⟩
  rw [repeating, List.length_replicate, Nat.mul_div_cancel _ (List.length_pos_of_ne_nil some)]

/-- What a source delivers when it is asked for so many samples each time. -/
def answers (source : Source σ) : List Nat → σ → List Delivery
  | [], _ => []
  | wanted :: rest, state =>
    let (delivery, state) := source wanted state
    delivery :: source.answers rest state

end Source

namespace Decimator

/-- What stages add up to be off by. -/
theorem sum_tolerance (stages : List Stage) :
    (stages.map Stage.tolerance).sum = 12 * stages.count .half + 4 * stages.count .ratio := by
  induction stages with
  | nil => rfl
  | cons stage rest ih =>
      rw [List.map_cons, List.sum_cons, ih]
      cases stage <;> simp [Stage.tolerance] <;> omega

/-- The level that the stages of a rate pass a sample at is off by no more than each of them is. -/
theorem levelAfter_plan_near (rate : UInt32) (sample : Int16) :
    |(levelAfter (plan rate) sample).toInt - sample.toInt| ≤
      12 * (plan rate).count .half + 4 * (plan rate).count .ratio := by
  have near := levelAfter_near (plan rate) sample
  rw [sum_tolerance] at near
  exact_mod_cast near

/-- Of a constant recording, stages make frames of one level. -/
theorem cascade_replicate (stages : List Stage) (count : Nat) (frame : Frame) :
    ∃ made, cascade frame.length stages (List.replicate count frame) =
      List.replicate made (frame.map (levelAfter stages)) := by
  induction stages generalizing count frame with
  | nil =>
      refine ⟨count, ?_⟩
      have unchanged : frame.map (levelAfter []) = frame := List.map_id frame
      rw [unchanged]
      rfl
  | cons stage rest ih =>
      obtain ⟨made, later⟩ := ih (stage.made * stage.rounds count) (frame.map stage.level)
      refine ⟨made, ?_⟩
      rw [← stage.batch_replicate, List.length_map, List.map_map] at later
      exact later

/-- A decimator for frames like one that was fed that frame and nothing else since it was empty. -/
structure HeardOnly (rate : UInt32) (frame : Frame) (capacity : Nat) (decimator : Decimator) :
    Prop where
  sound : decimator.Sound rate frame.length capacity
  fed : ∃ count returned, decimator.Serves (List.replicate count frame) returned

section HeardOnly

variable {rate : UInt32} {frame : Frame} {capacity : Nat} {decimator : Decimator} {σ : Type}
  {source : Source σ} {keeps : σ → Prop} {state : σ}

/-- A decimator that was built has heard nothing else. -/
theorem heardOnly_toRate {channels : UInt16} (width : frame.length = channels.toNat)
    (built : toRate rate channels capacity = .ok decimator) :
    decimator.HeardOnly rate frame capacity := by
  refine ⟨width ▸ sound_toRate built, 0, [], ?_⟩
  unfold toRate at built
  split at built
  · cases built
  · split at built
    · cases built
    · cases built
      exact holds_nil _ _

namespace HeardOnly

/-- Stages that are fed one frame hold only that frame at their levels. -/
theorem feed (heard : decimator.HeardOnly rate frame capacity) (more : Nat) :
    (decimator.feed (List.replicate more frame)).HeardOnly rate frame capacity := by
  refine ⟨heard.sound.feed _, ?_⟩
  obtain ⟨count, returned, serves⟩ := heard.fed
  have further := serves.feed (List.replicate more frame)
  rw [List.replicate_append_replicate] at further
  exact ⟨count + more, returned, further⟩

theorem takeFinished (heard : decimator.HeardOnly rate frame capacity) (wanted : Nat) :
    (decimator.takeFinished wanted).2.HeardOnly rate frame capacity := by
  obtain ⟨count, returned, serves⟩ := heard.fed
  exact ⟨heard.sound.takeFinished wanted, count, _, serves.takeFinished wanted⟩

/-- What is finished is the frame at the levels at which the stages pass its samples. -/
theorem finished (heard : decimator.HeardOnly rate frame capacity) :
    ∀ other ∈ decimator.finished, other = frame.map (levelAfter (plan rate)) := by
  obtain ⟨count, returned, serves⟩ := heard.fed
  have made := Holds.made_eq serves
  obtain ⟨all, levels⟩ := cascade_replicate (plan rate) count frame
  rw [heard.sound.channels_eq, heard.sound.kinds, levels] at made
  intro other member
  have there := List.mem_append_right returned member
  rw [made] at there
  exact List.eq_of_mem_replicate there

/-- What is taken out is the frame at the level of all stages. -/
theorem taken (heard : decimator.HeardOnly rate frame capacity) (wanted : Nat) :
    ∀ other ∈ (decimator.takeFinished wanted).1, other = frame.map (levelAfter (plan rate)) :=
  fun other member => heard.finished other (List.mem_of_mem_take member)

end HeardOnly

/-- Refills from a source of one frame bring that frame, and what is taken out is at its levels. -/
theorem Gathers.heardOnly {wanted : Nat} {calls : List Source.Call} {taken : List Frame}
    {failure : Option PcmError} {after : Decimator} {final : σ}
    (gathers : Gathers source wanted decimator state calls ((taken, failure), after, final))
    (heard : decimator.HeardOnly rate frame capacity) (repeats : source.Repeats frame keeps)
    (kept : keeps state) :
    (∀ other ∈ taken, other = frame.map (levelAfter (plan rate))) ∧
      after.HeardOnly rate frame capacity ∧ keeps final := by
  generalize ended : ((taken, failure), after, final) = outcome at gathers
  induction gathers generalizing taken with
  | enough | crowded =>
      cases ended
      exact ⟨List.forall_mem_nil _, heard, kept⟩
  | failed lacking free answered | dry lacking free answered =>
      cases ended
      exact ⟨List.forall_mem_nil _, heard, (repeats.answered kept answered).1⟩
  | @round wanted got decimator fed state next samples calls more failure last lacking free
      answered arrived rest ih =>
      cases ended
      obtain ⟨stays, same⟩ := repeats.answered kept answered
      have positive := heard.sound.positive
      have brought : decimator.arriving (got + 1) samples =
          List.replicate (min (got + 1) decimator.room) frame := by
        refine List.eq_replicate_iff.mpr ⟨length_arriving positive .., fun other member => ?_⟩
        rw [arriving_eq_take positive, heard.sound.channels_eq] at member
        exact same other (List.mem_of_mem_take member)
      rw [brought] at arrived
      subst arrived
      have further := heard.feed (min (got + 1) decimator.room)
      obtain ⟨later, ends⟩ := ih (further.takeFinished wanted) stays rfl
      exact ⟨List.forall_mem_append.mpr ⟨further.taken wanted, later⟩, ends⟩

/-- **A pull** from a source of one frame delivers nothing but that frame at its levels. -/
theorem HeardOnly.through (heard : decimator.HeardOnly rate frame capacity)
    (repeats : source.Repeats frame keeps) (kept : keeps state) (wanted : Nat) {delivery : Delivery}
    {after : Decimator} {final : σ}
    (pulled : through source wanted (decimator, state) = (delivery, after, final)) :
    delivery.Repeats (frame.map (levelAfter (plan rate))) ∧
      after.HeardOnly rate frame capacity ∧ keeps final := by
  obtain ⟨calls, ⟨more, failure, gathers, delivered⟩, -⟩ := heard.sound.pulls source wanted state
  rw [pulled] at gathers delivered
  generalize wanted / decimator.channels = frames at gathers delivered
  obtain ⟨later, ends⟩ := gathers.heardOnly (heard.takeFinished frames) repeats kept
  have all := List.eq_replicate_of_mem
    (List.forall_mem_append.mpr ⟨heard.taken frames, later⟩)
  refine ⟨⟨((decimator.takeFinished frames).1 ++ more).length, ?_, fun got counted => ?_⟩, ends⟩
  · rw [← all]
    exact congrArg Delivery.samples delivered
  · rw [show delivery = _ from delivered] at counted
    cases failure with
    | some error => cases counted
    | none => exact (Except.ok.inj counted).symm

/-- Every answer of a decimator that has only heard one frame repeats one frame. -/
theorem HeardOnly.answers (heard : decimator.HeardOnly rate frame capacity)
    (repeats : source.Repeats frame keeps) (kept : keeps state) (requests : List Nat) :
    ∀ delivery ∈ (Decimator.through source).answers requests (decimator, state),
      delivery.Repeats (frame.map (levelAfter (plan rate))) := by
  induction requests generalizing decimator state with
  | nil => exact List.forall_mem_nil _
  | cons wanted rest ih =>
      rcases pulled : Decimator.through source wanted (decimator, state) with
        ⟨delivery, after, final⟩
      obtain ⟨level, heardToo, keptToo⟩ := heard.through repeats kept wanted pulled
      rw [Source.answers, pulled]
      exact List.forall_mem_cons.mpr ⟨level, ih heardToo keptToo⟩

end HeardOnly

/-- Pulls from a source that neither fails nor runs dry are full, one after the other. -/
theorem Sound.answers_complete {rate : UInt32} {channels capacity : Nat} {decimator : Decimator}
    (sound : decimator.Sound rate channels capacity) (roomy : 20 ≤ capacity) {σ : Type}
    {source : Source σ} {keeps : σ → Prop} (supplies : source.Supplies channels keeps) {state : σ}
    (kept : keeps state) (requests : List Nat) :
    ((Decimator.through source).answers requests (decimator, state)).map Delivery.frames =
      requests.map fun wanted => .ok (wanted / channels) := by
  induction requests generalizing decimator state with
  | nil => rfl
  | cons wanted rest ih =>
      have later := ih (sound.through source wanted state)
        (through_keeps supplies.stays wanted decimator state kept).2
      rw [List.map_cons, ← later, ← sound.complete roomy supplies kept wanted]
      rfl

/-- **Levels.** Whatever a decimator at an accepted rate is asked for, over a source that repeats
one frame it delivers one frame only, with each sample at a level that depends on the rate and on
that sample. The level is off by 12 for each halving and by 4 for the interpolation at most, also
where it is clipped, and so by 28 at most. With room for 20 frames the decimator delivers as many of
them as it is asked for, if the source neither fails nor runs dry. -/
theorem answers_at_level {rate : UInt32} {channels : UInt16} {capacity : Nat}
    {decimator : Decimator} (built : toRate rate channels capacity = .ok decimator) {σ : Type}
    {source : Source σ} {frame : Frame} {keeps : σ → Prop} (repeats : source.Repeats frame keeps)
    (width : frame.length = channels.toNat) {state : σ} (kept : keeps state)
    (requests : List Nat) :
    let deliveries := (Decimator.through source).answers requests (decimator, state)
    let tolerance := 12 * (plan rate).count .half + 4 * (plan rate).count .ratio
    (∀ delivery ∈ deliveries, delivery.Repeats (frame.map (levelAfter (plan rate)))) ∧
      (∀ sample, |(levelAfter (plan rate) sample).toInt - sample.toInt| ≤ tolerance) ∧
      tolerance ≤ 28 ∧
      (20 ≤ capacity → source.Supplies frame.length keeps →
        deliveries.map Delivery.frames =
          requests.map fun wanted => .ok (wanted / frame.length)) := by
  intro deliveries tolerance
  have heard := heardOnly_toRate width built
  refine ⟨heard.answers repeats kept requests, levelAfter_plan_near rate, ?_, fun roomy supplies =>
    heard.sound.answers_complete roomy supplies kept requests⟩
  unfold tolerance
  rw [plan_of_mem heard.sound.offered]
  repeat' split
  all_goals decide

/-- At a quarter of the rate, full scale stays full scale, and what is close to it comes closer. -/
theorem answers_at_level_full_scale :
    let decimator : Decimator := ⟨11025, 2, 64, [(.half, []), (.half, [])], []⟩
    let deliveries := (Decimator.through (Source.repeating [32767, 30000])).answers [2, 7]
      (decimator, ())
    toRate 11025 2 64 = .ok decimator ∧
      (Source.repeating [32767, 30000]).Repeats [32767, 30000] (fun _ => True) ∧
      (Source.repeating [32767, 30000]).Supplies 2 (fun _ => True) ∧
      [32767, 30000].map (levelAfter (plan 11025)) = [32767, 30022] ∧
      (∀ delivery ∈ deliveries, delivery.Repeats [32767, 30022]) ∧
      deliveries.map Delivery.frames = [.ok 1, .ok 3] := by
  intro decimator deliveries
  have built : toRate 11025 2 64 = .ok decimator := by decide +kernel
  have repeats := Source.repeats_repeating [32767, 30000]
  have supplies := Source.supplies_repeating (List.cons_ne_nil 32767 [30000])
  have levels : [32767, 30000].map (levelAfter (plan 11025)) = [32767, 30022] := by
    decide +kernel
  obtain ⟨level, -, -, full⟩ := answers_at_level built repeats rfl trivial [2, 7]
  rw [levels] at level
  exact ⟨built, repeats, supplies, levels, level, full (by decide) supplies⟩

end Decimator

end PhoneAudio
