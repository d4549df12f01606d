import Mathlib.Data.List.Infix
import PhoneAudio.Handset.Transfer
import PhoneAudio.Proofs.Capture.Streaming
import PhoneAudio.Proofs.Sample.Bytes

/-!
# Collecting frames

A read collects frames from a capture pipeline until it has all that it was asked for
(`PhoneAudio.Pipeline.Serves.collect`), and writes them to a buffer of bytes. So what reads hand out
since the pipeline was reset is the beginning of what its filters make of the recording, cut into
pieces by the sizes of the buffers, and reads of the same sizes hand out the same bytes of
recordings that are the same as far as they were heard (`PhoneAudio.Tells.congr`).
-/

namespace PhoneAudio

open Resample in
/-- Stages make the beginning of the same frames of the beginning of a recording. -/
theorem Decimator.cascade_mono (channels : Nat) (stages : List Stage) {first second : List Frame}
    (beginning : first <+: second) :
    cascade channels stages first <+: cascade channels stages second := by
  induction stages generalizing first second with
  | nil => exact beginning
  | cons stage rest ih =>
      obtain ⟨more, rfl⟩ := beginning
      refine ih ?_
      change stage.batch channels first <+: stage.batch channels (first ++ more)
      rw [Stage.batch_append]
      exact List.prefix_append ..

/-- What a longer recording is turned into begins with what a shorter one is. -/
theorem Pipeline.batch_mono (format : StreamFormat) {first second : List Frame}
    (beginning : first <+: second) : batch format first <+: batch format second := by
  have mixes : mixed format first <+: mixed format second := by
    obtain ⟨more, rfl⟩ := beginning
    rw [mixed_append]
    exact List.prefix_append ..
  unfold batch
  split
  · exact mixes
  · exact Decimator.cascade_mono _ _ mixes

namespace Delivery

@[simp]
theorem length_fillWithin (delivery : Delivery) (buffer : List Int16) :
    (delivery.fillWithin buffer).length = buffer.length := by
  rw [fillWithin, List.length_take, fill, List.length_append, List.length_drop]
  omega

/-- A delivery of so many samples fills a buffer of that size. -/
theorem fillWithin_of_length {delivery : Delivery} {buffer : List Int16}
    (size : delivery.samples.length = buffer.length) :
    delivery.fillWithin buffer = delivery.samples := by
  rw [fillWithin, fill, ← size, size, List.drop_length, List.append_nil, ← size, List.take_length]

/-- The frames that a delivery counts are at the front of the buffer that it fills, if they are
written and there is room for them. -/
theorem take_fillWithin (channels : Nat) {delivery : Delivery} {got : Nat}
    (counted : delivery.frames = .ok got) (written : got * channels ≤ delivery.samples.length)
    {buffer : List Int16} (room : got * channels ≤ buffer.length) :
    (delivery.fillWithin buffer).take (got * channels) =
      Frame.toSamples (delivery.frameList channels) := by
  rw [toSamples_frameList channels counted, fillWithin, List.take_take, Nat.min_eq_left room, fill,
    List.take_append_of_le_length written, padded, Nat.sub_eq_zero_of_le written]
  exact (List.append_nil _).symm

end Delivery

/-- A buffer keeps its size while frames are collected into it. -/
@[simp]
theorem Act.length_collect {σ : Type} (source : Source σ) (channels pulls frames : Nat)
    (buffer : List Int16) (state : σ) :
    (collect source channels pulls frames buffer state).1.2.length = buffer.length := by
  induction pulls generalizing frames buffer state with
  | zero => rfl
  | succ pulls ih =>
      rw [collect]
      split
      · rfl
      generalize source (frames * channels) state = delivered
      obtain ⟨⟨samples, outcome⟩, next⟩ := delivered
      match outcome with
      | .error error => exact Delivery.length_fillWithin _ buffer
      | .ok 0 => exact Delivery.length_fillWithin _ buffer
      | .ok (got + 1) =>
          simp only [List.length_append, List.length_take, ih, List.length_drop,
            Delivery.length_fillWithin]
          omega

namespace Decimator

variable {σ : Type} (source : Source σ)

/-- No more frames are gathered than are wanted. -/
theorem length_gather (rounds wanted : Nat) (decimator : Decimator) (state : σ) :
    (gather source rounds wanted decimator state).1.1.length ≤ wanted := by
  induction rounds generalizing wanted decimator state with
  | zero => exact Nat.zero_le _
  | succ rounds ih =>
      rw [gather]
      split
      · exact Nat.zero_le _
      generalize refill source decimator state = refilled
      obtain ⟨outcome, between, next⟩ := refilled
      rcases outcome with error | got
      · exact Nat.zero_le _
      cases got with
      | zero => exact Nat.zero_le _
      | succ got =>
          have first : (between.takeFinished wanted).1.length ≤ wanted := List.length_take_le ..
          have rest := ih (wanted - (between.takeFinished wanted).1.length)
            (between.takeFinished wanted).2 next
          have both := Nat.le_trans (Nat.add_le_add_left rest _)
            (Nat.le_of_eq (Nat.add_sub_of_le first))
          exact Nat.le_trans (Nat.le_of_eq List.length_append) both

/-- A decimator counts no more frames than it was asked for. -/
theorem within_through (wanted : Nat) (decimator : Decimator) (state : σ) {got : Nat}
    (counted : (through source wanted (decimator, state)).1.frames = .ok got) :
    got ≤ wanted / decimator.channels := by
  simp only [through] at counted
  generalize wanted / decimator.channels = count at counted ⊢
  have first : (decimator.takeFinished count).1.length ≤ count := List.length_take_le ..
  have rest := length_gather source
    (missing (decimator.takeFinished count).2.stages
      (count - (decimator.takeFinished count).1.length))
    (count - (decimator.takeFinished count).1.length) (decimator.takeFinished count).2 state
  generalize gather source _ _ _ _ = gathered at counted rest
  obtain ⟨⟨more, failure⟩, after, final⟩ := gathered
  cases failure with
  | some e => cases counted
  | none =>
      cases counted
      have later : more.length ≤ count - (decimator.takeFinished count).1.length := rest
      change ((decimator.takeFinished count).1 ++ more).length ≤ count
      rw [List.length_append]
      omega

end Decimator

namespace Pipeline

variable {σ : Type} {source : Source σ} {keeps : σ → Prop} {log : σ → List Frame}
  {pipeline : Pipeline} {format : StreamFormat} {returned : List Frame} {state : σ}

/-- A pipeline that fits a format has at least one channel. -/
theorem Fits.channels_pos (fits : pipeline.Fits format) : 0 < format.channels.toNat := by
  obtain mono | stereo := fits.width
  · rw [mono]
    decide
  · rw [stereo]
    decide

/-- A pipeline counts no more frames than it was asked for. -/
theorem Fits.within (fits : pipeline.Fits format) (truthful : source.Truthful 2)
    (recorded : source.Appends 2 keeps log) (kept : keeps state) {wanted got : Nat}
    (counted : (Pipeline.through source (wanted * format.channels.toNat)
      (pipeline, state)).1.frames = .ok got) : got ≤ wanted := by
  obtain ⟨downmix, decimator⟩ := pipeline
  cases decimator with
  | none =>
      have bound := (appends_optionally truthful recorded fits.width).within
        (wanted * format.channels.toNat) (downmix, state) got ⟨fits.mixes, kept⟩ counted
      exact Nat.le_of_mul_le_mul_right bound fits.channels_pos
  | some decimator =>
      obtain ⟨-, width, -⟩ := fits.decimates decimator rfl
      have bound := Decimator.within_through (Source.optionally Downmix.through source)
        (wanted * format.channels.toNat) decimator (downmix, state) counted
      rwa [width, Nat.mul_div_cancel _ fits.channels_pos] at bound

/-- **Collecting.** A read that succeeds fills its buffer with as many frames as it was asked for,
whatever the buffer held before, and they continue what was handed out so far. -/
theorem Serves.collect (truthful : source.Truthful 2) (recorded : source.Appends 2 keeps log)
    {pulls frames : Nat} (enough : frames ≤ pulls)
    (serves : pipeline.Serves format (log state) returned) (kept : keeps state)
    {buffer filled : List Int16} (room : buffer.length = frames * format.channels.toNat)
    {after : Pipeline} {final : σ}
    (equal : Act.collect (Pipeline.through source) format.channels.toNat pulls frames buffer
      (pipeline, state) = ((.ok (), filled), after, final)) :
    ∃ handed : List Frame, filled = Frame.toSamples handed ∧
      after.Serves format (log final) (returned ++ handed) := by
  have nothing : pipeline.Serves format (log state) (returned ++ []) := by
    rw [List.append_nil]
    exact serves
  have full : frames = 0 → buffer = Frame.toSamples [] := by
    rintro rfl
    rw [Nat.zero_mul] at room
    exact List.eq_nil_of_length_eq_zero room
  induction pulls generalizing frames pipeline state returned buffer filled with
  | zero =>
      cases equal
      exact ⟨[], full (Nat.le_zero.mp enough), nothing⟩
  | succ pulls ih =>
      rw [Act.collect] at equal
      by_cases done : frames = 0
      · rw [if_pos done] at equal
        cases equal
        exact ⟨[], full done, nothing⟩
      rw [if_neg done] at equal
      have stays := through_keeps recorded.stays (frames * format.channels.toNat) pipeline kept
      have within : ∀ got, (Pipeline.through source (frames * format.channels.toNat)
          (pipeline, state)).1.frames = .ok got → got ≤ frames :=
        fun _ counted => serves.toFits.within truthful recorded kept counted
      rcases come : Pipeline.through source (frames * format.channels.toNat) (pipeline, state) with
        ⟨⟨pulled, outcome⟩, between, next⟩
      rw [come] at equal stays within
      match outcome, come with
      | .error e, _ => cases equal
      | .ok 0, _ => cases equal
      | .ok (got + 1), come =>
        obtain ⟨served, -, written⟩ := serves.through truthful recorded kept come rfl
        dsimp only at equal
        have inside : (got + 1) * format.channels.toNat ≤ buffer.length := by
          rw [room]
          exact Nat.mul_le_mul_right _ (within _ rfl)
        have size := Delivery.length_fillWithin ⟨pulled, .ok (got + 1)⟩ buffer
        have first := Delivery.take_fillWithin format.channels.toNat
          (rfl : (Delivery.mk pulled (.ok (got + 1))).frames = .ok (got + 1)) written inside
        generalize Delivery.fillWithin ⟨pulled, .ok (got + 1)⟩ buffer = now at equal size first
        have left : (now.drop ((got + 1) * format.channels.toNat)).length =
            (frames - (got + 1)) * format.channels.toNat := by
          rw [List.length_drop, size, room, Nat.sub_mul]
        rcases rest : Act.collect (Pipeline.through source) format.channels.toNat pulls
            (frames - (got + 1)) (now.drop ((got + 1) * format.channels.toNat)) (between, next) with
          ⟨⟨outcome, more⟩, last, ended⟩
        simp only [rest] at equal
        cases equal
        obtain ⟨handed, same, further⟩ := ih (by omega) served stays left rest
          (by rwa [List.append_nil]) fun none => List.eq_nil_of_length_eq_zero (by
            rw [left, none, Nat.zero_mul])
        refine ⟨_, ?_, by rwa [List.append_assoc] at further⟩
        rw [first, same]
        exact List.flatten_append.symm

end Pipeline

/-- Reads with buffers of these sizes returned these bytes: all bytes of whole frames for which
there was room, and together those of the frames that were handed out. -/
structure Tells (format : StreamFormat) (readings : List (Nat × List UInt8)) (handed : List Frame) :
    Prop where
  whole : ∀ reading ∈ readings,
    reading.2.length = reading.1 / format.frameBytes * format.frameBytes
  flat : (readings.map Prod.snd).flatten = Sample.bytes (Frame.toSamples handed)

namespace Tells

variable {format : StreamFormat} {readings more : List (Nat × List UInt8)}
  {handed others : List Frame}

/-- No reads tell nothing. -/
theorem nil (format : StreamFormat) : Tells format [] [] :=
  ⟨nofun, rfl⟩

/-- Reads one after the other tell what they tell, one after the other. -/
theorem append (first : Tells format readings handed) (second : Tells format more others) :
    Tells format (readings ++ more) (handed ++ others) := by
  refine ⟨fun reading member => ?_, ?_⟩
  · obtain earlier | later := List.mem_append.mp member
    · exact first.whole reading earlier
    · exact second.whole reading later
  · rw [List.map_append, List.flatten_append, first.flat, second.flat]
    unfold Frame.toSamples Sample.bytes
    rw [List.flatten_append, List.flatMap_append]

/-- Readings of the same sizes are the same if they tell of frames from one recording. -/
theorem congr {recording : List Frame} (first : Tells format readings handed)
    (second : Tells format more others) (heard : handed <+: recording)
    (heardToo : others <+: recording) (sizes : readings.map Prod.fst = more.map Prod.fst) :
    readings = more := by
  -- The sizes fix where the bytes are cut, and how many there are.
  have cut : ∀ {readings : List (Nat × List UInt8)} {handed : List Frame},
      Tells format readings handed → (readings.map Prod.snd).map List.length =
        (readings.map Prod.fst).map fun size => size / format.frameBytes * format.frameBytes := by
    intro readings handed tells
    rw [List.map_map, List.map_map]
    exact List.map_congr_left tells.whole
  have cuts : (readings.map Prod.snd).map List.length = (more.map Prod.snd).map List.length := by
    rw [cut first, cut second, sizes]
  have beginning : ∀ {handed : List Frame}, handed <+: recording →
      Sample.bytes (Frame.toSamples handed) <+: Sample.bytes (Frame.toSamples recording) := by
    rintro handed ⟨rest, rfl⟩
    unfold Frame.toSamples Sample.bytes
    rw [List.flatten_append, List.flatMap_append]
    exact List.prefix_append ..
  have lengths : (readings.map Prod.snd).flatten.length = (more.map Prod.snd).flatten.length := by
    rw [List.length_flatten, List.length_flatten, cuts]
  have bytes : (readings.map Prod.snd).flatten = (more.map Prod.snd).flatten := by
    have shorter := beginning heard
    have other := beginning heardToo
    rw [← first.flat] at shorter
    rw [← second.flat] at other
    have beginning := List.prefix_of_prefix_length_le shorter other (Nat.le_of_eq lengths)
    exact beginning.eq_of_length lengths
  have pieces := List.eq_iff_flatten_eq.mpr ⟨bytes, cuts⟩
  rw [List.zip_of_prod sizes pieces, ← List.zip_of_prod rfl rfl]

end Tells

end PhoneAudio
