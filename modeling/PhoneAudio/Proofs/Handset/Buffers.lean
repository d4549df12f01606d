import PhoneAudio.Proofs.Handset.Equipment
import PhoneAudio.Proofs.Handset.Lossless

/-!
# Buffers of capture streams

A capture stream offers a buffer for what one period of the codec brings at its rate. The buffer is
never empty, but the last frame in it is cut off when the period does not come to whole frames at
the rate. Then a read of that size leaves the rest of the buffer as it was
(`PhoneAudio.Session.wholeFrames_iff`).
-/

namespace PhoneAudio

namespace CaptureRate

variable {period : UInt32} {format : StreamFormat}

/-- Every rate is divided by one at least. -/
theorem decimation_pos (rate : UInt32) : 0 < decimation rate := by
  unfold decimation
  split
  · decide
  · split <;> decide

/-- The bytes of a buffer are those of whole frames, and those of a frame that is cut off. -/
theorem bufferBytes_eq (captured : captures format = true) :
    bufferBytes period format =
      period.toNat / decimation format.rate * format.frameBytes +
        period.toNat % decimation format.rate * format.frameBytes / decimation format.rate := by
  rw [bufferBytes, if_pos captured, Nat.mul_assoc]
  change period.toNat * format.frameBytes / decimation format.rate = _
  conv_lhs => rw [← Nat.div_add_mod period.toNat (decimation format.rate)]
  rw [Nat.add_mul, Nat.mul_assoc, Nat.mul_add_div (decimation_pos _)]

/-- A format that is captured has frames of one byte at least. -/
theorem frameBytes_pos (captured : captures format = true) : 0 < format.frameBytes := by
  obtain ⟨encoding, width, -⟩ := captures_iff.mp captured
  unfold StreamFormat.frameBytes
  rw [encoding]
  rcases width with mono | stereo
  · rw [mono]
    decide
  · rw [stereo]
    decide

/-- Less than a frame is cut off. -/
theorem cut_lt (captured : captures format = true) :
    period.toNat % decimation format.rate * format.frameBytes / decimation format.rate <
      format.frameBytes := by
  rw [Nat.div_lt_iff_lt_mul (decimation_pos _), Nat.mul_comm format.frameBytes]
  exact Nat.mul_lt_mul_of_pos_right (Nat.mod_lt _ (decimation_pos _)) (frameBytes_pos captured)

/-- The whole frames of a buffer. -/
theorem bufferBytes_div (captured : captures format = true) :
    bufferBytes period format / format.frameBytes = period.toNat / decimation format.rate := by
  rw [bufferBytes_eq captured, Nat.mul_comm, Nat.mul_add_div (frameBytes_pos captured),
    Nat.div_eq_of_lt (cut_lt captured), Nat.add_zero]

/-- A buffer has whole frames if what is left of the period is less than a byte. -/
theorem frameBytes_dvd_iff (captured : captures format = true) :
    format.frameBytes ∣ bufferBytes period format ↔
      period.toNat % decimation format.rate * format.frameBytes < decimation format.rate := by
  rw [bufferBytes_eq captured, Nat.dvd_add_right (Nat.dvd_mul_left ..),
    ← Nat.div_eq_zero_iff_lt (decimation_pos _)]
  refine ⟨fun whole => Nat.eq_zero_of_dvd_of_lt whole (cut_lt captured), fun none => ?_⟩
  rw [none]
  exact Nat.dvd_zero _

end CaptureRate

namespace Act

open Run

variable {id : StreamId} {format : StreamFormat}

/-- What is read of a stream has as many frames as were asked for. -/
theorem length_readOpen {run after : Run} (records : run.Records id format) {frames : Nat}
    {samples : List Int16} (read : readOpen id frames run = (.ok samples, after)) :
    samples.length = frames * format.channels.toNat := by
  cases there : (run.machine.stream id).pcm with
  | none =>
      rw [readOpen_of_none there] at read
      cases read
  | some pcm =>
      have length := length_collected id pcm frames run
      rcases ended : collected id pcm frames run with ⟨⟨error | done, filled⟩, pipeline, last⟩
      · rw [readOpen_of_some there frames ended] at read
        cases read
      · rw [readOpen_of_some there frames ended] at read
        cases read
        rw [ended, records.format_eq] at length
        exact length

/-- A read that succeeds fills the whole frames of the buffer, and leaves the rest. -/
theorem read_fills {run after : Run} (staffed : run.machine.Staffed)
    (records : run.Records id format) {buffer filled : List UInt8} {count : Nat}
    (success : read id buffer run = ((.ok count, filled), after)) :
    count = buffer.length / format.frameBytes * format.frameBytes ∧
      ∃ samples : List Int16, samples.length * 2 = count ∧
        filled = Sample.bytes samples ++ buffer.drop count := by
  obtain ⟨between, collected, samples, begun, read, rfl, rfl, -⟩ := read_succeeds success
  have passes := Operation.passes_beginTransfer staffed records
  rw [begun] at passes
  have same : (between.machine.stream id).format = format := passes.records.format_eq
  rw [same] at read ⊢
  have width : format.frameBytes = format.channels.toNat * 2 := by
    unfold StreamFormat.frameBytes
    rw [records.encoding]
    rfl
  have size : samples.length * 2 = buffer.length / format.frameBytes * format.frameBytes := by
    rw [length_readOpen passes.records read, Nat.mul_assoc, ← width]
  refine ⟨rfl, samples, size, ?_⟩
  rw [← size, Sample.encodeInto_eq (size ▸ Nat.div_mul_le_self ..)]

end Act

/-- **Whole frames.** In every session, the buffer of a capture stream is not empty. It has whole
frames if and only if less than a byte is left of the period when it is divided by the decimation.
A read of that size that succeeds fills all whole frames and leaves the rest of the buffer, so it
returns the size of the buffer in the same cases only. -/
theorem Session.wholeFrames_iff {first last : Run} {operations : List Operation}
    (built : first.Built) (session : Session first operations last) {id : StreamId}
    (inside : id < last.machine.streams.length)
    (capture : (last.machine.stream id).direction = .capture) :
    let stream := last.machine.stream id
    let period := first.machine.settings.capturePeriod.toNat
    let ratio := CaptureRate.decimation stream.format.rate
    let frame := stream.format.frameBytes
    0 < stream.bufferBytes ∧
      (frame ∣ stream.bufferBytes ↔ period % ratio * frame < ratio) ∧
      ∀ (conditions : Conditions) (buffer filled : List UInt8) (count : Nat) (after : Run),
        buffer.length = stream.bufferBytes →
        Act.read id buffer (last.under conditions) = ((.ok count, filled), after) →
          count = period / ratio * frame ∧
          (count = stream.bufferBytes ↔ period % ratio * frame < ratio) ∧
          ∃ samples : List Int16, samples.length * 2 = count ∧
            filled = Sample.bytes samples ++ buffer.drop count := by
  intro stream period ratio frame
  have equipped := session.equipped built
  have fitted : stream.Equipped first.machine.settings := equipped.stream inside
  have captured := fitted.captures capture
  have size := fitted.buffer capture
  have whole : frame ∣ CaptureRate.bufferBytes first.machine.settings.capturePeriod stream.format ↔
      period % ratio * frame < ratio :=
    CaptureRate.frameBytes_dvd_iff captured
  rw [← size] at whole
  refine ⟨?_, whole, fun conditions buffer filled count after length success => ?_⟩
  · rw [size]
    exact Nat.pos_of_ne_zero ((CaptureRate.bufferBytes_ne_zero_iff
      (Settings.leastPeriod_le equipped.accepted)).mpr captured)
  · obtain ⟨staffed, filtered⟩ := session.filtered built
    obtain ⟨format, records⟩ := filtered id (capture ▸ Machine.ways_of_inside inside)
    cases records.format_eq
    have same : (last.under conditions).inlets = last.inlets := rfl
    have under := records.passes_of_inlets same
    have waiting : (last.under conditions).machine.Staffed :=
      staffed.extended rfl rfl (List.prefix_refl _)
    obtain ⟨counted, samples, width, fills⟩ := Act.read_fills waiting under.records success
    rw [length] at counted
    refine ⟨?_, ?_, samples, width, fills⟩
    · rw [counted, size, CaptureRate.bufferBytes_div captured]
    · rw [← whole]
      constructor
      · intro same
        rw [← same, counted]
        exact Nat.dvd_mul_left ..
      · intro divides
        rw [counted]
        exact Nat.div_mul_cancel divides

/-- Audio hardware with capture periods of an odd number of frames. -/
def Run.odd : Run :=
  (Act.build { settings := { capturePeriod := 129 } } { machine := { drivers := {} } }).2

/-- The settings are accepted. -/
theorem Run.built_odd : Run.odd.Built :=
  Run.built_of_faultless (by decide) rfl

/-- A mono capture stream at half the rate of the codec, with odd periods. -/
def Run.uneven : Run :=
  Run.odd.next (.openStream .capture ⟨0x40000⟩ (.pcm16 22050 1))

/-- A stream at half the rate has been opened. -/
theorem Session.uneven :
    Session Run.odd [.openStream .capture ⟨0x40000⟩ (.pcm16 22050 1)] Run.uneven :=
  Session.start.next _ (by decide +kernel)

/-- A read into all of an odd buffer fills all of it but the last byte. -/
theorem Session.wholeFrames_iff_uneven :
    0 < (Run.uneven.machine.stream 0).bufferBytes ∧
      ¬ (Run.uneven.machine.stream 0).format.frameBytes ∣
        (Run.uneven.machine.stream 0).bufferBytes ∧
      ∃ samples : List Int16, samples.length * 2 = 128 ∧
        (Act.read 0 (List.replicate 129 7) (Run.uneven.under {})).1 =
          (.ok 128, Sample.bytes samples ++ [7]) := by
  have inside : 0 < Run.uneven.machine.streams.length := by decide +kernel
  obtain ⟨nonempty, whole, reads⟩ :=
    Session.wholeFrames_iff Run.built_odd Session.uneven inside (by decide +kernel)
  refine ⟨nonempty, fun divides => absurd (whole.mp divides) (by decide +kernel), ?_⟩
  have counted : (Act.read 0 (List.replicate 129 7) (Run.uneven.under {})).1.1 = .ok 128 := by
    decide +kernel
  rcases read : Act.read 0 (List.replicate 129 7) (Run.uneven.under {}) with
    ⟨⟨answer, filled⟩, after⟩
  rw [read] at counted
  cases counted
  obtain ⟨-, -, samples, width, rfl⟩ := reads {} (List.replicate 129 7) filled 128 after
    (by decide +kernel) read
  exact ⟨samples, width, rfl⟩

/-- The buffer of a mono stream at half the rate ends within a sample when periods are odd. -/
theorem Session.not_wholeFrames : ¬ ∀ (first last : Run) (operations : List Operation),
    first.Built → Session first operations last → ∀ id < last.machine.streams.length,
      (last.machine.stream id).direction = .capture →
        (last.machine.stream id).format.frameBytes ∣ (last.machine.stream id).bufferBytes := by
  intro whole
  have divides := whole Run.odd Run.uneven _ Run.built_odd Session.uneven 0 (by decide +kernel)
    (by decide +kernel)
  exact absurd divides (by decide +kernel)

end PhoneAudio
