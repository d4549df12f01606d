import Mathlib.Data.Nat.Bitwise
import PhoneAudio.Sample.Bytes

/-!
# Samples and bytes

A sample is two bytes, the low one first, and two bytes are one sample. Writing samples into bytes
and reading bytes into samples fill the front of their destination with as many whole samples as
both sides have room for, leave the rest of it, and undo each other
(`PhoneAudio.Sample.decodeInto_encodeInto`).
-/

namespace PhoneAudio

namespace Sample

theorem toNat_lowByte (sample : Int16) : (lowByte sample).toNat = sample.toUInt16.toNat % 256 :=
  UInt16.toNat_toUInt8 _

theorem toNat_highByte (sample : Int16) :
    (highByte sample).toNat = sample.toUInt16.toNat / 256 := by
  have bound := sample.toUInt16.toNat_lt
  rw [highByte, UInt16.toNat_toUInt8, UInt16.toNat_shiftRight, Nat.shiftRight_eq_div_pow]
  change sample.toUInt16.toNat / 256 % 256 = sample.toUInt16.toNat / 256
  omega

/-- Two bytes make the word with the one as its low and the other as its high byte. -/
theorem toNat_ofBytes (low high : UInt8) :
    (ofBytes low high).toUInt16.toNat = low.toNat + 256 * high.toNat := by
  have small := low.toNat_lt
  have large := high.toNat_lt
  have whole : high.toNat <<< 8 % 2 ^ 16 = high.toNat <<< 8 := by
    rw [Nat.shiftLeft_eq]
    omega
  have joined : (ofBytes low high).toUInt16.toNat = low.toNat ||| high.toNat <<< 8 % 2 ^ 16 := rfl
  -- the low byte lies below the bits of the high one
  have apart := Nat.shiftLeft_add_eq_or_of_lt small high.toNat
  rw [joined, whole, Nat.or_comm, ← apart, Nat.shiftLeft_eq]
  omega

/-- The bytes of a sample are those of its value modulo 65536, the low byte first. -/
theorem lowByte_add_highByte (sample : Int16) :
    (((lowByte sample).toNat + 256 * (highByte sample).toNat : Nat) : Int) =
      sample.toInt % 65536 := by
  have bound := sample.toUInt16.toNat_lt
  have word : sample.toInt = (sample.toUInt16.toNat : Int).bmod 65536 :=
    BitVec.toInt_eq_toNat_bmod sample.toBitVec
  have residue : (sample.toUInt16.toNat : Int).bmod 65536 % 65536 =
      sample.toUInt16.toNat % 65536 := Int.bmod_emod
  rw [word, residue, toNat_lowByte, toNat_highByte, Nat.mod_add_div]
  omega

/-- A sample is read back from its two bytes. -/
@[simp]
theorem ofBytes_lowByte_highByte (sample : Int16) :
    ofBytes (lowByte sample) (highByte sample) = sample := by
  have same : (ofBytes (lowByte sample) (highByte sample)).toUInt16.toNat =
      sample.toUInt16.toNat := by
    rw [toNat_ofBytes, toNat_lowByte, toNat_highByte, Nat.mod_add_div]
  exact congrArg UInt16.toInt16 (UInt16.toNat_inj.mp same)

@[simp]
theorem lowByte_ofBytes (low high : UInt8) : lowByte (ofBytes low high) = low := by
  have small := low.toNat_lt
  apply UInt8.toNat_inj.mp
  rw [toNat_lowByte, toNat_ofBytes]
  omega

@[simp]
theorem highByte_ofBytes (low high : UInt8) : highByte (ofBytes low high) = high := by
  have small := low.toNat_lt
  apply UInt8.toNat_inj.mp
  rw [toNat_highByte, toNat_ofBytes]
  omega

/-- How many samples fit from the one into the other. -/
def fitting (samples bytes : Nat) : Nat :=
  min samples (bytes / 2)

/-- One more sample takes two more bytes. -/
@[simp]
theorem fitting_succ (samples bytes : Nat) :
    fitting (samples + 1) (bytes + 2) = fitting samples bytes + 1 := by
  unfold fitting
  omega

/-- What fits takes no more bytes than there are. -/
theorem two_mul_fitting_le (samples bytes : Nat) : 2 * fitting samples bytes ≤ bytes := by
  unfold fitting
  omega

/-- Samples as bytes. -/
def bytes (samples : List Int16) : List UInt8 :=
  samples.flatMap fun sample => [lowByte sample, highByte sample]

@[simp]
theorem bytes_cons (sample : Int16) (samples : List Int16) :
    bytes (sample :: samples) = lowByte sample :: highByte sample :: bytes samples := rfl

theorem length_bytes (samples : List Int16) : (bytes samples).length = samples.length * 2 := by
  induction samples with
  | nil => rfl
  | cons sample samples ih => simp [ih, Nat.succ_mul]

/-- The bytes of the first samples are the first bytes. -/
theorem bytes_take (samples : List Int16) (count : Nat) :
    bytes (samples.take count) = (bytes samples).take (2 * count) := by
  induction samples generalizing count with
  | nil => simp [bytes]
  | cons sample samples ih =>
      cases count with
      | zero => rfl
      | succ count => simp [ih, Nat.mul_succ]

/-- Writing fills the front of a buffer with the samples that fit and leaves the rest. -/
theorem encodeInto_eq_append (samples : List Int16) (buffer : List UInt8) :
    encodeInto samples buffer = (2 * fitting samples.length buffer.length,
      bytes (samples.take (fitting samples.length buffer.length)) ++
        buffer.drop (2 * fitting samples.length buffer.length)) := by
  fun_induction encodeInto samples buffer with
  | case1 sample samples first second buffer rest ih =>
      simp [rest, ih, Nat.mul_succ]
  | case2 samples buffer unfit =>
      have none : fitting samples.length buffer.length = 0 := by
        match samples, buffer, unfit with
        | [], _, _ => simp [fitting]
        | _ :: _, [], _ | _ :: _, [_], _ => simp [fitting]
        | sample :: samples, first :: second :: buffer, unfit =>
          exact (unfit sample samples first second buffer rfl rfl).elim
      simp [none, bytes]

/-- Samples that fit into a buffer replace its first bytes. -/
theorem encodeInto_eq {samples : List Int16} {buffer : List UInt8}
    (fits : samples.length * 2 ≤ buffer.length) :
    (encodeInto samples buffer).2 = bytes samples ++ buffer.drop (samples.length * 2) := by
  have all : fitting samples.length buffer.length = samples.length := by
    unfold fitting
    omega
  rw [encodeInto_eq_append, all, List.take_length, Nat.mul_comm]

/-- Samples that fit into a buffer are its first bytes. -/
theorem take_encodeInto {samples : List Int16} {buffer : List UInt8}
    (fits : samples.length * 2 ≤ buffer.length) :
    (encodeInto samples buffer).2.take (samples.length * 2) = bytes samples := by
  rw [encodeInto_eq fits, ← length_bytes, List.take_left]

/-- Reading fills the front of a run of samples with those that the bytes stand for and leaves the
rest. -/
theorem decodeInto_eq_append (buffer : List UInt8) (target : List Int16) : ∃ read,
    bytes read = buffer.take (2 * fitting target.length buffer.length) ∧
      decodeInto buffer target = (fitting target.length buffer.length,
        read ++ target.drop (fitting target.length buffer.length)) := by
  fun_induction decodeInto buffer target with
  | case1 low high buffer replaced target rest ih =>
      obtain ⟨read, same, whole⟩ := ih
      exact ⟨ofBytes low high :: read, by simp [same, Nat.mul_succ], by simp [rest, whole]⟩
  | case2 buffer target unfit =>
      have none : fitting target.length buffer.length = 0 := by
        match buffer, target, unfit with
        | _, [], _ => simp [fitting]
        | [], _ :: _, _ | [_], _ :: _, _ => simp [fitting]
        | low :: high :: buffer, replaced :: target, unfit =>
          exact (unfit low high buffer replaced target rfl rfl).elim
      exact ⟨[], by simp [none, bytes], by simp [none]⟩

/-- Reading the bytes of samples gives the samples back, as far as there is room. -/
theorem decodeInto_bytes (samples target : List Int16) :
    (decodeInto (bytes samples) target).2 =
      samples.take target.length ++ target.drop samples.length := by
  induction samples generalizing target with
  | nil => cases target <;> rfl
  | cons sample samples ih =>
      cases target with
      | nil => rfl
      | cons replaced target => simp [decodeInto, ih]

/-- The bytes that writing puts into the front of a buffer. -/
def written (samples : List Int16) (buffer : List UInt8) : List UInt8 :=
  (encodeInto samples buffer).2.take (encodeInto samples buffer).1

/-- The samples that reading puts into the front of a run of samples. -/
def read (buffer : List UInt8) (target : List Int16) : List Int16 :=
  (decodeInto buffer target).2.take (decodeInto buffer target).1

theorem length_bytes_take_fitting (samples : List Int16) (bound : Nat) :
    (bytes (samples.take (fitting samples.length bound))).length =
      2 * fitting samples.length bound := by
  have within : fitting samples.length bound ≤ samples.length := Nat.min_le_left _ _
  rw [length_bytes, List.length_take_of_le within, Nat.mul_comm]

theorem written_eq (samples : List Int16) (buffer : List UInt8) :
    written samples buffer = bytes (samples.take (fitting samples.length buffer.length)) := by
  rw [written, encodeInto_eq_append, ← length_bytes_take_fitting samples buffer.length,
    List.take_left]

/-- What is read stands for the bytes it was read from. -/
theorem bytes_read (buffer : List UInt8) (target : List Int16) :
    bytes (read buffer target) = buffer.take (2 * fitting target.length buffer.length) ∧
      (read buffer target).length = fitting target.length buffer.length ∧
      decodeInto buffer target = (fitting target.length buffer.length,
        read buffer target ++ target.drop (fitting target.length buffer.length)) := by
  obtain ⟨front, same, whole⟩ := decodeInto_eq_append buffer target
  have size : front.length = fitting target.length buffer.length := by
    have sizes := congrArg List.length same
    rw [length_bytes, List.length_take_of_le (two_mul_fitting_le _ _)] at sizes
    omega
  have front_eq : read buffer target = front := by
    rw [read, whole, ← size, List.take_left]
  rw [front_eq]
  exact ⟨same, size, whole⟩

/-- **Samples and bytes.** Writing fills the front of a buffer with the bytes, low byte first, of as
many samples as fit, and reading fills the front of a run of samples with as many as the bytes stand
for; both say how many they are and leave the rest. Reading what was written gives the samples back,
and writing what was read gives the bytes back, each as far as its own destination has room. -/
theorem decodeInto_encodeInto (samples target : List Int16) (buffer blank : List UInt8) :
    ((written samples buffer).length = 2 * fitting samples.length buffer.length ∧
      encodeInto samples buffer = (2 * fitting samples.length buffer.length,
        written samples buffer ++ buffer.drop (2 * fitting samples.length buffer.length)) ∧
      written samples buffer = bytes (samples.take (fitting samples.length buffer.length)) ∧
      ∀ sample, (((lowByte sample).toNat + 256 * (highByte sample).toNat : Nat) : Int) =
        sample.toInt % 65536) ∧
    ((read buffer target).length = fitting target.length buffer.length ∧
      decodeInto buffer target = (fitting target.length buffer.length,
        read buffer target ++ target.drop (fitting target.length buffer.length))) ∧
    (decodeInto (written samples buffer) target).2 =
      (samples.take (fitting samples.length buffer.length)).take target.length ++
        target.drop (fitting samples.length buffer.length) ∧
    (encodeInto (read buffer target) blank).2 =
      buffer.take (2 * fitting (fitting target.length buffer.length) blank.length) ++
        blank.drop (2 * fitting (fitting target.length buffer.length) blank.length) := by
  obtain ⟨same, size, whole⟩ := bytes_read buffer target
  have within : fitting samples.length buffer.length ≤ samples.length := Nat.min_le_left _ _
  have shorter : fitting (fitting target.length buffer.length) blank.length ≤
      fitting target.length buffer.length := Nat.min_le_left _ _
  refine ⟨⟨?_, ?_, written_eq samples buffer, lowByte_add_highByte⟩, ⟨size, whole⟩, ?_, ?_⟩
  · rw [written_eq, length_bytes_take_fitting]
  · rw [written_eq, ← encodeInto_eq_append]
  · rw [written_eq, decodeInto_bytes, List.length_take_of_le within]
  · have front : bytes ((read buffer target).take
        (fitting (fitting target.length buffer.length) blank.length)) =
          buffer.take (2 * fitting (fitting target.length buffer.length) blank.length) := by
      rw [bytes_take, same, List.take_take, Nat.min_eq_left (Nat.mul_le_mul_left 2 shorter)]
    rw [encodeInto_eq_append, size, front]

end Sample

end PhoneAudio
