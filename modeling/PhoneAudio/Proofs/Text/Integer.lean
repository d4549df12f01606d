import Mathlib.Data.List.Induction
import Mathlib.Data.Nat.Digits.Defs
import PhoneAudio.Text.Integer

/-!
# Decimal integers

Which texts are read as an integer of 64 bits, and as which (`PhoneAudio.Text.int64?_eq_some_iff`):
those of an optional sign and at least one ASCII digit that denote a number in range.
-/

namespace PhoneAudio

namespace Text

/-- The number that digits denote, the last of them being the units. -/
def decimal (digits : List Char) : Nat :=
  Nat.ofDigits 10 (digits.reverse.map fun c => c.toNat - '0'.toNat)

/-- A run of at least one ASCII digit. -/
def IsDigits (text : List Char) : Prop :=
  text ≠ [] ∧ ∀ c ∈ text, c.isDigit = true

/-- What a text denotes: digits with or without a sign. -/
inductive Denotes : List Char → Int → Prop
  | unsigned {digits : List Char} (run : IsDigits digits) : Denotes digits (decimal digits)
  | plus {digits : List Char} (run : IsDigits digits) : Denotes ('+' :: digits) (decimal digits)
  | minus {digits : List Char} (run : IsDigits digits) : Denotes ('-' :: digits) (-decimal digits)

/-- The last digit counts one, and the ones before it ten times as much. -/
theorem decimal_concat (front : List Char) (last : Char) :
    decimal (front ++ [last]) = decimal front * 10 + (last.toNat - '0'.toNat) := by
  rw [decimal, List.reverse_concat, List.map_cons, Nat.ofDigits_cons, Nat.add_comm, Nat.mul_comm]
  rfl

theorem foldl_eq_decimal (digits : List Char) :
    digits.foldl (fun value c => value * 10 + (c.toNat - '0'.toNat)) 0 = decimal digits := by
  induction digits using List.reverseRecOn with
  | nil => rfl
  | append_singleton front last ih =>
      rw [List.foldl_append, ih, decimal_concat]
      rfl

/-- A text reads as a natural number if and only if it has digits and nothing else. -/
theorem natural?_eq_some_iff {text : List Char} {value : Nat} :
    natural? text = some value ↔ IsDigits text ∧ value = decimal text := by
  rw [natural?, foldl_eq_decimal, IsDigits]
  by_cases empty : text = []
  · simp [empty]
  · by_cases run : text.all Char.isDigit
    · simp only [List.isEmpty_iff, empty, run, ↓reduceIte, Option.some.injEq]
      exact ⟨fun same => ⟨⟨empty, List.all_eq_true.mp run⟩, same.symm⟩, fun found => found.2.symm⟩
    · simp only [List.isEmpty_iff, empty, run, ↓reduceIte, reduceCtorEq, false_iff]
      exact fun found => run (List.all_eq_true.mpr found.1.2)

/-- Behind a sign there is no number without one. -/
theorem not_isDigits_sign {c : Char} (sign : c.isDigit = false) (rest : List Char) :
    ¬ IsDigits (c :: rest) := by
  rintro ⟨-, all⟩
  cases sign.symm.trans (all c List.mem_cons_self)

/-- A text reads as an integer if and only if it denotes it. -/
theorem signed?_eq_some_iff {text : List Char} {value : Int} :
    signed? text = some value ↔ Denotes text value := by
  constructor
  · intro read
    unfold signed? at read
    split at read <;> obtain ⟨number, found, rfl⟩ := Option.map_eq_some_iff.mp read <;>
      obtain ⟨run, rfl⟩ := natural?_eq_some_iff.mp found
    · exact .plus run
    · exact .minus run
    · exact .unsigned run
  · rintro (run | run | run)
    · have found := natural?_eq_some_iff.mpr ⟨run, rfl⟩
      unfold signed?
      split
      · exact absurd run (not_isDigits_sign (by decide) _)
      · exact absurd run (not_isDigits_sign (by decide) _)
      · rw [found]
        rfl
    · rw [signed?, natural?_eq_some_iff.mpr ⟨run, rfl⟩]
      rfl
    · rw [signed?, natural?_eq_some_iff.mpr ⟨run, rfl⟩]
      rfl

/-- **Integers.** A text is read as the integer that it denotes, if that is one of 64 bits. -/
theorem int64?_eq_some_iff {text : List Char} {value : Int} :
    int64? text = some value ↔ Denotes text value ∧ -2 ^ 63 ≤ value ∧ value < 2 ^ 63 := by
  rw [int64?, Option.filter_eq_some_iff, signed?_eq_some_iff, Bool.and_eq_true,
    decide_eq_true_eq, decide_eq_true_eq]
  refine and_congr_right fun _ => ?_
  omega

end Text

end PhoneAudio
