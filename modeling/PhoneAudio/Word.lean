/-!
# Words that overflow

Sums and products in words of a fixed width. There is no result where it does not fit into the
width: the program stops at such an overflow.
-/

namespace PhoneAudio

namespace Word

/-- One more than a count, if it fits. -/
def next? (count : UInt32) : Option UInt32 :=
  if count.toNat + 1 < UInt32.size then some (count + 1) else none

/-- The product of two words, if it fits. -/
def times? (first second : UInt64) : Option UInt64 :=
  if first.toNat * second.toNat < UInt64.size then some (first * second) else none

/-- A count has a successor unless it is the greatest. -/
theorem next?_eq_none_iff {count : UInt32} :
    next? count = none ↔ count.toNat + 1 = UInt32.size := by
  have bound := count.toNat_lt_size
  rw [next?]
  split
  · simp
    omega
  · simp
    omega

/-- The successor is one more. -/
theorem toNat_of_next? {count next : UInt32} (one : next? count = some next) :
    next.toNat = count.toNat + 1 := by
  rw [next?] at one
  split at one
  · rename_i fits
    cases one
    rw [UInt32.toNat_add]
    exact Nat.mod_eq_of_lt fits
  · cases one

/-- What comes after a count is the first of all exactly if the count is zero. -/
theorem next?_eq_some {count next : UInt32} (one : next? count = some next) :
    count + 1 = next ∧ (count + 1 = 1 ↔ count = 0) := by
  rw [next?] at one
  split at one
  · cases one
    refine ⟨rfl, fun first => ?_, fun zero => by rw [zero]; rfl⟩
    simpa using first
  · cases one

end Word

end PhoneAudio
