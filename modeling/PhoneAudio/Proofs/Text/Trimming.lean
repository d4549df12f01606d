import Mathlib.Data.List.DropRight
import PhoneAudio.Text.Blank

/-!
# Trimming

A text is its trimmed form between two runs of blanks (`PhoneAudio.Text.exists_eq_trim`). Blanks put
at its ends do not change what it is trimmed to, and texts that are trimmed stay so when they are
joined by a character that is not blank.
-/

namespace PhoneAudio

namespace Text

variable {text front back : List Char} {c : Char}

theorem trim_eq (text : List Char) :
    trim text = (text.dropWhile isBlank).rdropWhile isBlank :=
  rfl

/-- Blanks ahead of a text are trimmed off. -/
theorem trim_append_left (blank : ∀ c ∈ front, isBlank c = true) (text : List Char) :
    trim (front ++ text) = trim text := by
  rw [trim_eq, List.dropWhile_append_of_pos blank, ← trim_eq]

/-- Blanks behind a text are trimmed off. -/
theorem trim_append_right (blank : ∀ c ∈ back, isBlank c = true) (text : List Char) :
    trim (text ++ back) = trim text := by
  unfold trim
  rw [List.dropWhile_append]
  split
  · rename_i all
    rw [List.isEmpty_iff.mp all, List.dropWhile_eq_nil_iff.mpr blank]
  · rw [List.reverse_append, List.dropWhile_append_of_pos]
    exact fun c member => blank c (List.mem_reverse.mp member)

/-- **Trimming** takes a run of blanks off each end. -/
theorem exists_eq_trim (text : List Char) : ∃ front back,
    (∀ c ∈ front, isBlank c = true) ∧ (∀ c ∈ back, isBlank c = true) ∧
      text = front ++ (trim text ++ back) := by
  refine ⟨text.takeWhile isBlank, (text.dropWhile isBlank).rtakeWhile isBlank,
    fun _ => List.mem_takeWhile_imp, fun _ => List.mem_rtakeWhile_imp, ?_⟩
  rw [trim_eq, List.rdropWhile_append_rtakeWhile, List.takeWhile_append_dropWhile]

theorem mem_of_mem_trim (member : c ∈ trim text) : c ∈ text := by
  obtain ⟨front, back, -, -, whole⟩ := exists_eq_trim text
  rw [whole]
  exact List.mem_append_right front (List.mem_append_left back member)

/-- Trimming twice trims once. -/
theorem trim_trim (text : List Char) : trim (trim text) = trim text := by
  obtain ⟨front, back, before, after, whole⟩ := exists_eq_trim text
  calc trim (trim text)
    _ = trim (front ++ (trim text ++ back)) := by
        rw [trim_append_left before, trim_append_right after]
    _ = trim text := congrArg trim whole.symm

/-- Nothing is left of blanks, and only of blanks. -/
theorem trim_eq_nil_iff : trim text = [] ↔ ∀ c ∈ text, isBlank c = true := by
  constructor
  · intro none
    obtain ⟨front, back, before, after, whole⟩ := exists_eq_trim text
    rw [none, List.nil_append] at whole
    intro c member
    rw [whole] at member
    exact (List.mem_append.mp member).elim (before c) (after c)
  · intro blank
    rw [← List.append_nil text, trim_append_left blank]
    rfl

/-- What is dropped from the front of a text ends at the first character that is kept. -/
theorem dropWhile_append_cons {p : Char → Bool} (kept : front.dropWhile p = front)
    (stops : p c = false) (back : List Char) :
    (front ++ c :: back).dropWhile p = front ++ c :: back := by
  rw [List.dropWhile_append, kept]
  split
  · rename_i none
    rw [List.isEmpty_iff.mp none]
    exact List.dropWhile_cons_of_neg (by simp [stops])
  · rfl

/-- A trimmed text has no blank at either end. -/
theorem dropWhile_of_trimmed (trimmed : trim text = text) :
    text.dropWhile isBlank = text ∧ text.reverse.dropWhile isBlank = text.reverse := by
  have first : text.dropWhile isBlank = text := by
    have shorter : (trim text).Sublist (text.dropWhile isBlank) :=
      (List.rdropWhile_prefix isBlank _).sublist
    rw [trimmed] at shorter
    exact (List.dropWhile_sublist isBlank).antisymm shorter
  refine ⟨first, List.reverse_injective ?_⟩
  rw [trim, first] at trimmed
  rw [trimmed, List.reverse_reverse]

/-- Trimmed texts are trimmed when something that is not blank stands between them. -/
theorem trim_append_cons (before : trim front = front) (after : trim back = back)
    (mark : isBlank c = false) : trim (front ++ c :: back) = front ++ c :: back := by
  have turned : (front ++ c :: back).reverse = back.reverse ++ c :: front.reverse := by simp
  unfold trim
  rw [dropWhile_append_cons (dropWhile_of_trimmed before).1 mark, turned,
    dropWhile_append_cons (dropWhile_of_trimmed after).2 mark, ← turned, List.reverse_reverse]

end Text

end PhoneAudio
