import Mathlib.Data.List.Induction
import Mathlib.Data.List.Nodup
import PhoneAudio.KeyValues
import PhoneAudio.Proofs.Text.Trimming

/-!
# Reading and writing key-value texts

What a text is read to is told by its pieces, the segments that are not blank: the keys are theirs,
in the order in which they first come, and the value under a key is that of the last piece for it
(`PhoneAudio.KeyValues.get?_ofText`). Written as a text, pairs that were read are read again as they
are (`PhoneAudio.KeyValues.ofText_toText`). Setting and taking out keys goes on with one value for
each key, the one that was set last.
-/

namespace PhoneAudio

namespace KeyValues

/-- The keys, in their order. -/
def keys (pairs : KeyValues) : List String :=
  pairs.entries.map Prod.fst

section Entries

variable {pairs : KeyValues} {key value : String}

/-- A key that is there keeps its place, and a new one comes last. -/
theorem keys_insertInto (key value : String) (entries : List (String × String)) :
    (insertInto key value entries).map Prod.fst =
      if key ∈ entries.map Prod.fst then entries.map Prod.fst
      else entries.map Prod.fst ++ [key] := by
  induction entries with
  | nil => rfl
  | cons entry rest ih =>
      rw [insertInto]
      by_cases same : entry.1 = key
      · simp [same]
      · rw [if_neg same, List.map_cons, ih, List.map_cons]
        by_cases later : key ∈ rest.map Prod.fst
        · rw [if_pos later, if_pos (List.mem_cons_of_mem _ later)]
        · have absent : key ∉ entry.1 :: rest.map Prod.fst := by
            rintro (⟨⟩ | ⟨_, there⟩)
            · exact same rfl
            · exact later there
          rw [if_neg later, if_neg absent, List.cons_append]

/-- Setting a key keeps the keys that are there, and puts a new one at their end. -/
theorem keys_insert (pairs : KeyValues) (key value : String) :
    (pairs.insert key value).keys =
      if key ∈ pairs.keys then pairs.keys else pairs.keys ++ [key] :=
  keys_insertInto key value pairs.entries

theorem nodup_keys_insert (distinct : pairs.keys.Nodup) (key value : String) :
    (pairs.insert key value).keys.Nodup := by
  rw [keys_insert]
  split
  · exact distinct
  · rename_i absent
    exact List.nodup_append.mpr ⟨distinct, List.nodup_singleton key, fun first there second last =>
      fun same => absent (List.mem_singleton.mp last ▸ same ▸ there)⟩

/-- A new pair comes last. -/
theorem insertInto_of_not_mem {entries : List (String × String)}
    (absent : key ∉ entries.map Prod.fst) :
    insertInto key value entries = entries ++ [(key, value)] := by
  induction entries with
  | nil => rfl
  | cons entry rest ih =>
      rw [List.map_cons, List.mem_cons, not_or] at absent
      rw [insertInto, if_neg (Ne.symm absent.1), ih absent.2, List.cons_append]

/-- Every pair after an insertion is the new one or was there. -/
theorem mem_insertInto {entries : List (String × String)} {entry : String × String}
    (member : entry ∈ insertInto key value entries) : entry = (key, value) ∨ entry ∈ entries := by
  induction entries with
  | nil => exact .inl (List.mem_singleton.mp member)
  | cons first rest ih =>
      rw [insertInto] at member
      split at member
      · exact (List.mem_cons.mp member).imp_right (List.mem_cons_of_mem first)
      · rcases List.mem_cons.mp member with rfl | later
        · exact .inr List.mem_cons_self
        · exact (ih later).imp_right (List.mem_cons_of_mem first)

/-- Taking a key out leaves the others in their order. -/
theorem keys_erase (pairs : KeyValues) (key : String) :
    (pairs.erase key).2.keys = pairs.keys.erase key := by
  rw [keys, keys, List.erase_eq_eraseP, List.eraseP_map]
  have test : (fun entry : String × String => decide (entry.1 = key)) =
      (fun other => key == other) ∘ Prod.fst := by
    funext entry
    rw [Function.comp_apply, Bool.eq_iff_iff, decide_eq_true_eq, beq_iff_eq]
    exact eq_comm
  rw [erase, test]

theorem nodup_keys_erase (distinct : pairs.keys.Nodup) (key : String) :
    (pairs.erase key).2.keys.Nodup := by
  rw [keys_erase]
  exact distinct.erase key

/-- There is a value under the keys that are there. -/
theorem get?_eq_none_iff : pairs.get? key = none ↔ key ∉ pairs.keys := by
  rw [get?, Option.map_eq_none_iff, List.find?_eq_none, keys, List.mem_map]
  simp only [decide_eq_true_eq, not_exists, not_and]

/-- The value that was set is found, and under all other keys what was there. -/
theorem get?_insert (pairs : KeyValues) (key value other : String) :
    (pairs.insert key value).get? other = if key = other then some value else pairs.get? other := by
  obtain ⟨entries⟩ := pairs
  unfold insert get?
  dsimp only
  induction entries with
  | nil => by_cases same : key = other <;> simp [insertInto, same]
  | cons entry rest ih =>
      rw [insertInto]
      by_cases there : entry.1 = key
      · rw [if_pos there]
        by_cases same : key = other
        · simp [same]
        · have different : entry.1 ≠ other := there ▸ same
          simp [same, different]
      · rw [if_neg there]
        by_cases first : entry.1 = other
        · have different : key ≠ other := fun same => there (first.trans same.symm)
          simp [first, different]
        · simpa [first] using ih

/-- Nothing is found under a key that was taken out, and under all others what was there. -/
theorem get?_erase (distinct : pairs.keys.Nodup) (key other : String) :
    (pairs.erase key).2.get? other = if key = other then none else pairs.get? other := by
  by_cases same : key = other
  · rw [if_pos same, ← same, get?_eq_none_iff, keys_erase]
    exact distinct.not_mem_erase
  · rw [if_neg same]
    obtain ⟨entries⟩ := pairs
    unfold erase get?
    dsimp only
    clear distinct
    induction entries with
    | nil => rfl
    | cons entry rest ih =>
        by_cases there : entry.1 = key
        · have different : entry.1 ≠ other := fun first => same (there.symm.trans first)
          rw [List.eraseP_cons_of_pos (by simp [there]),
            List.find?_cons_of_neg (by simp [different])]
        · rw [List.eraseP_cons_of_neg (by simp [there])]
          by_cases first : entry.1 = other
          · rw [List.find?_cons_of_pos (by simp [first]), List.find?_cons_of_pos (by simp [first])]
          · rw [List.find?_cons_of_neg (by simp [first]), List.find?_cons_of_neg (by simp [first]),
              ih]

end Entries

/-! ## Edits -/

/-- An edit sets a key or takes one out. -/
inductive Edit
  | insert (key value : String)
  | erase (key : String)
deriving DecidableEq

namespace Edit

/-- The key that is edited. -/
def key : Edit → String
  | insert key _ => key
  | erase key => key

/-- The value under the key afterwards, if there is one. -/
def value? : Edit → Option String
  | insert _ value => some value
  | erase _ => none

/-- Performs an edit. -/
def perform (pairs : KeyValues) : Edit → KeyValues
  | insert key value => pairs.insert key value
  | erase key => (pairs.erase key).2

end Edit

variable {pairs : KeyValues}

/-- The pairs after edits. -/
def edited (pairs : KeyValues) (edits : List Edit) : KeyValues :=
  edits.foldl Edit.perform pairs

/-- Edits one after the other, the last of them last. -/
theorem edited_concat (pairs : KeyValues) (edits : List Edit) (edit : Edit) :
    pairs.edited (edits ++ [edit]) = edit.perform (pairs.edited edits) :=
  List.foldl_concat ..

/-- Edits keep keys distinct. -/
theorem nodup_keys_edited (distinct : pairs.keys.Nodup) (edits : List Edit) :
    (pairs.edited edits).keys.Nodup := by
  induction edits using List.reverseRecOn with
  | nil => exact distinct
  | append_singleton earlier edit ih =>
      rw [edited_concat]
      cases edit with
      | insert key value => exact nodup_keys_insert ih key value
      | erase key => exact nodup_keys_erase ih key

/-- **Edits.** What is under a key is what the last edit of the key left there. -/
theorem get?_edited (distinct : pairs.keys.Nodup) (edits : List Edit) (key : String) :
    (pairs.edited edits).get? key =
      (edits.reverse.find? (·.key = key)).elim (pairs.get? key) Edit.value? := by
  induction edits using List.reverseRecOn with
  | nil => rfl
  | append_singleton earlier edit ih =>
      have unique := nodup_keys_edited distinct earlier
      have performed : ((edit.perform (pairs.edited earlier)).get? key) =
          if edit.key = key then edit.value? else (pairs.edited earlier).get? key := by
        cases edit with
        | insert _ _ => exact get?_insert ..
        | erase _ => exact get?_erase unique ..
      rw [edited_concat, performed, List.reverse_concat]
      by_cases same : edit.key = key
      · rw [if_pos same, List.find?_cons_of_pos (by simp [same])]
        rfl
      · rw [if_neg same, List.find?_cons_of_neg (by simp [same]), ih]

/-- The edits that set keys one after the other. -/
def insertions (entries : List (String × String)) : List Edit :=
  entries.map fun entry => .insert entry.1 entry.2

/-- Inserting one more pair is one more edit. -/
theorem edited_insertions_concat (entries : List (String × String)) (entry : String × String) :
    edited {} (insertions (entries ++ [entry])) =
      (edited {} (insertions entries)).insert entry.1 entry.2 := by
  rw [insertions, List.map_append]
  exact edited_concat ..

/-- Keys that are set stand in the order in which they first come. -/
theorem keys_insertions (entries : List (String × String)) :
    (edited {} (insertions entries)).keys = (entries.map Prod.fst).eraseDups := by
  induction entries using List.reverseRecOn with
  | nil => rfl
  | append_singleton earlier entry ih =>
      rw [edited_insertions_concat, keys_insert, ih, List.map_append, List.map_singleton,
        List.eraseDups_append]
      by_cases there : entry.1 ∈ earlier.map Prod.fst
      · have none : [entry.1].removeAll (earlier.map Prod.fst) = [] := by
          simpa [List.removeAll] using there
        rw [if_pos (List.mem_eraseDups.mpr there), none, List.eraseDups_nil, List.append_nil]
      · have all : [entry.1].removeAll (earlier.map Prod.fst) = [entry.1] := by
          simpa [List.removeAll] using there
        rw [if_neg (mt List.mem_eraseDups.mp there), all]
        rfl

/-- Setting keys that differ gives just what is set. -/
theorem edited_insertions {entries : List (String × String)}
    (distinct : (entries.map Prod.fst).Nodup) : edited {} (insertions entries) = ⟨entries⟩ := by
  induction entries using List.reverseRecOn with
  | nil => rfl
  | append_singleton earlier entry ih =>
      rw [List.map_append, List.nodup_append] at distinct
      obtain ⟨first, -, apart⟩ := distinct
      have absent : entry.1 ∉ earlier.map Prod.fst :=
        fun there => apart _ there _ (List.mem_singleton_self _) rfl
      rw [edited_insertions_concat, ih first, insert, insertInto_of_not_mem absent]

/-- What is there after setting keys was set. -/
theorem mem_insertions {entries : List (String × String)} {entry : String × String}
    (member : entry ∈ (edited {} (insertions entries)).entries) : entry ∈ entries := by
  induction entries using List.reverseRecOn with
  | nil => exact member
  | append_singleton earlier last ih =>
      rw [edited_insertions_concat] at member
      rcases mem_insertInto member with rfl | there
      · exact List.mem_append_right _ (List.mem_singleton_self _)
      · exact List.mem_append_left _ (ih there)

/-- The segments of a text that are not blank. -/
def pieces (text : String) : List (List Char) :=
  (text.toList.splitOn ';').filter fun segment => !segment.all Text.isBlank

/-- The key of a piece: what stands ahead of the first equals sign, or all of it, trimmed. -/
def keyOf (piece : List Char) : String :=
  String.ofList (Text.trim (piece.takeWhile (· != '=')))

/-- The value of a piece: what stands behind the first equals sign, trimmed. -/
def valueOf (piece : List Char) : String :=
  String.ofList (Text.trim ((piece.dropWhile (· != '=')).drop 1))

/-- Blanks hold no equals sign. -/
theorem ne_equals_of_blank {text : List Char} (blank : ∀ c ∈ text, Text.isBlank c = true) :
    ∀ c ∈ text, (c != '=') = true := by
  intro c member
  refine bne_iff_ne.mpr fun same => ?_
  have spaced := blank c member
  rw [same] at spaced
  exact absurd spaced (by decide)

/-- Trimming a segment changes neither its key nor its value. -/
theorem keyOf_trim (segment : List Char) :
    keyOf (Text.trim segment) = keyOf segment ∧ valueOf (Text.trim segment) = valueOf segment := by
  obtain ⟨front, back, before, after, whole⟩ := Text.exists_eq_trim segment
  have none := ne_equals_of_blank before
  have tail := ne_equals_of_blank after
  generalize Text.trim segment = body at whole
  rw [whole]
  unfold keyOf valueOf
  rw [List.takeWhile_append_of_pos none, List.dropWhile_append_of_pos none,
    Text.trim_append_left before]
  by_cases bare : ∀ c ∈ body, (c != '=') = true
  · -- Without an equals sign, the key is all of it.
    rw [List.takeWhile_append_of_pos bare, List.dropWhile_append_of_pos bare,
      List.takeWhile_eq_self_iff.mpr bare, List.takeWhile_eq_self_iff.mpr tail,
      List.dropWhile_eq_nil_iff.mpr bare, List.dropWhile_eq_nil_iff.mpr tail,
      Text.trim_append_right after]
    exact ⟨rfl, rfl⟩
  · -- The first equals sign stands before the blanks that are trimmed off.
    have cut : (body.takeWhile (· != '=')).length ≠ body.length := fun same =>
      bare (List.takeWhile_eq_self_iff.mp ((List.takeWhile_prefix _).eq_of_length same))
    obtain ⟨mark, rest, found⟩ :=
      List.exists_cons_of_ne_nil (mt List.dropWhile_eq_nil_iff.mp bare)
    rw [List.takeWhile_append, if_neg cut, List.dropWhile_append, found, if_neg (by simp),
      List.cons_append, List.drop_succ_cons, List.drop_zero, List.drop_succ_cons, List.drop_zero,
      Text.trim_append_right after]
    exact ⟨rfl, rfl⟩

/-- A segment that is not blank is read as its key and its value. -/
theorem readSegment_eq (segment : List Char) :
    readSegment segment =
      if segment.all Text.isBlank then none else some (keyOf segment, valueOf segment) := by
  have blank : (Text.trim segment).isEmpty = segment.all Text.isBlank := by
    rw [Bool.eq_iff_iff, List.isEmpty_iff, Text.trim_eq_nil_iff, List.all_eq_true]
  have read : readSegment segment = if (Text.trim segment).isEmpty then none
    else some (keyOf (Text.trim segment), valueOf (Text.trim segment)) := rfl
  rw [read, blank, (keyOf_trim segment).1, (keyOf_trim segment).2]

/-- What the pieces of a text stand for. -/
def readings (text : String) : List (String × String) :=
  (pieces text).map fun piece => (keyOf piece, valueOf piece)

/-- The pieces of a text that are read are its readings. -/
theorem filterMap_readSegment (text : String) :
    (text.toList.splitOn ';').filterMap readSegment = readings text := by
  unfold readings pieces
  induction text.toList.splitOn ';' with
  | nil => rfl
  | cons segment rest ih =>
      rw [List.filterMap_cons, List.filter_cons, ih, readSegment_eq]
      cases segment.all Text.isBlank <;> rfl

/-- Reading a text inserts its readings one after the other. -/
theorem foldl_insert (entries : List (String × String)) :
    entries.foldl (fun pairs entry => pairs.insert entry.1 entry.2) {} =
      edited {} (insertions entries) := by
  rw [insertions, edited, List.foldl_map]
  rfl

/-- Reading a text sets the keys of its pieces one after the other. -/
theorem ofText_eq (text : String) : ofText text = edited {} (insertions (readings text)) := by
  rw [ofText, filterMap_readSegment, foldl_insert]

/-! ## Writing -/

/-- A pair whose text is read as itself: trimmed, with no equals sign in the key and no semicolon
at all. -/
structure Neat (entry : String × String) : Prop where
  key : Text.trim entry.1.toList = entry.1.toList
  value : Text.trim entry.2.toList = entry.2.toList
  unmarked : '=' ∉ entry.1.toList
  whole : ';' ∉ entry.1.toList ∧ ';' ∉ entry.2.toList

/-- No piece of a text that was split has the character it was split at. -/
theorem not_mem_of_mem_splitOn {c : Char} {text segment : List Char}
    (member : segment ∈ text.splitOn c) : c ∉ segment := by
  induction text generalizing segment with
  | nil =>
      rw [List.splitOn_nil, List.mem_singleton] at member
      rw [member]
      exact List.not_mem_nil
  | cons first rest ih =>
      rw [List.splitOn_cons_eq_if_modifyHead] at member
      split at member
      · rcases List.mem_cons.mp member with rfl | later
        · exact List.not_mem_nil
        · exact ih later
      · rename_i other
        obtain ⟨segment', more, split⟩ := List.exists_cons_of_ne_nil (List.splitOn_ne_nil c rest)
        rw [split, List.modifyHead_cons] at member
        rw [split] at ih
        rcases List.mem_cons.mp member with rfl | later
        · rw [List.mem_cons, not_or]
          exact ⟨fun same => other (beq_iff_eq.mpr same.symm), ih List.mem_cons_self⟩
        · exact ih (List.mem_cons_of_mem _ later)

/-- What a piece stands for is neat. -/
theorem neat_of_mem_readings {text : String} {entry : String × String}
    (member : entry ∈ readings text) : Neat entry := by
  obtain ⟨piece, there, rfl⟩ := List.mem_map.mp member
  have whole : ';' ∉ piece := not_mem_of_mem_splitOn (List.mem_of_mem_filter there)
  have inKey : ∀ c ∈ (keyOf piece).toList, c ∈ piece.takeWhile (· != '=') := by
    intro c member
    rw [keyOf, String.toList_ofList] at member
    exact Text.mem_of_mem_trim member
  have inValue : ∀ c ∈ (valueOf piece).toList, c ∈ piece := by
    intro c member
    rw [valueOf, String.toList_ofList] at member
    exact (List.dropWhile_sublist _).subset
      (List.mem_of_mem_drop (Text.mem_of_mem_trim member))
  refine ⟨?_, ?_, fun marked => ?_, fun cut => ?_, fun cut => whole (inValue _ cut)⟩
  · rw [keyOf, String.toList_ofList, Text.trim_trim]
  · rw [valueOf, String.toList_ofList, Text.trim_trim]
  · exact absurd (List.mem_takeWhile_imp (inKey _ marked)) (by decide)
  · exact whole ((List.takeWhile_sublist _).subset (inKey _ cut))

/-- The text of a pair. -/
def written (entry : String × String) : List Char :=
  entry.1.toList ++ '=' :: entry.2.toList

theorem Neat.written_whole {entry : String × String} (neat : Neat entry) : ';' ∉ written entry := by
  rw [written, List.mem_append, List.mem_cons]
  rintro (key | mark | value)
  · exact neat.whole.1 key
  · exact absurd mark (by decide)
  · exact neat.whole.2 value

/-- The text of a neat pair is read as the pair. -/
theorem Neat.readSegment_written {entry : String × String} (neat : Neat entry) :
    readSegment (written entry) = some entry := by
  have unmarked : ∀ c ∈ entry.1.toList, (c != '=') = true :=
    fun c member => bne_iff_ne.mpr fun same => neat.unmarked (same ▸ member)
  have trimmed : Text.trim (written entry) = written entry :=
    Text.trim_append_cons neat.key neat.value (by decide)
  have some : (written entry).isEmpty = false := by
    rw [written]
    cases entry.1.toList <;> rfl
  unfold readSegment
  dsimp only
  rw [trimmed, some, written, List.takeWhile_append_of_pos unmarked,
    List.dropWhile_append_of_pos unmarked, List.takeWhile_cons_of_neg (by decide),
    List.dropWhile_cons_of_neg (by decide), List.append_nil, neat.key, List.drop_succ_cons,
    List.drop_zero, neat.value, String.ofList_toList, String.ofList_toList]
  rfl

/-- A text is written pair by pair, with semicolons between. -/
theorem toList_toText (pairs : KeyValues) :
    pairs.toText.toList = [';'].intercalate (pairs.entries.map written) := by
  rw [toText, String.toList_intercalate, List.map_map]
  refine congrArg _ (List.map_congr_left fun entry _ => ?_)
  simp [written, String.toList_append]

/-- Neat pairs with one value for each key are read from their text as they are. -/
theorem ofText_toText_of_neat (distinct : pairs.keys.Nodup)
    (neat : ∀ entry ∈ pairs.entries, Neat entry) : ofText pairs.toText = pairs := by
  have each : pairs.entries.filterMap (readSegment ∘ written) = pairs.entries :=
    (List.filterMap_congr fun entry member => (neat entry member).readSegment_written).trans
      List.filterMap_some
  have read : (pairs.toText.toList.splitOn ';').filterMap readSegment = pairs.entries := by
    rw [toList_toText]
    by_cases none : pairs.entries = []
    · rw [none]
      rfl
    · have whole : ∀ segment ∈ pairs.entries.map written, ';' ∉ segment := by
        intro segment member
        obtain ⟨entry, there, rfl⟩ := List.mem_map.mp member
        exact (neat entry there).written_whole
      rw [List.splitOn_intercalate _ whole (mt List.map_eq_nil_iff.mp none), List.filterMap_map,
        each]
  rw [ofText, read, foldl_insert, edited_insertions distinct]

theorem nodup_keys_empty : ({} : KeyValues).keys.Nodup :=
  List.nodup_nil

theorem nodup_keys_ofText (text : String) : (ofText text).keys.Nodup := by
  rw [ofText_eq]
  exact nodup_keys_edited nodup_keys_empty _

/-- The keys of a text stand in the order in which they first come. -/
theorem keys_ofText (text : String) :
    (ofText text).keys = ((pieces text).map keyOf).eraseDups := by
  rw [ofText_eq, keys_insertions, readings, List.map_map]
  rfl

/-- The value under a key is that of the last piece for it. -/
theorem get?_ofText (text key : String) :
    (ofText text).get? key = ((pieces text).reverse.find? (keyOf · = key)).map valueOf := by
  have edits : insertions (readings text) =
      (pieces text).map fun piece => .insert (keyOf piece) (valueOf piece) := List.map_map
  rw [ofText_eq, get?_edited nodup_keys_empty, edits, ← List.map_reverse, List.find?_map]
  change Option.elim (Option.map _ ((pieces text).reverse.find? (keyOf · = key))) _ _ = _
  cases (pieces text).reverse.find? (keyOf · = key) <;> rfl

/-- **Reading back.** What was read from a text and written is read again as it is. -/
theorem ofText_toText (text : String) : ofText (ofText text).toText = ofText text := by
  refine ofText_toText_of_neat (nodup_keys_ofText text) fun entry member => ?_
  rw [ofText_eq] at member
  exact neat_of_mem_readings (mem_insertions member)

/-- **Key-value texts.** What is read from a text is read again from the text that is written for
it. Each key of a piece is there once, in the order in which the keys first come, with the value of
the last piece for it. However keys are set and taken out, each key goes on being there once at
most, with the value that was set last, and not at all if it was taken out last. -/
theorem readsBack (text : String) :
    ofText (ofText text).toText = ofText text ∧
      (ofText text).keys.Nodup ∧
      (ofText text).keys = ((pieces text).map keyOf).eraseDups ∧
      (∀ key, (ofText text).get? key =
        ((pieces text).reverse.find? (keyOf · = key)).map valueOf) ∧
      ∀ pairs : KeyValues, pairs.keys.Nodup → ∀ edits : List Edit,
        (pairs.edited edits).keys.Nodup ∧
          ∀ key, (pairs.edited edits).get? key =
            (edits.reverse.find? (·.key = key)).elim (pairs.get? key) Edit.value? :=
  ⟨ofText_toText text, nodup_keys_ofText text, keys_ofText text, get?_ofText text,
    fun _ distinct edits => ⟨nodup_keys_edited distinct edits, get?_edited distinct edits⟩⟩

end KeyValues

end PhoneAudio
