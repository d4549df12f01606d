import PhoneAudio.Text.Blank
import PhoneAudio.Text.Integer

/-!
# Key-value texts

The parameters that callers hand to a stream as `key=value;key2=value2`: an ordered set of pairs
with one value for each key. Segments are separated by semicolons, blanks around segments, keys and
values do not count, and a segment without an equals sign is a key with an empty value.
-/

namespace PhoneAudio

/-- Pairs of a key and a value in the order in which the keys first came. -/
structure KeyValues where
  entries : List (String × String) := []
deriving DecidableEq, Inhabited

namespace KeyValues

/-- Puts a value under a key: in place if the key is there, else at the end. -/
def insertInto (key value : String) : List (String × String) → List (String × String)
  | [] => [(key, value)]
  | entry :: rest =>
    if entry.1 = key then (key, value) :: rest else entry :: insertInto key value rest

/-- Sets a key to a value, keeping the place of a key that is there. -/
def insert (pairs : KeyValues) (key value : String) : KeyValues :=
  ⟨insertInto key value pairs.entries⟩

/-- The value under a key. -/
def get? (pairs : KeyValues) (key : String) : Option String :=
  (pairs.entries.find? fun entry => entry.1 = key).map Prod.snd

/-- The value under a key as a 64-bit integer. -/
def int? (pairs : KeyValues) (key : String) : Option Int :=
  (pairs.get? key).bind fun value => Text.int64? value.toList

/-- Whether a key is there. -/
def contains (pairs : KeyValues) (key : String) : Bool :=
  pairs.entries.any fun entry => entry.1 = key

/-- Takes a key and its value out. The value is the answer. -/
def erase (pairs : KeyValues) (key : String) : Option String × KeyValues :=
  (pairs.get? key, ⟨pairs.entries.eraseP fun entry => entry.1 = key⟩)

/-- The number of pairs. -/
def size (pairs : KeyValues) : Nat :=
  pairs.entries.length

/-- Whether there are no pairs. -/
def isEmpty (pairs : KeyValues) : Bool :=
  pairs.entries.isEmpty

/-- The pair that a segment of the text stands for; a blank segment stands for none. -/
def readSegment (segment : List Char) : Option (String × String) :=
  let body := Text.trim segment
  if body.isEmpty then none
  else
    let key := body.takeWhile (· != '=')
    let value := (body.dropWhile (· != '=')).drop 1
    some (String.ofList (Text.trim key), String.ofList (Text.trim value))

/-- Reads pairs from a text; of a repeated key the last value counts. -/
def ofText (text : String) : KeyValues :=
  ((text.toList.splitOn ';').filterMap readSegment).foldl
    (fun pairs entry => pairs.insert entry.1 entry.2) {}

/-- Writes pairs as a text. -/
def toText (pairs : KeyValues) : String :=
  ";".intercalate (pairs.entries.map fun entry => entry.1 ++ "=" ++ entry.2)

end KeyValues

end PhoneAudio
