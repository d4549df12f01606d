/-!
# Decimal integers in a text

A signed decimal integer of 64 bits: an optional sign, then at least one ASCII digit and nothing
else, with a value in range.
-/

namespace PhoneAudio

namespace Text

/-- The value of a non-empty run of ASCII digits. -/
def natural? (text : List Char) : Option Nat :=
  if text.isEmpty then none
  else if text.all Char.isDigit then
    some (text.foldl (fun value c => value * 10 + (c.toNat - '0'.toNat)) 0)
  else none

/-- The signed value of a text, before its range is looked at. -/
def signed? : List Char → Option Int
  | '+' :: digits => (natural? digits).map Int.ofNat
  | '-' :: digits => (natural? digits).map fun value => -Int.ofNat value
  | digits => (natural? digits).map Int.ofNat

/-- The integer that a text denotes, if it fits in 64 bits signed. -/
def int64? (text : List Char) : Option Int :=
  (signed? text).filter fun value =>
    -9223372036854775808 ≤ value && value ≤ 9223372036854775807

end Text

end PhoneAudio
