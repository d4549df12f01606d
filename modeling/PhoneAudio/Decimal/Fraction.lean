import PhoneAudio.Decimal.Shortest

/-!
# The diagnostic text of a 32-bit float

The fewest digits that read back, written positionally from `10^-4` up to below `10^16` and with an
exponent outside. Positional notation always shows a digit after the point, exponents have neither a
plus sign nor leading zeros, and a negative zero keeps its sign.
-/

namespace PhoneAudio

namespace Decimal

namespace Scientific

/-- The digits as a text. -/
def digitText (d : Scientific) : String :=
  toString d.digits

/-- The power of ten of the first digit. -/
def leading (d : Scientific) : Int :=
  d.exponent + d.digitText.length - 1

/-- A run of zeros. -/
def zeros (n : Nat) : String :=
  String.ofList (List.replicate n '0')

/-- The number with a point and without an exponent. -/
def positional (d : Scientific) : String :=
  let text := d.digitText.toList
  if 0 ≤ d.exponent then d.digitText ++ zeros d.exponent.toNat ++ ".0"
  else if 0 ≤ d.leading then
    let whole := (d.leading + 1).toNat
    String.ofList (text.take whole) ++ "." ++ String.ofList (text.drop whole)
  else "0." ++ zeros (-d.leading - 1).toNat ++ d.digitText

/-- The number with one digit before the point and an exponent. -/
def exponential (d : Scientific) : String :=
  let text := d.digitText.toList
  let rest := if text.length ≤ 1 then "" else "." ++ String.ofList (text.drop 1)
  String.ofList (text.take 1) ++ rest ++ "e" ++ toString d.leading

/-- The text of the number. -/
def toText (d : Scientific) : String :=
  if -4 ≤ d.leading && d.leading < 16 then d.positional else d.exponential

end Scientific

/-- The text of a 32-bit float. -/
def floatText (x : Float32) : String :=
  let bits := x.toBits.toNat
  let sign := if bits / 2147483648 = 1 then "-" else ""
  let magnitude := bits % 2147483648
  if magnitude = 0 then sign ++ "0.0"
  else if magnitude < 0x7f800000 then
    sign ++ (Binary.ofBits magnitude).shortest.toText
  else if magnitude = 0x7f800000 then sign ++ "inf"
  else "NaN"

end Decimal

end PhoneAudio
