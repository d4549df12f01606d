/-!
# Hexadecimal numbers

Numbers as they stand in diagnostics: lower-case digits after `0x`, without leading zeros.
-/

namespace PhoneAudio

namespace Text

/-- The lower-case hexadecimal digits of a number. -/
def hexDigits (n : Nat) : String :=
  String.ofList (Nat.toDigits 16 n)

/-- A number in hexadecimal after its mark. -/
def hex (n : Nat) : String :=
  "0x" ++ hexDigits n

end Text

end PhoneAudio
