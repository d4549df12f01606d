import PhoneAudio.Text.Hex

/-!
# The diagnostic text of a set of flags

The names of the bits that are set, in the order of the list of names, then the bits without a
name in hexadecimal. The empty set is a plain zero.
-/

namespace PhoneAudio

namespace Text

/-- The bits of `bits` that none of the named flags covers. -/
def unnamedBits (names : List (UInt32 × String)) (bits : UInt32) : UInt32 :=
  names.foldl (fun rest flag => rest &&& ~~~flag.1) bits

/-- The parts of the text of a set of flags. -/
def flagParts (names : List (UInt32 × String)) (bits : UInt32) : List String :=
  let named := (names.filter fun flag => bits &&& flag.1 == flag.1).map Prod.snd
  let rest := unnamedBits names bits
  if rest == 0 then named else named ++ [hex rest.toNat]

/-- A set of flags under the name of its type. -/
def flags (name : String) (names : List (UInt32 × String)) (bits : UInt32) : String :=
  if bits == 0 then name ++ "(0x0)"
  else name ++ "(" ++ " | ".intercalate (flagParts names bits) ++ ")"

end Text

end PhoneAudio
