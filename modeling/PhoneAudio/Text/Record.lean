/-!
# The diagnostic text of a value

How a compound value is written in diagnostics: a name, and the fields in braces, each with its
name. A value that does not show all it holds closes with two dots. Also the text of an optional
value, of a list and of a set of flags.
-/

namespace PhoneAudio

namespace Text

/-- The fields of a record, each after its name. -/
def fields (items : List (String × String)) : String :=
  ", ".intercalate (items.map fun item => item.1 ++ ": " ++ item.2)

/-- A record that shows all its fields. -/
def record (name : String) (items : List (String × String)) : String :=
  name ++ " \x7b " ++ fields items ++ " \x7d"

/-- A record that shows some of its fields. -/
def openRecord (name : String) (items : List (String × String)) : String :=
  name ++ " \x7b " ++ fields items ++ ", .. \x7d"

/-- An optional value. -/
def optional : Option String → String
  | none => "None"
  | some text => "Some(" ++ text ++ ")"

/-- A list in square brackets. -/
def list (items : List String) : String :=
  "[" ++ ", ".intercalate items ++ "]"

/-- A truth value. -/
def truth (b : Bool) : String :=
  if b then "true" else "false"

end Text

end PhoneAudio
