import PhoneAudio.Text.Hex
import PhoneAudio.Text.Visible

/-!
# Quoted text

A text in double quotes as it stands in diagnostics: the quote, the backslash, tab, newline,
carriage return and NUL have short escapes, and every other character that is not shown stands as
its number in hexadecimal.
-/

namespace PhoneAudio

namespace Text

/-- A character inside quotes. -/
def quoteChar (c : Char) : String :=
  if c = '\"' then "\\\""
  else if c = '\\' then "\\\\"
  else if c = '\t' then "\\t"
  else if c = '\n' then "\\n"
  else if c = '\r' then "\\r"
  else if c.toNat = 0 then "\\0"
  else if isShown c then c.toString
  else "\\u\x7b" ++ hexDigits c.toNat ++ "\x7d"

/-- A text in quotes. -/
def quote (text : String) : String :=
  "\"" ++ String.join (text.toList.map quoteChar) ++ "\""

end Text

end PhoneAudio
