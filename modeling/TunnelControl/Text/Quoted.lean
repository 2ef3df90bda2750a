import TunnelControl.Text.Decimal
import TunnelControl.Text.Printable

/-!
# Quoted text

Diagnostics show a text in double quotes. The quote and the backslash get a
backslash, tab, line feed, carriage return and NUL have a letter of their own,
and every other character that is not printable is given by its number in base
sixteen, between braces.
-/

namespace TunnelControl.Text

/-- One character as it stands between the quotes. -/
def quotedChar (c : Char) : String :=
  if c = '"' then "\\\""
  else if c = '\\' then "\\\\"
  else if c = '\t' then "\\t"
  else if c = '\n' then "\\n"
  else if c = '\r' then "\\r"
  else if c.toNat = 0 then "\\0"
  else if isPrintable c then String.singleton c
  else "\\u\x7b" ++ hex c.toNat ++ "\x7d"

/-- The text in quotes. -/
def quoted (s : String) : String :=
  "\"" ++ String.join (s.toList.map quotedChar) ++ "\""

/-- An optional text: the word `None`, or the quoted text in `Some(...)`. -/
def quotedOption : Option String → String
  | none => "None"
  | some s => "Some(" ++ quoted s ++ ")"

/-- A value of several fields, each `name: value`, in braces behind its name. -/
def fieldsText (name : String) (fields : List (String × String)) : String :=
  name ++ " \x7b " ++ ", ".intercalate (fields.map fun f => f.1 ++ ": " ++ f.2) ++ " \x7d"

/-- Several values in brackets. -/
def listText (items : List String) : String := "[" ++ ", ".intercalate items ++ "]"

end TunnelControl.Text
