import TunnelControl.Json
import TunnelControl.Text.Decimal

/-!
# JSON text

`Json.parse` reads the text of one value and `Json.text` writes it. Of two
entries with the same key the later one counts. A number with a fraction or an
exponent, and minus zero, is read as a fraction, any other number as an integer.
-/

namespace TunnelControl.Json

/-! ## Reading -/

def isSpace (c : Char) : Bool := c == ' ' || c == '\t' || c == '\n' || c == '\r'

def skipSpace (cs : List Char) : List Char := cs.dropWhile isSpace

/-- What is left after a word. -/
def expect : List Char → List Char → Option (List Char)
  | [], cs => some cs
  | _ :: _, [] => none
  | w :: ws, c :: cs => if w = c then expect ws cs else none

def hexDigit? (c : Char) : Option Nat :=
  if '0' ≤ c ∧ c ≤ '9' then some (c.toNat - '0'.toNat)
  else if 'a' ≤ c ∧ c ≤ 'f' then some (c.toNat - 'a'.toNat + 10)
  else if 'A' ≤ c ∧ c ≤ 'F' then some (c.toNat - 'A'.toNat + 10)
  else none

/-- The number of four digits in base sixteen, and what is left. -/
def hexFour? : List Char → Option (Nat × List Char)
  | a :: b :: c :: d :: rest => do
    let a ← hexDigit? a
    let b ← hexDigit? b
    let c ← hexDigit? c
    let d ← hexDigit? d
    pure (((a * 16 + b) * 16 + c) * 16 + d, rest)
  | _ => none

/-- The character of an escape `\u`, of which two may be needed, and what is left. -/
def unicodeEscape? (cs : List Char) : Option (Char × List Char) := do
  let (n, rest) ← hexFour? cs
  if 0xD800 ≤ n ∧ n < 0xDC00 then
    let rest ← expect ['\\', 'u'] rest
    let (m, rest) ← hexFour? rest
    if 0xDC00 ≤ m ∧ m < 0xE000 then
      some (Char.ofNat (0x10000 + (n - 0xD800) * 0x400 + (m - 0xDC00)), rest)
    else none
  else if 0xDC00 ≤ n ∧ n < 0xE000 then none
  else some (Char.ofNat n, rest)

/-- The characters up to the closing quote, and what is left. -/
def stringBody? : Nat → List Char → Option (List Char × List Char)
  | 0, _ => none
  | _ + 1, [] => none
  | _ + 1, '"' :: rest => some ([], rest)
  | fuel + 1, '\\' :: c :: rest => do
    let (c, rest) ← match c with
      | '"' | '\\' | '/' => some (c, rest)
      | 'b' => some ('\x08', rest)
      | 'f' => some ('\x0c', rest)
      | 'n' => some ('\n', rest)
      | 'r' => some ('\r', rest)
      | 't' => some ('\t', rest)
      | 'u' => unicodeEscape? rest
      | _ => none
    let (body, rest) ← stringBody? fuel rest
    pure (c :: body, rest)
  | fuel + 1, c :: rest => do
    let (body, rest) ← stringBody? fuel rest
    pure (c :: body, rest)

/-- Whether a character belongs to a number. -/
def isNumberChar (c : Char) : Bool :=
  c.isDigit || c == '-' || c == '+' || c == '.' || c == 'e' || c == 'E'

/-- The number that the characters of a number stand for. -/
def number? (cs : List Char) : Option Json :=
  if cs.any fun c => c == '.' || c == 'e' || c == 'E' then some .fraction
  else
    match cs with
    | ['-', '0'] => some .fraction
    | '-' :: ds => (ds.mapM Text.digit?).bind fun ds =>
      if ds.isEmpty then none else some (.int (-(ds.foldl (fun n d => n * 10 + d) 0 : Nat)))
    | ds => (ds.mapM Text.digit?).bind fun ds =>
      if ds.isEmpty then none else some (.int (ds.foldl (fun n d => n * 10 + d) 0 : Nat))

/-- Adds an entry; one with the same key gives way. -/
def setField (entries : List (String × Json)) (key : String) (j : Json) : List (String × Json) :=
  entries.filter (·.1 != key) ++ [(key, j)]

mutual

/-- One value and what is left. -/
def value? : Nat → List Char → Option (Json × List Char)
  | 0, _ => none
  | fuel + 1, cs =>
    match skipSpace cs with
    | 'n' :: rest => (expect ['u', 'l', 'l'] rest).map (Json.null, ·)
    | 't' :: rest => (expect ['r', 'u', 'e'] rest).map (Json.bool true, ·)
    | 'f' :: rest => (expect ['a', 'l', 's', 'e'] rest).map (Json.bool false, ·)
    | '"' :: rest => (stringBody? (rest.length + 1) rest).map fun (s, rest) =>
      (Json.str (String.ofList s), rest)
    | '[' :: rest =>
      match skipSpace rest with
      | ']' :: rest => some (.arr [], rest)
      | _ => (elements? fuel rest).map fun (es, rest) => (.arr es, rest)
    | '\x7b' :: rest =>
      match skipSpace rest with
      | '\x7d' :: rest => some (.obj [], rest)
      | _ => (entries? fuel [] rest).map fun (es, rest) => (.obj es, rest)
    | cs =>
      (number? (cs.takeWhile isNumberChar)).map (·, cs.dropWhile isNumberChar)

/-- The elements of an array up to its end. -/
def elements? : Nat → List Char → Option (List Json × List Char)
  | 0, _ => none
  | fuel + 1, cs => do
    let (j, rest) ← value? fuel cs
    match skipSpace rest with
    | ',' :: rest =>
      let (js, rest) ← elements? fuel rest
      pure (j :: js, rest)
    | ']' :: rest => pure ([j], rest)
    | _ => none

/-- The entries of an object up to its end, behind those read already. -/
def entries? : Nat → List (String × Json) → List Char → Option (List (String × Json) × List Char)
  | 0, _, _ => none
  | fuel + 1, before, cs => do
    let rest ← expect ['"'] (skipSpace cs)
    let (key, rest) ← stringBody? (rest.length + 1) rest
    let rest ← expect [':'] (skipSpace rest)
    let (j, rest) ← value? fuel rest
    let entries := setField before (String.ofList key) j
    match skipSpace rest with
    | ',' :: rest => entries? fuel entries rest
    | '\x7d' :: rest => pure (entries, rest)
    | _ => none

end

/-- The value that a text stands for. -/
def parse (s : String) : Option Json :=
  let cs := s.toList
  match value? (cs.length + 1) cs with
  | some (j, rest) => if (skipSpace rest).isEmpty then some j else none
  | none => none

/-! ## Writing -/

/-- A character as it stands in a written string. -/
def escapedChar (c : Char) : String :=
  if c = '"' then "\\\""
  else if c = '\\' then "\\\\"
  else if c.toNat < 0x20 then
    let digits := Text.hex c.toNat
    "\\u00" ++ (if digits.length < 2 then "0" ++ digits else digits)
  else String.singleton c

def stringText (s : String) : String := "\"" ++ String.join (s.toList.map escapedChar) ++ "\""

mutual

/-- The text of a value. A fraction has no text of its own. -/
def text : Json → String
  | .null => "null"
  | .bool b => if b then "true" else "false"
  | .int n => toString n
  | .fraction => "null"
  | .str s => stringText s
  | .arr js => "[" ++ ",".intercalate (elementTexts js) ++ "]"
  | .obj es => "\x7b" ++ ",".intercalate (entryTexts es) ++ "\x7d"

def elementTexts : List Json → List String
  | [] => []
  | j :: js => text j :: elementTexts js

def entryTexts : List (String × Json) → List String
  | [] => []
  | (key, j) :: es => (stringText key ++ ":" ++ text j) :: entryTexts es

end

end TunnelControl.Json
