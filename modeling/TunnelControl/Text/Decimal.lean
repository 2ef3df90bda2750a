/-!
# Decimal numbers in text

A number is an optional sign followed by ASCII digits. It is read from left to
right and the first offence is the one reported: a character that is no digit,
or a digit that takes the value beyond the limit. A character that is no digit
counts as such even where the value could not grow any further.
-/

namespace TunnelControl.Text

/-- Why a text is no number of its range. -/
inductive DecimalFault
  | badDigit
  | tooLarge
  | tooSmall
  deriving DecidableEq

def DecimalFault.message : DecimalFault → String
  | .badDigit => "invalid digit found in string"
  | .tooLarge => "number too large to fit in target type"
  | .tooSmall => "number too small to fit in target type"

/-- The value of an ASCII digit. -/
def digit? (c : Char) : Option Nat :=
  if '0' ≤ c ∧ c ≤ '9' then some (c.toNat - '0'.toNat) else none

/-- Reads digits onto `acc` as long as the value stays within `limit`. -/
def readDigits (limit : Nat) (excess : DecimalFault) : Nat → List Char → Except DecimalFault Nat
  | acc, [] => .ok acc
  | acc, c :: cs =>
    match digit? c with
    | none => .error .badDigit
    | some d =>
      if acc * 10 + d ≤ limit then readDigits limit excess (acc * 10 + d) cs else .error excess

/-- One digit at least, and a value within `limit`. -/
def readMagnitude (limit : Nat) (excess : DecimalFault) : List Char → Except DecimalFault Nat
  | [] => .error .badDigit
  | c :: cs => readDigits limit excess 0 (c :: cs)

/-- A natural number up to `limit`, with an optional plus sign. -/
def readNat (limit : Nat) : List Char → Except DecimalFault Nat
  | '+' :: cs => readMagnitude limit .tooLarge cs
  | cs => readMagnitude limit .tooLarge cs

/-- A signed number of 32 bits, with an optional sign of either kind. -/
def readInt32 : List Char → Except DecimalFault Int32
  | '-' :: cs => (readMagnitude 0x80000000 .tooSmall cs).map fun n => Int32.ofInt (-n)
  | '+' :: cs => (readMagnitude 0x7FFFFFFF .tooLarge cs).map fun n => Int32.ofInt n
  | cs => (readMagnitude 0x7FFFFFFF .tooLarge cs).map fun n => Int32.ofInt n

/-- An unsigned number of 64 bits. A minus sign is no digit. -/
def readUInt64 (cs : List Char) : Except DecimalFault UInt64 :=
  (readNat 0xFFFFFFFFFFFFFFFF cs).map UInt64.ofNat

/-- The decimal text of a number, with a minus sign when it is negative. -/
def decimal (n : Int) : String := toString n

/-- The digits of a number in base sixteen, lower case, without padding. -/
def hex (n : Nat) : String := String.ofList (Nat.toDigits 16 n)

end TunnelControl.Text
