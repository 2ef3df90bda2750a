/-!
# Format strings

A format string is text with directives. A directive starts with a percent sign
and has the place of its argument, flags, a width, a precision and a size, all
optional, before the letter of its conversion. Integers are converted by `d` and
`i` (signed), `u`, `x`, `X` and `o` (unsigned), a byte by `c`, a text by `s`, and
`%%` is a percent sign. A directive without a place takes the next argument.

The conversion `n` writes nothing. It stores the number of bytes written so far
into the memory of its argument, so an argument that is also shown may be another
one when the same string is formatted once more.

Formatting goes through the bytes one at a time. It fails where a width or
precision is beyond the largest signed number of 32 bits, and where the string
ends inside a directive.
-/

namespace TunnelControl.Text

/-- An argument of a format string. A text may be missing. -/
inductive FormatArg
  | int (n : Int32)
  | text (bytes : Option (List UInt8))
  deriving DecidableEq

/-- How far a directive has been read. -/
inductive DirectivePart
  | flags
  | width
  | precision
  | size
  deriving DecidableEq

/-- The size that an integer is cut to. -/
inductive IntSize
  | byte
  | half
  | word
  deriving DecidableEq

structure FormatDirective where
  /-- The place of its argument, counted from one. -/
  place : Option Nat
  part : DirectivePart
  left : Bool
  zeros : Bool
  plus : Bool
  blank : Bool
  alternate : Bool
  width : Nat
  precision : Option Nat
  size : IntSize
  /-- The bytes read so far, last one first. -/
  read : List UInt8

/-- How far formatting has come. -/
structure FormatState where
  /-- The arguments as they are by now. -/
  args : List FormatArg
  /-- How many of them were taken in order. -/
  taken : Nat
  /-- How many bytes were written. -/
  written : Nat

namespace FormatDirective

def new : FormatDirective :=
  ⟨none, .flags, false, false, false, false, false, 0, none, .word, [0x25]⟩

/-- The largest width and precision. -/
def bound : Nat := 0x7FFFFFFF

def ascii (s : String) : List UInt8 := s.toList.map Char.toUInt8

/-- Brings the text to the width of the directive with blanks. -/
def pad (d : FormatDirective) (bytes : List UInt8) : List UInt8 :=
  let fill := List.replicate (d.width - bytes.length) 0x20
  if d.left then bytes ++ fill else fill ++ bytes

/-- A number from its sign or mark and its digits. Zeros come between the two,
blanks outside; a precision rules out filling up with zeros. -/
def number (d : FormatDirective) (mark digits : List UInt8) : List UInt8 :=
  if d.zeros && !d.left && d.precision.isNone then
    mark ++ List.replicate (d.width - mark.length - digits.length) 0x30 ++ digits
  else d.pad (mark ++ digits)

/-- The digits of a number, as many as the precision asks for at least. Zero has
no digits under the precision zero. -/
def digits (d : FormatDirective) (base n : Nat) : List UInt8 :=
  let least := d.precision.getD 1
  let ds := if n = 0 then [] else ascii (String.ofList (Nat.toDigits base n))
  List.replicate (least - ds.length) 0x30 ++ ds

def signed (d : FormatDirective) (n : Int32) : List UInt8 :=
  let v : Int := match d.size with
    | .byte => n.toInt8.toInt
    | .half => n.toInt16.toInt
    | .word => n.toInt
  let mark := if v < 0 then "-" else if d.plus then "+" else if d.blank then " " else ""
  d.number (ascii mark) (d.digits 10 v.natAbs)

def cut (d : FormatDirective) (n : Int32) : Nat :=
  match d.size with
  | .byte => n.toUInt32.toNat % 0x100
  | .half => n.toUInt32.toNat % 0x10000
  | .word => n.toUInt32.toNat

def upperByte (b : UInt8) : UInt8 := if 0x61 ≤ b && b ≤ 0x7A then b - 0x20 else b

/-- Base sixteen, with the mark `0x` for numbers other than zero if asked for. -/
def hexadecimal (d : FormatDirective) (upper : Bool) (n : Int32) : List UInt8 :=
  let v := d.cut n
  let mark := if d.alternate && v ≠ 0 then ascii "0x" else []
  let ds := d.digits 16 v
  if upper then d.number (mark.map upperByte) (ds.map upperByte) else d.number mark ds

/-- Base eight; the alternate form starts with a zero. -/
def octal (d : FormatDirective) (n : Int32) : List UInt8 :=
  let ds := d.digits 8 (d.cut n)
  d.number [] (if d.alternate && ds.head? ≠ some 0x30 then 0x30 :: ds else ds)

/-- The text of a missing text, unless the precision has no room for it. -/
def missing (d : FormatDirective) : List UInt8 :=
  if d.precision.all (6 ≤ ·) then ascii "(null)" else []

def text (d : FormatDirective) (bytes : Option (List UInt8)) : List UInt8 :=
  match bytes with
  | none => d.pad d.missing
  | some bs =>
    d.pad (match d.precision with
      | none => bs
      | some n => bs.take n)

end FormatDirective

namespace FormatArg

/-- The argument as a number; a text counts as zero. -/
def toInt : Option FormatArg → Int32
  | some (int n) => n
  | _ => 0

def toText : Option FormatArg → Option (List UInt8)
  | some (text bytes) => bytes
  | _ => none

/-- The argument once bytes have been stored at the beginning of its memory, where
the text and the NUL at its end are. -/
def overwrite (stored : List UInt8) : FormatArg → FormatArg
  | text (some bytes) =>
    text (some ((stored ++ (bytes ++ [0]).drop stored.length).takeWhile (· ≠ 0)))
  | arg => arg

end FormatArg

namespace FormatState

/-- Where the argument at a place is, or else the next one. -/
def index (s : FormatState) : Option Nat → Nat
  | some place => place - 1
  | none => s.taken

def arg? (s : FormatState) (place : Option Nat) : Option FormatArg := s.args[s.index place]?

/-- The argument has been taken. -/
def next (s : FormatState) (place : Option Nat) : FormatState :=
  if place.isNone then { s with taken := s.taken + 1 } else s

/-- The number of bytes written so far as it is stored, the lowest byte first. -/
def count (s : FormatState) (size : IntSize) : List UInt8 :=
  let bytes := match size with
    | .byte => 1
    | .half => 2
    | .word => 4
  (List.range bytes).map fun i => UInt8.ofNat (s.written >>> (8 * i))

/-- Stores the number of bytes written so far. -/
def store (s : FormatState) (place : Option Nat) (size : IntSize) : FormatState :=
  { s with args := s.args.modify (s.index place) (FormatArg.overwrite (s.count size)) }

/-- Bytes have been written. -/
def wrote (s : FormatState) (out : List UInt8) : FormatState :=
  { s with written := s.written + out.length }

end FormatState

namespace FormatDirective

/-- What reading one more byte of a directive leads to. -/
inductive Step
  | more (d : FormatDirective) (s : FormatState)
  | done (out : List UInt8) (s : FormatState)
  | fail

/-- Takes up a digit of the width or the precision. -/
def grow (n digit : Nat) : Option Nat :=
  if n * 10 + digit ≤ bound then some (n * 10 + digit) else none

def widthDigit (d : FormatDirective) (digit : Nat) (s : FormatState) : Step :=
  match grow d.width digit with
  | some width => .more { d with width, part := .width } s
  | none => .fail

def precisionDigit (d : FormatDirective) (digit : Nat) (s : FormatState) : Step :=
  match grow (d.precision.getD 0) digit with
  | some n => .more { d with precision := some n } s
  | none => .fail

/-- A width or precision that is an argument. A negative width stands for its
magnitude at the left, a negative precision for none. -/
def star (d : FormatDirective) (s : FormatState) : Step :=
  let n := FormatArg.toInt (s.arg? none)
  match d.part with
  | .precision =>
    let precision := if n < 0 then none else some n.toInt.toNat
    .more { d with precision, part := .size } (s.next none)
  | _ =>
    .more { d with width := n.toInt.natAbs, left := d.left || n < 0, part := .width } (s.next none)

def convert (d : FormatDirective) (letter : Char) (s : FormatState) : Step :=
  let ofInt (f : Int32 → List UInt8) : Step :=
    .done (f (FormatArg.toInt (s.arg? d.place))) (s.next d.place)
  match letter with
  | 'd' | 'i' => ofInt d.signed
  | 'u' => ofInt fun n => d.number [] (d.digits 10 (d.cut n))
  | 'x' => ofInt (d.hexadecimal false)
  | 'X' => ofInt (d.hexadecimal true)
  | 'o' => ofInt d.octal
  | 'c' => ofInt fun n => d.pad [n.toUInt32.toUInt8]
  | 's' => .done (d.text (FormatArg.toText (s.arg? d.place))) (s.next d.place)
  | 'n' => .done [] ((s.store d.place d.size).next d.place)
  | '%' => .done [0x25] s
  | _ => .done d.read.reverse s

def setSize (d : FormatDirective) (c : Char) : FormatDirective :=
  let size := if c = 'h' then (if d.size = .half then .byte else .half) else d.size
  { d with size, part := .size }

/-- Takes up one byte of a directive. -/
def feed (d : FormatDirective) (b : UInt8) (s : FormatState) : Step :=
  let d := { d with read := b :: d.read }
  let c := Char.ofNat b.toNat
  let early : Bool := d.part = .flags || d.part = .width
  if c = '-' ∧ d.part = .flags then .more { d with left := true } s
  else if c = '0' ∧ d.part = .flags then .more { d with zeros := true } s
  else if c = '+' ∧ d.part = .flags then .more { d with plus := true } s
  else if c = ' ' ∧ d.part = .flags then .more { d with blank := true } s
  else if c = '#' ∧ d.part = .flags then .more { d with alternate := true } s
  else if '0' ≤ c ∧ c ≤ '9' ∧ early then d.widthDigit (b.toNat - 0x30) s
  else if '0' ≤ c ∧ c ≤ '9' ∧ d.part = .precision then d.precisionDigit (b.toNat - 0x30) s
  else if c = '$' ∧ d.part = .width ∧ d.place = none then
    .more { d with place := some d.width, width := 0, part := .flags } s
  else if c = '*' ∧ (d.part = .flags ∨ d.part = .precision) then d.star s
  else if c = '.' ∧ early then .more { d with precision := some 0, part := .precision } s
  else if c = 'h' ∨ c = 'l' then .more (d.setSize c) s
  else d.convert c s

end FormatDirective

/-- Formats the rest of a string, with the directive that is being read. -/
def formatFrom : Option FormatDirective → FormatState → List UInt8 →
    Option (List UInt8) × FormatState
  | none, s, [] => (some [], s)
  | some _, s, [] => (none, s)
  | none, s, b :: bs =>
    if b = 0x25 then formatFrom (some FormatDirective.new) s bs
    else
      let (rest, s) := formatFrom none (s.wrote [b]) bs
      (rest.map (b :: ·), s)
  | some d, s, b :: bs =>
    match d.feed b s with
    | .more d s => formatFrom (some d) s bs
    | .done out s =>
      let (rest, s) := formatFrom none (s.wrote out) bs
      (rest.map (out ++ ·), s)
    | .fail => (none, s)

/-- The bytes of a format string with its arguments put in, unless formatting fails,
and the arguments as they are left. -/
def format (fmt : List UInt8) (args : List FormatArg) : Option (List UInt8) × List FormatArg :=
  let (out, s) := formatFrom none ⟨args, 0, 0⟩ fmt
  (out, s.args)

end TunnelControl.Text
