import TunnelControl.Text.Utf8

/-!
# Rendering progress lines

A progress line is formatted twice: the first pass only measures it, the second
writes it into a buffer of that size and is refused any byte more. A line whose
passes disagree so that the second is longer, or of which either pass fails, is
dropped, and so is one for which no buffer can be had.

A value that is refused a piece gives up the pass.
-/

namespace TunnelControl.Progress

/-- One formatting pass over a value: the pieces that it writes in order, with
none where formatting fails. -/
abbrev Pass := List (Option String)

/-- The number of bytes of a text. -/
def size (s : String) : Nat := s.utf8ByteSize

/-- The largest size that can be counted. -/
def maxSize : Nat := 0xFFFFFFFFFFFFFFFF

/-- Counts the bytes of a pass onto `n`. -/
def measureFrom (n : Nat) : Pass → Option Nat
  | [] => some n
  | none :: _ => none
  | some s :: rest => if n + size s ≤ maxSize then measureFrom (n + size s) rest else none

/-- The bytes that a pass writes, unless it fails. -/
def measure (p : Pass) : Option Nat := measureFrom 0 p

/-- Writes the pieces of a pass behind `buffer`, which may hold `limit` bytes. -/
def writeWithin (limit : Nat) (buffer : String) : Pass → Option String
  | [] => some buffer
  | none :: _ => none
  | some s :: rest =>
    if size buffer + size s ≤ limit then writeWithin limit (buffer ++ s) rest else none

/-- The line that two passes over a value give, if a buffer of the measured size
can be had. -/
def renderInto (hasRoom : Nat → Bool) (first second : Pass) : Option String := do
  let limit ← measure first
  if hasRoom limit then writeWithin limit "" second else none

/-- The line that two passes over a value give where there is memory enough. -/
def render (first second : Pass) : Option String := renderInto (fun _ => true) first second

/-- A value that is written in one piece on every pass. -/
def plain (s : String) : Pass := [some s]

end TunnelControl.Progress
