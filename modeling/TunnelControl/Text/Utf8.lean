/-!
# UTF-8

`encodeUtf8` gives the bytes of a text. `decodeUtf8` reads any bytes: every
maximal part that is ill-formed becomes one replacement character U+FFFD. The
decoder goes through the bytes one at a time and keeps what it knows of the
character under way.
-/

namespace TunnelControl.Text

/-- The bytes of a text. -/
def encodeUtf8 (s : String) : List UInt8 := s.toList.flatMap String.utf8EncodeChar

theorem zero_mem_utf8EncodeChar {c : Char} : 0 ∈ String.utf8EncodeChar c ↔ c = '\x00' := by
  constructor
  · intro mem
    -- A byte of a longer character has its highest bit set.
    have small : c.val.toNat = 0 := by
      unfold String.utf8EncodeChar at mem
      simp only at mem
      repeat' split at mem
      all_goals simp only [List.mem_cons, List.not_mem_nil, or_false, ← UInt8.toNat_inj,
        UInt8.toNat_ofNat', UInt8.toNat_zero] at mem
      all_goals omega
    exact Char.ext (UInt32.toNat_inj.mp small)
  · rintro rfl
    decide

theorem zero_mem_encodeUtf8 {s : String} : 0 ∈ encodeUtf8 s ↔ '\x00' ∈ s.toList := by
  simp [encodeUtf8, zero_mem_utf8EncodeChar]

/-- A character of which some bytes have been read: its value so far, how many
bytes are missing after the next one, and the range the next one must lie in. -/
structure Utf8Pending where
  value : Nat
  after : Nat
  low : UInt8
  high : UInt8

/-- What a byte is at the start of a character. -/
inductive Utf8Lead
  | whole (c : Char)
  | opens (p : Utf8Pending)
  | illFormed

/-- The first byte settles the length; for E0, ED, F0 and F4 it also narrows the
second byte, so that no overlong form, surrogate or value past U+10FFFF is read. -/
def utf8Lead (b : UInt8) : Utf8Lead :=
  if b < 0x80 then .whole (Char.ofNat b.toNat)
  else if b < 0xC2 then .illFormed
  else if b < 0xE0 then .opens ⟨b.toNat - 0xC0, 0, 0x80, 0xBF⟩
  else if b == 0xE0 then .opens ⟨0, 1, 0xA0, 0xBF⟩
  else if b == 0xED then .opens ⟨0xD, 1, 0x80, 0x9F⟩
  else if b < 0xF0 then .opens ⟨b.toNat - 0xE0, 1, 0x80, 0xBF⟩
  else if b == 0xF0 then .opens ⟨0, 2, 0x90, 0xBF⟩
  else if b < 0xF4 then .opens ⟨b.toNat - 0xF0, 2, 0x80, 0xBF⟩
  else if b == 0xF4 then .opens ⟨4, 2, 0x80, 0x8F⟩
  else .illFormed

def replacement : Char := Char.ofNat 0xFFFD

/-- Takes up a byte at the start of a character: what it completes, and what it
leaves pending. -/
def utf8Start (b : UInt8) : List Char × Option Utf8Pending :=
  match utf8Lead b with
  | .whole c => ([c], none)
  | .opens p => ([], some p)
  | .illFormed => ([replacement], none)

/-- Takes up one byte. A byte that cannot continue the pending character ends it
as ill-formed and starts anew. -/
def utf8Feed (pending : Option Utf8Pending) (b : UInt8) : List Char × Option Utf8Pending :=
  match pending with
  | none => utf8Start b
  | some p =>
    if p.low ≤ b ∧ b ≤ p.high then
      let value := p.value * 64 + (b.toNat - 0x80)
      match p.after with
      | 0 => ([Char.ofNat value], none)
      | n + 1 => ([], some ⟨value, n, 0x80, 0xBF⟩)
    else
      let (cs, next) := utf8Start b
      (replacement :: cs, next)

def decodeUtf8From : Option Utf8Pending → List UInt8 → List Char
  | none, [] => []
  | some _, [] => [replacement]
  | pending, b :: bs =>
    let (cs, next) := utf8Feed pending b
    cs ++ decodeUtf8From next bs

/-- The text of any bytes, with U+FFFD for each maximal ill-formed part. -/
def decodeUtf8 (bs : List UInt8) : String := String.ofList (decodeUtf8From none bs)

end TunnelControl.Text
