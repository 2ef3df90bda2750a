import TunnelControl.Text.Utf8

/-!
# Texts of the native library

The native library passes texts as bytes that end at the first NUL. A text of
our own can be passed to it only if it holds no NUL; one of its texts may hold
bytes that are no UTF-8, which are read as U+FFFD.
-/

namespace TunnelControl.Native

/-- Bytes without NUL. -/
structure CText where
  bytes : List UInt8
  noNul : 0 ∉ bytes

namespace CText

instance : DecidableEq CText := fun a b =>
  if h : a.bytes = b.bytes then .isTrue (by cases a; cases b; cases h; rfl)
  else .isFalse fun e => h (e ▸ rfl)

/-- The bytes up to the first NUL. -/
def ofBytes (bs : List UInt8) : CText where
  bytes := bs.takeWhile (· ≠ 0)
  noNul h := by simpa using List.all_eq_true.1 List.all_takeWhile _ h

/-- A text of our own, unless it holds a NUL. -/
def ofText? (s : String) : Option CText :=
  if h : 0 ∈ Text.encodeUtf8 s then none else some ⟨Text.encodeUtf8 s, h⟩

theorem ofText?_eq_none_iff {s : String} : ofText? s = none ↔ '\x00' ∈ s.toList := by
  simp [ofText?, Text.zero_mem_encodeUtf8]

theorem bytes_of_ofText? {s : String} {c : CText} (passed : ofText? s = some c) :
    c.bytes = Text.encodeUtf8 s := by
  unfold ofText? at passed
  split at passed
  · simp at passed
  · cases passed
    rfl

/-- The text as we read it. -/
def text (c : CText) : String := Text.decodeUtf8 c.bytes

end CText

/-- A text that may be missing, read as empty then. -/
def textOrEmpty (c : Option CText) : String := (c.map CText.text).getD ""

end TunnelControl.Native
