import TunnelControl.Callback
import TunnelControl.Native.Form
import TunnelControl.Text.FormatString

/-!
# Calls from the native library

The library calls in at a few entry points. Each turns the arguments into a call
of the controller, or answers by itself where an argument that it needs, or the
reference to the callback context, is missing. A panic of the controller goes
no further than the entry point: it is logged and the fallback is answered.

`deliver` is what becomes of a progress line that the library leaves to be
formatted: one pass measures it, a second writes it into a buffer of that size.
-/

namespace TunnelControl.Native

/-- The bytes of a line that two formatting passes give. The second pass stores
no more than the first one measured, whatever its length. -/
def deliver (first second : Option (List UInt8)) : Option (List UInt8) := do
  let measured ← first
  let written ← second
  pure (written.take measured.length)

/-- What the library calls in with. -/
inductive Entry
  | certificate (reason : Option CText)
  | browser (uri : Option CText)
  | reconnected
  /-- A line still to be formatted, by its two passes. -/
  | progress (level : Int32) (first second : Option (List UInt8))
  /-- A finished line. -/
  | line (level : Int32) (text : Option CText)
  | form (form : Option AuthForm)

namespace Entry

/-- A line to be formatted, from the format string and its arguments. The second pass
finds the arguments as the first one has left them. -/
def formatted (level : Int32) (fmt : List UInt8) (args : List Text.FormatArg) : Entry :=
  let (first, args) := Text.format fmt args
  progress level first (Text.format fmt args).1

/-- The code that is answered without the controller, where a code is asked for. -/
def fallback? : Entry → Option Int32
  | certificate _ => some 1
  | browser _ => some 1
  | form _ => some FormResult.failed.raw
  | _ => none

/-- The call of the controller, if the arguments give one. -/
def callback? : Entry → Option Callback
  | certificate reason => some (.certificate (textOrEmpty reason))
  | browser uri => uri.map fun u => .browser u.text
  | reconnected => some .reconnected
  | progress level first second =>
    (deliver first second).map fun bytes =>
      .progress (Level.ofRaw level) (CText.ofBytes bytes).text
  | line level text => text.map fun t => .progress (Level.ofRaw level) t.text
  | form f => f.map fun f => .form f.read.1

theorem callback?_ne_terminated (e : Entry) (result : TerminalResult) :
    e.callback? ≠ some (.terminated result) := by
  cases e <;> simp [callback?]

/-- The slots of the form that the library called in with. -/
def slots : Entry → Slots
  | form (some f) => f.slots
  | _ => ⟨none, []⟩

end Entry

/-- What an entry point does about the controller's reply. -/
inductive Verdict
  /-- Goes back to the library, with a code where one is asked for. -/
  | answer (rc : Option Int32) (log : List Log.Entry)
  /-- Writes answers back first; if none is refused, the code is answered. -/
  | write (code : Int32) (answers : List Answer)

namespace Verdict

def ofForm (e : Entry) (f : Form) (result : FormResult) : Verdict :=
  match result with
  | .ok | .newGroup =>
    match encode f e.slots with
    | .ok answers => .write result.raw answers
    | .error fault => .answer (some FormResult.failed.raw) [.writeBackFailed fault]
  | _ => .answer (some result.raw) []

/-- What becomes of a reply. -/
def ofReply (e : Entry) : Reply → Verdict
  | .panic => .answer e.fallback? [.boundaryPanicked]
  | .form f result => ofForm e f result
  | r => .answer r.raw? []

end Verdict
end TunnelControl.Native
