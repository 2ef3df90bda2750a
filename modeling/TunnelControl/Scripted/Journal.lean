import TunnelControl.Command
import TunnelControl.Limits
import TunnelControl.Options

/-!
# Journals

A journal holds what the engines made from one script observed, in order. Each
list that is asked of it is a view: the notes of one kind.
-/

namespace TunnelControl.Scripted

inductive JournalNote
  | userAgent (s : String)
  | setting (s : Setting)
  | limits (l : LoopLimits)
  | certificate (raw : Int32)
  | form (raw : Int32)
  /-- The responses of a form that was answered with `ok`. -/
  | submitted (responses : List (String × String))
  | browser (raw : Int32)
  /-- A command that was taken from the queue. -/
  | command (c : Command)
  /-- An engine was let go. -/
  | freed
  deriving DecidableEq

abbrev Journal := List JournalNote

/-- What the main loop writes into the journal. -/
inductive LoopNote
  | certificate (raw : Int32)
  | form (raw : Int32)
  | submitted (responses : List (String × String))
  | browser (raw : Int32)
  | command (c : Command)
  deriving DecidableEq

def LoopNote.note : LoopNote → JournalNote
  | .certificate raw => .certificate raw
  | .form raw => .form raw
  | .submitted responses => .submitted responses
  | .browser raw => .browser raw
  | .command c => .command c

namespace Journal

/-- The last user agent that an engine was made with. -/
def userAgent? (j : Journal) : Option String :=
  (j.filterMap fun | .userAgent s => some s | _ => none).getLast?

def settings (j : Journal) : List Setting := j.filterMap fun | .setting s => some s | _ => none

/-- The codes that went back to the engine for certificates. -/
def certAnswers (j : Journal) : List Int32 := j.filterMap fun | .certificate n => some n | _ => none

def formAnswers (j : Journal) : List Int32 := j.filterMap fun | .form n => some n | _ => none

def browserAnswers (j : Journal) : List Int32 := j.filterMap fun | .browser n => some n | _ => none

def submitted (j : Journal) : List (List (String × String)) :=
  j.filterMap fun | .submitted r => some r | _ => none

def commands (j : Journal) : List Command := j.filterMap fun | .command c => some c | _ => none

/-- The limits of the last loop. -/
def limits? (j : Journal) : Option LoopLimits :=
  (j.filterMap fun | .limits l => some l | _ => none).getLast?

/-- How many engines have been let go. -/
def freed (j : Journal) : Nat := j.count .freed

end Journal
end TunnelControl.Scripted
