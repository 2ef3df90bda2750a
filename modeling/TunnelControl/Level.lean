import TunnelControl.Json.Codec
import TunnelControl.Text.Ascii
import TunnelControl.Text.Blank

/-!
# Levels of progress lines

The engine numbers the verbosity of its progress lines from 0 (errors) to 3
(trace). A number outside that range stands for the nearest level.
-/

namespace TunnelControl

inductive Level
  | error
  | info
  | debug
  | trace
  deriving DecidableEq

namespace Level

def all : List Level := [error, info, debug, trace]

/-- The level for an engine's number, clamped into the range. -/
def ofRaw (n : Int32) : Level :=
  if n ≤ 0 then error else if n = 1 then info else if n = 2 then debug else trace

def raw : Level → Int32
  | error => 0
  | info => 1
  | debug => 2
  | trace => 3

def name : Level → String
  | error => "err"
  | info => "info"
  | debug => "debug"
  | trace => "trace"

/-- The level in use where none is set. -/
def default : Level := info

/-- Whether lines of this level are shown less often than those of the other. -/
def isAbove (a b : Level) : Bool := b.raw < a.raw

/-- The words that name a level, in lower case. -/
def ofWord? : String → Option Level
  | "err" | "error" => some error
  | "info" => some info
  | "debug" => some debug
  | "trace" => some trace
  | _ => none

/-- A word that names no level; holds the word in lower case. -/
structure Unknown where
  word : String
  deriving DecidableEq

def Unknown.message (u : Unknown) : String :=
  "unknown log level '" ++ u.word ++ "' (expected err, info, debug or trace)"

/-- Reads a level without regard to letter case and surrounding white space. -/
def parse (s : String) : Except Unknown Level :=
  let word := Text.asciiLower (Text.trim s)
  match ofWord? word with
  | some level => .ok level
  | none => .error ⟨word⟩

def codec : Codec Level := .named name all

theorem ofRaw_raw (l : Level) : ofRaw l.raw = l := by cases l <;> decide

end Level
end TunnelControl
