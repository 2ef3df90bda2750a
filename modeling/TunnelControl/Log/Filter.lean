import TunnelControl.Text.Alphanumeric
import TunnelControl.Text.Ascii
import TunnelControl.Text.Decimal

/-!
# Log filters

A filter is a list of directives with commas between them. A directive is a
level for one target, `target=level`, or a level for everything else. If any
directive cannot be read, the whole filter gives way to `info`.
-/

namespace TunnelControl.Log

/-- How much is let through. -/
inductive Threshold
  | off
  | error
  | warn
  | info
  | debug
  | trace
  deriving DecidableEq

def Threshold.name : Threshold → String
  | .off => "off"
  | .error => "error"
  | .warn => "warn"
  | .info => "info"
  | .debug => "debug"
  | .trace => "trace"

def Threshold.all : List Threshold := [.off, .error, .warn, .info, .debug, .trace]

/-- A threshold is named in any letter case, or numbered from 0 for `off`. -/
def Threshold.ofText? (s : String) : Option Threshold :=
  match Text.readUInt64 s.toList with
  | .ok n => Threshold.all[n.toNat]?
  | .error _ => Threshold.all.find? fun t => Text.sameIgnoringCase t.name s

/-- What is let through for a target, or for everything that has no directive
of its own. -/
structure Directive where
  target : Option String
  threshold : Threshold
  deriving DecidableEq

namespace Directive

/-- Whether a directive may start with the character. -/
def opens (c : Char) : Bool := c == '-' || c == ':' || c == '_' || Text.isAlphanumeric c

/-- Reads one directive. The first equals sign parts the target from the level;
a missing level lets everything through, and so does a text that is no level,
which is then taken for a target. -/
def ofText? (cs : List Char) : Option Directive :=
  if !(cs.head?.any opens) then none
  else
    let target := String.ofList (cs.takeWhile (· != '='))
    match cs.dropWhile (· != '=') with
    | [] =>
      match Threshold.ofText? target with
      | some threshold => some ⟨none, threshold⟩
      | none => some ⟨some target, .trace⟩
    | [_] => some ⟨some target, .trace⟩
    | _ :: level =>
      (Threshold.ofText? (String.ofList level)).map fun threshold => ⟨some target, threshold⟩

def text (d : Directive) : String :=
  match d.target with
  | none => d.threshold.name
  | some target => target ++ "=" ++ d.threshold.name

/-- Whether `a` stands before `b`: longer targets first, equally long ones in
falling order, and the directive without a target last. -/
def before (a b : Directive) : Bool :=
  match a.target, b.target with
  | some s, some t =>
    t.utf8ByteSize < s.utf8ByteSize || (s.utf8ByteSize == t.utf8ByteSize && decide (t < s))
  | some _, none => true
  | none, _ => false

/-- Puts a directive in its place; it takes the place of one for the same target. -/
def insert (d : Directive) : List Directive → List Directive
  | [] => [d]
  | e :: es =>
    if d.target = e.target then d :: es
    else if d.before e then d :: e :: es
    else e :: insert d es

end Directive

/-- Splits a text at a character. -/
def splitAt (sep : Char) : List Char → List (List Char)
  | [] => [[]]
  | c :: cs =>
    if c = sep then [] :: splitAt sep cs
    else
      match splitAt sep cs with
      | [] => [[c]]
      | piece :: pieces => (c :: piece) :: pieces

/-- The directives of a filter in order, one for each target; none if any of
them cannot be read. Empty pieces are passed over. -/
def directives? (s : String) : Option (List Directive) := do
  let pieces := (splitAt ',' s.toList).filter fun piece => !piece.isEmpty
  let read ← pieces.mapM Directive.ofText?
  pure (read.foldl (fun placed d => d.insert placed) [])

/-- The filter that is used where one cannot be read. -/
def fallback : List Directive := [⟨none, .info⟩]

def filter (s : String) : List Directive := (directives? s).getD fallback

/-- The text of the filter in use. -/
def filterText (s : String) : String := ",".intercalate ((filter s).map Directive.text)

end TunnelControl.Log
