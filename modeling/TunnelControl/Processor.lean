import TunnelControl.Log.Entry
import TunnelControl.Text.Ascii

/-!
# Form processors

Building blocks for answering forms. `Credentials.fill` sets user name and
password, `logEntries` shows a form without answering it, and an aggregate runs
processors in order until one of them gives a result other than `ok`.

The tree of processors is kept apart from what its leaves do: `Processor.run`
goes through the tree with any action on any state, and `Processor.leaves` lists
the leaves in the order in which they run.
-/

namespace TunnelControl

/-! ## Credentials -/

structure Credentials where
  username : String
  password : String
  deriving DecidableEq

namespace Credentials

/-- The text that is meant for an option: the user name for text options whose
name starts with `user`, the password for password options. -/
def valueFor? (c : Credentials) (o : FormOption) : Option String :=
  match o.kind with
  | .text => if Text.startsIgnoringCase "user" o.name then some c.username else none
  | .password => some c.password
  | _ => none

/-- Fills options in order and stops at the first that refuses its value. -/
def fillOptions (c : Credentials) : List FormOption → List FormOption × Option FormFault
  | [] => ([], none)
  | o :: os =>
    match c.valueFor? o with
    | none =>
      let (os', refusal) := c.fillOptions os
      (o :: os', refusal)
    | some value =>
      match o.setValue value with
      | .error fault => (o :: os, some fault)
      | .ok o' =>
        let (os', refusal) := c.fillOptions os
        (o' :: os', refusal)

/-- Fills the options of a form; the authentication group is not touched. -/
def fill (c : Credentials) (f : Form) : Form × FormResult :=
  let (options, refusal) := c.fillOptions f.options
  ({ f with options }, if refusal.isSome then .failed else .ok)

/-- The log of filling a form. What it says of a refusal holds the value that was offered. -/
def logEntries (c : Credentials) (f : Form) : List Log.Entry :=
  (c.fillOptions f.options).2.toList.map .credentialRejected

/-- Diagnostics never show the password. -/
def describe (c : Credentials) : String :=
  Text.fieldsText "CredentialsProcessor"
    [("username", Text.quoted c.username), ("password", Text.quoted "<redacted>")]

end Credentials

/-! ## Showing a form -/

/-- The log of one prompt: the option and then its choices. -/
def FormOption.logEntries (o : FormOption) : List Log.Entry :=
  .formOption o.name o.label o.kind :: o.choices.map .formChoice

/-- The log of a form. Values are not logged. -/
def Form.logEntries (f : Form) : List Log.Entry :=
  .processingForm f.banner f.message f.error :: f.prompts.flatMap FormOption.logEntries

/-! ## Aggregates -/

/-- A tree of processors. -/
inductive Processor (α : Type)
  | leaf (a : α)
  | aggregate (parts : List (Processor α))

namespace Processor

/-- How a processor ends; a panic gives no result. -/
abbrev Verdict := Option FormResult

mutual

/-- Runs the tree from left to right with `act` at the leaves. -/
def run {α σ : Type} (act : α → σ → σ × Verdict) : Processor α → σ → σ × Verdict
  | .leaf a, s => act a s
  | .aggregate parts, s => runAll act parts s

/-- Runs processors in order; the first verdict other than `ok` stands. -/
def runAll {α σ : Type} (act : α → σ → σ × Verdict) : List (Processor α) → σ → σ × Verdict
  | [], s => (s, some .ok)
  | p :: ps, s =>
    match run act p s with
    | (s', some .ok) => runAll act ps s'
    | (s', verdict) => (s', verdict)

end

mutual

/-- The leaves from left to right. -/
def leaves {α : Type} : Processor α → List α
  | .leaf a => [a]
  | .aggregate parts => leavesAll parts

def leavesAll {α : Type} : List (Processor α) → List α
  | [] => []
  | p :: ps => leaves p ++ leavesAll ps

end

/-- The number of direct parts of an aggregate. -/
def size? {α : Type} : Processor α → Option Nat
  | .leaf _ => none
  | .aggregate parts => some parts.length

end Processor
end TunnelControl
