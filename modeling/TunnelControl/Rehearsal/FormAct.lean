import TunnelControl.Processor

/-!
# Prepared answers to forms

What a rehearsed controller may do with a form. Acts are the leaves of
processors; an act changes the form, may log, and gives a verdict.
-/

namespace TunnelControl.Rehearsal

inductive FormAct
  | credentials (c : Credentials)
  | logging
  /-- Leaves the form alone and gives the outcome with that code. -/
  | give (raw : Int32)
  | panic
  | set (name value : String)
  | setGroup (value : String)
  | setAll (value : String)
  | clear (name : String)
  /-- Appends an option; none is a failure. -/
  | push (option : Option FormOption)
  | remove (index : Nat)
  /-- Puts an option, or none, in the place of the authentication group. -/
  | group (option : Option FormOption)

/-- A form under work, and what has been logged about it. -/
structure Desk where
  form : Form
  log : List Log.Entry

/-- Sets every option in order; those before the first refusal keep the value. -/
def setEvery (value : String) : List FormOption → List FormOption × FormResult
  | [] => ([], .ok)
  | o :: os =>
    match o.setValue value with
    | .error _ => (o :: os, .failed)
    | .ok o' =>
      let (os', result) := setEvery value os
      (o' :: os', result)

/-- What comes of an answer to one option: missing options cancel the form. -/
def settle (d : Desk) (onOk : FormResult) :
    Option (Except FormFault Form) → Desk × Processor.Verdict
  | none => (d, some .cancelled)
  | some (.error _) => (d, some .failed)
  | some (.ok form) => ({ d with form }, some onOk)

namespace FormAct

def run (a : FormAct) (d : Desk) : Desk × Processor.Verdict :=
  let f := d.form
  match a with
  | .credentials c =>
    let (form, result) := c.fill f
    (⟨form, d.log ++ c.logEntries f⟩, some result)
  | .logging => ({ d with log := d.log ++ f.logEntries }, some .ok)
  | .give raw => (d, some (FormResult.ofRaw raw))
  | .panic => (d, none)
  | .set name value => settle d .ok (f.updateOption? name fun o => o.setValue value)
  | .setGroup value => settle d .newGroup (f.updateGroup? fun g => g.setValue value)
  | .setAll value =>
    let (options, result) := setEvery value f.options
    ({ d with form := { f with options } }, some result)
  | .clear name =>
    match f.updateOption? name fun o => .ok o.clearValue with
    | some (.ok form) => ({ d with form }, some .ok)
    | _ => (d, some .ok)
  | .push none => (d, some .failed)
  | .push (some o) => ({ d with form := { f with options := f.options ++ [o] } }, some .ok)
  | .remove index => ({ d with form := { f with options := f.options.eraseIdx index } }, some .ok)
  | .group o => ({ d with form := { f with authGroup := o } }, some .ok)

end FormAct

/-- A processor made of prepared acts. -/
abbrev FormPlan := Processor FormAct

namespace FormPlan

/-- Runs the plan on a form: the form as left, the log, and the verdict. -/
def runOn (p : FormPlan) (f : Form) : Desk × Processor.Verdict := p.run FormAct.run ⟨f, []⟩

end FormPlan

/-! ## Working on a form by hand -/

/-- The prompt that a step is about. -/
inductive Prompt
  | option (name : String)
  | group

inductive FormStep
  | set (prompt : Prompt) (value : String)
  | clear (prompt : Prompt)
  | get (prompt : Prompt)
  | responses
  | form
  | banner (text : String)
  | message (text : String)
  | error (text : String)
  | addOption (o : FormOption)
  | setGroup (o : FormOption)

inductive FormStepResult
  | ok
  | missing
  | refused (fault : FormFault)
  | prompt (o : FormOption)
  | responses (rs : List (String × String))
  | form (f : Form)
  | nothing

namespace FormStep

def prompt? (f : Form) : Prompt → Option FormOption
  | .option name => f.option? name
  | .group => f.authGroup

def update? (f : Form) (p : Prompt) (change : FormOption → Except FormFault FormOption) :
    Option (Except FormFault Form) :=
  match p with
  | .option name => f.updateOption? name change
  | .group => f.updateGroup? change

def settled (f : Form) : Option (Except FormFault Form) → FormStepResult × Form
  | none => (.missing, f)
  | some (.error fault) => (.refused fault, f)
  | some (.ok f') => (.ok, f')

def run (f : Form) : FormStep → FormStepResult × Form
  | .set p value => settled f (update? f p fun o => o.setValue value)
  | .clear p => settled f (update? f p fun o => .ok o.clearValue)
  | .get p => ((prompt? f p).elim .missing .prompt, f)
  | .responses => (.responses f.responses, f)
  | .form => (.form f, f)
  | .banner text => (.nothing, { f with banner := some text })
  | .message text => (.nothing, { f with message := some text })
  | .error text => (.nothing, { f with error := some text })
  | .addOption o => (.nothing, { f with options := f.options ++ [o] })
  | .setGroup o => (.nothing, { f with authGroup := some o })

/-- Takes the steps in order and collects their results. -/
def runAll (f : Form) : List FormStep → List FormStepResult × Form
  | [] => ([], f)
  | s :: rest =>
    let (result, f') := s.run f
    let (results, last) := runAll f' rest
    (result :: results, last)

end FormStep
end TunnelControl.Rehearsal
