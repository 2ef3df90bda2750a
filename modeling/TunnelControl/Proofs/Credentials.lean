import TunnelControl.Callback
import TunnelControl.Rehearsal.FormAct

/-!
# What credentials change

`valueless` blanks all that anybody has entered into a form, and leaves which prompts were
answered, under which names and in which order. What is left is the same whatever credentials
were filled in (`Processor.fillIn_valueless`): none are ever refused, so that no refusal is logged
with the value that was offered, the processors that run after them find the same prompts, and what
is logged of a form has no value in it.
-/

namespace TunnelControl

/-! ## Forms without values -/

/-- The option, whatever its value. Whether it has one is kept. -/
def FormOption.valueless (o : FormOption) : FormOption :=
  { o with value := o.value.map fun _ => "" }

def Form.valueless (f : Form) : Form :=
  { f with
    authGroup := f.authGroup.map FormOption.valueless
    options := f.options.map FormOption.valueless }

/-- The reply, whatever the values of the form. -/
def Reply.valueless : Reply → Reply
  | .form f result => .form f.valueless result
  | r => r

/-- Responses without the values. -/
def withoutValues (responses : List (String × String)) : List (String × String) :=
  responses.map fun r => (r.1, "")

namespace Form

theorem prompts_valueless (f : Form) :
    f.valueless.prompts = f.prompts.map FormOption.valueless := by
  simp only [prompts, valueless, List.map_append]
  cases f.authGroup <;> rfl

theorem responses_valueless (f : Form) : f.valueless.responses = withoutValues f.responses := by
  simp only [responses, prompts_valueless, withoutValues, List.filterMap_map, List.map_filterMap]
  congr 1
  funext o
  simp [FormOption.response?, FormOption.valueless, Function.comp_def]

/-- No value is logged. -/
theorem logEntries_valueless (f : Form) : f.valueless.logEntries = f.logEntries := by
  simp only [logEntries, prompts_valueless, List.flatMap_map]
  rfl

end Form

namespace Reply

theorem fits_valueless (r : Reply) (call : Callback) : r.valueless.fits call = r.fits call := by
  cases r <;> cases call <;> rfl

theorem remark_valueless (r : Reply) (call : Callback) :
    r.valueless.remark call = r.remark call := by
  cases r <;> rfl

theorem valueless_eq_panic_iff (r : Reply) : r.valueless = .panic ↔ r = .panic := by
  cases r <;> simp [valueless]

end Reply

/-! ## Filling in credentials -/

namespace Credentials

/-- What becomes of an option. -/
def filled (c : Credentials) (o : FormOption) : FormOption :=
  match c.valueFor? o with
  | none => o
  | some value => { o with value := some value }

/-- Only selections refuse values, and credentials are not meant for them. -/
theorem admits_of_valueFor? {c : Credentials} {o : FormOption} {value : String}
    (meant : c.valueFor? o = some value) : o.admits value = true := by
  cases kind : o.kind <;> simp [valueFor?, kind] at meant <;> simp [FormOption.admits, kind]

theorem fillOptions_eq (c : Credentials) (os : List FormOption) :
    c.fillOptions os = (os.map c.filled, none) := by
  induction os with
  | nil => rfl
  | cons o os ih =>
      simp only [fillOptions, List.map_cons, filled]
      cases meant : c.valueFor? o with
      | none => simp [ih]
      | some value => simp [FormOption.setValue, admits_of_valueFor? meant, ih]

/-- **Credentials are never refused.** -/
theorem fill_eq (c : Credentials) (f : Form) :
    c.fill f = ({ f with options := f.options.map c.filled }, .ok) := by
  rw [fill, fillOptions_eq]
  rfl

/-- A refusal, which would show the value that was offered, is never logged. -/
theorem logEntries_eq_nil (c : Credentials) (f : Form) : c.logEntries f = [] := by
  rw [logEntries, fillOptions_eq]
  rfl

/-- No credentials. -/
def blank : Credentials := ⟨"", ""⟩

theorem filled_valueless (c : Credentials) (o : FormOption) :
    blank.filled o.valueless = (c.filled o).valueless := by
  have meant : blank.valueFor? o.valueless = (c.valueFor? o).map fun _ => "" := by
    cases kind : o.kind <;> simp [valueFor?, FormOption.valueless, kind, blank]
  unfold filled
  rw [meant]
  cases c.valueFor? o <;> rfl

theorem fill_valueless (c : Credentials) (f : Form) :
    blank.fill f.valueless = ((c.fill f).1.valueless, (c.fill f).2) := by
  have same : (f.options.map FormOption.valueless).map blank.filled =
      (f.options.map c.filled).map FormOption.valueless := by
    simp only [List.map_map]
    exact List.map_congr_left fun o _ => c.filled_valueless o
  simp only [fill_eq, Form.valueless, same]

end Credentials

/-! ## Processors that log and fill in credentials -/

namespace Processor

variable {α σ τ : Type} {act : α → σ → σ × Verdict} {act' : α → τ → τ × Verdict} {g : σ → τ}

mutual

/-- What every leaf commutes with, the whole tree commutes with. -/
theorem run_comm (comm : ∀ a s, act' a (g s) = (g (act a s).1, (act a s).2)) :
    ∀ (p : Processor α) (s : σ), run act' p (g s) = (g (run act p s).1, (run act p s).2)
  | .leaf a, s => comm a s
  | .aggregate parts, s => runAll_comm comm parts s

theorem runAll_comm (comm : ∀ a s, act' a (g s) = (g (act a s).1, (act a s).2)) :
    ∀ (ps : List (Processor α)) (s : σ),
      runAll act' ps (g s) = (g (runAll act ps s).1, (runAll act ps s).2)
  | [], _ => rfl
  | p :: ps, s => by
      rw [runAll, runAll, run_comm comm p s]
      cases run act p s with
      | mk s' verdict =>
          match verdict with
          | some .ok => exact runAll_comm comm ps s'
          | some .failed | some .cancelled | some .newGroup | none => rfl

end

end Processor

/-- A leaf of a processor that fills in credentials, of which there may be several. -/
inductive Filling
  | logging
  /-- Fills in the credentials with this number. -/
  | credentials (number : Nat)

/-- What the leaf does, given the credentials. -/
def Filling.act (held : Nat → Credentials) : Filling → Rehearsal.FormAct
  | .logging => .logging
  | .credentials number => .credentials (held number)

/-- The desk, whatever the values of the form on it. -/
def Rehearsal.Desk.valueless (d : Rehearsal.Desk) : Rehearsal.Desk :=
  { d with form := d.form.valueless }

theorem Filling.run_valueless (held : Nat → Credentials) (leaf : Filling) (d : Rehearsal.Desk) :
    (leaf.act fun _ => .blank).run d.valueless =
      (((leaf.act held).run d).1.valueless, ((leaf.act held).run d).2) := by
  cases leaf with
  | logging =>
      simp [Filling.act, Rehearsal.FormAct.run, Rehearsal.Desk.valueless,
        Form.logEntries_valueless]
  | credentials number =>
      simp [Filling.act, Rehearsal.FormAct.run, Rehearsal.Desk.valueless,
        Credentials.fill_valueless (held number), Credentials.logEntries_eq_nil]

/-- What becomes of a form, given the credentials. -/
def Processor.fillIn (p : Processor Filling) (held : Nat → Credentials) (f : Form) :
    Rehearsal.Desk × Verdict :=
  p.run (fun leaf => (leaf.act held).run) ⟨f, []⟩

/-- **Credentials change values only.** Neither what the processors log nor how they end nor
anything else about the form depends on them. -/
theorem Processor.fillIn_valueless (p : Processor Filling) (held : Nat → Credentials) (f : Form) :
    p.fillIn (fun _ => .blank) f.valueless =
      ((p.fillIn held f).1.valueless, (p.fillIn held f).2) :=
  run_comm (Filling.run_valueless held) p ⟨f, []⟩

end TunnelControl
