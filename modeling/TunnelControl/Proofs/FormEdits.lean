import Mathlib.Data.List.Basic
import TunnelControl.Form

/-!
# Answering a form step by step

A controller gets hold of a prompt, as the authentication group, by its place among the
options or by its name, and sets or clears the value. `Form.editAll` is any number of such
edits, refused ones among them.

An edit is about one prompt and leaves those before and after it alone (`Focus`). No value
gets into a selection that is not the name of one of its choices (`Chosen`), whatever the
edits are.
-/

namespace TunnelControl

/-- The prompts of the two forms differ in their values at most. -/
structure Form.SamePrompts (f g : Form) : Prop where
  group : f.authGroup.map FormOption.clearValue = g.authGroup.map FormOption.clearValue
  options : f.options.map FormOption.clearValue = g.options.map FormOption.clearValue

theorem Form.SamePrompts.refl (f : Form) : f.SamePrompts f := ⟨rfl, rfl⟩

theorem Form.SamePrompts.trans {f g h : Form} (first : f.SamePrompts g) (second : g.SamePrompts h) :
    f.SamePrompts h :=
  ⟨first.group.trans second.group, first.options.trans second.options⟩

/-! ## Edits -/

/-- How a controller gets hold of a prompt. -/
inductive Target
  | group
  /-- By the place among the options. -/
  | option (index : Nat)
  /-- The first option of that name. -/
  | named (name : String)

inductive Change
  | set (value : String)
  | clear

structure Edit where
  target : Target
  change : Change

def Change.apply : Change → FormOption → Except FormFault FormOption
  | .set value, o => o.setValue value
  | .clear, o => .ok o.clearValue

namespace Form

/-- The prompt that the target stands for. -/
def prompt? (f : Form) : Target → Option FormOption
  | .group => f.authGroup
  | .option index => f.options[index]?
  | .named name => f.option? name

/-- Changes a prompt; none if there is none. -/
def update? (f : Form) (change : FormOption → Except FormFault FormOption) :
    Target → Option (Except FormFault Form)
  | .group => f.updateGroup? change
  | .option index => f.options[index]?.map fun o =>
    (change o).map fun o' => { f with options := f.options.set index o' }
  | .named name => f.updateOption? name change

/-- The form after an edit, and why the edit was refused, if it was. -/
def edit (f : Form) (e : Edit) : Form × Option FormFault :=
  match f.update? e.change.apply e.target with
  | none => (f, none)
  | some (.ok f') => (f', none)
  | some (.error fault) => (f, some fault)

/-- The form after any number of edits. -/
def editAll (f : Form) (es : List Edit) : Form := es.foldl (fun f e => (f.edit e).1) f

/-! ## One prompt among the others -/

/-- `put` gives the form with another prompt in the place of this one. -/
structure Focus (f : Form) (target : Target) (o : FormOption) (put : FormOption → Form) : Prop where
  self : put o = f
  around : ∃ before after, ∀ x, (put x).prompts = before ++ x :: after
  same : ∀ x, x.clearValue = o.clearValue → f.SamePrompts (put x)
  found : ∀ x, x.name = o.name → (put x).prompt? target = some x
  update : ∀ change, f.update? change target = some ((change o).map put)

end Form

section first

variable {found : FormOption → Bool} {os : List FormOption}

theorem replaceFirst_eq_none (missing : os.find? found = none)
    (change : FormOption → Except FormFault FormOption) : replaceFirst found change os = none := by
  induction os with
  | nil => rfl
  | cons a os ih =>
      have others := List.find?_eq_none.mp missing
      have rest : os.find? found = none :=
        List.find?_eq_none.mpr fun x hx => others x (List.mem_cons_of_mem a hx)
      rw [replaceFirst, if_neg (others a List.mem_cons_self), ih rest]
      rfl

theorem replaceFirst_eq {o : FormOption} (first : os.find? found = some o) :
    ∃ before after, os = before ++ o :: after ∧ (∀ x ∈ before, found x = false) ∧
      ∀ change : FormOption → Except FormFault FormOption,
        replaceFirst found change os = some ((change o).map fun o' => before ++ o' :: after) := by
  induction os with
  | nil => simp at first
  | cons a os ih =>
      by_cases here : found a
      · rw [List.find?_cons_of_pos here] at first
        obtain rfl := Option.some.inj first
        refine ⟨[], os, rfl, by simp, fun change => ?_⟩
        rw [replaceFirst, if_pos here]
        rfl
      · rw [List.find?_cons_of_neg here] at first
        obtain ⟨before, after, rfl, others, replaced⟩ := ih first
        refine ⟨a :: before, after, rfl, ?_, fun change => ?_⟩
        · exact List.forall_mem_cons.mpr ⟨by simpa using here, others⟩
        · rw [replaceFirst, if_neg here, replaced]
          cases change o <;> rfl

end first

namespace Form

/-- The prompts that are not edited stay what they are. -/
theorem samePrompts_options {f : Form} {before after : List FormOption} {o x : FormOption}
    (options : f.options = before ++ o :: after) (same : x.clearValue = o.clearValue) :
    f.SamePrompts { f with options := before ++ x :: after } := by
  refine ⟨rfl, ?_⟩
  rw [options]
  simp [same]

/-- **An edit is about one prompt.** -/
theorem exists_focus {f : Form} {target : Target} {o : FormOption}
    (found : f.prompt? target = some o) : ∃ put, f.Focus target o put := by
  cases target with
  | group =>
      have group : f.authGroup = some o := found
      refine ⟨fun x => { f with authGroup := some x }, ?_, ⟨[], f.options, fun x => rfl⟩, ?_, ?_,
        ?_⟩
      · rw [← group]
      · intro x same
        exact ⟨by simp [group, same], rfl⟩
      · exact fun x _ => rfl
      · intro change
        simp [update?, updateGroup?, group]
  | option index =>
      obtain ⟨lt, here⟩ := List.getElem?_eq_some_iff.mp found
      have split : ∀ x, f.options.set index x =
          f.options.take index ++ x :: f.options.drop (index + 1) := fun x =>
        List.set_eq_take_append_cons_drop.trans (if_pos lt)
      have options : f.options = f.options.take index ++ o :: f.options.drop (index + 1) := by
        rw [← split, ← here, List.set_getElem_self]
      refine ⟨fun x => { f with options := f.options.set index x }, ?_, ?_, ?_, ?_, ?_⟩
      · rw [← here, List.set_getElem_self]
      · refine ⟨f.authGroup.toList ++ f.options.take index, f.options.drop (index + 1), fun x => ?_⟩
        rw [prompts, split, List.append_assoc]
      · intro x same
        rw [split]
        exact samePrompts_options options same
      · intro x _
        exact List.getElem?_set_self lt
      · intro change
        rw [update?, show f.options[index]? = some o from found]
        rfl
  | named name =>
      have found : f.options.find? (fun o => o.name == name) = some o := found
      obtain ⟨before, after, options, others, replaced⟩ := replaceFirst_eq found
      have own : o.name == name := by simpa using List.find?_some found
      refine ⟨fun x => { f with options := before ++ x :: after }, ?_, ?_, ?_, ?_, ?_⟩
      · rw [← options]
      · exact ⟨f.authGroup.toList ++ before, after, fun x => (List.append_assoc ..).symm⟩
      · exact fun x same => samePrompts_options options same
      · intro x same
        have passed : before.find? (fun o => o.name == name) = none :=
          List.find?_eq_none.mpr fun y hy => by simp [others y hy]
        rw [prompt?, option?, List.find?_append, passed, Option.none_or]
        exact List.find?_cons_of_pos (by rwa [same])
      · intro change
        rw [update?, updateOption?, replaced]
        cases change o <;> rfl

theorem update?_eq_none {f : Form} {target : Target} (missing : f.prompt? target = none)
    (change : FormOption → Except FormFault FormOption) : f.update? change target = none := by
  cases target with
  | group =>
      rw [update?, updateGroup?, show f.authGroup = none from missing]
      rfl
  | option index =>
      rw [update?, show f.options[index]? = none from missing]
      rfl
  | named name =>
      have missing : f.options.find? (fun o => o.name == name) = none := missing
      rw [update?, updateOption?, replaceFirst_eq_none missing]
      rfl

/-! ## Selections -/

/-- Every selection of the form has no value, or the name of one of its choices. -/
def Chosen (f : Form) : Prop :=
  ∀ o ∈ f.prompts, o.kind = .select → o.value = none ∨ ∃ c ∈ o.choices, o.value = some c.name

end Form

theorem FormOption.admits_iff {o : FormOption} {value : String} :
    o.admits value = true ↔ (o.kind = .select → ∃ c ∈ o.choices, c.name = value) := by
  by_cases selection : o.kind = .select <;> simp [FormOption.admits, selection]

theorem Change.of_ok {change : Change} {o o' : FormOption} (made : change.apply o = .ok o') :
    o'.clearValue = o.clearValue ∧
      (o'.kind = .select → o'.value = none ∨ ∃ c ∈ o'.choices, o'.value = some c.name) := by
  cases change with
  | set value =>
      rw [apply, FormOption.setValue] at made
      split at made
      · rename_i admitted
        cases made
        refine ⟨rfl, fun selection => Or.inr ?_⟩
        obtain ⟨c, mem, same⟩ := FormOption.admits_iff.mp admitted selection
        exact ⟨c, mem, congrArg some same.symm⟩
      · cases made
  | clear =>
      cases made
      exact ⟨rfl, fun _ => Or.inl rfl⟩

namespace Form

/-- An edit leaves the form as it is, or puts another value into one prompt. -/
theorem edit_cases (f : Form) (e : Edit) :
    (f.edit e).1 = f ∨ ∃ o o' put, f.Focus e.target o put ∧ e.change.apply o = .ok o' ∧
      f.edit e = (put o', none) := by
  cases prompt : f.prompt? e.target with
  | none =>
      left
      rw [edit, update?_eq_none prompt]
  | some o =>
      obtain ⟨put, focus⟩ := exists_focus prompt
      cases changed : e.change.apply o with
      | error fault =>
          left
          rw [edit, focus.update, changed]
          rfl
      | ok o' =>
          right
          refine ⟨o, o', put, focus, changed, ?_⟩
          rw [edit, focus.update, changed]
          rfl

theorem samePrompts_edit (f : Form) (e : Edit) : f.SamePrompts (f.edit e).1 := by
  rcases edit_cases f e with same | ⟨o, o', put, focus, changed, edited⟩
  · rw [same]
    exact .refl f
  · rw [edited]
    exact focus.same o' (Change.of_ok changed).1

theorem chosen_edit {f : Form} (chosen : f.Chosen) (e : Edit) : (f.edit e).1.Chosen := by
  rcases edit_cases f e with same | ⟨o, o', put, focus, changed, edited⟩
  · rwa [same]
  · rw [edited]
    obtain ⟨before, after, around⟩ := focus.around
    have prompts : f.prompts = before ++ o :: after := by rw [← focus.self, around]
    rw [Chosen, prompts] at chosen
    intro x hx selection
    rw [around] at hx
    rcases List.mem_append.mp hx with hx | hx
    · exact chosen x (List.mem_append_left _ hx) selection
    rcases List.mem_cons.mp hx with rfl | hx
    · exact (Change.of_ok changed).2 selection
    · exact chosen x (List.mem_append_right _ (List.mem_cons_of_mem _ hx)) selection

theorem samePrompts_editAll (f : Form) (es : List Edit) : f.SamePrompts (f.editAll es) := by
  induction es generalizing f with
  | nil => exact .refl f
  | cons e es ih => exact (samePrompts_edit f e).trans (ih _)

/-- **No invented choice.** Edits keep the selections to their choices. -/
theorem chosen_editAll {f : Form} (chosen : f.Chosen) (es : List Edit) : (f.editAll es).Chosen := by
  induction es generalizing f with
  | nil => exact chosen
  | cons e es ih => exact ih (chosen_edit chosen e)

/-- What comes of setting a value is for the prompt to say. -/
theorem Focus.edit_set {f : Form} {target : Target} {o : FormOption} {put : FormOption → Form}
    (focus : f.Focus target o put) (value : String) :
    f.edit ⟨target, .set value⟩ =
      if o.admits value then (put { o with value := some value }, none)
      else (f, some (.invalidChoice o.name value)) := by
  rw [edit, focus.update, Change.apply, FormOption.setValue]
  by_cases admitted : o.admits value = true
  · rw [if_pos admitted, if_pos admitted]
    rfl
  · rw [if_neg admitted, if_neg admitted]
    rfl

/-- **A refused value.** It is refused for the choices of the prompt, the error names both, and
the form is what it was. -/
theorem set_refused {f : Form} {target : Target} {o : FormOption} {value : String}
    {fault : FormFault} (found : f.prompt? target = some o)
    (refused : (f.edit ⟨target, .set value⟩).2 = some fault) :
    fault = .invalidChoice o.name value ∧ (f.edit ⟨target, .set value⟩).1 = f ∧
      o.kind = .select ∧ ∀ c ∈ o.choices, c.name ≠ value := by
  obtain ⟨put, focus⟩ := exists_focus found
  rw [focus.edit_set] at refused ⊢
  by_cases admitted : o.admits value = true
  · rw [if_pos admitted] at refused
    cases refused
  · rw [if_neg admitted] at refused ⊢
    rw [FormOption.admits_iff] at admitted
    push Not at admitted
    exact ⟨(Option.some.inj refused).symm, rfl, admitted⟩

/-- **An accepted value.** It takes the place of the one that the prompt had, and nothing else
changes. -/
theorem set_accepted {f : Form} {target : Target} {o : FormOption} {value : String}
    (found : f.prompt? target = some o) (accepted : (f.edit ⟨target, .set value⟩).2 = none) :
    (f.edit ⟨target, .set value⟩).1.prompt? target = some { o with value := some value } ∧
    ∃ before after, f.prompts = before ++ o :: after ∧
      (f.edit ⟨target, .set value⟩).1.prompts =
        before ++ { o with value := some value } :: after := by
  obtain ⟨put, focus⟩ := exists_focus found
  rw [focus.edit_set] at accepted ⊢
  by_cases admitted : o.admits value = true
  · rw [if_pos admitted]
    obtain ⟨before, after, around⟩ := focus.around
    refine ⟨focus.found _ rfl, before, after, ?_, around _⟩
    rw [← around, focus.self]
  · rw [if_neg admitted] at accepted
    cases accepted

end Form
end TunnelControl
