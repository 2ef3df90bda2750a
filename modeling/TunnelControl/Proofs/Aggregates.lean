import TunnelControl.Processor

/-!
# Aggregates flatten

A tree of processors does what its leaves do one after the other, from left to right, until one
of them answers something other than `ok`. How the leaves are nested makes no difference
(`run_flat`), and what a row of leaves comes to is said without the tree by `Ends`.

Leaves may remember. `Round` is a form on its way through a tree together with every call of a
leaf so far, which is at once what each leaf can know of its own past and the record of who was
called with which form.
-/

namespace TunnelControl.Processor

section rows

variable {α σ : Type} {act : α → σ → σ × Verdict}

/-! ## Nesting -/

/-- Processors after the first ones run if these all came to `ok`. -/
theorem runAll_append (ps qs : List (Processor α)) (s : σ) :
    runAll act (ps ++ qs) s =
      match runAll act ps s with
      | (s', some .ok) => runAll act qs s'
      | (s', verdict) => (s', verdict) := by
  induction ps generalizing s with
  | nil => rfl
  | cons p ps ih =>
      rw [List.cons_append, runAll, runAll]
      cases run act p s with
      | mk s' verdict =>
          match verdict with
          | some .ok => exact ih s'
          | some .failed | some .cancelled | some .newGroup | none => rfl

mutual

/-- **Nesting makes no difference.** A tree runs as its leaves do in a row. -/
theorem run_flat : ∀ (p : Processor α) (s : σ), run act p s = runAll act (p.leaves.map .leaf) s
  | .leaf a, s => by
      rw [leaves, List.map_singleton, runAll, run]
      cases act a s with
      | mk s' verdict =>
          match verdict with
          | some .ok | some .failed | some .cancelled | some .newGroup | none => rfl
  | .aggregate parts, s => by
      rw [run, leaves]
      exact runAll_flat parts s

theorem runAll_flat : ∀ (ps : List (Processor α)) (s : σ),
    runAll act ps s = runAll act ((leavesAll ps).map .leaf) s
  | [], _ => rfl
  | p :: ps, s => by
      rw [leavesAll, List.map_append, runAll_append, runAll, run_flat p s]
      cases runAll act (p.leaves.map .leaf) s with
      | mk s' verdict =>
          match verdict with
          | some .ok => exact runAll_flat ps s'
          | some .failed | some .cancelled | some .newGroup | none => rfl

end

/-! ## Rows of leaves -/

/-- These leaves all answer `ok`, one after the other, each where the last one has left off. -/
inductive Pass (act : α → σ → σ × Verdict) : List α → σ → σ → Prop
  | nil (s : σ) : Pass act [] s s
  | cons {a : α} {as : List α} {s s' s'' : σ} (answer : act a s = (s', some .ok))
      (rest : Pass act as s' s'') : Pass act (a :: as) s s''

/-- How a row of leaves ends: with all of them, or with the first one that does not answer `ok`.
The last argument is the leaves that were called. -/
inductive Ends (act : α → σ → σ × Verdict) (row : List α) (s : σ) : σ × Verdict → List α → Prop
  | passed {s' : σ} (all : Pass act row s s') : Ends act row s (s', some .ok) row
  | stopped {before after : List α} {a : α} {s₁ s' : σ} {verdict : Verdict}
      (split : row = before ++ a :: after) (earlier : Pass act before s s₁)
      (answer : act a s₁ = (s', verdict)) (other : verdict ≠ some .ok) :
      Ends act row s (s', verdict) (before ++ [a])

theorem Ends.cons {a : α} {row called : List α} {s s' : σ} {result : σ × Verdict}
    (answer : act a s = (s', some .ok)) (ends : Ends act row s' result called) :
    Ends act (a :: row) s result (a :: called) := by
  cases ends with
  | passed all => exact .passed (.cons answer all)
  | stopped split earlier last other =>
      exact .stopped (congrArg (a :: ·) split) (.cons answer earlier) last other

/-- A row of leaves has an end. -/
theorem exists_ends (row : List α) (s : σ) :
    ∃ called, Ends act row s (runAll act (row.map .leaf) s) called := by
  induction row generalizing s with
  | nil => exact ⟨[], .passed (.nil s)⟩
  | cons a row ih =>
      rw [List.map_cons, runAll, run]
      cases answer : act a s with
      | mk s' verdict =>
          match verdict, answer with
          | some .ok, answer =>
              obtain ⟨called, ends⟩ := ih s'
              exact ⟨a :: called, ends.cons answer⟩
          | some .failed, answer | some .cancelled, answer | some .newGroup, answer
          | none, answer => exact ⟨[a], .stopped rfl (.nil s) answer nofun⟩

end rows

/-! ## Leaves that remember -/

/-- What a leaf makes of a form, given the forms that it was called with before. -/
abbrev Behaviour (α : Type) := α → List Form → Form → Form × Verdict

/-- A form on its way through the leaves, and the calls of leaves so far, oldest first. -/
structure Round (α : Type) where
  form : Form
  calls : List (α × Form)

namespace Round

variable {α : Type} [DecidableEq α]

/-- The forms that a leaf was called with. -/
def past (r : Round α) (a : α) : List Form :=
  r.calls.filterMap fun c => if c.1 = a then some c.2 else none

/-- Calls a leaf. -/
def call (behave : Behaviour α) (a : α) (r : Round α) : Round α × Verdict :=
  let (form, verdict) := behave a (r.past a) r.form
  (⟨form, r.calls ++ [(a, r.form)]⟩, verdict)

variable {behave : Behaviour α} {r : Round α}

theorem calls_of_call {a : α} {result : Round α × Verdict} (answer : r.call behave a = result) :
    result.1.calls = r.calls ++ [(a, r.form)] := by
  subst answer
  rfl

end Round

section rounds

variable {α : Type} [DecidableEq α] {behave : Behaviour α} {r r' : Round α}

/-- Every leaf of a row that passes is called once, in its turn. -/
theorem Pass.calls {row : List α} (pass : Pass (Round.call behave) row r r') :
    ∃ made, r'.calls = r.calls ++ made ∧ made.map Prod.fst = row := by
  induction pass with
  | nil r => exact ⟨[], by simp⟩
  | @cons a row r r₁ r' answer rest ih =>
      obtain ⟨made, calls, same⟩ := ih
      have first : r₁.calls = r.calls ++ [(a, r.form)] := Round.calls_of_call answer
      refine ⟨(a, r.form) :: made, ?_, congrArg (a :: ·) same⟩
      rw [calls, first, List.append_assoc]
      rfl

/-- The calls that are on record are those of the leaves up to the one that ends the row. -/
theorem Ends.calls {row called : List α} {result : Round α × Verdict}
    (ends : Ends (Round.call behave) row r result called) :
    ∃ made, result.1.calls = r.calls ++ made ∧ made.map Prod.fst = called := by
  cases ends with
  | passed all => exact all.calls
  | @stopped before after a r₁ r' verdict split earlier answer other =>
      obtain ⟨made, calls, same⟩ := earlier.calls
      have last : r'.calls = r₁.calls ++ [(a, r₁.form)] := Round.calls_of_call answer
      refine ⟨made ++ [(a, r₁.form)], ?_, by simp [same]⟩
      rw [last, calls, List.append_assoc]

/-- **Aggregates flatten.** Whatever its leaves do and remember, a tree comes to the same result
and form, with the same calls of leaves, as one aggregate of its leaves from left to right. The
leaves are called in that order, each with the form as the last one left it, up to the first
that does not answer `ok`; with none that does not, each of them is called once and the result
is `ok`. -/
theorem aggregates_flatten (behave : Behaviour α) (p : Processor α) (r : Round α) :
    p.run (Round.call behave) r = (aggregate (p.leaves.map leaf)).run (Round.call behave) r ∧
    ∃ made, (p.run (Round.call behave) r).1.calls = r.calls ++ made ∧
      Ends (Round.call behave) p.leaves r (p.run (Round.call behave) r) (made.map Prod.fst) := by
  have flat : p.run (Round.call behave) r =
      (aggregate (p.leaves.map leaf)).run (Round.call behave) r := run_flat p r
  refine ⟨flat, ?_⟩
  obtain ⟨called, ends⟩ : ∃ called, Ends (Round.call behave) p.leaves r
      (runAll (Round.call behave) (p.leaves.map .leaf) r) called := exists_ends p.leaves r
  rw [← run_flat] at ends
  obtain ⟨made, calls, rfl⟩ := ends.calls
  exact ⟨made, calls, ends⟩

end rounds

/-- A leaf that cancels the form the second time it gets one. -/
def patient : Behaviour Nat := fun _ past f => (f, some (if past.isEmpty then .ok else .cancelled))

example : ((aggregate [leaf 0, aggregate [leaf 1, aggregate [], leaf 0], leaf 2]).run
    (Round.call patient) ⟨.empty, []⟩) =
      (⟨.empty, [(0, .empty), (1, .empty), (0, .empty)]⟩, some .cancelled) := rfl

end TunnelControl.Processor
