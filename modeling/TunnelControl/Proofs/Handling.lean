import TunnelControl.Proofs.Passages

/-!
# What an engine goes through

The engine of a session is set up as long as somebody holds the handle, and works after that.
`Engine.Handled` is everything but setting up: what the other acts make of an engine, and the notes
that it leaves meanwhile. `setup_invariant` is the principle for what only setting up can change.
-/

namespace TunnelControl

open Engine (Note)
open Session (Transition)

/-! ## Notes -/

section notes

variable {ν : Type}

/-- The engine's own record, if it is one. -/
def Happening.note? : Happening ν → Option ν
  | .note n => some n
  | .log _ => none

def Event.note? : Event ν → Option ν
  | .note n => some n
  | _ => none

/-- What an engine noted, in order. -/
def notesOf (happenings : List (Happening ν)) : List ν := happenings.filterMap Happening.note?

theorem mem_notesOf {n : ν} {happenings : List (Happening ν)} :
    n ∈ notesOf happenings ↔ .note n ∈ happenings := by
  rw [notesOf, List.mem_filterMap]
  constructor
  · rintro ⟨_ | _, mem, same⟩ <;> cases same
    exact mem
  · exact fun mem => ⟨.note n, mem, rfl⟩

theorem notesOf_flatMap {α : Type} (f : α → List (Happening ν)) (l : List α) :
    notesOf (l.flatMap f) = l.flatMap fun x => notesOf (f x) :=
  List.filterMap_flatMap

/-- What the engine of a session noted, in order. -/
def notes (h : List (Event ν)) : List ν := h.filterMap Event.note?

@[simp] theorem notes_nil : notes ([] : List (Event ν)) = [] := rfl

@[simp] theorem notes_append (h h' : List (Event ν)) : notes (h ++ h') = notes h ++ notes h' :=
  List.filterMap_append

@[simp] theorem notes_cons (e : Event ν) (h : List (Event ν)) :
    notes (e :: h) = e.note?.toList ++ notes h := by
  cases e <;> rfl

@[simp] theorem notes_inLoop (happenings : List (Happening ν)) :
    notes (happenings.map Happening.inLoop) = notesOf happenings := by
  rw [notes, List.filterMap_map, notesOf]
  congr 1
  funext happening
  cases happening <;> rfl

@[simp] theorem notes_atCaller (happenings : List (Happening ν)) :
    notes (happenings.map Happening.atCaller) = notesOf happenings := by
  rw [notes, List.filterMap_map, notesOf]
  congr 1
  funext happening
  cases happening <;> rfl

@[simp] theorem notes_logs (entries : List Log.Entry) :
    notes (entries.map (Event.log (ν := ν))) = [] := by
  simp [notes, Event.note?, Function.comp_def]

@[simp] theorem notes_slots (use : SlotUse) : notes (use.events : List (Event ν)) = [] := by
  cases use <;> rfl

end notes

/-! ## Handling -/

variable {ε : Type} [Engine ε]

/-- What becomes of an engine that is handled without being set up, and what it notes: its pipe is
used, its loop is entered, moves and takes replies, it is let go, one after the other. -/
inductive Engine.Handled : ε → ε → List (Note ε) → Prop
  | rest (e : ε) : Handled e e []
  | access {x : Engine.Access ε} {e e' : ε} {happenings : List (Happening (Note ε))}
      (used : Engine.access x e = some (e', happenings)) : Handled e e' (notesOf happenings)
  | enter (limits : LoopLimits) (e : ε) :
      Handled e (Engine.enter limits e).1 (notesOf (Engine.enter limits e).2)
  | move {m : Engine.Move ε} {e : ε} {turn : Turn ε (Note ε)}
      (moved : Engine.move m e = some turn) : Handled e turn.engine (notesOf turn.happenings)
  | resume (call : Callback) (r : Reply) (e : ε) :
      Handled e (Engine.resume call r e).1 (notesOf (Engine.resume call r e).2)
  | retire (e : ε) : Handled e (Engine.retire e).1 (notesOf (Engine.retire e).2)
  | free (e : ε) : Handled e (Engine.free e).1 (notesOf (Engine.free e).2)
  | next {e e' e'' : ε} {ns ns' : List (Note ε)} (first : Handled e e' ns)
      (after : Handled e' e'' ns') : Handled e e'' (ns ++ ns')

namespace Session

/-- **An act handles the engine** in these ways, unless it sets it up. -/
theorem Transition.handled {runners : List Runner} {s : Session ε} {a : Act ε}
    {r : Result ε (Note ε)} (trans : Transition runners s a r) (other : ∀ x, a ≠ .setup x) :
    Engine.Handled s.engine r.session.engine (notes r.seen) := by
  cases trans with
  | setup => exact absurd rfl (other _)
  | access used => simpa [Result.seen] using Engine.Handled.access used
  | enter => simpa [Result.seen] using Engine.Handled.enter _ s.engine
  | move status moved => simpa [Result.seen] using Engine.Handled.move moved
  | ask status moved => simpa [Result.seen, Event.note?] using Engine.Handled.move moved
  | forward status moved =>
      -- What is forwarded counts as answered at once, so the engine resumes within the same act.
      simpa [Result.seen, Event.note?] using
        (Engine.Handled.move moved).next (Engine.Handled.resume _ .done _)
  | reply => simpa [Result.seen, Event.note?] using Engine.Handled.resume _ _ s.engine
  | retire => simpa [Result.seen] using Engine.Handled.retire s.engine
  | free => simpa [Result.seen, Event.note?] using Engine.Handled.free s.engine
  | acknowledge _ _ logged | report _ _ _ logged | post _ _ _ logged =>
      subst logged
      split <;> exact .rest _
  | failStart _ logged =>
      subst logged
      split <;> exact .rest _
  | _ => exact .rest _

end Session

/-! ## Setting up -/

/-- The setup that a passage is, if it is one, with the engine before it. -/
def Passage.setup? (p : Passage ε) : Option (ε × Engine.Setup ε) :=
  match p.act with
  | .setup x => some (p.before.engine, x)
  | _ => none

/-- How the engine of a session was set up, in order. -/
def setupsIn (ps : List (Passage ε)) : List (ε × Engine.Setup ε) := ps.filterMap Passage.setup?

theorem setupsIn_snoc (ps : List (Passage ε)) (p : Passage ε) :
    setupsIn (ps ++ [p]) = setupsIn ps ++ p.setup?.toList := by
  rw [setupsIn, List.filterMap_append]
  cases h : p.setup? <;> simp [setupsIn, h]

/-- **What only setting up changes.** What holds of an engine as it is made, follows each setup, and
is kept however else the engine is handled, holds in every run of the engine of a session, of its
notes, and of how it was set up. -/
theorem World.setup_invariant {configs : List RunnerConfig}
    {P : ε → List (Note ε) → List (ε × Engine.Setup ε) → Prop}
    (made : ∀ plan agent e happenings, Engine.make plan agent = (some e, happenings) →
      P e (notesOf happenings) [])
    (set : ∀ x e e' happenings ns done, Engine.setup x e = some (e', happenings) → P e ns done →
      P e' (ns ++ notesOf happenings) (done ++ [(e, x)]))
    (kept : ∀ e e' ns ns' done, Engine.Handled e e' ns' → P e ns done → P e' (ns ++ ns') done)
    {as : List (Action ε)} {w : World ε} {key : Nat} {s : Session ε}
    (ran : run as (new configs) = some w) (found : w.session? key = some s) :
    P s.engine (notes (w.history key)) (setupsIn (passages key as (new configs))) := by
  refine passages_invariant (P := fun s h ps => P s.engine (notes h) (setupsIn ps)) ?_ ?_ ran found
  · intro plan agent lifecycle id e happenings new
    simpa [setupsIn] using made plan agent e happenings new
  · intro runners s a r h ps _ stepped holds
    have trans := Session.transition_of_step stepped
    rw [notes_append, setupsIn_snoc]
    -- A setup adds to the list on the right, any other act leaves it as it is.
    by_cases isSetup : ∃ x, a = .setup x
    · obtain ⟨x, rfl⟩ := isSetup
      cases trans with
      | setup status happened =>
          simpa [Session.Result.seen, Passage.setup?] using set x _ _ _ _ _ happened holds
    · have other : ∀ x, a ≠ .setup x := fun x eq => isSetup ⟨x, eq⟩
      have none : Passage.setup? ⟨s, a, r⟩ = none := by
        cases a <;> simp_all [Passage.setup?]
      rw [none]
      simpa using kept _ _ _ _ _ (trans.handled other) holds

end TunnelControl
