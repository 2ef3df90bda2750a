import TunnelControl.Proofs.Release.Life
import TunnelControl.Proofs.Scripted.Moves
import Mathlib.Algebra.BigOperators.Ring.Finset

/-!
# Letting scripted engines go

A scripted engine is let go by a record in the journal of its script, and a journal
has as many of these records as engines of its script were let go.
-/

namespace TunnelControl

open Engine (Note)

namespace World

/-- A count over the trace is the sum of the counts over the histories. -/
theorem countP_eq_sum {β : Type} {n : Nat} (f : Nat × β → Bool) {l : List (Nat × β)}
    (bounded : ∀ x ∈ l, x.1 < n) :
    l.countP f = ∑ k ∈ Finset.range n, l.countP fun x => x.1 = k && f x := by
  induction l with
  | nil => simp
  | cons x l ih =>
      obtain ⟨hx, hl⟩ := List.forall_mem_cons.mp bounded
      simp only [List.countP_cons, Finset.sum_add_distrib, ← ih hl, Nat.add_left_cancel_iff]
      cases f x <;> simp [hx]

theorem countP_range (p : Nat → Bool) (n : Nat) :
    (List.range n).countP p = ∑ k ∈ Finset.range n, if p k then 1 else 0 := by
  induction n with
  | zero => rfl
  | succ n ih =>
      rw [Finset.sum_range_succ, ← ih, List.range_succ, List.countP_append]
      simp

theorem countP_history {ε : Type} [Engine ε] (w : World ε) (k : Nat)
    (q : Event (Note ε) → Bool) :
    (w.history k).countP q = w.trace.countP fun x => x.1 = k && q x.2 := by
  rw [history, List.countP_filterMap]
  apply List.countP_congr
  rintro ⟨j, e⟩ -
  by_cases h : j = k <;> simp [h]

end World

namespace Scripted

/-- Whether the note is the journal's record of an engine that was let go. -/
def Note.isFreed : Note → Bool
  | .journal .freed => true
  | _ => false

theorem Engine.signs_configure (options : Options) (e : Engine) :
    signs Note.isFreed (e.configure options).1.2 = 0 := by
  refine applyAll_induction (P := fun s : Engine × Happenings => signs Note.isFreed s.2 = 0)
    ?_ rfl options.settings
  intro s setting h
  unfold Engine.apply
  split
  · exact h
  · simpa [signs, noted, Note.isFreed] using h

theorem Engine.signs_move {m : Move} {e : Engine} {turn : Turn Engine Note}
    (h : e.move m = some turn) : signs Note.isFreed turn.happenings = 0 := by
  cases moved_of_move h with
  | @record n next point => cases n <;> rfl
  | _ => rfl

/-- Letting a scripted engine go is recorded in the first half. -/
def releaseSign : ReleaseSign Engine where
  shows := Note.isFreed
  early := 1
  late := 0
  make := by
    intro plan agent
    simp only [TunnelControl.Engine.make, Engine.make]
    split <;> rfl
  setup := by
    intro options e result h
    cases h
    exact Engine.signs_configure options e
  access := by
    intro act e result h
    obtain ⟨⟨queue, notes⟩, -, rfl⟩ := Option.map_eq_some_iff.mp h
    simp [signs, List.countP_map, Function.comp_def, Note.isFreed]
  enter _ _ := rfl
  move := Engine.signs_move
  resume _ _ _ := rfl
  retire _ := rfl
  free _ := rfl

open World

/-- A journal records as many releases as engines of its script were let go. -/
theorem freed_journal {configs : List RunnerConfig} {w : World Engine}
    (reach : Reachable configs w) (key : Nat) :
    (journal key w).freed = (List.range w.sessions.length).countP fun k =>
      (w.session? k).any (·.engine.key = key) &&
        (w.history k).any (Event.hasNote Note.isFreed) := by
  have hfreed : (journal key w).freed = w.trace.countP fun x =>
      (w.session? x.1).any (·.engine.key = key) && x.2.hasNote Note.isFreed := by
    rw [Journal.freed, List.count, journal, List.countP_filterMap]
    apply List.countP_congr
    rintro ⟨k, e⟩ -
    cases found : w.session? k with
    | none => cases e <;> simp [found]
    | some s =>
        cases e with
        | note n =>
            by_cases hkey : s.engine.key = key
            · cases n with
              | journal n =>
                  cases n <;>
                    simp [found, hkey, Event.hasNote, Note.isFreed, Note.journalNote?]
              | _ => simp [found, hkey, Event.hasNote, Note.isFreed, Note.journalNote?]
            · simp [found, hkey]
        | _ => simp [Event.hasNote]
  -- The records are spread over the sessions of the script, at most one in each.
  rw [hfreed, countP_eq_sum _ reach.key_lt, countP_range]
  apply Finset.sum_congr rfl
  intro k _
  cases hkey : (w.session? k).any (·.engine.key = key) with
  | false =>
      rw [List.countP_eq_zero.mpr]
      · simp
      · rintro ⟨j, e⟩ -
        by_cases hj : j = k <;> simp [hj, hkey]
  | true =>
      obtain ⟨s, found, -⟩ := Option.any_eq_true _ _ |>.mp hkey
      have once := ((reach.releasesOnce releaseSign rfl).session k s found).once.1
      have hcount : (w.history k).countP (Event.hasNote Note.isFreed) =
          if (w.history k).any (Event.hasNote Note.isFreed) then 1 else 0 := by
        cases hany : (w.history k).any (Event.hasNote Note.isFreed) with
        | false => exact List.countP_eq_zero.mpr (List.any_eq_false.mp hany)
        | true =>
            have hpos := List.countP_pos_iff.mpr (List.any_eq_true.mp hany)
            exact Nat.le_antisymm once hpos
      rw [Bool.true_and, ← hcount]
      refine Eq.trans ?_ (countP_history w k (Event.hasNote Note.isFreed)).symm
      apply List.countP_congr
      rintro ⟨j, e⟩ -
      by_cases hj : j = k <;> simp [hj, hkey]

end Scripted
end TunnelControl
