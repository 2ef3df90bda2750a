import TunnelControl.Proofs.Release.Native
import TunnelControl.Proofs.Release.Scripted

/-!
# Every engine is let go once

What `Proofs.Release.Life` says of all engines, together with what the two kinds of
engines add to it: journals that count, and a library that is not called any more.
-/

namespace TunnelControl.World

/-- **Every engine is let go once**, after its terminal result was dealt with and
before its slot is given back, or before its start fails, and its callback context is
dropped after it. A journal records as many releases as engines of its script were
let go, and the call that frees a native engine is the last one made for it. -/
theorem engines_released_once :
    (∀ configs (w : World Scripted.Engine), Reachable configs w →
      w.ReleasesOnce Scripted.Note.isFreed ∧
      ∀ key, (Scripted.journal key w).freed =
        (List.range w.sessions.length).countP fun k =>
          (w.session? k).any (·.engine.key = key) &&
            (w.history k).any (Event.hasNote Scripted.Note.isFreed)) ∧
    (∀ configs (w : World Native.Engine), Reachable configs w →
      w.ReleasesOnce Native.Note.isFree ∧
      ∀ key s, w.session? key = some s → (w.history key).Pairwise fun a b =>
        a.hasNote Native.Note.isFree = true → b.hasNote Native.Note.isCall = false) := by
  constructor
  · intro configs w reach
    exact ⟨reach.releasesOnce Scripted.releaseSign rfl, Scripted.freed_journal reach⟩
  · intro configs w reach
    refine ⟨reach.releasesOnce Native.releaseSign rfl, fun key s found => ?_⟩
    exact Native.pairwise_free_last reach found

/-- The handle of a scripted engine is dropped, and no other engine can be made. -/
def abandoned : List (Action Scripted.Engine) :=
  let plan fails : Scripted.Plan := ⟨7, ⟨[], 0, fails, none⟩⟩
  [.create (plan false) "agent" .handler, .create (plan true) "agent" .handler, .act 0 .drop] ++
    List.replicate 4 (.act 0 .dispose)

/-- A native engine gets no command pipe, and its session no thread. -/
def threadless : List (Action Native.Engine) :=
  [.create ⟨false⟩ "agent" .handler, .act 0 (.setup (.openPipe (-1))), .act 0 (.start 0),
    .act 0 .reserve, .act 0 (.spawn (some 11))] ++ List.replicate 4 (.act 0 .dispose)

theorem engines_released_once_of_failed_starts :
    (∃ w, run abandoned (new [.default]) = some w ∧ (Scripted.journal 7 w).freed = 1 ∧
      (w.history 1).countP (Event.hasNote Scripted.Note.isFreed) = 0) ∧
    (∃ w, run threadless (new [.default]) = some w ∧
      (w.history 0).countP (Event.hasNote Native.Note.isFree) = 1 ∧
      Preceded (· = .released) (· = .refused (.spawn 11)) (w.history 0)) := by
  constructor
  · obtain ⟨w, made⟩ : ∃ w, run abandoned (new [.default]) = some w := ⟨_, rfl⟩
    have reach : Reachable [.default] w := .of_run .start made
    cases made
    obtain ⟨releases, counted⟩ := engines_released_once.1 _ _ reach
    exact ⟨_, rfl, (counted 7).trans rfl, (releases.unmade 1 rfl).1⟩
  · obtain ⟨w, made⟩ : ∃ w, run threadless (new [.default]) = some w := ⟨_, rfl⟩
    have reach : Reachable [.default] w := .of_run .start made
    cases made
    have life := (engines_released_once.2 _ _ reach).1.session 0 _ rfl
    exact ⟨_, rfl, (life.gone rfl).1, (life.refused (.spawn 11)).2⟩

end TunnelControl.World
