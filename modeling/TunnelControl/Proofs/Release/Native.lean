import TunnelControl.Proofs.Native.Work
import TunnelControl.Proofs.Release.Life

/-!
# Letting native engines go

A native engine is let go by the library call that frees it, and no library call for
that engine comes after it.
-/

namespace TunnelControl.Native

def Note.isCall : Note → Bool
  | .call _ => true
  | _ => false

/-- Whether the note is the library call that frees the engine. -/
def Note.isFree : Note → Bool
  | .call .free => true
  | _ => false

/-- Configuring and the main loop free nothing. -/
theorem Worked.signs_eq_zero {e : Engine} {r : Engine × Engine.Happenings}
    (worked : Worked Note.isOfWork e r) : signs Note.isFree r.2 = 0 := by
  refine List.countP_eq_zero.mpr ?_
  intro x mem
  cases x with
  | log entry => simp
  | note n =>
      have ofWork := worked.notes n mem
      cases n with
      | call c => cases c <;> simp_all [Note.isOfWork, Call.isOfWork, Note.isFree]
      | _ => simp [Note.isFree]

theorem Engine.signs_openPipe (rc : Int32) (e : Engine) :
    signs Note.isFree (e.openPipe rc).1.2 = 0 := by
  unfold openPipe
  split
  · rfl
  · split <;> rfl

/-- The library frees a native engine in the second half. -/
def releaseSign : ReleaseSign Engine where
  shows := Note.isFree
  early := 0
  late := 1
  make := by
    intro plan agent
    simp only [TunnelControl.Engine.make, Engine.make]
    split
    · rfl
    · split <;> rfl
  setup := by
    intro x e result h
    cases h
    cases x with
    | configure options rc => exact (Engine.worked_configure options rc e).ofWork.signs_eq_zero
    | openPipe rc => exact Engine.signs_openPipe rc e
  access := by
    intro x e result h
    cases h
    simp only [Engine.access]
    split <;> rfl
  enter _ _ := rfl
  move moved := (Engine.worked_move moved).signs_eq_zero
  resume _ r e := (Engine.worked_resume r e).signs_eq_zero
  retire _ := rfl
  free _ := rfl

/-! ## The last call -/

theorem Engine.no_call_access (x : Access) (e : Engine) :
    ∀ y ∈ (e.access x).2, (Happening.atCaller y).hasNote Note.isCall = false := by
  unfold access
  split <;> simp [Happening.atCaller, Event.hasNote, Note.isCall]

/-- Whether the library has freed the engine of a session in this state. -/
def isFreed : Status → Bool
  | .unbinding _ | .closing _ | .gone => true
  | _ => false

theorem isFreed_of_letGo {late : Nat} {id : EngineId} {status : Status} {ms : List Mark}
    (along : Along 0 late id status ms) (h : .letGo ∈ ms) : isFreed status = true := by
  cases along with
  | unbinding | closing | gone => rfl
  | retiring course | freeing course => cases course <;> simp at h
  | _ => simp at h

section transitions

variable {runners : List Runner} {s : Session Engine} {a : Session.Act Engine}
  {r : Session.Result Engine Note}

/-- Once the engine is freed nobody calls the library for it. -/
theorem no_call_of_freed (trans : Session.Transition runners s a r)
    (freed : isFreed s.status = true) : ∀ e ∈ r.seen, e.hasNote Note.isCall = false := by
  cases trans with
  | @access x engine happenings used =>
      have hnone := Engine.no_call_access x s.engine
      rw [Option.some.inj used] at hnone
      intro e he
      rw [Session.Result.seen, SlotUse.events, List.append_nil] at he
      obtain ⟨y, hy, rfl⟩ := List.mem_map.mp he
      exact hnone y hy
  | receive | hangUp | unbind | close | returnSlot =>
      simp [Session.Result.seen, SlotUse.events, Event.hasNote]
  | @failStart fault logs status logged =>
      subst logged
      cases fault <;> simp [Session.Result.seen, SlotUse.events, Event.hasNote]
  | _ => simp_all [isFreed]

theorem freed_cases (trans : Session.Transition runners s a r)
    (freed : isFreed r.session.status = true) :
    isFreed s.status = true ∨ r.seen = [.note (.call .free), .released] := by
  cases trans with
  | free status => exact Or.inr rfl
  | _ => simp_all [isFreed, Session.refuse, Session.afterReport]

end transitions

/-- **The last call.** Nobody calls the library for an engine after the call that
frees it. -/
theorem pairwise_free_last {configs : List RunnerConfig} {w : World Engine} {key : Nat}
    {s : Session Engine} (reach : World.Reachable configs w) (found : w.session? key = some s) :
    (w.history key).Pairwise
      fun a b => a.hasNote Note.isFree = true → b.hasNote Note.isCall = false := by
  refine (reach.session_invariant (P := fun s h =>
    Along 0 1 s.id s.status (marks Note.isFree h) ∧ h.Pairwise
      fun a b => a.hasNote Note.isFree = true → b.hasNote Note.isCall = false)
    ?_ ?_ found).2
  · intro plan agent lifecycle id engine happenings hmake
    have along : Along 0 1 id .held (marks Note.isFree (happenings.map Happening.atCaller)) :=
      .of_make releaseSign hmake
    refine ⟨along, List.pairwise_of_forall_mem_list fun x hx y hy hfree => ?_⟩
    have freed := isFreed_of_letGo along (letGo_mem_marks hx hfree)
    simp [isFreed] at freed
  · rintro runners s a r h trans ⟨along, quiet⟩
    have along' := trans.along releaseSign along
    refine ⟨along', List.pairwise_append.mpr ⟨quiet, ?_, ?_⟩⟩
    · -- A step that frees the engine does nothing else; any later one calls nobody.
      by_cases freed : isFreed r.session.status = true
      · rcases freed_cases trans freed with before | now
        · exact List.pairwise_of_forall_mem_list fun _ _ y hy _ =>
            no_call_of_freed trans before y hy
        · rw [now]
          simp [Event.hasNote]
      · refine List.pairwise_of_forall_mem_list fun x hx y hy hfree => absurd ?_ freed
        exact isFreed_of_letGo along' (letGo_mem_marks (List.mem_append_right h hx) hfree)
    · intro x hx y hy hfree
      have freed := isFreed_of_letGo along (letGo_mem_marks hx hfree)
      exact no_call_of_freed trans freed y hy

end TunnelControl.Native
