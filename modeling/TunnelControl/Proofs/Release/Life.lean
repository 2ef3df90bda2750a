import TunnelControl.Proofs.Ending
import TunnelControl.Proofs.Course

/-!
# Letting engines go

However a session ends, its engine is let go exactly once and its callback context
is dropped exactly once, after that (`Along.releaseLife`). A loop that ran has
reported its end by then and still has its slot; a start that failed reports so only
afterwards. An engine shows by notes of its own that it is let go, and
`World.ReleasesOnce` is about these notes too.
-/

namespace TunnelControl

open Engine (Note)

section views

variable {ν : Type} {shows : ν → Bool}

/-- Whether the event is a note of the engine of this kind. -/
def Event.hasNote (p : ν → Bool) : Event ν → Bool
  | .note n => p n
  | _ => false

def Event.isReleased : Event ν → Bool
  | .released => true
  | _ => false

def Event.isUnbound : Event ν → Bool
  | .unbound => true
  | _ => false

/-- Whether the terminal result is off the loop's hands with this event: its handler
has returned or panicked, or a channel has taken it. -/
def Event.endsReport : Event ν → Bool
  | .replied (.terminated _) _ | .forwarded (.terminated _) => true
  | _ => false

theorem letGo_mem_marks_iff {e : Event ν} :
    .letGo ∈ e.marks shows ↔ e.hasNote shows = true := by
  cases e with
  | note n => cases hn : shows n <;> simp [Event.marks, Event.hasNote, hn]
  | called call => cases call <;> simp [Event.marks, Event.hasNote]
  | forwarded notice => cases notice <;> simp [Event.marks, Event.hasNote]
  | replied call r => cases call <;> simp [Event.marks, Event.hasNote]
  | _ => simp [Event.marks, Event.hasNote]

theorem letGo_mem_marks {e : Event ν} {h : List (Event ν)} (hmem : e ∈ h)
    (hnote : e.hasNote shows = true) : .letGo ∈ marks shows h :=
  List.mem_flatMap.mpr ⟨e, hmem, letGo_mem_marks_iff.mpr hnote⟩

theorem marks_of_hasNote {e : Event ν} (h : e.hasNote shows = true) :
    e.marks shows = [.letGo] := by
  cases e with
  | note n => simpa [Event.marks, Event.hasNote] using h
  | _ => simp [Event.hasNote] at h

theorem acknowledged_mem_marks_iff {e : Event ν} :
    .acknowledged ∈ e.marks shows ↔ e.endsReport = true := by
  cases e with
  | note n => cases hn : shows n <;> simp [Event.marks, Event.endsReport, hn]
  | called call => cases call <;> simp [Event.marks, Event.endsReport]
  | forwarded notice => cases notice <;> simp [Event.marks, Event.endsReport]
  | replied call r => cases call <;> simp [Event.marks, Event.endsReport]
  | _ => simp [Event.marks, Event.endsReport]

theorem Event.isReleased_iff {e : Event ν} : e.isReleased = true ↔ e = .released := by
  cases e <;> simp [Event.isReleased]

theorem Event.isUnbound_iff {e : Event ν} : e.isUnbound = true ↔ e = .unbound := by
  cases e <;> simp [Event.isUnbound]

theorem released_mem_marks_iff {e : Event ν} :
    .released ∈ e.marks shows ↔ e.isReleased = true := by
  rw [Mark.mem_event_iff (e := .released) rfl, Event.isReleased_iff]

theorem unbound_mem_marks_iff {e : Event ν} :
    .unbound ∈ e.marks shows ↔ e.isUnbound = true := by
  rw [Mark.mem_event_iff (e := .unbound) rfl, Event.isUnbound_iff]

/-- What ends in a session can be counted in its marks. -/
theorem counts_eq (shows : ν → Bool) (h : List (Event ν)) :
    h.countP (Event.hasNote shows) = (marks shows h).count .letGo ∧
      h.countP Event.isReleased = (marks shows h).count .released ∧
      h.countP Event.isUnbound = (marks shows h).count .unbound :=
  ⟨(count_marks (fun _ => letGo_mem_marks_iff) h).symm,
    (count_marks (fun _ => released_mem_marks_iff) h).symm,
    (count_marks (fun _ => unbound_mem_marks_iff) h).symm⟩

end views

/-- How the engine and the callback context of a session come to their ends. -/
structure ReleaseLife {ν : Type} (shows : ν → Bool) (status : Status) (h : List (Event ν)) :
    Prop where
  /-- Nothing is let go or dropped twice. -/
  once : h.countP (Event.hasNote shows) ≤ 1 ∧ h.countP Event.isReleased ≤ 1 ∧
    h.countP Event.isUnbound ≤ 1
  /-- Nothing is kept. -/
  gone : status = .gone → h.countP (Event.hasNote shows) = 1 ∧ h.countP Event.isReleased = 1 ∧
    h.countP Event.isUnbound = 1
  /-- A loop that ran has reported its end before. -/
  reported : ∀ id, .started id ∈ h →
    Preceded (·.endsReport = true) (fun e => e.hasNote shows = true ∨ e = .released) h
  /-- It still has its slot. -/
  slot : ∀ id, .started id ∈ h →
    Preceded (·.hasNote shows = true) (· = .slotReturned) h ∧
      Preceded (· = .released) (· = .slotReturned) h
  /-- A start fails only afterwards. -/
  refused : ∀ fault, Preceded (·.hasNote shows = true) (· = .refused fault) h ∧
    Preceded (· = .released) (· = .refused fault) h
  /-- The callback context is dropped only afterwards. -/
  context : Preceded (·.hasNote shows = true) (· = .unbound) h ∧
    Preceded (· = .released) (· = .unbound) h

namespace Course

variable {id : EngineId} {aftermath : Aftermath} {before : List Mark}

/-- Everything is let go once in the course of a session. -/
theorem count_eq_one (course : Course id aftermath before) :
    (complete 1 before aftermath).count .letGo = 1 ∧
      (complete 1 before aftermath).count .released = 1 ∧
      (complete 1 before aftermath).count .unbound = 1 := by
  cases course <;> simp [complete, Aftermath.marks, List.count_replicate]

theorem preceded_unbound (course : Course id aftermath before) :
    Preceded (· = .letGo) (· = .unbound) (complete 1 before aftermath) ∧
      Preceded (· = .released) (· = .unbound) (complete 1 before aftermath) := by
  cases course <;>
    simp [complete, Aftermath.marks, preceded_cons, preceded_replicate_append, preceded_nil]

theorem preceded_refused (course : Course id aftermath before) (fault : StartFault) :
    Preceded (· = .letGo) (· = .refused fault) (complete 1 before aftermath) ∧
      Preceded (· = .released) (· = .refused fault) (complete 1 before aftermath) := by
  cases course <;>
    simp [complete, Aftermath.marks, preceded_cons, preceded_replicate_append, preceded_nil]

theorem preceded_reported (course : Course id .slot before) :
    Preceded (· = .acknowledged) (fun m => m = .letGo ∨ m = .released)
      (complete 1 before .slot) := by
  cases course
  simp [complete, Aftermath.marks, preceded_cons, preceded_replicate_append]

theorem preceded_slot (course : Course id .slot before) :
    Preceded (· = .letGo) (· = .slotReturned) (complete 1 before .slot) ∧
      Preceded (· = .released) (· = .slotReturned) (complete 1 before .slot) := by
  cases course
  simp [complete, Aftermath.marks, preceded_cons, preceded_replicate_append]

end Course

/-- **One release.** A session on its course lets its engine go once and drops the
callback context once after it, if the engine shows once that it was let go. -/
theorem Along.releaseLife {ν : Type} {shows : ν → Bool} {early late : Nat} {id : EngineId}
    {status : Status} {h : List (Event ν)} (once : early + late = 1)
    (along : Along early late id status (marks shows h)) : ReleaseLife shows status h := by
  obtain ⟨hletGo, hreleased, hunbound⟩ := counts_eq shows h
  obtain ⟨aftermath, before, course, hbegin, hgone⟩ := along.isPrefix
  rw [once] at hbegin hgone
  obtain ⟨oneLetGo, oneReleased, oneUnbound⟩ := course.count_eq_one
  have started : ∀ {id'}, .started id' ∈ h → ∃ before, Course id .slot before ∧
      marks shows h <+: Course.complete 1 before .slot := by
    intro id' hmem
    obtain ⟨-, before, course, hbegin, -⟩ := along.of_started ((mem_marks_iff rfl).mpr hmem)
    exact ⟨before, course, once ▸ hbegin⟩
  have leavesLetGo : ∀ e : Event ν, .letGo ∈ e.marks shows → e.hasNote shows = true :=
    fun _ => letGo_mem_marks_iff.mp
  have leavesReleased : ∀ e : Event ν, .released ∈ e.marks shows → e = .released :=
    fun _ => Mark.event?_of_mem rfl
  constructor
  · rw [hletGo, hreleased, hunbound, ← oneLetGo]
    refine ⟨hbegin.sublist.count_le _, ?_, ?_⟩
    · rw [oneLetGo, ← oneReleased]
      exact hbegin.sublist.count_le _
    · rw [oneLetGo, ← oneUnbound]
      exact hbegin.sublist.count_le _
  · intro gone
    rw [hletGo, hreleased, hunbound, hgone gone]
    exact ⟨oneLetGo, oneReleased, oneUnbound⟩
  · intro id' hmem
    obtain ⟨before', course', hbegin'⟩ := started hmem
    refine (course'.preceded_reported.of_isPrefix hbegin').of_flatMap ?_ ?_
    · rintro e m hm rfl
      exact acknowledged_mem_marks_iff.mp hm
    · rintro e (hnote | rfl)
      · exact ⟨.letGo, marks_of_hasNote hnote, Or.inl rfl⟩
      · exact ⟨.released, rfl, Or.inr rfl⟩
  · intro id' hmem
    obtain ⟨before', course', hbegin'⟩ := started hmem
    obtain ⟨first, second⟩ := course'.preceded_slot
    exact ⟨preceded_of_marks (first.of_isPrefix hbegin') leavesLetGo (by rintro e rfl; rfl),
      preceded_of_marks (second.of_isPrefix hbegin') leavesReleased (by rintro e rfl; rfl)⟩
  · intro fault
    obtain ⟨first, second⟩ := course.preceded_refused fault
    exact ⟨preceded_of_marks (first.of_isPrefix hbegin) leavesLetGo (by rintro e rfl; rfl),
      preceded_of_marks (second.of_isPrefix hbegin) leavesReleased (by rintro e rfl; rfl)⟩
  · obtain ⟨first, second⟩ := course.preceded_unbound
    exact ⟨preceded_of_marks (first.of_isPrefix hbegin) leavesLetGo (by rintro e rfl; rfl),
      preceded_of_marks (second.of_isPrefix hbegin) leavesReleased (by rintro e rfl; rfl)⟩

/-! ## All sessions -/

/-- Every engine of a world is let go once: those of sessions, as `ReleaseLife` says;
where no engine could be made none is let go, and the context is dropped at once. -/
structure World.ReleasesOnce {ε : Type} [Engine ε] (shows : Note ε → Bool) (w : World ε) :
    Prop where
  session : ∀ key s, w.session? key = some s → ReleaseLife shows s.status (w.history key)
  unmade : ∀ key, w.sessions[key]? = some none →
    (w.history key).countP (Event.hasNote shows) = 0 ∧
      (w.history key).countP Event.isReleased = 0 ∧
      (w.history key).countP Event.isUnbound = 1
  /-- A handle can be dropped as long as it is held. -/
  dropped : ∀ key s r, w.session? key = some s → s.status = .held →
    ∃ w' s', w.step (.act key .drop) = some w' ∧ w'.session? key = some s' ∧
      (s'.wayOut? r).isSome = true
  /-- What is not to run any more comes to its end. -/
  ended : ∀ key s r acts, w.session? key = some s → r = .done ∨ r = .panic →
    s.wayOut? r = some acts →
    ∃ w' s', World.run (acts.map (.act key)) w = some w' ∧ w'.session? key = some s' ∧
      s'.status = .gone

theorem World.Reachable.releasesOnce {ε : Type} [Engine ε] {configs : List RunnerConfig}
    {w : World ε} (sign : ReleaseSign ε) (once : sign.early + sign.late = 1)
    (reach : Reachable configs w) : w.ReleasesOnce sign.shows := by
  constructor
  · intro key s found
    exact (reach.along sign found).releaseLife once
  · intro key unmade
    obtain ⟨plan, agent, happenings, hmake, hist⟩ := reach.unmade unmade
    have hsigns := sign.make plan agent
    rw [hmake] at hsigns
    have hmarks : marks sign.shows (w.history key) = [.unbound] := by
      rw [hist, marks_append, marks_atCaller, hsigns]
      rfl
    obtain ⟨hletGo, hreleased, hunbound⟩ := counts_eq sign.shows (w.history key)
    rw [hletGo, hreleased, hunbound, hmarks]
    decide
  · intro key s r found held
    have stepped : s.step w.runners .drop =
        some ⟨{ s with status := .retiring .nothing }, [], .unchanged⟩ := by
      simp [Session.step, held]
    exact ⟨_, _, act_of_step found stepped, session?_advance_self found _, rfl⟩
  · intro key s r acts found taken way
    exact run_wayOut taken found way

end TunnelControl
