import TunnelControl.Proofs.Course
import TunnelControl.Scripted.Engine

/-!
# One terminal result

A started session tells its controller once how its loop ended, and tells it
nothing after that; a session that could not be started tells it nothing at all.
The one result carries the engine's number and the code with which the main loop
returned, or the code for a panic.
-/

namespace TunnelControl

open Engine (Note)

section views

variable {ν : Type}

/-- The terminal result that an event brings to the handler of a session's life. -/
def Event.delivery? : Event ν → Option TerminalResult
  | .called (.terminated result) | .forwarded (.terminated result) => some result
  | _ => none

/-- Whether the event is a call of the controller, or a notice in place of one. -/
def Event.isCallback : Event ν → Bool
  | .called _ | .forwarded _ => true
  | _ => false

/-- The terminal results that were delivered, in order. -/
def deliveries (h : List (Event ν)) : List TerminalResult := h.filterMap Event.delivery?

def Mark.delivery? : Mark → Option TerminalResult
  | .delivered result => some result
  | _ => none

variable {shows : ν → Bool}

theorem filterMap_delivery?_marks (e : Event ν) :
    (e.marks shows).filterMap Mark.delivery? = e.delivery?.toList := by
  cases e with
  | note n => cases hn : shows n <;> simp [Event.marks, Event.delivery?, Mark.delivery?, hn]
  | called call => cases call <;> rfl
  | forwarded notice => cases notice <;> rfl
  | replied call r => cases call <;> rfl
  | _ => rfl

theorem deliveries_eq (h : List (Event ν)) :
    deliveries h = (marks shows h).filterMap Mark.delivery? :=
  (filterMap_marks filterMap_delivery?_marks h).symm

theorem exists_mark_of_isCallback {e : Event ν} (h : e.isCallback = true) :
    .called ∈ e.marks shows ∨ ∃ result, .delivered result ∈ e.marks shows := by
  cases e with
  | called call => cases call <;> simp [Event.marks]
  | forwarded notice => cases notice <;> simp [Event.marks]
  | _ => simp [Event.isCallback] at h

theorem delivered_mem_marks_iff {e : Event ν} {result : TerminalResult} :
    .delivered result ∈ e.marks shows ↔ e.delivery? = some result := by
  have hmem : result ∈ (e.marks shows).filterMap Mark.delivery? ↔ e.delivery? = some result := by
    simp [filterMap_delivery?_marks]
  rw [← hmem, List.mem_filterMap]
  constructor
  · intro h
    exact ⟨_, h, rfl⟩
  · rintro ⟨m, hm, hd⟩
    cases m <;> simp [Mark.delivery?] at hd
    exact hd ▸ hm

end views

/-! ## After the terminal result -/

/-- Nothing comes after the terminal result but the end of the session. -/
private def Mark.Quieter (a b : Mark) : Prop :=
  ∀ result, a = .delivered result → b ≠ .called ∧ ∀ result', b ≠ .delivered result'

theorem Course.pairwise_quieter {id : EngineId} {aftermath : Aftermath} {before : List Mark}
    (course : Course id aftermath before) (n : Nat) :
    (Course.complete n before aftermath).Pairwise Mark.Quieter := by
  cases course <;>
    simp [Course.complete, Aftermath.marks, List.pairwise_append, List.pairwise_replicate,
      Mark.Quieter]
  rintro m (⟨-, rfl⟩ | rfl | rfl | rfl) <;> simp

theorem pairwise_after_delivery {ν : Type} {shows : ν → Bool} {h : List (Event ν)}
    (quiet : (marks shows h).Pairwise Mark.Quieter) :
    h.Pairwise fun a b => a.delivery?.isSome = true → b.isCallback = false := by
  refine (List.pairwise_flatMap.mp quiet).2.imp fun {a b} hab ha => ?_
  obtain ⟨result, hresult⟩ := Option.isSome_iff_exists.mp ha
  have hquiet := fun m hm => hab _ (delivered_mem_marks_iff.mpr hresult) m hm result rfl
  cases hb : b.isCallback with
  | false => rfl
  | true =>
      have marked : .called ∈ b.marks shows ∨ ∃ result, .delivered result ∈ b.marks shows :=
        exists_mark_of_isCallback hb
      rcases marked with hm | ⟨result', hm⟩
      · exact absurd rfl (hquiet _ hm).1
      · exact absurd rfl ((hquiet _ hm).2 result')

/-! ## The outcome that is reported -/

/-- What is left to do with an engine once its loop is over does not touch the
outcome of the loop. -/
structure KeepsOutcome (ε : Type) [Engine ε] : Prop where
  access : ∀ {x e result}, Engine.access (ε := ε) x e = some result →
    Engine.outcome? result.1 = Engine.outcome? e
  retire : ∀ e, Engine.outcome? (Engine.retire (ε := ε) e).1 = Engine.outcome? e
  free : ∀ e, Engine.outcome? (Engine.free (ε := ε) e).1 = Engine.outcome? e

theorem inLoop_ne_ended {ν : Type} (x : Happening ν) (outcome : Outcome) :
    x.inLoop ≠ .ended outcome := by
  cases x <;> simp [Happening.inLoop]

theorem atCaller_ne_ended {ν : Type} (x : Happening ν) (outcome : Outcome) :
    x.atCaller ≠ .ended outcome := by
  cases x <;> simp [Happening.atCaller]

/-- Whether the main loop of the session has been left for good. -/
def Status.isOver : Status → Bool
  | .reporting _ | .retiring .slot | .freeing .slot | .unbinding .slot | .closing .slot
  | .gone => true
  | _ => false

theorem Along.isOver_of_ended {early late : Nat} {id : EngineId} {status : Status}
    {ms : List Mark} {outcome : Outcome} (along : Along early late id status ms)
    (h : .ended outcome ∈ ms) : status.isOver = true := by
  cases along with
  | retiring course | freeing course | unbinding course | closing course =>
      cases course <;> simp_all [Status.isOver]
  | _ => simp_all [Status.isOver]

namespace Session

variable {ε : Type} [Engine ε] {runners : List Runner} {s : Session ε} {a : Act ε}
  {r : Result ε (Note ε)}

/-- Once the main loop is over, the engine keeps its outcome. -/
theorem Transition.outcome?_eq (keeps : KeepsOutcome ε) (trans : Transition runners s a r)
    (finished : s.status.isOver = true) :
    Engine.outcome? r.session.engine = Engine.outcome? s.engine := by
  cases trans with
  | access used => exact keeps.access used
  | retire status => exact keeps.retire _
  | free status => exact keeps.free _
  | setup status | enter status | move status | ask status | forward status | reply status =>
      rw [status] at finished
      simp [Status.isOver] at finished
  | _ => rfl

/-- The loop is reported to have ended as it did. -/
theorem Transition.outcome?_of_ended {outcome : Outcome} (trans : Transition runners s a r)
    (h : .ended outcome ∈ r.seen) : Engine.outcome? r.session.engine = some outcome := by
  cases trans with
  | report status finished handled logged =>
      subst logged
      simp [Result.seen, SlotUse.events] at h
      exact h ▸ finished
  | post status finished channel logged =>
      subst logged
      simp [Result.seen, SlotUse.events] at h
      exact h ▸ finished
  | acknowledge status fits logged =>
      subst logged
      simp [Result.seen, SlotUse.events] at h
  | @failStart fault logs status logged =>
      subst logged
      cases fault <;> simp [Result.seen, SlotUse.events] at h
  | _ => simp [Result.seen, SlotUse.events, inLoop_ne_ended, atCaller_ne_ended] at h

end Session

theorem Along.ended_of_delivered {early late : Nat} {id : EngineId} {status : Status}
    {ms : List Mark} {result : TerminalResult} (along : Along early late id status ms)
    (h : .delivered result ∈ ms) :
    ∃ outcome, .ended outcome ∈ ms ∧ result = ⟨id, outcome.code⟩ := by
  cases along with
  | reporting calls outcome => exact ⟨outcome, by simp, by simpa using h⟩
  | retiring course | freeing course | unbinding course | closing course =>
      cases course <;> simp_all
  | gone course =>
      cases course <;> simp_all [Course.complete, Aftermath.marks]
  | _ => simp at h

namespace Along

variable {early late : Nat} {id : EngineId} {status : Status} {ms : List Mark}

/-- While the loop runs no terminal result is delivered. -/
theorem deliveries_of_running {asked : Option Callback}
    (along : Along early late id (.running asked) ms) : ms.filterMap Mark.delivery? = [] := by
  cases along with
  | running calls => simp [Mark.delivery?, List.filterMap_cons, List.filterMap_replicate]

/-- What is delivered is the terminal result of a loop that was started and is over. -/
theorem deliveries_cases (along : Along early late id status ms) :
    ms.filterMap Mark.delivery? = [] ∨ ∃ outcome, .started id ∈ ms ∧ .ended outcome ∈ ms ∧
      ms.filterMap Mark.delivery? = [⟨id, outcome.code⟩] := by
  cases along with
  | reporting calls outcome =>
      exact Or.inr ⟨outcome, by simp, by simp, by
        simp [Mark.delivery?, List.filterMap_cons, List.filterMap_replicate]⟩
  | retiring course | freeing course | unbinding course | closing course | gone course =>
      cases course with
      | finished calls outcome =>
          exact Or.inr ⟨outcome, by simp [Course.complete], by simp [Course.complete], by
            simp [Course.complete, Aftermath.marks, Mark.delivery?, List.filterMap_cons,
              List.filterMap_replicate]⟩
      | _ =>
          exact Or.inl (by simp [Course.complete, Aftermath.marks, Mark.delivery?,
            List.filterMap_cons, List.filterMap_replicate])
  | _ => exact Or.inl (by simp [Mark.delivery?, List.filterMap_cons, List.filterMap_replicate])

/-- It is delivered before the context of the session goes. -/
theorem delivered_of_unbound {id' : EngineId} (along : Along early late id status ms)
    (unbound : .unbound ∈ ms) (started : .started id' ∈ ms) :
    id' = id ∧ ms.filterMap Mark.delivery? ≠ [] := by
  refine ⟨(along.of_started started).1, ?_⟩
  cases along with
  | retiring course | freeing course | unbinding course => cases course <;> simp at unbound
  | closing course | gone course =>
      cases course <;> simp_all [Course.complete, Aftermath.marks, Mark.delivery?,
        List.filterMap_cons]
  | _ => simp at unbound

end Along

/-- A complete course of a loop that ran has one delivery in it. -/
theorem Course.delivery_of_slot {id : EngineId} {before : List Mark}
    (course : Course id .slot before) (n : Nat) :
    ∃ result, (Course.complete n before .slot).filterMap Mark.delivery? = [result] := by
  cases course with
  | finished calls outcome =>
      exact ⟨⟨id, outcome.code⟩, by simp [Course.complete, Aftermath.marks, Mark.delivery?,
        List.filterMap_cons, List.filterMap_replicate]⟩

/-- A session whose start failed was never called and had nothing delivered. -/
theorem Course.not_called_of_refusal {id : EngineId} {fault : StartFault} {before : List Mark}
    (course : Course id (.refusal fault) before) (n : Nat) :
    .called ∉ Course.complete n before (.refusal fault) ∧
      ∀ result, .delivered result ∉ Course.complete n before (.refusal fault) := by
  cases course <;> simp [Course.complete, Aftermath.marks]

theorem Scripted.keepsOutcome : KeepsOutcome Scripted.Engine where
  access := by
    intro x e result h
    obtain ⟨⟨queue, notes⟩, -, rfl⟩ := Option.map_eq_some_iff.mp h
    rfl
  retire _ := rfl
  free _ := rfl

namespace World.Reachable

variable {ε : Type} [Engine ε] {configs : List RunnerConfig} {w : World ε} {key : Nat}
  {s : Session ε}

/-- A loop that is reported to have ended has ended so, and its engine tells so
until the last. -/
theorem outcome?_of_ended {outcome : Outcome} (keeps : KeepsOutcome ε)
    (reach : Reachable configs w) (found : w.session? key = some s)
    (ended : .ended outcome ∈ w.history key) : Engine.outcome? s.engine = some outcome := by
  -- The course tells that a loop that has ended is over, so it goes with the invariant.
  refine (reach.session_invariant (P := fun s h =>
    Along 0 0 s.id s.status (marks (fun _ => false) h) ∧
      ∀ outcome, .ended outcome ∈ h → Engine.outcome? s.engine = some outcome)
    ?_ ?_ found).2 outcome ended
  · intro plan agent lifecycle id engine happenings hmake
    refine ⟨.of_make (.hidden ε) hmake, fun outcome h => ?_⟩
    simp [atCaller_ne_ended] at h
  · rintro runners s a r h trans ⟨along, kept⟩
    refine ⟨trans.along (.hidden ε) along, fun outcome hmem => ?_⟩
    rcases List.mem_append.mp hmem with before | now
    · have finished : s.status.isOver = true :=
        along.isOver_of_ended ((mem_marks_iff rfl).mpr before)
      rw [trans.outcome?_eq keeps finished]
      exact kept outcome before
    · exact trans.outcome?_of_ended now

/-- **One terminal result.** A session that was started delivers at most one
result, and exactly one by the time that nothing is left of it. The result has
the engine's number and the code that the main loop returned, or the code for a
panic, and no callback comes after it. A session whose start failed has no
callback at all. -/
theorem terminal_result_reported_once {w : World Scripted.Engine}
    {s : Session Scripted.Engine} (reach : Reachable configs w)
    (found : w.session? key = some s) :
    (∀ id, .started id ∈ w.history key →
      (deliveries (w.history key)).length ≤ 1 ∧
      (s.status = .gone → (deliveries (w.history key)).length = 1) ∧
      (∀ result ∈ deliveries (w.history key), result.engine = id ∧
        ((∃ code, s.engine.outcome? = some (.returned code) ∧ result.code = code) ∨
          (s.engine.outcome? = some .panicked ∧ result.code = panicCode))) ∧
      (w.history key).Pairwise
        fun a b => a.delivery?.isSome = true → b.isCallback = false) ∧
    (∀ fault, .refused fault ∈ w.history key →
      ∀ e ∈ w.history key, e.isCallback = false) := by
  have along : Along 0 0 s.id s.status (marks (fun _ => false) (w.history key)) :=
    reach.along (.hidden Scripted.Engine) found
  constructor
  · intro id started
    obtain ⟨rfl, before, course, hbegin, hgone⟩ :=
      along.of_started ((mem_marks_iff rfl).mpr started)
    obtain ⟨result, hone⟩ := course.delivery_of_slot 0
    have hdeliveries := hbegin.filterMap Mark.delivery?
    refine ⟨?_, ?_, ?_, ?_⟩
    · have hlen := hdeliveries.length_le
      rwa [← deliveries_eq, hone] at hlen
    · intro gone
      rw [deliveries_eq, hgone gone]
      exact congrArg List.length hone
    · intro result hmem
      obtain ⟨e, he, hresult⟩ := List.mem_filterMap.mp hmem
      obtain ⟨outcome, ended, rfl⟩ := along.ended_of_delivered
        (List.mem_flatMap.mpr ⟨e, he, delivered_mem_marks_iff.mpr hresult⟩)
      have finished := reach.outcome?_of_ended Scripted.keepsOutcome found
        ((mem_marks_iff rfl).mp ended)
      refine ⟨rfl, ?_⟩
      cases outcome with
      | returned code => exact Or.inl ⟨code, finished, rfl⟩
      | panicked => exact Or.inr ⟨finished, rfl⟩
    · exact pairwise_after_delivery ((course.pairwise_quieter 0).sublist hbegin.sublist)
  · intro fault refused e he
    obtain ⟨before, course, hmarks⟩ := along.of_refused ((mem_marks_iff rfl).mpr refused)
    obtain ⟨hcalled, hdelivered⟩ := course.not_called_of_refusal 0
    rw [← hmarks] at hcalled hdelivered
    cases hcall : e.isCallback with
    | false => rfl
    | true =>
        rcases exists_mark_of_isCallback hcall with hm | ⟨result, hm⟩
        · exact absurd (List.mem_flatMap.mpr ⟨e, he, hm⟩) hcalled
        · exact absurd (List.mem_flatMap.mpr ⟨e, he, hm⟩) (hdelivered result)

/-- A runner with one slot. -/
def oneSlot : RunnerConfig := { RunnerConfig.default with maxActive := some 1 }

/-- Two sessions on one slot. The hook of the first panics, and its controller
panics over the result; the second comes too early and is refused. -/
def turbulent : List (Action Scripted.Engine) :=
  let plan : Scripted.Plan := ⟨0, ⟨[.invoke 0], 0, false, none⟩⟩
  let create : Action Scripted.Engine := .create plan "agent" .handler
  let dispose key : List (Action Scripted.Engine) := List.replicate 4 (.act key .dispose)
  [create, create, .act 0 (.start 0), .act 0 .reserve, .act 0 (.spawn none), .act 0 .enter,
    .act 1 (.start 0), .act 1 .reserve] ++ dispose 1 ++
  [.act 0 (.move .go), .act 0 (.move .go), .act 0 (.move (.call .reconnected)),
    .act 0 (.reply .done), .act 0 (.move .panic), .act 0 .finish, .act 0 (.reply .panic)] ++
  dispose 0

theorem one_result_of_turbulent_run :
    ∃ w s s', run turbulent (new [oneSlot]) = some w ∧ w.session? 0 = some s ∧
      s.status = .gone ∧ w.session? 1 = some s' ∧ (deliveries (w.history 0)).length = 1 ∧
      ∀ e ∈ w.history 1, e.isCallback = false := by
  obtain ⟨w, made⟩ : ∃ w, run turbulent (new [oneSlot]) = some w := ⟨_, rfl⟩
  have reach : Reachable [oneSlot] w := .of_run .start made
  cases made
  refine ⟨_, _, _, rfl, rfl, rfl, rfl, ?_, ?_⟩
  · have started := (@terminal_result_reported_once _ 0 _ _ reach rfl).1 .first
    exact (started (List.mem_of_getElem? (i := 2) rfl)).2.1 rfl
  · have refused := (@terminal_result_reported_once _ 1 _ _ reach rfl).2 (.capacity 1)
    exact refused (List.mem_of_getElem? (i := 4) rfl)

end World.Reachable
end TunnelControl
