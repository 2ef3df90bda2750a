import TunnelControl.Proofs.Ending
import TunnelControl.Proofs.TerminalResult

/-!
# The slots of a runner

A runner counts its slots in a number, and that number is right: it is the number
of sessions that have taken a slot and not given it back, and it stays within the
limit. A session takes at most one slot and gives it back
exactly once, whichever way it ends (`SlotLife`). A start is turned away for want
of a slot exactly if none is free when it looks for one.
-/

namespace TunnelControl

open Engine (Note)

/-! ## What a session does with its slot -/

section views

variable {ν : Type}

/-- What an event does with the slot. -/
def Event.slotUse? : Event ν → Option SlotUse
  | .slotTaken => some .taken
  | .slotReturned => some .returned
  | _ => none

/-- What was done with the slot, in order. -/
def slotUses (h : List (Event ν)) : List SlotUse := h.filterMap Event.slotUse?

/-- Whether a slot was taken that was not given back since. -/
def holdsSlot (h : List (Event ν)) : Bool := .taken ∈ slotUses h ∧ .returned ∉ slotUses h

def Mark.slotUse? : Mark → Option SlotUse
  | .slotTaken => some .taken
  | .slotReturned => some .returned
  | _ => none

variable {shows : ν → Bool}

theorem filterMap_slotUse?_marks (e : Event ν) :
    (e.marks shows).filterMap Mark.slotUse? = e.slotUse?.toList := by
  cases e with
  | note n => cases hn : shows n <;> simp [Event.marks, Event.slotUse?, Mark.slotUse?, hn]
  | called call => cases call <;> rfl
  | forwarded notice => cases notice <;> rfl
  | replied call r => cases call <;> rfl
  | _ => rfl

theorem slotUses_eq (h : List (Event ν)) :
    slotUses h = (marks shows h).filterMap Mark.slotUse? :=
  (filterMap_marks filterMap_slotUse?_marks h).symm

end views

/-- What becomes of the slot of a session. -/
structure SlotLife {ν : Type} (status : Status) (h : List (Event ν)) : Prop where
  /-- At most one slot is taken, and it is given back at most once. -/
  once : slotUses h <+: [.taken, .returned]
  /-- No slot is kept. -/
  gone : status = .gone → slotUses h = [] ∨ slotUses h = [.taken, .returned]
  /-- A loop that ran gives its slot back. -/
  started : ∀ id, .started id ∈ h → status = .gone → slotUses h = [.taken, .returned]
  /-- It does so after its terminal result. -/
  delivered : ∀ id, .started id ∈ h →
    Preceded (fun e => ∃ result, e.delivery? = some result) (· = .slotReturned) h
  /-- It does so after its engine is gone. -/
  released : ∀ id, .started id ∈ h → Preceded (· = .released) (· = .slotReturned) h
  /-- A start that fails early takes no slot. -/
  threadName : ∀ name, .refused (.threadName name) ∈ h → slotUses h = []
  capacity : ∀ limit, .refused (.capacity limit) ∈ h → slotUses h = []
  /-- A start that fails for want of a thread gives the slot back. -/
  spawn : ∀ errno, .refused (.spawn errno) ∈ h → slotUses h = [.taken, .returned]
  /-- It does so before it is over. -/
  spawnReturned : ∀ errno, Preceded (· = .slotReturned) (· = .refused (.spawn errno)) h

/-- What a session that comes to such an end has done with its slot. -/
def Aftermath.slotUses : Aftermath → List SlotUse
  | .slot | .refusal (.spawn _) => [.taken, .returned]
  | _ => []

theorem Aftermath.slotUses_cases (aftermath : Aftermath) :
    aftermath.slotUses = [] ∨ aftermath.slotUses = [.taken, .returned] := by
  unfold slotUses
  split <;> simp

namespace Course

variable {id : EngineId} {aftermath : Aftermath} {before : List Mark}

theorem slotUses (course : Course id aftermath before) (n : Nat) :
    (complete n before aftermath).filterMap Mark.slotUse? = aftermath.slotUses := by
  cases course <;> simp [complete, Aftermath.marks, Aftermath.slotUses, Mark.slotUse?,
    List.filterMap_cons, List.filterMap_replicate]

theorem preceded_slotReturned (course : Course id .slot before) (n : Nat) :
    Preceded (fun m => ∃ result, m = .delivered result) (· = .slotReturned)
        (complete n before .slot) ∧
      Preceded (· = .released) (· = .slotReturned) (complete n before .slot) := by
  cases course
  constructor <;>
    simp [complete, Aftermath.marks, preceded_cons, preceded_replicate_append]

theorem preceded_spawnRefused (course : Course id aftermath before) (n : Nat) (errno : Int32) :
    Preceded (· = .slotReturned) (· = .refused (.spawn errno))
      (complete n before aftermath) := by
  cases course <;>
    simp [complete, Aftermath.marks, preceded_cons, preceded_replicate_append, preceded_nil]

end Course

/-- **One slot.** A session on its course takes at most one slot and gives it back
exactly once, at its time. -/
theorem Along.slotLife {ν : Type} {shows : ν → Bool} {early late : Nat} {id : EngineId}
    {status : Status} {h : List (Event ν)} (along : Along early late id status (marks shows h)) :
    SlotLife status h := by
  have uses : slotUses h = (marks shows h).filterMap Mark.slotUse? := slotUses_eq h
  obtain ⟨aftermath, before, course, hbegin, hgone⟩ := along.isPrefix
  have refusedUses : ∀ {fault}, .refused fault ∈ h →
      slotUses h = (Aftermath.refusal fault).slotUses := by
    intro fault refused
    obtain ⟨before', course', hmarks⟩ := along.of_refused ((mem_marks_iff rfl).mpr refused)
    rw [uses, hmarks, course'.slotUses]
  constructor
  · rw [uses]
    refine (hbegin.filterMap Mark.slotUse?).trans ?_
    rw [course.slotUses]
    rcases aftermath.slotUses_cases with none | all <;> simp [*]
  · intro gone
    rw [uses, hgone gone, course.slotUses]
    exact aftermath.slotUses_cases
  · intro id' started gone
    obtain ⟨-, before', course', -, hgone'⟩ :=
      along.of_started ((mem_marks_iff rfl).mpr started)
    rw [uses, hgone' gone, course'.slotUses, Aftermath.slotUses]
  · intro id' started
    obtain ⟨-, before', course', hbegin', -⟩ :=
      along.of_started ((mem_marks_iff rfl).mpr started)
    refine ((course'.preceded_slotReturned _).1.of_isPrefix hbegin').of_flatMap ?_ ?_
    · rintro e m hm ⟨result, rfl⟩
      exact ⟨result, delivered_mem_marks_iff.mp hm⟩
    · rintro e rfl
      exact ⟨.slotReturned, rfl, rfl⟩
  · intro id' started
    obtain ⟨-, before', course', hbegin', -⟩ :=
      along.of_started ((mem_marks_iff rfl).mpr started)
    refine preceded_of_marks ((course'.preceded_slotReturned _).2.of_isPrefix hbegin') ?_ ?_
    · exact fun e hm => Mark.event?_of_mem rfl hm
    · rintro e rfl
      rfl
  · exact fun name refused => refusedUses refused
  · exact fun limit refused => refusedUses refused
  · exact fun errno refused => refusedUses refused
  · intro errno
    refine preceded_of_marks ((course.preceded_spawnRefused _ errno).of_isPrefix hbegin) ?_ ?_
    · exact fun e hm => Mark.event?_of_mem rfl hm
    · rintro e rfl
      rfl

/-! ## Names of threads -/

theorem zero_notMem_hex (n : Nat) : '\x00' ∉ (Text.hex n).toList := by
  rw [Text.hex, String.toList_ofList]
  induction n using Nat.strongRecOn with
  | ind n ih =>
      rw [Nat.toDigits_eq_if (by decide)]
      split
      · simp
      · have rest := ih (n / 16) (by omega)
        simp [rest]

/-- Only the stem of a thread's name can have NUL in it. -/
theorem zero_mem_threadName_iff (config : RunnerConfig) (id : EngineId) :
    '\x00' ∈ (config.threadName id).toList ↔ '\x00' ∈ config.threadStem.toList := by
  simp [RunnerConfig.threadName, EngineId.hexText, zero_notMem_hex]

/-! ## The number of slots that are taken -/

/-- Whether a session in this state has a slot. -/
def Status.hasSlot : Status → Bool
  | .placed | .launched | .running _ | .reporting _ => true
  | .retiring .slot | .freeing .slot | .unbinding .slot | .closing .slot => true
  | _ => false

/-- The state of a session tells what its history does. -/
theorem Along.holdsSlot_eq {ν : Type} {shows : ν → Bool} {early late : Nat} {id : EngineId}
    {status : Status} {h : List (Event ν)} (along : Along early late id status (marks shows h)) :
    holdsSlot h = status.hasSlot := by
  have uses : slotUses h = (marks shows h).filterMap Mark.slotUse? := slotUses_eq h
  rw [holdsSlot, uses]
  generalize marks shows h = ms at along ⊢
  cases along with
  | retiring course | freeing course | unbinding course | closing course =>
      cases course <;> simp [Status.hasSlot, Mark.slotUse?, List.filterMap_cons,
        List.filterMap_replicate]
  | @gone aftermath before course =>
      rw [course.slotUses]
      rcases aftermath.slotUses_cases with none | all <;> simp [Status.hasSlot, *]
  | _ => simp [Status.hasSlot, Mark.slotUse?, List.filterMap_cons, List.filterMap_replicate]

/-- What a use does to the number of slots that are taken. -/
def SlotUse.count : SlotUse → Nat → Nat
  | .unchanged, n => n
  | .taken, n => n + 1
  | .returned, n => n - 1

theorem World.useSlots_mk (use : SlotUse) (config : RunnerConfig) (n : Nat) :
    useSlots use ⟨config, n⟩ = ⟨config, use.count n⟩ := by
  cases use <;> rfl

theorem Runner.exhausted?_eq_some_iff {r : Runner} {limit : Nat} :
    r.exhausted? = some limit ↔ r.config.maxActive = some limit ∧ limit ≤ r.active := by
  simp [exhausted?, Option.filter_eq_some_iff]

theorem Runner.lt_of_exhausted?_eq_none {r : Runner} {limit : Nat} (h : r.exhausted? = none)
    (limited : r.config.maxActive = some limit) : r.active < limit := by
  by_contra hge
  have full := exhausted?_eq_some_iff.mpr ⟨limited, Nat.not_lt.mp hge⟩
  rw [h] at full
  simp at full

/-- The fault for which a session is being given up. -/
def Status.refusal? : Status → Option StartFault
  | .retiring (.refusal fault) | .freeing (.refusal fault) | .unbinding (.refusal fault)
  | .closing (.refusal fault) => some fault
  | _ => none

/-- While a session is being given up, the start has not returned. -/
theorem Along.not_returned {early late : Nat} {id : EngineId} {status : Status}
    {ms : List Mark} {fault : StartFault} (along : Along early late id status ms)
    (refusing : status.refusal? = some fault) :
    (∀ id', .started id' ∉ ms) ∧ ∀ fault', .refused fault' ∉ ms := by
  cases along with
  | retiring course | freeing course | unbinding course | closing course =>
      cases course <;> simp_all [Status.refusal?]
  | _ => simp [Status.refusal?] at refusing

theorem Along.not_returned_of_starting {early late : Nat} {id : EngineId} {ms : List Mark}
    (along : Along early late id .starting ms) :
    (∀ id', .started id' ∉ ms) ∧ ∀ fault, .refused fault ∉ ms := by
  cases along
  simp

theorem Along.refused_unique {early late : Nat} {id : EngineId} {status : Status}
    {ms : List Mark} {fault fault' : StartFault} (along : Along early late id status ms)
    (h : .refused fault ∈ ms) (h' : .refused fault' ∈ ms) : fault = fault' := by
  obtain ⟨before, course, rfl⟩ := along.of_refused h
  cases course <;> simpa [Course.complete, Aftermath.marks, eq_comm] using h'

variable {ε : Type} [Engine ε]

namespace Session

/-- Whether the session has a slot of the runner. -/
def occupies (i : Nat) (s : Session ε) : Bool := s.runner == some i && s.status.hasSlot

variable {runners : List Runner} {s : Session ε} {a : Act ε} {r : Result ε (Note ε)}

/-- **One step of a slot.** A session has a slot after a step if it had one before,
but for the steps that take one or give it back. -/
theorem Transition.occupies (trans : Transition runners s a r) (i : Nat) :
    match r.slots with
    | .unchanged => r.session.occupies i = s.occupies i
    | .taken => s.occupies i = false ∧
        r.session.occupies i = (r.session.runner == some i)
    | .returned => s.occupies i = (r.session.runner == some i) ∧
        r.session.occupies i = false := by
  cases trans with
  | setup status | access | log status | logLast status | receive | hangUp => rfl
  | @retire aftermath status | @free aftermath status | @unbind aftermath status =>
      cases aftermath <;> simp [Session.occupies, status, Status.hasSlot]
  | _ => simp [Session.occupies, Status.hasSlot, refuse, afterReport, *]

/-- Only a session that finds a free slot takes one. -/
theorem Transition.exhausted?_of_taken (trans : Transition runners s a r)
    (taken : r.slots = .taken) : ∃ i runner, r.session.runner = some i ∧
      runners[i]? = some runner ∧ runner.exhausted? = none := by
  cases trans with
  | takeSlot status given place free => exact ⟨_, _, given, place, free⟩
  | _ => simp at taken

/-- Between being handed over and looking for a slot nothing becomes of a session. -/
theorem Transition.starting (trans : Transition runners s a r) (status : s.status = .starting)
    (h : a ≠ .reserve) : r.session.status = .starting ∧ r.session.runner = s.runner := by
  cases trans with
  | access | receive | hangUp => exact ⟨status, rfl⟩
  | findFull | takeSlot => exact absurd rfl h
  | _ => simp_all

/-- Whether a start is being given up for this fault, or has been. -/
def Refusing (fault : StartFault) (s : Session ε) (h : List (Event (Note ε))) : Prop :=
  s.status.refusal? = some fault ∨ .refused fault ∈ h

/-- Nothing saves a start that is being given up. -/
theorem Transition.refusing {fault : StartFault} {h : List (Event (Note ε))}
    (trans : Transition runners s a r) (refusing : Refusing fault s h) :
    Refusing fault r.session (h ++ r.seen) := by
  rcases refusing with status | refused
  · cases trans with
    | access | receive | hangUp => exact Or.inl status
    | @retire aftermath status' | @free aftermath status' | @unbind aftermath status' =>
        rw [status'] at status
        cases aftermath <;> exact Or.inl status
    | @failStart fault' logs status' =>
        rw [status'] at status
        cases status
        exact Or.inr (by simp [Result.seen])
    | _ => simp_all [Status.refusal?]
  · exact Or.inr (List.mem_append_left _ refused)

end Session

namespace World

variable {w w' : World ε} {key : Nat} {s : Session ε} {i : Nat}

/-- The number of sessions that have a slot of the runner. -/
def occupants (i : Nat) (w : World ε) : Nat := w.sessions.countP (·.any (Session.occupies i))

theorem occupants_attempt (plan : Engine.Plan ε) (agent : String) (lifecycle : Lifecycle) :
    (w.attempt plan agent lifecycle).occupants i = w.occupants i := by
  rw [occupants, sessions_attempt, List.countP_append, occupants, Nat.add_eq_left,
    List.countP_singleton]
  unfold make
  split <;> simp [Session.occupies]

theorem occupants_advance {runners : List Runner} {a : Session.Act ε}
    {r : Session.Result ε (Note ε)} (found : w.session? key = some s)
    (trans : Session.Transition runners s a r) :
    (w.advance key r).occupants i =
      if r.session.runner = some i then r.slots.count (w.occupants i) else w.occupants i := by
  have hlt := lt_length_of_session? found
  have hkey : w.sessions[key] = some s :=
    (List.getElem?_eq_some_iff.mp (session?_eq_some_iff.mp found)).2
  -- A session that gives its slot back was counted before.
  have hpos : s.occupies i = true → 0 < w.occupants i := by
    intro h
    exact List.countP_pos_iff.mpr ⟨some s, hkey ▸ List.getElem_mem hlt, h⟩
  have hcount : (w.advance key r).occupants i =
      w.occupants i - (if s.occupies i then 1 else 0) +
        (if r.session.occupies i then 1 else 0) := by
    simp only [occupants, advance]
    rw [List.countP_set hlt, hkey]
    rfl
  have step := trans.occupies i
  rw [hcount]
  cases use : r.slots with
  | unchanged =>
      simp only [use] at step
      rw [step]
      cases h : s.occupies i with
      | false => simp [SlotUse.count]
      | true => simp [SlotUse.count, Nat.sub_add_cancel (hpos h)]
  | taken =>
      simp only [use] at step
      rw [step.1, step.2]
      by_cases hr : r.session.runner = some i <;> simp [hr, SlotUse.count]
  | returned =>
      simp only [use] at step
      rw [step.1, step.2]
      by_cases hr : r.session.runner = some i <;> simp [hr, SlotUse.count]

theorem runners_advance (r : Session.Result ε (Note ε)) {config : RunnerConfig} {n : Nat}
    (place : w.runners[i]? = some ⟨config, n⟩) :
    (w.advance key r).runners[i]? =
      some ⟨config, if r.session.runner = some i then r.slots.count n else n⟩ := by
  simp only [advance]
  cases given : r.session.runner with
  | none => simpa using place
  | some j =>
      rw [List.getElem?_modify, place]
      by_cases hj : j = i <;> simp [hj, useSlots_mk]

/-- The number of sessions with a slot of the runner, as their histories tell it. -/
def holders (i : Nat) (w : World ε) : Nat :=
  (List.range w.sessions.length).countP fun key =>
    (w.session? key).any (·.runner = some i) && holdsSlot (w.history key)

namespace Reachable

variable {configs : List RunnerConfig} {config : RunnerConfig}

/-- The number that a runner counts in is the number of the sessions that have a
slot of it, and within its limit. -/
theorem runners_eq (reach : Reachable configs w) (given : configs[i]? = some config) :
    w.runners[i]? = some ⟨config, w.occupants i⟩ ∧
      ∀ limit, config.maxActive = some limit → w.occupants i ≤ limit := by
  induction reach with
  | start => simp [new, occupants, given, Runner.new]
  | @step w w' action before made ih =>
      obtain ⟨place, within⟩ := ih
      cases action with
      | create plan agent lifecycle =>
          cases made
          rw [occupants_attempt]
          exact ⟨place, within⟩
      | act key a =>
          obtain ⟨s, r, found, trans, rfl⟩ := act_cases made
          rw [occupants_advance found trans]
          refine ⟨runners_advance r place, fun limit limited => ?_⟩
          have hle := within limit limited
          split
          · rename_i same
            cases use : r.slots with
            | unchanged => exact hle
            | taken =>
                obtain ⟨j, runner, hj, at_, free⟩ := trans.exhausted?_of_taken use
                have hij : j = i := Option.some.inj (hj.symm.trans same)
                subst hij
                cases place.symm.trans at_
                exact Runner.lt_of_exhausted?_eq_none free limited
            | returned => exact Nat.le_trans (Nat.sub_le _ _) hle
          · exact hle

theorem holders_eq_occupants (reach : Reachable configs w) : w.holders i = w.occupants i := by
  have hsessions : w.sessions = (List.range w.sessions.length).map w.session? := by
    apply List.ext_getElem
    · simp
    · intro key hkey _
      simp [session?, List.getElem?_eq_getElem hkey]
  rw [occupants, hsessions, List.countP_map, holders]
  apply List.countP_congr
  intro key _
  cases found : w.session? key with
  | none => simp [found]
  | some s =>
      have along := reach.along (.hidden ε) found
      simp [found, Session.occupies, along.holdsSlot_eq]

end Reachable

/-! ## Starts -/

/-- Whether the start of a session has returned, with an engine's number or a fault. -/
def StartReturned {ν : Type} (h : List (Event ν)) : Prop :=
  (∃ id, .started id ∈ h) ∨ ∃ fault, .refused fault ∈ h

/-- A session that was handed to a runner gets nowhere before it looked for a slot. -/
theorem exists_reserve_of_run {as : List (Action ε)} (found : w.session? key = some s)
    (status : s.status = .starting) (ran : run as w = some w')
    (left : ∀ s', w'.session? key = some s' → s'.status ≠ .starting) :
    ∃ as₁ as₂ v s₁, as = as₁ ++ .act key .reserve :: as₂ ∧ run as₁ w = some v ∧
      run (.act key .reserve :: as₂) v = some w' ∧
      v.session? key = some s₁ ∧ s₁.status = .starting ∧ s₁.runner = s.runner := by
  induction as generalizing w s with
  | nil =>
      cases ran
      exact absurd status (left s found)
  | cons a as ih =>
      obtain ⟨v, made, ran'⟩ := Option.bind_eq_some_iff.mp ran
      have next : a = .act key .reserve ∨ ∃ s₁, v.session? key = some s₁ ∧
          s₁.status = .starting ∧ s₁.runner = s.runner := by
        rcases session?_of_step found made with ⟨found', -⟩ | ⟨b, r, rfl, trans, found', -⟩
        · exact Or.inr ⟨s, found', status, rfl⟩
        · by_cases hb : b = .reserve
          · exact Or.inl (congrArg _ hb)
          · exact Or.inr ⟨r.session, found', trans.starting status hb⟩
      rcases next with rfl | ⟨s₁, found₁, status₁, same⟩
      · exact ⟨[], as, w, s, rfl, rfl, ran, found, status, rfl⟩
      · obtain ⟨as₁, as₂, v', s₂, rfl, ran₁, ran₂, found₂, status₂, same₂⟩ :=
          ih found₁ status₁ ran'
        refine ⟨a :: as₁, as₂, v', s₂, rfl, ?_, ran₂, found₂, status₂, same₂.trans same⟩
        simpa [run, made] using ran₁

namespace Reachable

variable {configs : List RunnerConfig} {config : RunnerConfig}

/-- The start of a session that was turned away as it looked for a slot returns with
that fault, and no other does. -/
theorem refused_capacity_iff {v : World ε} {as : List (Action ε)} (reach : Reachable configs w)
    (given : configs[i]? = some config) (found : w.session? key = some s)
    (place : s.runner = some i) (ran : run (.act key .reserve :: as) w = some v)
    (returned : StartReturned (v.history key)) (limit : Nat) :
    .refused (.capacity limit) ∈ v.history key ↔
      config.maxActive = some limit ∧ w.occupants i = limit := by
  obtain ⟨hrunner, within⟩ := reach.runners_eq given
  obtain ⟨w₁, made, ran₁⟩ := Option.bind_eq_some_iff.mp ran
  have reach₁ : Reachable configs w₁ := .step _ reach made
  obtain ⟨s₀, r, found₀, trans, rfl⟩ := act_cases made
  cases found.symm.trans found₀
  have found₁ := session?_advance_self found r
  have hist₁ : (w.advance key r).history key = w.history key ++ r.seen := by
    rw [history_advance, if_pos rfl]
  cases trans with
  | @findFull j runner limit' _ given' place' full =>
      cases place.symm.trans given'
      cases hrunner.symm.trans place'
      obtain ⟨limited, hle⟩ := Runner.exhausted?_eq_some_iff.mp full
      have hactive : w.occupants i = limit' := Nat.le_antisymm (within limit' limited) hle
      obtain ⟨s₂, found₂, refusing⟩ := session?_of_run
        (P := Session.Refusing (.capacity limit')) (fun t h => t.refusing h)
        found₁ (Or.inl rfl) ran₁
      have along := (reach₁.of_run ran₁).along (.hidden ε) found₂
      have refused : .refused (.capacity limit') ∈ v.history key := by
        rcases refusing with status₂ | refused
        · obtain ⟨hstarted, hrefused⟩ := along.not_returned status₂
          rcases returned with ⟨id, started⟩ | ⟨fault, refused⟩
          · exact absurd ((mem_marks_iff rfl).mpr started) (hstarted id)
          · exact absurd ((mem_marks_iff rfl).mpr refused) (hrefused fault)
        · exact refused
      constructor
      · intro h
        cases along.refused_unique ((mem_marks_iff rfl).mpr refused) ((mem_marks_iff rfl).mpr h)
        exact ⟨limited, hactive⟩
      · rintro ⟨limited', -⟩
        cases limited.symm.trans limited'
        exact refused
  | @takeSlot j runner _ given' place' free =>
      cases place.symm.trans given'
      cases hrunner.symm.trans place'
      obtain ⟨s₂, found₂, taken⟩ := session?_of_run
        (P := fun _ h => .taken ∈ slotUses h)
        (fun _ h => by simpa [slotUses] using Or.inl h)
        found₁
        (by simp [hist₁, slotUses, Session.Result.seen, SlotUse.events, Event.slotUse?]) ran₁
      have along := (reach₁.of_run ran₁).along (.hidden ε) found₂
      constructor
      · intro h
        rw [along.slotLife.capacity limit h] at taken
        simp at taken
      · rintro ⟨limited, hactive⟩
        have hlt := Runner.lt_of_exhausted?_eq_none free limited
        exact absurd hactive (Nat.ne_of_lt hlt)

/-- **Slots are accounted for.** In every reachable world each runner counts exactly
the sessions that have taken a slot and not given it back, and never more than its
limit. A start under a proper name is turned away for want of a slot exactly if the
runner is at its limit when the session looks for one. Every session takes and gives
back as `SlotLife` says, and one that is not to run any more comes to its end,
whatever its controller makes of the terminal result. -/
theorem slots_accounted (reach : Reachable configs w) :
    (∀ i config, configs[i]? = some config → ∃ active,
      w.runners[i]? = some ⟨config, active⟩ ∧ active = w.holders i ∧
      ∀ limit, config.maxActive = some limit → active ≤ limit) ∧
    (∀ key s i config w₁ as w₂, w.session? key = some s → configs[i]? = some config →
      '\x00' ∉ (config.threadName s.id).toList →
      w.step (.act key (.start i)) = some w₁ → run as w₁ = some w₂ →
      StartReturned (w₂.history key) →
      ∃ as₁ as₂ v active, as = as₁ ++ .act key .reserve :: as₂ ∧ run as₁ w₁ = some v ∧
        v.runners[i]? = some ⟨config, active⟩ ∧
        (∀ limit, .refused (.capacity limit) ∈ w₂.history key ↔
          config.maxActive = some limit ∧ active = limit) ∧
        (config.maxActive = some 0 → .refused (.capacity 0) ∈ w₂.history key)) ∧
    (∀ key s, w.session? key = some s → SlotLife s.status (w.history key)) ∧
    (∀ key s r acts, w.session? key = some s → r = .done ∨ r = .panic →
      s.wayOut? r = some acts →
      ∃ w' s', run (acts.map (.act key)) w = some w' ∧ w'.session? key = some s' ∧
        s'.status = .gone) := by
  refine ⟨?_, ?_, ?_, ?_⟩
  · intro i config given
    obtain ⟨place, within⟩ := reach.runners_eq given
    exact ⟨_, place, reach.holders_eq_occupants.symm, within⟩
  · intro key s i config w₁ as w₂ found given name starts ran returned
    have reach₁ : Reachable configs w₁ := .step _ reach starts
    obtain ⟨s₀, r, found₀, trans, rfl⟩ := act_cases starts
    cases found.symm.trans found₀
    have found₁ := session?_advance_self found r
    cases trans with
    | misname status place nul =>
        cases (reach.runners_eq given).1.symm.trans place
        exact absurd nul name
    | accept status place _ =>
        -- A start that has returned is past the point where it looks for a slot.
        have left : ∀ s', w₂.session? key = some s' → s'.status ≠ .starting := by
          intro s' found' status'
          have along := (reach₁.of_run ran).along (.hidden ε) found'
          rw [status'] at along
          obtain ⟨hstarted, hrefused⟩ := along.not_returned_of_starting
          rcases returned with ⟨id, started⟩ | ⟨fault, refused⟩
          · exact hstarted id ((mem_marks_iff rfl).mpr started)
          · exact hrefused fault ((mem_marks_iff rfl).mpr refused)
        obtain ⟨as₁, as₂, v, s₁, has, ran₁, ran₂, foundv, statusv, same⟩ :=
          exists_reserve_of_run found₁ rfl ran left
        have reachv := reach₁.of_run ran₁
        have decided := reachv.refused_capacity_iff given foundv same ran₂ returned
        obtain ⟨placev, within⟩ := reachv.runners_eq given
        refine ⟨as₁, as₂, v, _, has, ran₁, placev, decided, fun limited => ?_⟩
        exact (decided 0).mpr ⟨limited, Nat.le_zero.mp (within 0 limited)⟩
  · intro key s found
    exact (reach.along (.hidden ε) found).slotLife
  · intro key s r acts found taken way
    exact run_wayOut taken found way

/-- One session takes the slot, another is ready to be started. -/
def crowded : List (Action Scripted.Engine) :=
  let plan : Scripted.Plan := ⟨0, ⟨[], 0, false, none⟩⟩
  let create : Action Scripted.Engine := .create plan "agent" .handler
  [create, create, .act 0 (.start 0), .act 0 .reserve]

/-- It looks for a slot in vain, and its engine is let go. -/
def turnedAway : List (Action Scripted.Engine) :=
  .act 1 .reserve :: List.replicate 4 (.act 1 .dispose)

theorem slots_accounted_of_crowded_runner :
    ∃ w w₁ w₂, run crowded (new [oneSlot]) = some w ∧
      w.runners[0]? = some ⟨oneSlot, w.holders 0⟩ ∧
      w.step (.act 1 (.start 0)) = some w₁ ∧ run turnedAway w₁ = some w₂ ∧
      ∃ as₁ as₂ v, turnedAway = as₁ ++ .act 1 .reserve :: as₂ ∧ run as₁ w₁ = some v ∧
        v.runners[0]? = some ⟨oneSlot, 1⟩ := by
  obtain ⟨w, made⟩ : ∃ w, run crowded (new [oneSlot]) = some w := ⟨_, rfl⟩
  have reach : Reachable [oneSlot] w := .of_run .start made
  cases made
  obtain ⟨counted, starts, -, -⟩ := reach.slots_accounted
  refine ⟨_, _, _, rfl, ?_, rfl, rfl, ?_⟩
  · obtain ⟨active, place, rfl, -⟩ := counted 0 oneSlot rfl
    exact place
  · obtain ⟨as₁, as₂, v, active, has, ran, place, decided, -⟩ :=
      starts 1 _ 0 oneSlot _ turnedAway _ rfl rfl (by decide) rfl rfl
        (Or.inr ⟨.capacity 1, List.mem_of_getElem? (i := 4) rfl⟩)
    obtain ⟨-, rfl⟩ := (decided 1).mp (List.mem_of_getElem? (i := 4) rfl)
    exact ⟨as₁, as₂, v, has, ran, place⟩

end Reachable
end World
end TunnelControl
