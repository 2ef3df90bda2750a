import TunnelControl.Native.Engine
import TunnelControl.Proofs.TerminalResult

/-!
# What a terminal result is read as

A terminal result has one code for the two ways in which a loop can end, and `verdict` takes
them apart again. `Outcome.ReadAs` says what is read, from the loop's side; `read_as_ended` says
that the two meet for every session that was started, on either engine, whatever codes its
script, its hooks or the library return.

The smallest code is kept for panics. A loop that returns this code is read as one that
panicked, and that is the only outcome that is not told apart.
-/

namespace TunnelControl

open Engine (Note)

/-- What a loop that ended in this way is read as. -/
structure Outcome.ReadAs (outcome : Outcome) (verdict : Except LoopFault Unit) : Prop where
  ok : verdict = .ok () ↔ outcome = .returned 0
  panicked : verdict = .error .panicked ↔
    outcome = .panicked ∨ outcome = .returned Int32.minValue
  engine : ∀ fault, verdict = .error (.engine fault) ↔
    outcome = .returned fault.code ∧ fault.code ≠ 0 ∧ fault.code ≠ Int32.minValue ∧
      fault.context = "main loop"
  errno : ∀ fault, verdict = .error (.engine fault) →
    fault.errno.toInt = fault.code.toInt.natAbs

theorem panicCode_ne_zero : panicCode ≠ 0 := by decide

namespace TerminalResult

variable {r : TerminalResult}

theorem verdict_eq_ok_iff : r.verdict = .ok () ↔ r.code = 0 := by
  unfold verdict
  by_cases success : r.code = 0
  · simp [success]
  · by_cases panic : r.code = panicCode
    · simp [panic, panicCode_ne_zero]
    · simp [success, panic]

theorem verdict_eq_panicked_iff : r.verdict = .error .panicked ↔ r.code = panicCode := by
  unfold verdict
  by_cases success : r.code = 0
  · simp [success, panicCode_ne_zero.symm]
  · by_cases panic : r.code = panicCode
    · simp [panic, panicCode_ne_zero]
    · simp [success, panic]

theorem verdict_eq_engine_iff (fault : EngineFault) : r.verdict = .error (.engine fault) ↔
    r.code ≠ 0 ∧ r.code ≠ panicCode ∧ fault = ⟨"main loop", r.code⟩ := by
  unfold verdict
  by_cases success : r.code = 0
  · simp [success]
  · by_cases panic : r.code = panicCode
    · simp [panic, panicCode_ne_zero]
    · simp [success, panic, eq_comm]

end TerminalResult

/-- The magnitude of a code is a code, unless it is that of the smallest one. -/
theorem EngineFault.toInt_errno {fault : EngineFault} (spared : fault.code ≠ Int32.minValue) :
    fault.errno.toInt = fault.code.toInt.natAbs := by
  have low := Int32.le_toInt fault.code
  have high := Int32.toInt_lt fault.code
  have above : fault.code.toInt ≠ -2147483648 := fun least =>
    spared (Int32.toInt_inj.mp (least.trans (by decide)))
  rw [errno, Errno.toInt_ofCode]
  omega

theorem Outcome.code_eq_iff {outcome : Outcome} {code : Int32} (spared : code ≠ panicCode) :
    outcome.code = code ↔ outcome = .returned code := by
  cases outcome with
  | returned c => simp [Outcome.code]
  | panicked =>
      simp only [Outcome.code, reduceCtorEq, iff_false]
      exact fun same => spared same.symm

theorem Outcome.code_eq_panicCode_iff {outcome : Outcome} :
    outcome.code = panicCode ↔ outcome = .panicked ∨ outcome = .returned Int32.minValue := by
  cases outcome <;> simp [Outcome.code, panicCode]

/-- **The code and back.** What is read off the code that is reported for an outcome. -/
theorem TerminalResult.readAs_verdict (id : EngineId) (outcome : Outcome) :
    outcome.ReadAs (verdict ⟨id, outcome.code⟩) where
  ok := verdict_eq_ok_iff.trans (Outcome.code_eq_iff (by decide))
  panicked := verdict_eq_panicked_iff.trans Outcome.code_eq_panicCode_iff
  engine fault := by
    rw [verdict_eq_engine_iff]
    constructor
    · rintro ⟨failure, spared, rfl⟩
      exact ⟨(Outcome.code_eq_iff spared).mp rfl, failure, spared, rfl⟩
    · rintro ⟨rfl, failure, spared, context⟩
      refine ⟨failure, spared, ?_⟩
      cases fault
      cases context
      rfl
  errno fault failed := by
    obtain ⟨-, spared, rfl⟩ := (verdict_eq_engine_iff fault).mp failed
    exact EngineFault.toInt_errno spared

/-! ## Sessions that were started -/

theorem Native.keepsOutcome : KeepsOutcome Native.Engine where
  access := by
    intro x e result used
    obtain rfl := Option.some.inj used
    obtain ⟨c, failure⟩ := x
    unfold Native.Engine.access
    cases e.descriptor <;> cases failure <;> rfl
  retire _ := rfl
  free _ := rfl

namespace World

section either

variable {ε : Type} [Engine ε] {configs : List RunnerConfig} {w : World ε} {key : Nat}
  {s : Session ε}

/-- What is delivered is the code of the way in which the engine's loop has ended. -/
theorem Reachable.outcome?_of_delivered (keeps : KeepsOutcome ε) (reach : Reachable configs w)
    (found : w.session? key = some s) {result : TerminalResult}
    (delivered : result ∈ deliveries (w.history key)) :
    ∃ outcome, Engine.outcome? s.engine = some outcome ∧ result = ⟨s.id, outcome.code⟩ := by
  have along : Along 0 0 s.id s.status (marks (fun _ => false) (w.history key)) :=
    reach.along (.hidden ε) found
  rw [deliveries_eq] at delivered
  obtain ⟨m, marked, hm⟩ := List.mem_filterMap.mp delivered
  cases m <;> simp only [Mark.delivery?, Option.some.injEq, reduceCtorEq] at hm
  subst hm
  obtain ⟨outcome, ended, rfl⟩ := along.ended_of_delivered marked
  exact ⟨outcome, reach.outcome?_of_ended keeps found ((mem_marks_iff rfl).mp ended), rfl⟩

/-- A session that was started and is gone has delivered its result. -/
theorem Reachable.delivered_of_gone (reach : Reachable configs w)
    (found : w.session? key = some s) {id : EngineId} (started : .started id ∈ w.history key)
    (gone : s.status = .gone) : ∃ result, deliveries (w.history key) = [result] := by
  obtain ⟨-, before, course, -, complete⟩ :=
    (reach.along (.hidden ε) found).of_started ((mem_marks_iff rfl).mpr started)
  rw [deliveries_eq, complete gone]
  exact course.delivery_of_slot _

/-- What a session reports of its loop: what has been delivered is read as its engine's loop has
ended, and by the time that nothing is left of a session that was started there is one result. -/
structure ReportsEnd (w : World ε) (key : Nat) (s : Session ε) : Prop where
  read : ∀ result ∈ deliveries (w.history key),
    ∃ outcome, Engine.outcome? s.engine = some outcome ∧ outcome.ReadAs result.verdict
  delivered : ∀ id, .started id ∈ w.history key → s.status = .gone →
    ∃ result, deliveries (w.history key) = [result]

theorem Reachable.reportsEnd (keeps : KeepsOutcome ε) (reach : Reachable configs w)
    (found : w.session? key = some s) : w.ReportsEnd key s where
  read result delivered := by
    obtain ⟨outcome, ended, rfl⟩ := reach.outcome?_of_delivered keeps found delivered
    exact ⟨outcome, ended, TerminalResult.readAs_verdict s.id outcome⟩
  delivered _ started gone := reach.delivered_of_gone found started gone

/-- The code of a failure is in the one result of a session that is gone. -/
theorem ReportsEnd.exists_failure (told : w.ReportsEnd key s) {id : EngineId} {code : Int32}
    (started : .started id ∈ w.history key) (gone : s.status = .gone)
    (ended : Engine.outcome? s.engine = some (.returned code)) (failure : code ≠ 0)
    (spared : code ≠ Int32.minValue) :
    ∃ result, deliveries (w.history key) = [result] ∧
      result.verdict = .error (.engine ⟨"main loop", code⟩) := by
  obtain ⟨result, delivered⟩ := told.delivered id started gone
  have mem : result ∈ deliveries (w.history key) := by simp [delivered]
  obtain ⟨outcome, ended', read⟩ := told.read result mem
  obtain rfl := Option.some.inj (ended.symm.trans ended')
  exact ⟨result, delivered, (read.engine _).mpr ⟨rfl, failure, spared, rfl⟩⟩

end either

/-- **A terminal result tells how the loop ended**, on either engine. It is read as success of a
loop that returned zero, as a panic of one that panicked or returned the smallest code, and of
any other as a failure with the very code that was returned. -/
theorem result_read_as_ended {configs : List RunnerConfig} {key : Nat} :
    (∀ {w : World Scripted.Engine} {s : Session Scripted.Engine}, Reachable configs w →
      w.session? key = some s → w.ReportsEnd key s) ∧
    ∀ {w : World Native.Engine} {s : Session Native.Engine}, Reachable configs w →
      w.session? key = some s → w.ReportsEnd key s :=
  ⟨fun reach found => reach.reportsEnd Scripted.keepsOutcome found,
    fun reach found => reach.reportsEnd Native.keepsOutcome found⟩

/-- A session is made and comes to its main loop. -/
def brought {ε : Type} [Engine ε] (plan : Engine.Plan ε) : List (Action ε) :=
  [.create plan "agent" .handler, .act 0 (.start 0), .act 0 .reserve, .act 0 (.spawn none),
    .act 0 .enter]

/-- Its loop has ended, and nothing of it is left. -/
def wound {ε : Type} [Engine ε] : List (Action ε) :=
  [.act 0 .finish, .act 0 (.reply .done)] ++ List.replicate 4 (.act 0 .dispose)

/-- A hook ends the loop with the smallest code but one. -/
def hookedRun : List (Action Scripted.Engine) :=
  brought (Scripted.Plan.mk 0 ⟨[.invoke 0], 0, false, none⟩) ++
  [.act 0 (.move Scripted.Move.go), .act 0 (.move Scripted.Move.go),
    .act 0 (.move (Scripted.Move.leave (some (-2147483647))))] ++ wound

/-- The library gives no cookie. -/
def cookielessRun : List (Action Native.Engine) :=
  brought (Native.Plan.mk false) ++
  [.act 0 (.move Native.Move.go), .act 0 (.move (Native.Move.returns (-5)))] ++ wound

theorem hooked_and_cookieless_read :
    (∃ w s result, run hookedRun (new [.default]) = some w ∧ w.session? 0 = some s ∧
      deliveries (w.history 0) = [result] ∧
      result.verdict = .error (.engine ⟨"main loop", -2147483647⟩)) ∧
    ∃ w s result, run cookielessRun (new [.default]) = some w ∧ w.session? 0 = some s ∧
      deliveries (w.history 0) = [result] ∧
      result.verdict = .error (.engine ⟨"main loop", -5⟩) := by
  constructor
  · obtain ⟨w, s, made, found, gone, started, ended⟩ : ∃ w s,
        run hookedRun (new [.default]) = some w ∧ w.session? 0 = some s ∧ s.status = .gone ∧
        .started .first ∈ w.history 0 ∧ s.engine.outcome? = some (.returned (-2147483647)) :=
      ⟨_, _, rfl, rfl, rfl, List.mem_of_getElem? (i := 2) rfl, rfl⟩
    have told := result_read_as_ended.1 (.of_run .start made) found
    obtain ⟨result, read⟩ := told.exists_failure started gone ended (by decide) (by decide)
    exact ⟨w, s, result, made, found, read⟩
  · obtain ⟨w, s, made, found, gone, started, ended⟩ : ∃ w s,
        run cookielessRun (new [.default]) = some w ∧ w.session? 0 = some s ∧ s.status = .gone ∧
        .started .first ∈ w.history 0 ∧ s.engine.outcome? = some (.returned (-5)) :=
      ⟨_, _, rfl, rfl, rfl, List.mem_of_getElem? (i := 4) rfl, rfl⟩
    have told := result_read_as_ended.2 (.of_run .start made) found
    obtain ⟨result, read⟩ := told.exists_failure started gone ended (by decide) (by decide)
    exact ⟨w, s, result, made, found, read⟩

/-- The script itself returns the smallest code. -/
def smallestRun : List (Action Scripted.Engine) :=
  brought (Scripted.Plan.mk 0 ⟨[], Int32.minValue, false, none⟩) ++
  [.act 0 (.move Scripted.Move.go)] ++ wound

/-- The loop has returned, and its result is read as that of a panic. -/
theorem smallest_code_read_as_panic :
    ∃ w s result, run smallestRun (new [.default]) = some w ∧ w.session? 0 = some s ∧
      .started .first ∈ w.history 0 ∧ deliveries (w.history 0) = [result] ∧
      s.engine.outcome? = some (.returned Int32.minValue) ∧
      ¬ (result.verdict = .error .panicked ↔ s.engine.outcome? = some .panicked) := by
  refine ⟨_, _, _, rfl, rfl, List.mem_of_getElem? (i := 2) rfl, rfl, rfl, fun told => ?_⟩
  have panicked := told.mp (by decide)
  cases panicked

end World
end TunnelControl
