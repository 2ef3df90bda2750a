import TunnelControl.Proofs.History

/-!
# The way out of a session

A session whose loop is over, or whose start has failed, comes to its end by acts
of its own that nobody can refuse: `wayOut?` lists them and `run_wayOut` says that
they lead to the end from wherever the session stands.
-/

namespace TunnelControl

variable {ε : Type} [Engine ε]

/-- How many parts of ending the session are left, once it is being ended. -/
def Status.disposals? : Status → Option Nat
  | .retiring _ => some 4
  | .freeing _ => some 3
  | .unbinding _ => some 2
  | .closing _ => some 1
  | .gone => some 0
  | _ => none

/-- What is left to do with a session that is not to run any more; `r` is the
controller's reply to the terminal result, if it is still to come. -/
def Session.wayOut? (r : Reply) (s : Session ε) : Option (List (Session.Act ε)) :=
  match s.status with
  | .running none =>
    (Engine.outcome? s.engine).map fun _ =>
      .finish :: ((if s.usesChannel then [] else [.reply r]) ++ List.replicate 4 .dispose)
  | .reporting _ => some (.reply r :: List.replicate 4 .dispose)
  | status => status.disposals?.map (List.replicate · .dispose)

theorem Status.eq_gone_of_disposals? {status : Status} (h : status.disposals? = some 0) :
    status = .gone := by
  cases status <;> simp [Status.disposals?] at h ⊢

theorem Session.step_dispose {s : Session ε} {n : Nat} (runners : List Runner)
    (h : s.status.disposals? = some (n + 1)) :
    ∃ r, s.step runners .dispose = some r ∧ r.session.status.disposals? = some n := by
  have hstep : s.step runners .dispose = s.dispose? := by
    unfold step
    cases s.status <;> rfl
  rw [hstep]
  unfold dispose?
  cases status : s.status <;> simp [status, Status.disposals?] at h <;> subst h
  case closing aftermath => cases aftermath <;> exact ⟨_, rfl, rfl⟩
  all_goals exact ⟨_, rfl, rfl⟩

section started

variable {ν : Type} {id : EngineId} (happenings : List (Happening ν))

@[simp] theorem started_notMem_inLoop : .started id ∉ happenings.map Happening.inLoop := fun mem =>
  forall_inLoop (p := (· ≠ .started id)) (fun _ => nofun) (fun _ => nofun) _ mem rfl

@[simp] theorem started_notMem_atCaller :
    .started id ∉ happenings.map Happening.atCaller := fun mem =>
  forall_atCaller (p := (· ≠ .started id)) (fun _ => nofun) (fun _ => nofun) _ mem rfl

end started

/-- A session that is being ended goes on being ended, and its loop is not started. -/
theorem Session.Transition.ending {runners : List Runner} {s : Session ε} {a : Session.Act ε}
    {r : Session.Result ε (Engine.Note ε)} (trans : Session.Transition runners s a r)
    (ending : s.status.disposals?.isSome = true) :
    r.session.status.disposals?.isSome = true ∧ ∀ id, .started id ∉ r.seen := by
  cases trans with
  | access used | receive channel | hangUp channel =>
      exact ⟨ending, fun id => by simp [Session.Result.seen, SlotUse.events]⟩
  | retire status | free status | unbind status | close status | returnSlot status =>
      exact ⟨rfl, fun id => by simp [Session.Result.seen, SlotUse.events]⟩
  | @failStart fault logs status logged =>
      subst logged
      refine ⟨rfl, fun id => ?_⟩
      cases fault <;> simp [Session.Result.seen, SlotUse.events]
  | _ => simp_all [Status.disposals?]

namespace World

variable {w : World ε} {key : Nat} {s : Session ε}

/-- Runs on from an act that the session can take. -/
theorem run_act {a : Session.Act ε} {r : Session.Result ε (Engine.Note ε)}
    (found : w.session? key = some s) (h : s.step w.runners a = some r)
    (as : List (Action ε)) :
    run (.act key a :: as) w = run as (w.advance key r) := by
  simp [run, act_of_step found h]

theorem session?_advance_self (found : w.session? key = some s)
    (r : Session.Result ε (Engine.Note ε)) :
    (w.advance key r).session? key = some r.session := by
  rw [session?_advance found, if_pos rfl]

theorem run_dispose {n : Nat} (found : w.session? key = some s)
    (h : s.status.disposals? = some n) :
    ∃ w' s', run (List.replicate n (.act key .dispose)) w = some w' ∧
      w'.session? key = some s' ∧ s'.status = .gone := by
  induction n generalizing w s with
  | zero => exact ⟨w, s, rfl, found, Status.eq_gone_of_disposals? h⟩
  | succ n ih =>
      obtain ⟨r, stepped, hleft⟩ := Session.step_dispose w.runners h
      rw [List.replicate_succ, run_act found stepped]
      exact ih (session?_advance_self found r) hleft

theorem run_reporting {r : Reply} {result : TerminalResult} (taken : r = .done ∨ r = .panic)
    (found : w.session? key = some s) (status : s.status = .reporting result) :
    ∃ w' s', run (.act key (.reply r) :: List.replicate 4 (.act key .dispose)) w = some w' ∧
      w'.session? key = some s' ∧ s'.status = .gone := by
  have fits : r.fits (.terminated result) = true := by
    rcases taken with rfl | rfl <;> rfl
  obtain ⟨logs, stepped⟩ : ∃ logs, s.step w.runners (.reply r) =
      some ⟨s.afterReport, .replied (.terminated result) r :: logs, .unchanged⟩ := by
    simp only [Session.step, status, fits, if_true]
    exact ⟨_, rfl⟩
  rw [run_act found stepped]
  exact run_dispose (session?_advance_self found _) rfl

/-- **The way out is open.** Whatever a controller makes of the terminal result, a
session that is not to run any more comes to its end. -/
theorem run_wayOut {r : Reply} {acts : List (Session.Act ε)} (taken : r = .done ∨ r = .panic)
    (found : w.session? key = some s) (way : s.wayOut? r = some acts) :
    ∃ w' s', run (acts.map (.act key)) w = some w' ∧
      w'.session? key = some s' ∧ s'.status = .gone := by
  unfold Session.wayOut? at way
  split at way
  · rename_i status
    obtain ⟨outcome, finished, rfl⟩ := Option.map_eq_some_iff.mp way
    have stepped : s.step w.runners .finish =
        some ⟨(s.report outcome).1, (s.report outcome).2, .unchanged⟩ := by
      simp [Session.step, status, finished]
    rw [List.map_cons, run_act found stepped]
    have next := session?_advance_self found
      ⟨(s.report outcome).1, (s.report outcome).2, .unchanged⟩
    cases channel : s.usesChannel with
    | true =>
        have hleft : (s.report outcome).1.status.disposals? = some 4 := by
          simp [Session.report, channel, Session.afterReport, Status.disposals?]
        simpa using run_dispose next hleft
    | false =>
        have told : (s.report outcome).1.status = .reporting ⟨s.id, outcome.code⟩ := by
          simp [Session.report, channel]
        simpa using run_reporting taken next told
  · rename_i result status
    cases way
    simpa using run_reporting taken found status
  · obtain ⟨n, hleft, rfl⟩ := Option.map_eq_some_iff.mp way
    simpa using run_dispose found hleft

end World
end TunnelControl
