import TunnelControl.Proofs.Ending

/-!
# Runs of one session

`World.LeadsTo` says that acts of one session can be made one after the other, where
they take it, and what is seen of them. A run is put together from single acts, whatever
the other sessions are at.
-/

namespace TunnelControl
namespace World

variable {ε : Type} [Engine ε] {w : World ε} {key : Nat} {s s₁ s₂ : Session ε}

/-- The acts can be made in this order. They take the session to `s`, and `new` is what
is seen of it. -/
def LeadsTo (w : World ε) (key : Nat) (acts : List (Action ε)) (s : Session ε)
    (new : List (Event (Engine.Note ε))) : Prop :=
  ∃ w', run acts w = some w' ∧ w'.session? key = some s ∧ w'.history key = w.history key ++ new

theorem run_append (as bs : List (Action ε)) (w : World ε) :
    run (as ++ bs) w = (run as w).bind (run bs) := by
  induction as generalizing w with
  | nil => rfl
  | cons a as ih =>
      rw [List.cons_append, run, run, Option.bind_assoc]
      exact congrArg _ (funext ih)

/-- What can be said of all that is seen next can be said of what is seen next. -/
theorem LeadsTo.trans_exists {as bs : List (Action ε)} {new : List (Event (Engine.Note ε))}
    {P : List (Event (Engine.Note ε)) → Prop} (first : w.LeadsTo key as s₁ new)
    (next : ∀ w' : World ε, w'.session? key = some s₁ →
      ∃ new', w'.LeadsTo key bs s₂ new' ∧ P new') :
    ∃ new', w.LeadsTo key (as ++ bs) s₂ (new ++ new') ∧ P new' := by
  obtain ⟨w₁, ran, found, history⟩ := first
  obtain ⟨new', ⟨w₂, ran', found', history'⟩, holds⟩ := next w₁ found
  refine ⟨new', ⟨w₂, ?_, found', ?_⟩, holds⟩
  · rw [run_append, ran]
    exact ran'
  · rw [history', history, List.append_assoc]

theorem LeadsTo.trans {as bs : List (Action ε)} {new new' : List (Event (Engine.Note ε))}
    (first : w.LeadsTo key as s₁ new)
    (next : ∀ w' : World ε, w'.session? key = some s₁ → w'.LeadsTo key bs s₂ new') :
    w.LeadsTo key (as ++ bs) s₂ (new ++ new') := by
  obtain ⟨_, leads, rfl⟩ :=
    first.trans_exists (P := (· = new')) fun w' found => ⟨new', next w' found, rfl⟩
  exact leads

/-- The acts can be followed by others. -/
theorem LeadsTo.exists_trans {as bs : List (Action ε)} {new : List (Event (Engine.Note ε))}
    (first : w.LeadsTo key as s₁ new)
    (next : ∀ w' : World ε, w'.session? key = some s₁ → ∃ new', w'.LeadsTo key bs s₂ new') :
    ∃ new', w.LeadsTo key (as ++ bs) s₂ new' := by
  obtain ⟨new', leads, -⟩ := first.trans_exists (P := fun _ => True) fun w' found =>
    (next w' found).imp fun _ leads => ⟨leads, trivial⟩
  exact ⟨_, leads⟩

theorem leadsTo_of_step {a : Session.Act ε} {r : Session.Result ε (Engine.Note ε)}
    (found : w.session? key = some s) (stepped : s.step w.runners a = some r) :
    w.LeadsTo key [.act key a] r.session r.seen := by
  refine ⟨w.advance key r, ?_, session?_advance_self found r, ?_⟩
  · rw [run_act found stepped]
    rfl
  · rw [history_advance, if_pos rfl]

/-- A move that calls nobody. -/
theorem leadsTo_of_move {m : Engine.Move ε} {turn : Turn ε (Engine.Note ε)}
    (found : w.session? key = some s) (status : s.status = .running none)
    (moved : Engine.move m s.engine = some turn) (silent : turn.call = none) :
    w.LeadsTo key [.act key (.move m)] { s with engine := turn.engine }
      (turn.happenings.map Happening.inLoop) := by
  have stepped : s.step w.runners (.move m) =
      some ⟨{ s with engine := turn.engine }, turn.happenings.map Happening.inLoop ++ [],
        .unchanged⟩ := by
    simp [Session.step, status, moved, silent]
  simpa [Session.Result.seen, SlotUse.events] using leadsTo_of_step found stepped

/-- A move that asks the controller, and the reply. -/
theorem leadsTo_of_reply {m : Engine.Move ε} {turn : Turn ε (Engine.Note ε)} {call : Callback}
    {r : Reply} (found : w.session? key = some s) (status : s.status = .running none)
    (moved : Engine.move m s.engine = some turn) (asked : turn.call = some call)
    (plain : call.notice? = none) (fits : r.fits call = true) :
    w.LeadsTo key [.act key (.move m), .act key (.reply r)]
      { s with engine := (Engine.resume call r turn.engine).1 }
      (turn.happenings.map Happening.inLoop ++ call.announcement.map .log ++
        [.called call, .replied call r] ++ (r.remark call).map .log ++
        (Engine.resume call r turn.engine).2.map Happening.inLoop) := by
  have stepped : s.step w.runners (.move m) =
      some ⟨{ s with engine := turn.engine, status := .running (some call) },
        turn.happenings.map Happening.inLoop ++ (call.announcement.map .log ++ [.called call]),
        .unchanged⟩ := by
    simp [Session.step, status, moved, asked, Session.dispatch, plain]
  have replies : ∀ w' : World ε,
      w'.session? key = some { s with engine := turn.engine, status := .running (some call) } →
      w'.LeadsTo key [.act key (.reply r)]
        { s with engine := (Engine.resume call r turn.engine).1, status := .running none }
        ([.replied call r] ++ (r.remark call).map .log ++
          (Engine.resume call r turn.engine).2.map Happening.inLoop ++ []) := by
    intro w' found'
    have stepped' : Session.step w'.runners (.reply r)
        { s with engine := turn.engine, status := .running (some call) } = some
          ⟨{ s with engine := (Engine.resume call r turn.engine).1, status := .running none },
            [.replied call r] ++ (r.remark call).map .log ++
              (Engine.resume call r turn.engine).2.map Happening.inLoop, .unchanged⟩ := by
      simp [Session.step, fits]
    exact leadsTo_of_step found' stepped'
  have both := (leadsTo_of_step found stepped).trans replies
  simpa [Session.Result.seen, SlotUse.events, status] using both

end World
end TunnelControl
