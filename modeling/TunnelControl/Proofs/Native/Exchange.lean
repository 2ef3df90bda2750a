import TunnelControl.Native.Engine
import TunnelControl.Proofs.Runs

/-!
# Forms between library and controller

The library calls in with a form, the controller replies, and answers are written back
to the library, which takes or refuses each. `Exchange` says what the library sees of
this until its call is answered: the values that are written, in order, and the code.

Nothing in an exchange is left to the engine. After the controller's reply it makes one
library call for each answer, and goes on only once that has returned; the call that is
refused is the last.
-/

namespace TunnelControl
namespace Native

open World (LeadsTo)

/-! ## What the library sees -/

/-- The library calls in a history. -/
def libraryCalls (h : List (Event Note)) : List Call :=
  h.filterMap fun | .note (.call c) => some c | _ => none

/-- The codes with which calls of the library were answered. -/
def codesAnswered (h : List (Event Note)) : List Int32 :=
  h.filterMap fun | .note (.answered _ rc) => some rc | _ => none

/-- The value that a library call writes, and the node that it is written to. -/
def Call.written? : Call → Option (Slot × List UInt8)
  | .setOptionValue slot value => some (slot, value.bytes)
  | _ => none

theorem libraryCalls_append (h h' : List (Event Note)) :
    libraryCalls (h ++ h') = libraryCalls h ++ libraryCalls h' :=
  List.filterMap_append

theorem codesAnswered_append (h h' : List (Event Note)) :
    codesAnswered (h ++ h') = codesAnswered h ++ codesAnswered h' :=
  List.filterMap_append

/-- An answer as it is seen by the library. -/
def Answer.written (a : Answer) : Slot × List UInt8 := (a.slot, a.value.bytes)

/-! ## Exchanges -/

/-- Values are written and the library returns these codes for them. -/
def writing (key : Nat) (codes : List Int32) : List (Action Engine) :=
  codes.flatMap fun rc => [.act key (.move Move.go), .act key (.move (Move.returns rc))]

/-- The library calls in with a form, and the controller replies; then the library
returns these codes for values that are written. -/
def formCallback (key : Nat) (f : AuthForm) (r : Reply) (codes : List Int32) :
    List (Action Engine) :=
  [.act key (.move (Move.enters (.form (some f)) true)), .act key (.reply r)] ++ writing key codes

/-- **An exchange.** All that the library gets until its call is answered are these
values, and the code. The session is then where it was before. -/
def Exchange (w : World Engine) (key : Nat) (s : Session Engine) (f : AuthForm) (r : Reply)
    (codes : List Int32) (values : List (Slot × List UInt8)) (code : Int32) : Prop :=
  ∃ new, w.LeadsTo key (formCallback key f r codes) s new ∧
    (libraryCalls new).map Call.written? = values.map some ∧ codesAnswered new = [code]

/-- How many values the library takes before it refuses one. -/
def taken (codes : List Int32) : Nat := (codes.takeWhile (· = 0)).length

@[simp] theorem taken_zero_cons (codes : List Int32) : taken (0 :: codes) = taken codes + 1 := by
  simp [taken]

theorem taken_cons_of_ne {code : Int32} (refused : code ≠ 0) (codes : List Int32) :
    taken (code :: codes) = 0 := by
  simp [taken, refused]

section exchanges

variable {w : World Engine} {key : Nat} {s : Session Engine} {stage : Stage} {entry : Entry}

theorem writing_cons (rc : Int32) (codes : List Int32) :
    writing key (rc :: codes) = writing key [rc] ++ writing key codes := rfl

/-- A value is written, and the library takes it. -/
theorem leadsTo_of_taken {code : Int32} {a : Answer} {left : List Answer}
    (found : w.session? key = some s) (status : s.status = .running none)
    (point : s.engine.point = .writing stage entry code (a :: left)) :
    w.LeadsTo key (writing key [0])
      { s with engine := (s.engine.follow stage entry (.write code left)).1 }
      ([.note (.call (.setOptionValue a.slot a.value))] ++
        (s.engine.follow stage entry (.write code left)).2.map Happening.inLoop) := by
  have made : s.engine.move .go = some ⟨s.engine.moveTo (.written stage entry code a left),
      Engine.called (.setOptionValue a.slot a.value), none⟩ := by
    simp [Engine.move, point]
  refine (World.leadsTo_of_move found status made rfl).trans fun w' found' => ?_
  exact World.leadsTo_of_move (m := Move.returns 0) found' status rfl rfl

/-- A value is written, and the library refuses it. -/
theorem leadsTo_of_refused {rc code : Int32} {a : Answer} {left : List Answer}
    (found : w.session? key = some s) (status : s.status = .running none)
    (point : s.engine.point = .writing stage entry code (a :: left)) (refused : rc ≠ 0) :
    w.LeadsTo key (writing key [rc]) { s with engine := s.engine.moveTo (.inside stage) }
      [.note (.call (.setOptionValue a.slot a.value)),
        .log (.writeBackFailed (.rejected a.option)),
        .note (.answered entry FormResult.failed.raw)] := by
  have made : s.engine.move .go = some ⟨s.engine.moveTo (.written stage entry code a left),
      Engine.called (.setOptionValue a.slot a.value), none⟩ := by
    simp [Engine.move, point]
  refine (World.leadsTo_of_move found status made rfl).trans fun w' found' => ?_
  have returned : (s.engine.moveTo (.written stage entry code a left)).move (.returns rc) =
      some ⟨s.engine.moveTo (.inside stage), [.log (.writeBackFailed (.rejected a.option)),
        .note (.answered entry FormResult.failed.raw)], none⟩ := by
    simp [Engine.move, Engine.moveTo, Engine.goBack, refused]
  exact World.leadsTo_of_move (m := Move.returns rc) found' status returned rfl

/-- **Writing back.** Values are written in order, up to the first one that the library
refuses. The code of the library's own call tells whether there was one. -/
theorem leadsTo_of_writing {code : Int32} {a : Answer} {left : List Answer} {codes : List Int32}
    (found : w.session? key = some s) (status : s.status = .running none)
    (point : s.engine.point = .writing stage entry code (a :: left))
    (length : codes.length = left.length + 1) :
    ∃ new, w.LeadsTo key (writing key (codes.take (taken codes + 1)))
        { s with engine := s.engine.moveTo (.inside stage) } new ∧
      (libraryCalls new).map Call.written? =
        (((a :: left).take (taken codes + 1)).map Answer.written).map some ∧
      codesAnswered new = [if taken codes = codes.length then code else FormResult.failed.raw] := by
  induction codes generalizing a left w s with
  | nil => simp at length
  | cons rc codes ih =>
      by_cases refused : rc = 0
      · subst rc
        have first := leadsTo_of_taken found status point
        rw [taken_zero_cons, List.take_succ_cons, List.take_succ_cons, writing_cons]
        cases left with
        | nil =>
            obtain rfl : codes = [] := List.eq_nil_of_length_eq_zero (by simpa using length)
            exact ⟨_, first, rfl, rfl⟩
        | cons b left =>
            have next : codes.length = left.length + 1 := by simpa using length
            obtain ⟨new, leads, calls, answered⟩ :=
              first.trans_exists fun w' found' => ih (w := w') found' status rfl next
            refine ⟨_, leads, ?_, ?_⟩
            · rw [libraryCalls_append, List.map_append, calls]
              rfl
            · rw [codesAnswered_append, answered]
              simp [codesAnswered, Engine.follow]
      · rw [taken_cons_of_ne refused]
        exact ⟨_, leadsTo_of_refused found status point refused, rfl, rfl⟩

/-- Going back into the library leaves the session as it was before. -/
theorem back_inside (inside : s.engine.point = .inside stage) :
    { s with engine := s.engine.moveTo (.inside stage) } = s := by
  rw [← inside]
  rfl

theorem follow_moveTo (e : Engine) (p : Point) (verdict : Verdict) :
    (e.moveTo p).follow stage entry verdict = e.follow stage entry verdict := by
  unfold Engine.follow
  split <;> rfl

/-- The library calls in with a form, and the controller replies. -/
theorem leadsTo_of_entry {f : AuthForm} {r : Reply} (found : w.session? key = some s)
    (status : s.status = .running none) (inside : s.engine.point = .inside stage)
    (fits : r.fits (.form f.read.1) = true) :
    w.LeadsTo key [.act key (.move (Move.enters (.form (some f)) true)), .act key (.reply r)]
      { s with engine := (s.engine.follow stage (.form (some f))
          (Verdict.ofReply (.form (some f)) r)).1 }
      ([.called (.form f.read.1), .replied (.form f.read.1) r] ++
        (s.engine.follow stage (.form (some f))
          (Verdict.ofReply (.form (some f)) r)).2.map Happening.inLoop) := by
  have moved : s.engine.move (.enters (.form (some f)) true) =
      some ⟨s.engine.moveTo (.asking stage (.form (some f))), [], some (.form f.read.1)⟩ := by
    simp [Engine.move, inside, Engine.callIn, Entry.callback?]
  have resumed : ∀ call, TunnelControl.Engine.resume call r
      (s.engine.moveTo (.asking stage (.form (some f)))) =
        s.engine.follow stage (.form (some f)) (Verdict.ofReply (.form (some f)) r) :=
    fun _ => follow_moveTo ..
  have silent : r.remark (.form f.read.1) = [] := by
    unfold Reply.remark
    split <;> trivial
  have asked := World.leadsTo_of_reply found status moved rfl rfl fits
  simp only [resumed, silent] at asked
  exact asked

/-- Where the controller's reply leaves nothing to be written, its code is answered. -/
theorem exchange_of_answer {f : AuthForm} {r : Reply} {code : Int32} {log : List Log.Entry}
    (found : w.session? key = some s) (status : s.status = .running none)
    (inside : s.engine.point = .inside stage) (fits : r.fits (.form f.read.1) = true)
    (verdict : Verdict.ofReply (.form (some f)) r = .answer (some code) log) :
    Exchange w key s f r [] [] code := by
  have leads := leadsTo_of_entry found status inside fits
  rw [verdict] at leads
  refine ⟨_, back_inside inside ▸ leads, ?_, ?_⟩
  · simp [libraryCalls, Engine.follow, Engine.goBack, Happening.inLoop]
  · simp [codesAnswered, Engine.follow, Engine.goBack, Happening.inLoop]

/-- Answers that can be passed on are written to the library. -/
theorem exchange_of_write {f : AuthForm} {r : Reply} {code : Int32} {answers : List Answer}
    {codes : List Int32} (found : w.session? key = some s) (status : s.status = .running none)
    (inside : s.engine.point = .inside stage) (fits : r.fits (.form f.read.1) = true)
    (verdict : Verdict.ofReply (.form (some f)) r = .write code answers)
    (length : codes.length = answers.length) :
    Exchange w key s f r (codes.take (taken codes + 1))
      ((answers.take (taken codes + 1)).map Answer.written)
      (if taken codes = codes.length then code else FormResult.failed.raw) := by
  have leads := leadsTo_of_entry found status inside fits
  rw [verdict] at leads
  cases answers with
  | nil =>
      obtain rfl : codes = [] := List.eq_nil_of_length_eq_zero length
      exact ⟨_, back_inside inside ▸ leads, rfl, rfl⟩
  | cons a left =>
      obtain ⟨new, run, calls, answered⟩ :=
        leads.trans_exists fun w' found' => leadsTo_of_writing (w := w') found' status rfl length
      have done : w.LeadsTo key (formCallback key f r (codes.take (taken codes + 1)))
        { s with engine := s.engine.moveTo (.inside stage) } _ := run
      rw [back_inside inside] at done
      exact ⟨_, done, calls, answered⟩

/-- **Exchanges are determined.** What the library returns for the values settles what it
is given, and when its call is answered. -/
theorem Exchange.unique {f : AuthForm} {r : Reply} {codes codes' : List Int32}
    {values values' : List (Slot × List UInt8)} {code code' : Int32}
    (exchange : Exchange w key s f r codes values code)
    (exchange' : Exchange w key s f r codes' values' code')
    (status : s.status = .running none) (inside : s.engine.point = .inside stage)
    (agree : codes <+: codes') :
    values' = values ∧ code' = code := by
  obtain ⟨rest, rfl⟩ := agree
  obtain ⟨new, ⟨w₁, ran, found, history⟩, written, answered⟩ := exchange
  obtain ⟨new', ⟨w₂, ran', -, history'⟩, written', answered'⟩ := exchange'
  have acts : formCallback key f r (codes ++ rest) =
      formCallback key f r codes ++ writing key rest := by
    simp [formCallback, writing]
  rw [acts, World.run_append, ran, Option.bind_some] at ran'
  cases rest with
  | nil =>
      cases ran'
      obtain rfl := List.append_cancel_left (history.symm.trans history')
      rw [written] at written'
      rw [answered] at answered'
      exact ⟨((List.map_inj_right fun _ _ => Option.some.inj).mp written').symm,
        (List.cons.inj answered').1.symm⟩
  | cons rc rest =>
      -- Back in the library, the loop has nothing to do by itself.
      have stuck : w₁.step (.act key (.move Move.go)) = none := by
        have idle : TunnelControl.Engine.move Move.go s.engine = none := by
          simp [TunnelControl.Engine.move, Engine.move, inside]
        simp [World.step, found, Session.step, status, idle]
      simp [writing, World.run, stuck] at ran'

end exchanges

end Native
end TunnelControl
