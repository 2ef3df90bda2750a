import TunnelControl.Proofs.Scripted.Answers

/-!
# Nothing is done past a refusal

A step whose question is refused ends the loop with the code of the refusal. It is the
last that the controller hears of the loop, so that in a journal all answers but the
last one are accepted, whatever came in between: commands, panics, or what hooks asked.

The forms that were submitted are the ones that were answered with zero, as the
controller left them. A form answer and the submission are two records; between the two
the submission is missing.
-/

namespace TunnelControl

namespace Reply

theorem refusal?_eq_none_iff {r : Reply} :
    r.refusal? = none ↔ ∀ n ∈ r.notes, n.refusal? = none :=
  List.findSome?_eq_none_iff

/-- The records of one answer in two parts. Only a form that is submitted makes two. -/
theorem notes_eq_append {r : Reply} {before after : List Scripted.JournalNote}
    (notes : r.notes = before ++ after) :
    before = [] ∨ after = [] ∨
      ∃ f, r = .form f .ok ∧ before = [.form 0] ∧ after = [.submitted f.responses] := by
  rcases before with _ | ⟨n, before⟩
  · exact Or.inl rfl
  rcases after with _ | ⟨n', after⟩
  · exact Or.inr (Or.inl rfl)
  refine Or.inr (Or.inr ?_)
  have two : 2 ≤ r.notes.length := by
    rw [notes]
    simp
    omega
  cases r with
  | form f result =>
      cases result with
      | ok =>
          refine ⟨f, rfl, ?_⟩
          rcases before with _ | ⟨n'', before⟩
          · cases notes
            exact ⟨rfl, rfl⟩
          · cases before <;> cases notes
      | failed | cancelled | newGroup => simp [Reply.notes] at two
  | certificate | browser | done | panic => simp [Reply.notes] at two

end Reply

namespace Scripted

/-! ## Forms -/

/-- What was submitted with the forms that were answered with zero. -/
def submissions (forms : List (Form × Int32)) : List (List (String × String)) :=
  (forms.filter fun (_, raw) => raw = 0).map fun (f, _) => f.responses

@[simp] theorem submissions_append (forms forms' : List (Form × Int32)) :
    submissions (forms ++ forms') = submissions forms ++ submissions forms' := by
  simp [submissions]

/-- Only records of answers are seen by the views of answers. -/
theorem filterMap_answers {α : Type} {view : JournalNote → Option α} {j : Journal}
    (blind : ∀ n, n.isAnswer = false → view n = none) :
    (answers j).filterMap view = j.filterMap view := by
  rw [answers, List.filterMap_filter]
  refine List.filterMap_congr fun n _ => ?_
  split
  · rfl
  · rename_i other
    exact (blind n (by simpa using other)).symm

theorem formAnswers_answers (j : Journal) : (answers j).formAnswers = j.formAnswers :=
  filterMap_answers fun n other => by cases n <;> first | rfl | cases other

theorem submitted_answers (j : Journal) : (answers j).submitted = j.submitted :=
  filterMap_answers fun n other => by cases n <;> first | rfl | cases other

theorem formAnswers_append (j j' : Journal) :
    Journal.formAnswers (j ++ j') = j.formAnswers ++ j'.formAnswers := List.filterMap_append

theorem submitted_append (j j' : Journal) :
    Journal.submitted (j ++ j') = j.submitted ++ j'.submitted := List.filterMap_append

/-- The codes and the submissions in the records of a list of answers. -/
theorem forms_of_notes (rs : List Reply) :
    Journal.formAnswers (rs.flatMap Reply.notes) = (rs.filterMap Reply.form?).map Prod.snd ∧
    Journal.submitted (rs.flatMap Reply.notes) = submissions (rs.filterMap Reply.form?) := by
  induction rs with
  | nil => exact ⟨rfl, rfl⟩
  | cons r rs ih =>
      obtain ⟨codes, responses⟩ := ih
      rw [List.flatMap_cons, formAnswers_append, submitted_append, codes, responses]
      cases r with
      | form f result => cases result <;> exact ⟨rfl, rfl⟩
      | certificate | browser | done | panic => exact ⟨rfl, rfl⟩

variable {p : Point} {h : List (Event Note)}

/-- Of the forms whose answers are in the journal, each one that was answered with zero
is submitted, but for the last one if its answer is the last record of all. -/
def Submitted (bs : List Beat) (j : Journal) : Prop :=
  ∃ forms waiting, (stepReplies bs).filterMap Reply.form? = forms ++ waiting ∧
    j.formAnswers = forms.map Prod.snd ∧
    (j.submitted = submissions forms ∨
      j.getLast? = some (.form 0) ∧ ∃ last, submissions forms = j.submitted ++ [last])

theorem Answered.submitted (answered : Answered p h) : Submitted (beats h) (recorded h) := by
  unfold Submitted
  have written := answered.written
  rw [← formAnswers_answers (recorded h), ← submitted_answers (recorded h)]
  -- Where no answer is recorded in part, the forms are those of the answers recorded.
  have whole : ∀ rs : List Reply, answers (recorded h) = rs.flatMap Reply.notes →
      (answers (recorded h)).formAnswers = (rs.filterMap Reply.form?).map Prod.snd ∧
        (answers (recorded h)).submitted = submissions (rs.filterMap Reply.form?) := by
    intro rs all
    rw [all]
    exact forms_of_notes rs
  rcases answered.place with none | ⟨earlier, r, before, last, notes, recent⟩
  · rw [none, List.append_nil] at written
    obtain ⟨codes, responses⟩ := whole _ written
    exact ⟨_, [], (List.append_nil _).symm, codes, Or.inl responses⟩
  · rw [last, List.flatMap_append, List.flatMap_singleton, notes, ← List.append_assoc] at written
    have written := List.append_cancel_right written
    rcases Reply.notes_eq_append notes with rfl | none | ⟨f, rfl, rfl, ready⟩
    · rw [List.append_nil] at written
      obtain ⟨codes, responses⟩ := whole _ written
      exact ⟨_, _, by rw [last, List.filterMap_append], codes, Or.inl responses⟩
    · rw [none, List.append_nil] at notes
      have all : answers (recorded h) = (stepReplies (beats h)).flatMap Reply.notes := by
        rw [written, last, List.flatMap_append, List.flatMap_singleton, notes]
      obtain ⟨codes, responses⟩ := whole _ all
      exact ⟨_, [], (List.append_nil _).symm, codes, Or.inl responses⟩
    · obtain ⟨codes, responses⟩ := forms_of_notes earlier
      refine ⟨_, [], (List.append_nil _).symm, ?_, Or.inr ⟨?_, f.responses, ?_⟩⟩
      · rw [written, last, formAnswers_append, codes, List.filterMap_append, List.map_append]
        rfl
      · obtain ⟨first, split⟩ := recent
        rw [← split, List.getLast?_concat]
      · rw [written, last, submitted_append, responses, List.filterMap_append, submissions_append,
          List.append_assoc]
        rfl

/-! ## Refusals -/

theorem Reply.pairwise_notes (r : Reply) : r.notes.Pairwise fun n _ => n.refusal? = none := by
  cases r with
  | form f result => cases result <;> simp [Reply.notes, JournalNote.refusal?, FormResult.raw]
  | certificate | browser => exact List.pairwise_singleton ..
  | done | panic => exact List.Pairwise.nil

/-- Of the answers in a journal only the last one may refuse. -/
theorem Answered.pairwise (answered : Answered p h) :
    (answers (recorded h)).Pairwise fun n _ => n.refusal? = none := by
  have all : ((stepReplies (beats h)).flatMap Reply.notes).Pairwise
      fun n _ => n.refusal? = none := by
    refine List.pairwise_flatMap.mpr ⟨fun r _ => Reply.pairwise_notes r, ?_⟩
    exact answered.refused.imp fun accepted n hn _ _ => Reply.refusal?_eq_none_iff.mp accepted n hn
  rw [← answered.written] at all
  exact (List.pairwise_append.mp all).1

theorem isAnswer_of_refusal? {n : JournalNote} {code : Int32} (refuses : n.refusal? = some code) :
    n.isAnswer = true := by
  cases n <;> first | rfl | cases refuses

/-- Before an answer that refuses all are accepted, and none comes after it. -/
theorem Answered.earlier {pre post : Journal} {n : JournalNote} {code : Int32}
    (answered : Answered p h) (split : recorded h = pre ++ n :: post)
    (refuses : n.refusal? = some code) :
    (∀ m ∈ pre, m.refusal? = none) ∧ ∀ m ∈ post, m.isAnswer = false := by
  have own : answers (n :: post) = n :: answers post :=
    List.filter_cons_of_pos (isAnswer_of_refusal? refuses)
  have ordered := answered.pairwise
  rw [split, answers_append, own] at ordered
  obtain ⟨-, after, before⟩ := List.pairwise_append.mp ordered
  constructor
  · intro m hm
    cases answer : m.refusal? with
    | none => rfl
    | some code' =>
        have mem : m ∈ answers pre := List.mem_filter.mpr ⟨hm, isAnswer_of_refusal? answer⟩
        have accepted := before m mem n List.mem_cons_self
        simp [answer] at accepted
  · intro m hm
    by_contra answer
    have mem : m ∈ answers post := List.mem_filter.mpr ⟨hm, by simpa using answer⟩
    have accepted := List.rel_of_pairwise_cons after mem
    simp [refuses] at accepted

/-- Of what is recorded, all but the answer that refuses is accepted, recorded itself
or not. -/
theorem Answered.accepted {pre post : List Beat} {call : Callback} {r : Reply} {code : Int32}
    (answered : Answered p h) (split : beats h = pre ++ .replied call r :: post)
    (place : inHook pre = false) (refuses : r.refusal? = some code) :
    ∃ before, (∀ n ∈ before, n.refusal? = none) ∧
      (answers (recorded h) = before ∨ answers (recorded h) = before ++ r.notes) := by
  obtain ⟨rest, replies⟩ : ∃ rest, stepReplies (beats h) = stepReplies pre ++ r :: rest := by
    rw [split]
    exact stepReplies_split (by rw [place]; rfl)
  have refused := answered.refused
  rw [replies] at refused
  obtain ⟨-, after, first⟩ := List.pairwise_append.mp refused
  -- No answer comes after the one that refuses.
  have last : rest = [] := by
    refine List.eq_nil_iff_forall_not_mem.mpr fun r' hr' => ?_
    have accepted := List.rel_of_pairwise_cons after hr'
    simp [refuses] at accepted
  subst last
  refine ⟨(stepReplies pre).flatMap Reply.notes, ?_, ?_⟩
  · intro n hn
    obtain ⟨r', hr', hn⟩ := List.mem_flatMap.mp hn
    exact Reply.refusal?_eq_none_iff.mp (first r' hr' r List.mem_cons_self) n hn
  · have written := answered.written
    rw [replies, List.flatMap_append, List.flatMap_singleton] at written
    rcases answered.place with none | ⟨earlier, r', before, same, notes, -⟩
    · rw [none, List.append_nil] at written
      exact Or.inr written
    · obtain ⟨-, same⟩ := List.append_inj' (replies.symm.trans same) rfl
      cases same
      rcases Reply.notes_eq_append notes with rfl | none | ⟨f, rfl, -⟩
      · rw [notes, List.nil_append] at written
        exact Or.inl (List.append_cancel_right written)
      · rw [none, List.append_nil] at written
        exact Or.inr written
      · cases refuses

/-! ## Outcomes -/

theorem mem_endings {pre post : List Beat} {x : Beat} {outcome : Outcome}
    (ends : x.ending? (inHook pre) = some outcome) : outcome ∈ endings (pre ++ x :: post) := by
  rw [endings, endingsFrom_append, endingsFrom]
  refine List.mem_append_right _ (List.mem_append_left _ ?_)
  exact Option.mem_toList.mpr ends

/-- A loop that has been asked to end is certain of its outcome. -/
theorem Going.fate_of_ending {e : Engine} {asked : Option Callback} {bs : List Beat}
    {outcome : Outcome} (going : Going e asked bs) (ends : outcome ∈ endings bs) :
    e.point.fate? = some outcome := by
  rcases going.ends with all | ⟨-, none, -⟩
  · rw [all] at ends
    exact Option.mem_toList.mp ends
  · simp [none] at ends

section runs

variable {configs : List RunnerConfig} {w : World Engine} {key : Nat} {s : Session Engine}

/-- A loop that has been asked to end is over with that outcome, or gets to it by
itself. -/
theorem Tells.ends {outcome : Outcome} (tells : Tells s (beats (w.history key)))
    (found : w.session? key = some s) (ends : outcome ∈ endings (beats (w.history key))) :
    (∀ outcome', s.engine.outcome? = some outcome' → outcome' = outcome) ∧
      ∃ n w' s', World.run (List.replicate n (.act key (.move Move.go))) w = some w' ∧
        w'.session? key = some s' ∧ s'.engine.outcome? = some outcome := by
  rcases tells.loop.cases with fresh | ⟨asked, going, state⟩
  · simp [fresh.endings] at ends
  have fate := going.fate_of_ending ends
  constructor
  · intro outcome' returned
    rw [point_of_outcome? returned] at fate
    exact Option.some.inj fate
  · rcases state with status | ⟨outcome', point⟩
    · -- A loop that waits for a reply has not been asked to end.
      cases asked with
      | none => exact run_to_fate fate found status rfl
      | some call => simp [going.stands.calm_of_asked.1] at fate
    · rw [point] at fate
      cases fate
      exact ⟨0, w, s, rfl, found, by simp [Engine.outcome?, point]⟩

theorem answered_of_reachable (reach : World.Reachable configs w)
    (found : w.session? key = some s) : Answered s.engine.point (w.history key) := by
  refine engine_invariant (P := fun e h => Answered e.point h) ?_ ?_ reach found
  · intro plan agent
    exact ⟨rfl, Or.inl rfl, List.Pairwise.nil⟩
  · intro s e' h new tells stepped answered
    exact answered.stepped tells.going_of_entered stepped

/-- What becomes of a session and its journal once a step got an answer that refuses,
with the code for it. -/
structure Refused (w : World Engine) (key : Nat) (s : Session Engine) (j : Journal) (r : Reply)
    (code : Int32) (post : List Beat) : Prop where
  /-- The loop does nothing more: no step begins, and the controller is not called. -/
  last : ∀ y ∈ post, y.isWork = false
  /-- But for this one, the answers in the journal do not refuse. -/
  accepted : ∃ before, (∀ n ∈ before, n.refusal? = none) ∧
    (answers j = before ∨ answers j = before ++ r.notes)
  outcome : ∀ outcome, s.engine.outcome? = some outcome → outcome = .returned code
  reached : ∃ n w' s', World.run (List.replicate n (.act key (.move Move.go))) w = some w' ∧
    w'.session? key = some s' ∧ s'.engine.outcome? = some (.returned code)

/-- **Nothing is done past a refusal.** An answer to a step that refuses is the last
that the loop gets, and the loop returns the code for it. Before such an answer the
journal has only answers that do not refuse, and after it none. Each form that was
answered with zero is submitted as the controller left it, in order; only between the
two records of one form is its submission missing. -/
theorem nothing_done_past_refusal (reach : World.Reachable configs w)
    (found : w.session? key = some s) (alone : WritesAlone w key) :
    (∀ pre call r post code, beats (w.history key) = pre ++ .replied call r :: post →
      inHook pre = false → r.refusal? = some code →
      Refused w key s (journal s.engine.key w) r code post) ∧
    (∀ pre n post code, journal s.engine.key w = pre ++ n :: post → n.refusal? = some code →
      (∀ raw ∈ Journal.certAnswers pre, raw = 0) ∧
      (∀ raw ∈ Journal.browserAnswers pre, raw = 0) ∧
      (∀ raw ∈ Journal.formAnswers pre, raw = 0 ∨ raw = 2) ∧
      ∀ m ∈ post, m.isAnswer = false) ∧
    Submitted (beats (w.history key)) (journal s.engine.key w) := by
  have answered := answered_of_reachable reach found
  have tells := tells_of_reachable reach found
  rw [journal_eq_recorded found alone]
  refine ⟨?_, ?_, answered.submitted⟩
  · intro pre call r post code split place refuses
    have ends : (Beat.replied call r).ending? (inHook pre) = some (.returned code) := by
      rw [place]
      exact Reply.ending?_of_refusal? refuses
    obtain ⟨outcome, reached⟩ := tells.ends found (split ▸ mem_endings ends)
    exact {
      last := tells.settled pre _ post split (by rw [ends]; rfl)
      accepted := answered.accepted split place refuses
      outcome
      reached }
  · intro pre n post code split refuses
    obtain ⟨before, after⟩ := answered.earlier split refuses
    refine ⟨?_, ?_, ?_, after⟩
    all_goals intro raw hraw
    all_goals obtain ⟨m, hm, view⟩ := List.mem_filterMap.mp hraw
    all_goals cases m <;> cases view
    all_goals simpa [JournalNote.refusal?, or_iff_not_imp_left] using before _ hm

end runs

/-- A certificate is accepted and a form is submitted; then the browser is not opened,
while a command that would end the loop is waiting. -/
def declined : List (Action Engine) :=
  let user : FormOption := .blank "user" "User" .text
  let steps : List Step :=
    [.peerCert "AB", .authForm { Form.empty with options := [user] }, .browser "uri", .reconnected]
  let create key : Action Engine :=
    .create (⟨key, ⟨steps, 9, false, none⟩⟩ : Plan) "agent" .handler
  let use (a : QueueAct) : Action Engine := .act 0 (.access a)
  let go : Action Engine := .act 0 (.move Move.go)
  let answered : Form := { Form.empty with options := [{ user with value := some "ada" }] }
  [create 0, create 1, .act 0 (.start 0), .act 0 .reserve, .act 0 (.spawn none), .act 0 .enter,
    go, go, .act 0 (.reply (.certificate .accept)), go,
    go, go, .act 0 (.reply (.form answered .ok)), go, go,
    go, go, use (.borrow 1 .cancel), use (.enter 1),
    .act 0 (.reply (.browser (some .unsupported))), go]

theorem declined_ends_with_failure :
    ∃ w s, World.run declined (World.new [.default]) = some w ∧ w.session? 0 = some s ∧
      WritesAlone w 0 ∧ s.engine.queue.pending = [.cancel] ∧
      (journal 0 w).submitted = [[("user", "ada")]] ∧
      Submitted (beats (w.history 0)) (journal 0 w) ∧
      Refused w 0 s (journal 0 w) (.browser (some .unsupported)) formFailed [] ∧
      ∀ raw ∈ Journal.certAnswers ((journal 0 w).take 5), raw = 0 := by
  obtain ⟨w, made⟩ : ∃ w, World.run declined (World.new [.default]) = some w := ⟨_, rfl⟩
  have reach : World.Reachable [.default] w := .of_run .start made
  have keys : w.sessions.map (Option.map (·.engine.key)) = [some 0, some 1] := by
    cases made
    rfl
  have alone : WritesAlone w 0 := by
    refine writesAlone_of_nodup ?_
    rw [keys]
    decide
  cases made
  obtain ⟨refused, earlier, submitted⟩ := @nothing_done_past_refusal _ _ 0 _ reach rfl alone
  refine ⟨_, _, rfl, rfl, alone, rfl, rfl, submitted, ?_, ?_⟩
  · exact refused _ (.browser "uri") _ [] _ (List.take_append_drop 12 _).symm rfl rfl
  · exact (earlier _ (.browser 1) [] formFailed (List.take_append_drop 5 _).symm rfl).1

end Scripted
end TunnelControl
