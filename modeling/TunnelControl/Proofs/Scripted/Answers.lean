import TunnelControl.Proofs.Order
import TunnelControl.Proofs.Scripted.Steps

/-!
# What is recorded of answers

A certificate, a form or a browser that a step asks for is answered by the controller,
and the loop records the answer: first its code, and the responses of a form if that
was answered with `ok`. What hooks ask for is answered to them and not recorded.

`stepReplies` are the answers that steps got, and `Reply.notes` is what the loop
records of one of them. `Answered` says that these records are in the journal, but for
those of the last answer that are still to be made, and that no answer comes after one
that refuses.
-/

namespace TunnelControl
namespace Scripted

namespace JournalNote

/-- Whether the record is of an answer. -/
def isAnswer : JournalNote → Bool
  | .certificate _ | .form _ | .submitted _ | .browser _ => true
  | .userAgent _ | .setting _ | .limits _ | .command _ | .freed => false

/-- The code that the loop has to return because of the answer, if that refuses. A
certificate and a browser have to be answered with zero, a form with zero or with two. -/
def refusal? : JournalNote → Option Int32
  | .certificate raw => if raw = 0 then none else some certRejected
  | .browser raw => if raw = 0 then none else some formFailed
  | .form raw =>
    if raw = 0 ∨ raw = 2 then none else some (if raw = 1 then formCancelled else formFailed)
  | .userAgent _ | .setting _ | .limits _ | .submitted _ | .command _ | .freed => none

end JournalNote

/-- The records of answers in a journal. -/
def answers (j : Journal) : Journal := j.filter JournalNote.isAnswer

@[simp] theorem answers_append (j j' : Journal) : answers (j ++ j') = answers j ++ answers j' :=
  List.filter_append ..

theorem answers_of_quiet {new : List (Event Note)} (quiet : ∀ e ∈ new, isQuiet e = true) :
    answers (recorded new) = [] := by
  refine List.filter_eq_nil_iff.mpr fun n hn answer => ?_
  have other := isOfLoop_of_quiet quiet n hn
  cases n <;> simp [JournalNote.isOfLoop, JournalNote.isAnswer] at other answer

theorem answers_of_isAnswer {j : Journal} (all : ∀ n ∈ j, n.isAnswer = true) : answers j = j :=
  List.filter_eq_self.mpr all

end Scripted

open Scripted (JournalNote)

namespace Reply

/-- What the loop records of an answer. -/
def notes : Reply → List JournalNote
  | .certificate decision => [.certificate decision.raw]
  | .form f result => .form result.raw :: if result = .ok then [.submitted f.responses] else []
  | .browser fault => [.browser (if fault.isNone then 0 else 1)]
  | .done | .panic => []

/-- The code that the loop has to return because of the answer, if that refuses. -/
def refusal? (r : Reply) : Option Int32 := r.notes.findSome? JournalNote.refusal?

/-- The form as the controller leaves it, and the code that it answers. -/
def form? : Reply → Option (Form × Int32)
  | .form f result => some (f, result.raw)
  | .certificate _ | .browser _ | .done | .panic => none

/-- An answer that refuses ends the loop. -/
theorem ending?_of_refusal? {r : Reply} {code : Int32} (refuses : r.refusal? = some code) :
    r.ending? = some (.returned code) := by
  cases r with
  | certificate decision =>
      cases decision
      all_goals cases refuses
      rfl
  | form f result =>
      cases result
      all_goals cases refuses
      all_goals rfl
  | browser fault =>
      cases fault
      all_goals cases refuses
      rfl
  | done | panic => cases refuses

end Reply

namespace Scripted

/-! ## Answers to steps -/

/-- The reply, unless it is one to a hook. -/
def Beat.stepReply? (inHook : Bool) : Beat → Option Reply
  | .replied _ r => if inHook then none else some r
  | .entered | .foundEmpty _ | .began _ | .command _ | .called _ | .told _ | .hookReturned _
  | .hookPanicked => none

/-- The replies that steps and commands got, in order. -/
def stepReplies (bs : List Beat) : List Reply :=
  emitted Beat.leavesHook (fun b x => (x.stepReply? b).toList) false bs

theorem stepReplies_snoc (bs : List Beat) (x : Beat) :
    stepReplies (bs ++ [x]) = stepReplies bs ++ (x.stepReply? (inHook bs)).toList :=
  emitted_snoc x

theorem stepReplies_split {pre post : List Beat} {x : Beat} {r : Reply}
    (replied : x.stepReply? (inHook pre) = some r) :
    ∃ rest, stepReplies (pre ++ x :: post) = stepReplies pre ++ r :: rest := by
  refine ⟨emitted Beat.leavesHook (fun b x => (x.stepReply? b).toList)
    (x.leavesHook (inHook pre)) post, (emitted_append _).trans ?_⟩
  rw [emitted, ← inHook, replied]
  rfl

theorem stepReplies_append_of_silent (bs : List Beat) {new : List Beat}
    (silent : ∀ x ∈ new, ∀ b, x.stepReply? b = none) :
    stepReplies (bs ++ new) = stepReplies bs := by
  have nothing : emitted Beat.leavesHook (fun b x => (x.stepReply? b).toList) (inHook bs) new =
      [] := by
    refine emitted_eq_nil fun x hx b => ?_
    rw [silent x hx b, Option.toList_none]
  refine (emitted_append new).trans ?_
  rw [← inHook, nothing, List.append_nil]
  rfl

/-- Where nothing has ended the loop, no step has been refused. -/
theorem refusal?_of_endings {bs : List Beat} (nothing : endings bs = []) :
    ∀ r ∈ stepReplies bs, r.refusal? = none := by
  unfold endings at nothing
  unfold stepReplies
  generalize false = b at nothing ⊢
  induction bs generalizing b with
  | nil =>
      intro r hr
      cases List.not_mem_nil hr
  | cons x bs ih =>
      obtain ⟨none, nothing⟩ := List.append_eq_nil_iff.mp nothing
      intro r hr
      rcases List.mem_append.mp hr with hr | hr
      · cases refuses : r.refusal? with
        | none => rfl
        | some code =>
            have ends := Reply.ending?_of_refusal? refuses
            cases x with
            | replied call r' =>
                cases b <;> simp [Beat.stepReply?] at hr
                subst hr
                simp [Beat.ending?, ends] at none
            | _ => simp [Beat.stepReply?] at hr
      · exact ih _ nothing r hr

/-! ## Records still to be made -/

/-- The records of an answer that the loop is about to make. -/
@[simp] def Point.unwritten : Point → List JournalNote
  | .record (.command _) _ => []
  | .record n next => n.note :: next.unwritten
  | _ => []

@[simp] theorem Step.unwritten_underWay (s : Step) (rest : List Step) :
    (s.underWay rest).unwritten = [] := by
  cases s <;> rfl

theorem Point.unwritten_of_isTaking {p : Point} (taking : p.isTaking = true) :
    p.unwritten = [] := by
  cases p <;> simp at taking <;> rfl

theorem Stands.unwritten_of_asked {p : Point} {call : Callback} (stands : Stands p (some call)) :
    p.unwritten = [] := by
  cases stands with
  | askingStep rest point =>
      subst point
      exact Step.unwritten_underWay ..
  | askingStatistics | askingHook => rfl

theorem unwritten_asking {back : Point} {r : Reply} (hr : r = .done ∨ r = .panic)
    (taking : back.isTaking = true) :
    (Engine.afterReply r (.asking back)).unwritten = r.notes := by
  rcases hr with rfl | rfl
  all_goals cases back <;> simp at taking <;> rfl

/-- With a reply the loop is about to record it, unless a hook gets it. -/
theorem Stands.unwritten_afterReply {p : Point} {call : Callback} {r : Reply}
    (stands : Stands p (some call)) (fits : r.fits call = true) :
    (Engine.afterReply r p).unwritten = if p.inHook then [] else r.notes := by
  cases stands with
  | @askingStep _ s u _ rest point calls heard =>
      subst point
      cases s with
      | progress level message =>
          cases calls
          obtain ⟨line, -, rfl⟩ := Option.map_eq_some_iff.mp heard
          exact unwritten_asking (reply_of_progress fits) rfl
      | peerCert cert =>
          cases calls
          cases heard
          cases r with
          | certificate decision => cases decision <;> rfl
          | panic => rfl
          | _ => simp [Reply.fits] at fits
      | authForm f =>
          cases calls
          cases heard
          cases r with
          | form answered result => cases result <;> rfl
          | panic => rfl
          | _ => simp [Reply.fits] at fits
      | browser uri =>
          cases calls
          cases heard
          cases r with
          | browser fault => cases fault <;> rfl
          | panic => rfl
          | _ => simp [Reply.fits] at fits
      | connected | reconnected =>
          cases calls
          cases heard
          exact unwritten_asking (by cases r <;> simp [Reply.fits] at fits ⊢) rfl
      | _ => simp [Step.upcall?] at calls
  | askingStatistics taking heard =>
      simp only [statistics, Upcall.callback?] at heard
      obtain ⟨line, -, rfl⟩ := Option.map_eq_some_iff.mp heard
      have noHook := (Stands.calm_of_isTaking taking).2.1
      rw [unwritten_asking (reply_of_progress fits) taking]
      simp [noHook]
  | askingHook h rest => cases r <;> rfl

/-! ## The invariant -/

/-- **Answers and their records.** What the steps were answered is recorded, but for
what is still to be recorded of the last answer; and only the last answer may refuse. -/
structure Answered (p : Point) (h : List (Event Note)) : Prop where
  written : answers (recorded h) ++ p.unwritten = (stepReplies (beats h)).flatMap Reply.notes
  /-- The first records of the last answer are the last ones that were made. -/
  place : p.unwritten = [] ∨ ∃ earlier r before, stepReplies (beats h) = earlier ++ [r] ∧
    r.notes = before ++ p.unwritten ∧ before <:+ recorded h
  refused : (stepReplies (beats h)).Pairwise fun r _ => r.refusal? = none

namespace Answered

variable {p p' : Point} {h new : List (Event Note)}

/-- The loop makes no record of an answer. -/
theorem shift (answered : Answered p h) (point : p'.unwritten = p.unwritten)
    (records : answers (recorded new) = []) (free : recorded new = [] ∨ p.unwritten = [])
    (silent : ∀ x ∈ beats new, ∀ b, x.stepReply? b = none) : Answered p' (h ++ new) := by
  have same : stepReplies (beats (h ++ new)) = stepReplies (beats h) := by
    rw [beats_append]
    exact stepReplies_append_of_silent _ silent
  constructor
  · rw [same, point, recorded_append, answers_append, records, List.append_nil]
    exact answered.written
  · rw [same, point]
    rcases free with none | none
    · rw [recorded_append, none, List.append_nil]
      exact answered.place
    · exact Or.inl none
  · rw [same]
    exact answered.refused

/-- The loop makes the next record of an answer. -/
theorem record {n : LoopNote} (answered : Answered p h)
    (point : p.unwritten = n.note :: p'.unwritten) (answer : n.note.isAnswer = true) :
    Answered p' (h ++ [.note (.journal n.note)]) := by
  have silent : ∀ x ∈ beats [.note (.journal n.note)], ∀ b, x.stepReply? b = none := by
    cases n <;> simp [beats, beat?, LoopNote.note, Beat.stepReply?]
  have same : stepReplies (beats (h ++ [.note (.journal n.note)])) = stepReplies (beats h) := by
    rw [beats_append]
    exact stepReplies_append_of_silent _ silent
  have made : recorded (h ++ [.note (.journal n.note)]) = recorded h ++ [n.note] :=
    recorded_append ..
  constructor
  · rw [same, made, answers_append, answers_of_isAnswer (List.forall_mem_singleton.mpr answer),
      List.append_assoc, List.singleton_append, ← point]
    exact answered.written
  · rw [same, made]
    rcases answered.place with none | ⟨earlier, r, before, last, notes, recent⟩
    · simp [point] at none
    · refine Or.inr ⟨earlier, r, before ++ [n.note], last, ?_, ?_⟩
      · rw [notes, point, List.append_assoc, List.singleton_append]
      · obtain ⟨first, split⟩ := recent
        exact ⟨first, by rw [← List.append_assoc, split]⟩
  · rw [same]
    exact answered.refused

/-- **One move**, but for the call that it may make. -/
theorem move {e : Engine} {m : Move} {turn : Turn Engine Note}
    (answered : Answered e.point h) (stands : Stands e.point none)
    (moved : Engine.Moved e m turn) :
    Answered turn.engine.point (h ++ turn.happenings.map Happening.inLoop) := by
  cases moved with
  | take taking popped =>
      refine answered.shift ?_ rfl (Or.inl rfl) (by simp)
      exact (Point.unwritten_of_isTaking taking).symm
  | @record n next point =>
      rw [point] at answered stands
      cases stands with
      | taken c taking =>
          refine answered.shift rfl rfl (Or.inr rfl) ?_
          exact List.forall_mem_singleton.mpr fun _ => rfl
      | recordCertificate raw next | recordForm raw next | recordSubmitted responses next
      | recordBrowser raw next => exact answered.record rfl rfl
  | mute point goesOn unheard => cases unheard
  | stop point | report point | pass point | hookMute point | hookCall point =>
      refine answered.shift ?_ rfl (Or.inl rfl) (by simp)
      simp [point]
  | runOut point | advance point | beginAlone point | beginMute point | begin point
  | leave point | quit point | panic point =>
      refine answered.shift ?_ rfl (Or.inl rfl) ?_
      · simp [point]
      · exact List.forall_mem_singleton.mpr fun _ => rfl

/-- A call is brought to the controller; notices leave nothing to be recorded. -/
theorem brought {e e' : Engine} {call : Callback} (answered : Answered e.point h)
    (waits : Stands e.point (some call)) (brought : Brought call e e' new) :
    Answered e'.point (h ++ new) := by
  obtain ⟨-, -, -, none⟩ := brought.frame
  obtain ⟨x, beat, heard⟩ := brought.heard waits
  refine answered.shift ?_ (by rw [none]; rfl) (Or.inl none) ?_
  · rcases brought.point with same | ⟨fits, taken⟩
    · rw [same]
    · rw [taken, waits.unwritten_afterReply fits, waits.unwritten_of_asked]
      split <;> rfl
  · rw [beat]
    refine List.forall_mem_singleton.mpr fun _ => ?_
    cases x <;> first | rfl | cases heard

/-- **One reply.** The loop is about to record it, unless a hook gets it. -/
theorem reply {e : Engine} {call : Callback} {r : Reply} {asked : Option Callback}
    (answered : Answered e.point h) (going : Going e asked (beats h))
    (stands : Stands e.point (some call)) (fits : r.fits call = true) :
    Answered (Engine.afterReply r e.point)
      (h ++ .replied call r :: (r.remark call).map .log) := by
  have none := stands.unwritten_of_asked
  have after := stands.unwritten_afterReply fits
  have made : recorded (h ++ .replied call r :: (r.remark call).map .log) = recorded h := by
    rw [recorded_append]
    exact (congrArg _ (recorded_logs _)).trans (List.append_nil _)
  have replies : stepReplies (beats (h ++ .replied call r :: (r.remark call).map .log)) =
      stepReplies (beats h) ++ if e.point.inHook then [] else [r] := by
    rw [beats_append, beats_cons, beat?_replied stands.plain, beats_logs]
    refine (stepReplies_snoc ..).trans ?_
    rw [going.inHook]
    cases e.point.inHook <;> rfl
  have written := answered.written
  rw [none, List.append_nil] at written
  constructor
  · rw [made, replies, after, written]
    split <;> simp
  · rw [made, replies, after]
    split
    · exact Or.inl rfl
    · exact Or.inr ⟨_, r, [], rfl, rfl, List.nil_suffix⟩
  · rw [replies, List.pairwise_append]
    refine ⟨answered.refused, ?_, fun r' hr' _ _ => ?_⟩
    · split <;> simp
    · exact refusal?_of_endings (going.endings_eq_nil stands.calm_of_asked.1) r' hr'

/-- **One step of a session.** -/
theorem stepped {e e' : Engine} (answered : Answered e.point h)
    (going : e.point ≠ .ready → ∃ asked, Going e asked (beats h)) (stepped : Stepped e e' new) :
    Answered e'.point (h ++ new) := by
  cases stepped with
  | rest script point entered loans quiet place =>
      refine answered.shift (congrArg _ point) ?_ (place.imp id ?_) ?_
      · exact answers_of_quiet quiet
      · rintro (ready | ⟨outcome, done⟩)
        · rw [ready]
          rfl
        · rw [done]
          rfl
      · simp [beats_of_quiet quiet]
  | send used =>
      refine answered.shift rfl ?_ (Or.inl ?_) ?_
      · rw [recorded_notes]
        rfl
      · exact recorded_notes _
      · rcases beats_of_send used with none | entered
        · simp [none]
        · simp [entered, Beat.stepReply?]
  | enter point =>
      refine answered.shift ?_ rfl (Or.inr ?_) (by simp [beats, beat?])
      · rw [point]
        rfl
      · rw [point]
        rfl
  | move stands moved => exact answered.move stands moved
  | call stands moved calls waits brought =>
      rw [← List.append_assoc]
      exact (answered.move stands moved).brought waits brought
  | reply stands fits =>
      obtain ⟨asked, going⟩ := going stands.ne_ready
      exact answered.reply going stands fits

end Answered

end Scripted
end TunnelControl
