import TunnelControl.Proofs.Native.Crossing
import TunnelControl.Proofs.Native.Work

/-!
# Failing closed at the library's boundary

Between two crossings the loop is `Clear`, and within one it is `Pending`: either the
controller is being asked, or what it has answered is being written back. A step keeps to
this, and ends a crossing only where it `FailsClosed`.

No crossing stays open because of what the controller or the library does. Whatever the reply
is, a panic included, and whatever codes the library returns, the crossing `Finishes`.
-/

namespace TunnelControl
namespace Native

open World (run passages LeadsTo)
open Session.Result (seen_unchanged)

/-! ## Crossings that are not over -/

/-- What a crossing waits for. -/
inductive Awaits (x : Crossing) (s : Session Engine) (stage : Stage) (call : Callback) : Prop
  /-- The controller's reply. -/
  | reply (engine : s.engine = x.before.moveTo (.asking stage x.entry))
      (status : s.status = .running (some call)) (replies : x.replies = []) (codes : x.codes = [])
  /-- That the library takes the answers of a form that are left, the first of which it may
  have already. -/
  | library {g : Form} {result : FormResult} {done left : List Answer} {a : Answer}
      (engine : s.engine = x.before.moveTo (.writing stage x.entry result.raw (a :: left)) ∨
        s.engine = x.before.moveTo (.written stage x.entry result.raw a left))
      (status : s.status = .running none) (replies : x.replies = [.form g result])
      (fits : (Reply.form g result).fits call = true)
      (accepted : result = .ok ∨ result = .newGroup)
      (encoded : encode g x.entry.slots = .ok (done ++ a :: left))
      (codes : x.codes = List.replicate done.length 0)

/-- A crossing that is not over. -/
structure Pending (x : Crossing) (s : Session Engine) : Prop where
  unanswered : x.answers = []
  unfinished : x.after = none
  awaits : ∃ stage call, x.before.point = .inside stage ∧ x.bound = true ∧
    x.entry.callback? = some call ∧ x.told = [call] ∧ Awaits x s stage call

/-- Whether the loop is between two crossings. -/
def Point.isClear : Point → Bool
  | .asking .. | .writing .. | .written .. => false
  | _ => true

def Clear (s : Session Engine) : Prop :=
  ∀ asked, s.status = .running asked → s.engine.point.isClear = true

/-! ## One step -/

section step

variable {runners : List Runner} {s s' : Session Engine} {a : Session.Act Engine}
  {r : Session.Result Engine Note} {x : Crossing} {stage : Stage} {call : Callback}

theorem Awaits.congr (awaits : Awaits x s stage call) (engine : s'.engine = s.engine)
    (status : s'.status = s.status) : Awaits x s' stage call := by
  cases awaits with
  | reply at' asked replies codes =>
      exact .reply (engine.trans at') (status.trans asked) replies codes
  | library at' running replies fits accepted encoded codes =>
      exact .library (at'.imp engine.trans engine.trans) (status.trans running) replies fits
        accepted encoded codes

theorem Awaits.inLibrary_eq_false (awaits : Awaits x s stage call) : inLibrary s = false := by
  unfold inLibrary
  cases awaits with
  | reply engine status => rw [status]
  | library engine status =>
      rw [status]
      rcases engine with engine | engine <;> rw [engine] <;> rfl

theorem Crossing.follow_of_unfinished {p : Passage Engine} (unfinished : x.after = none) :
    x.follow p =
      { x with
        told := x.told ++ callsTold p.result.seen
        replies := x.replies ++ repliesGiven p.result.seen
        codes := x.codes ++ (codeReturned? p.act).toList
        answers := x.answers ++ codesAnswered p.result.seen
        after := if inLibrary p.result.session then some p.result.session.engine else none } := by
  rw [follow, unfinished]
  rfl

theorem Crossing.follow_eq_self {p : Passage Engine} (unfinished : x.after = none)
    (away : inLibrary p.result.session = false) (silent : codeReturned? p.act = none)
    (told : callsTold p.result.seen = []) (replies : repliesGiven p.result.seen = [])
    (answers : codesAnswered p.result.seen = []) : x.follow p = x := by
  rw [follow_of_unfinished unfinished]
  simp [told, replies, answers, silent, away, ← unfinished]

theorem access_fst (a : Access) (e : Engine) : (e.access a).1 = e := by
  unfold Engine.access
  split <;> rfl

/-- Commands are no concern of the controller, and answer nobody. -/
theorem views_access (a : Access) (e : Engine) :
    callsTold ((e.access a).2.map Happening.atCaller) = [] ∧
      repliesGiven ((e.access a).2.map Happening.atCaller) = [] ∧
      codesAnswered ((e.access a).2.map Happening.atCaller) = [] := by
  unfold Engine.access
  split <;> exact ⟨rfl, rfl, rfl⟩

/-- Others go on meanwhile. -/
theorem Pending.meanwhile (pending : Pending x s) (engine : r.session.engine = s.engine)
    (status : r.session.status = s.status) (silent : codeReturned? a = none)
    (told : callsTold r.seen = []) (replies : repliesGiven r.seen = [])
    (answers : codesAnswered r.seen = []) : Pending (x.follow ⟨s, a, r⟩) r.session := by
  obtain ⟨unanswered, unfinished, stage, call, inside, bound, reached, given, awaits⟩ := pending
  have awaits' := awaits.congr engine status
  rw [Crossing.follow_eq_self unfinished awaits'.inLibrary_eq_false silent told replies answers]
  exact ⟨unanswered, unfinished, stage, call, inside, bound, reached, given, awaits'⟩

/-- The library has control back. -/
theorem follow_answer {e : Engine} {entry : Entry} {rc : Option Int32} {log : List Log.Entry}
    (inside : e.point = .inside stage) :
    e.follow stage entry (.answer rc log) =
      (e, log.map .log ++ rc.toList.map fun rc => .note (.answered entry rc)) := by
  simp only [Engine.follow, Engine.goBack, Engine.moveTo, ← inside]

theorem Crossing.entry_follow (p : Passage Engine) (x : Crossing) :
    (x.follow p).entry = x.entry := by
  unfold follow
  split <;> rfl

/-- The library has control back and was told what it may be told. -/
theorem failsClosed_of_back {p : Passage Engine} {reply : Reply} (unanswered : x.answers = [])
    (unfinished : x.after = none) (inside : x.before.point = .inside stage)
    (bound : x.bound = true) (reached : x.entry.callback? = some call) (given : x.told = [call])
    (engine : p.result.session.engine = x.before) (status : p.result.session.status = .running none)
    (silent : callsTold p.result.seen = []) (replies : (x.follow p).replies = [reply])
    (fits : reply.fits call = true)
    (answered : codesAnswered p.result.seen = (x.follow p).code?.toList) :
    FailsClosed (x.follow p) ∧ Clear p.result.session := by
  have back : inLibrary p.result.session = true := by
    rw [inLibrary, status, engine, inside]
  refine ⟨⟨?_, ?_, ?_, ?_⟩, ?_⟩
  · rw [Crossing.follow_of_unfinished unfinished]
    simp [given, silent, Entry.reach?, bound, reached]
  · intro reply' mem
    rw [replies] at mem ⊢
    obtain rfl := List.mem_singleton.mp mem
    refine ⟨rfl, call, ?_, fits⟩
    rw [Crossing.follow_of_unfinished unfinished]
    simp [given, silent]
  · rw [← answered, Crossing.follow_of_unfinished unfinished]
    simp [unanswered]
  · rw [Crossing.follow_of_unfinished unfinished]
    simp [back, engine]
  · intro asked _
    rw [engine, inside]
    rfl

theorem codesAnswered_back (log : List Log.Entry) (entry : Entry) (rc : Option Int32) :
    codesAnswered ((log.map .log ++ rc.toList.map fun rc => .note (.answered entry rc) :
      List (Happening Note)).map Happening.inLoop) = rc.toList := by
  cases rc <;> simp [codesAnswered, List.filterMap_append, List.filterMap_map, Function.comp_def,
    Happening.inLoop]

/-- What answers the library, or writes the next answer of a form, once the controller has
accepted it. -/
theorem Pending.writes {p : Passage Engine} {g : Form} {result : FormResult}
    {answers : List Answer} (done : List Answer) (unanswered : x.answers = [])
    (unfinished : x.after = none) (inside : x.before.point = .inside stage)
    (bound : x.bound = true) (reached : x.entry.callback? = some call) (given : x.told = [call])
    (engine : p.result.session.engine =
      (x.before.follow stage x.entry (.write result.raw answers)).1)
    (status : p.result.session.status = .running none) (silent : callsTold p.result.seen = [])
    (replies : (x.follow p).replies = [.form g result])
    (fits : (Reply.form g result).fits call = true) (accepted : result = .ok ∨ result = .newGroup)
    (encoded : encode g x.entry.slots = .ok (done ++ answers))
    (codes : (x.follow p).codes = List.replicate done.length 0)
    (answered : codesAnswered p.result.seen =
      codesAnswered ((x.before.follow stage x.entry (.write result.raw answers)).2.map
        Happening.inLoop)) :
    Pending (x.follow p) p.result.session ∨ FailsClosed (x.follow p) ∧ Clear p.result.session := by
  obtain ⟨f, entry⟩ := entry_of_fits reached fits
  cases answers with
  | nil =>
      have write : x.before.follow stage x.entry (.write result.raw []) =
          x.before.follow stage x.entry (.answer (some result.raw) []) := rfl
      rw [write, follow_answer inside] at engine answered
      refine Or.inr (failsClosed_of_back unanswered unfinished inside bound reached given engine
        status silent replies fits ?_)
      have own : encode g (x.follow p).entry.slots = .ok done := by
        rw [Crossing.entry_follow]
        simpa using encoded
      rw [answered, codesAnswered_back, code?_of_accepted (f := f) _ replies accepted, if_pos]
      · rw [took_iff own, codes]
      · rw [Crossing.entry_follow, entry]
  | cons a left =>
      have engine : p.result.session.engine =
        x.before.moveTo (.writing stage x.entry result.raw (a :: left)) := engine
      have away : inLibrary p.result.session = false := by
        rw [inLibrary, status, engine]
        rfl
      have nothing : codesAnswered p.result.seen = [] := answered
      rw [Crossing.follow_of_unfinished unfinished] at replies codes ⊢
      refine Or.inl ⟨?_, ?_, stage, call, inside, bound, reached, ?_, ?_⟩
      · simp [unanswered, nothing]
      · simp [away]
      · simp [given, silent]
      · exact .library (Or.inl engine) status replies fits accepted encoded codes

/-- **The controller replies.** -/
theorem Pending.reply {reply : Reply} (pending : Pending x s)
    (status : s.status = .running (some call)) (fits : reply.fits call = true)
    (result : r = ⟨{ s with engine := (s.engine.resume reply).1, status := .running none },
      [.replied call reply] ++ (reply.remark call).map .log ++
        (s.engine.resume reply).2.map Happening.inLoop, .unchanged⟩) :
    Pending (x.follow ⟨s, .reply reply, r⟩) r.session ∨
      FailsClosed (x.follow ⟨s, .reply reply, r⟩) ∧ Clear r.session := by
  obtain ⟨unanswered, unfinished, stage, call', inside, bound, reached, given, awaits⟩ := pending
  cases awaits with
  | library engine running => simp [running] at status
  | reply engine asked replies codes =>
      obtain rfl : call' = call := by simpa [asked] using status
      have resumed : s.engine.resume reply =
          x.before.follow stage x.entry (Verdict.ofReply x.entry reply) := by
        rw [engine]
        exact follow_moveTo ..
      rw [resumed] at result
      have seen : r.seen = [.replied call' reply] ++ (reply.remark call').map .log ++
          (x.before.follow stage x.entry (Verdict.ofReply x.entry reply)).2.map
            Happening.inLoop := by
        rw [result]
        exact List.append_nil _
      have silent : callsTold r.seen = [] := by
        rw [seen, callsTold_append, callsTold_append, callsTold_logs, callsTold_inLoop]
        rfl
      have replied : repliesGiven r.seen = [reply] := by
        rw [seen, repliesGiven_append, repliesGiven_append, repliesGiven_logs,
          repliesGiven_inLoop]
        rfl
      have answered : codesAnswered r.seen = codesAnswered
          ((x.before.follow stage x.entry (Verdict.ofReply x.entry reply)).2.map
            Happening.inLoop) := by
        rw [seen, codesAnswered_append, codesAnswered_append, codesAnswered_logs]
        rfl
      have own : (x.follow ⟨s, .reply reply, r⟩).replies = [reply] := by
        rw [Crossing.follow_of_unfinished unfinished]
        simp [replies, replied]
      have verdict := verdict_cases (x := x.follow ⟨s, .reply reply, r⟩) (r := reply)
        (by rwa [Crossing.entry_follow]) fits own
      rw [Crossing.entry_follow] at verdict
      rcases verdict with ⟨log, verdict⟩ | ⟨g, answer, answers, rfl, accepted, encoded, verdict⟩
      · rw [verdict, follow_answer inside] at result answered
        refine Or.inr (failsClosed_of_back unanswered unfinished inside bound reached given
          (by rw [result]) (by rw [result]) silent own fits ?_)
        rw [answered, codesAnswered_back]
      · rw [verdict] at result answered
        refine Pending.writes [] unanswered unfinished inside bound reached given
          (by rw [result]) (by rw [result]) silent own fits accepted encoded ?_ answered
        rw [Crossing.follow_of_unfinished unfinished]
        simp [codes, codeReturned?]

theorem code?_of_refused {f : Option AuthForm} {g : Form} {result : FormResult}
    {done left : List Answer} {a : Answer} {rc : Int32} (entry : x.entry = .form f)
    (replies : x.replies = [.form g result]) (accepted : result = .ok ∨ result = .newGroup)
    (encoded : encode g x.entry.slots = .ok (done ++ a :: left)) (refused : rc ≠ 0)
    (codes : x.codes = List.replicate done.length 0 ++ [rc]) :
    x.code? = some FormResult.failed.raw := by
  rw [code?_of_accepted entry replies accepted, if_neg]
  rw [took_iff encoded, codes]
  intro same
  have last : rc ∈ List.replicate (done ++ a :: left).length (0 : Int32) := by
    rw [← same]
    simp
  exact refused (List.eq_of_mem_replicate last)

/-- **The library takes or refuses an answer**, or is given the next one. -/
theorem Pending.move {m : Move} {turn : Turn Engine Note} (pending : Pending x s)
    (status : s.status = .running none) (moved : s.engine.move m = some turn)
    (session : r.session = { s with engine := turn.engine })
    (seen : r.seen = turn.happenings.map Happening.inLoop) :
    turn.call = none ∧ (∀ entry bound, m ≠ .enters entry bound) ∧
      (Pending (x.follow ⟨s, .move m, r⟩) r.session ∨
        FailsClosed (x.follow ⟨s, .move m, r⟩) ∧ Clear r.session) := by
  obtain ⟨unanswered, unfinished, stage, call, inside, bound, reached, given, awaits⟩ := pending
  have silent : callsTold r.seen = [] := by rw [seen, callsTold_inLoop]
  have noReply : repliesGiven r.seen = [] := by rw [seen, repliesGiven_inLoop]
  cases awaits with
  | reply engine asked => simp [asked] at status
  | @library g result done left a engine running replies fits accepted encoded codes =>
      obtain ⟨f, entry⟩ := entry_of_fits reached fits
      have replies' : (x.follow ⟨s, .move m, r⟩).replies = [.form g result] := by
        rw [Crossing.follow_of_unfinished unfinished]
        simp [replies, noReply]
      rcases engine with engine | engine
      · have point : s.engine.point = .writing stage x.entry result.raw (a :: left) := by
          rw [engine]
          rfl
        cases m <;> simp only [Engine.move, point, reduceCtorEq, Option.some.injEq] at moved
        subst moved
        refine ⟨rfl, by simp, Or.inl ?_⟩
        have awaits' : Awaits x r.session stage call := by
          refine .library (Or.inr ?_) (by rw [session, running]) replies fits accepted encoded codes
          rw [session, engine]
          rfl
        rw [Crossing.follow_eq_self unfinished awaits'.inLibrary_eq_false rfl silent noReply
          (by rw [seen]; rfl)]
        exact ⟨unanswered, unfinished, stage, call, inside, bound, reached, given, awaits'⟩
      · have point : s.engine.point = .written stage x.entry result.raw a left := by
          rw [engine]
          rfl
        cases m <;> simp only [Engine.move, point, reduceCtorEq] at moved
        rename_i rc
        have codes' : (x.follow ⟨s, .move (.returns rc), r⟩).codes =
            List.replicate done.length 0 ++ [rc] := by
          rw [Crossing.follow_of_unfinished unfinished]
          simp [codes, codeReturned?]
        have back : ∀ verdict, s.engine.follow stage x.entry verdict =
            x.before.follow stage x.entry verdict := by
          intro verdict
          rw [engine]
          exact follow_moveTo ..
        by_cases taken : rc = 0
        · rw [if_pos taken] at moved
          cases moved
          have encoded' : encode g x.entry.slots = .ok ((done ++ [a]) ++ left) := by
            simpa using encoded
          refine ⟨rfl, by simp, Pending.writes (done ++ [a]) unanswered unfinished inside bound
            reached given ?_ (by rw [session, running]) silent replies' fits accepted encoded' ?_
            ?_⟩
          · rw [session, back]
          · rw [codes', taken]
            simp [List.replicate_succ']
          · rw [seen, back]
        · rw [if_neg taken] at moved
          cases moved
          have code := code?_of_refused (x := x.follow ⟨s, .move (.returns rc), r⟩)
            (by rw [Crossing.entry_follow, entry]) replies' accepted
            (by rwa [Crossing.entry_follow]) taken codes'
          refine ⟨rfl, by simp, Or.inr (failsClosed_of_back unanswered unfinished inside bound
            reached given ?_ (by rw [session, running]) silent replies' fits ?_)⟩
          · rw [session, engine]
            simp only [Engine.goBack, Engine.moveTo, ← inside]
          · rw [seen, code]
            exact codesAnswered_back [_] x.entry (some FormResult.failed.raw)

theorem Pending.outcome?_eq_none (pending : Pending x s) :
    TunnelControl.Engine.outcome? s.engine = none := by
  obtain ⟨-, -, stage, call, -, -, -, -, awaits⟩ := pending
  cases awaits with
  | reply engine => rw [engine]; rfl
  | library engine => rcases engine with engine | engine <;> rw [engine] <;> rfl

/-- **One step of a crossing.** -/
theorem Pending.step (pending : Pending x s) (stepped : s.step runners a = some r) :
    (∀ entry bound, a ≠ .move (.enters entry bound)) ∧
      (Pending (x.follow ⟨s, a, r⟩) r.session ∨
        FailsClosed (x.follow ⟨s, a, r⟩) ∧ Clear r.session) := by
  have running : ∃ asked, s.status = .running asked := by
    obtain ⟨-, -, stage, call, -, -, -, -, awaits⟩ := pending
    cases awaits with
    | reply engine status => exact ⟨_, status⟩
    | library engine status => exact ⟨_, status⟩
  obtain ⟨asked, running⟩ := running
  cases Session.transition_of_step stepped with
  | @access x' engine happenings used =>
      obtain rfl : (s.engine.access x').1 = engine := congrArg Prod.fst (Option.some.inj used)
      obtain rfl : (s.engine.access x').2 = happenings := congrArg Prod.snd (Option.some.inj used)
      obtain ⟨told, replies, answers⟩ := views_access x' s.engine
      exact ⟨by simp, Or.inl (pending.meanwhile (access_fst ..) rfl rfl (by rwa [seen_unchanged])
        (by rwa [seen_unchanged]) (by rwa [seen_unchanged]))⟩
  | move status moved silent =>
      obtain ⟨-, other, next⟩ := pending.move status moved rfl seen_unchanged
      exact ⟨fun entry bound same => other entry bound (by cases same; rfl), next⟩
  | ask status moved asks | forward status moved asks =>
      obtain ⟨silent, -⟩ := pending.move (r := ⟨{ s with engine := _ }, _, .unchanged⟩) status moved
        rfl seen_unchanged
      simp [asks] at silent
  | log status =>
      exact ⟨by simp, Or.inl (pending.meanwhile rfl rfl rfl rfl rfl rfl)⟩
  | reply status fits => exact ⟨by simp, pending.reply status fits rfl⟩
  | report status finished | post status finished =>
      rw [pending.outcome?_eq_none] at finished
      cases finished
  | receive channel => exact ⟨by simp, Or.inl (pending.meanwhile rfl rfl rfl rfl rfl rfl)⟩
  | hangUp channel => exact ⟨by simp, Or.inl (pending.meanwhile rfl rfl rfl rfl rfl rfl)⟩
  | setup status | drop status | misname status | accept status | findFull status
  | takeSlot status | launch status | failSpawn status | enter status | logLast status
  | acknowledge status | retire status | free status | unbind status | close status
  | returnSlot status | failStart status => simp [running] at status

/-! ## Between crossings -/

theorem clear_move {e : Engine} {m : Move} {turn : Turn Engine Note}
    (clear : e.point.isClear = true) (moved : e.move m = some turn)
    (other : ∀ entry bound, m ≠ .enters entry bound) :
    turn.engine.point.isClear = true ∧
      codesAnswered (turn.happenings.map Happening.inLoop) = [] := by
  unfold Engine.move at moved
  split at moved
  · cases moved
    exact ⟨rfl, rfl⟩
  · rename_i stage _
    cases stage <;> simp only [Engine.afterStage?, Engine.endWith, Option.some.injEq,
      reduceCtorEq] at moved
    case connection =>
      subst moved
      cases e.tunScript <;> split <;> exact ⟨rfl, rfl⟩
    all_goals subst moved; try split
    all_goals exact ⟨rfl, rfl⟩
  · split at moved <;> cases moved <;> exact ⟨rfl, rfl⟩
  · exact absurd rfl (other _ _)
  · rename_i point
    simp [point, Point.isClear] at clear
  · rename_i point
    simp [point, Point.isClear] at clear
  · cases moved

/-- A reply to a loop that does not ask for one at the boundary. -/
theorem clear_resume {e : Engine} (clear : e.point.isClear = true) (r : Reply) :
    (e.resume r).1.point.isClear = true ∧ (e.resume r).2 = [] := by
  unfold Engine.resume
  split
  · rename_i point
    simp [point, Point.isClear] at clear
  · split <;> exact ⟨rfl, rfl⟩
  · exact ⟨clear, rfl⟩

theorem codesAnswered_of_notes {happenings : Engine.Happenings}
    (setting : ∀ n, .note n ∈ happenings → n.isSetting = true) :
    codesAnswered (happenings.map Happening.atCaller) = [] := by
  simp only [codesAnswered, List.filterMap_map, List.filterMap_eq_nil_iff]
  rintro (n | entry) mem
  · cases n with
    | answered => cases setting _ mem
    | _ => rfl
  · rfl

theorem codesAnswered_setup (x : Setup) (e : Engine) :
    codesAnswered ((e.setup x).2.map Happening.atCaller) = [] := by
  cases x with
  | configure options rc => exact codesAnswered_of_notes (Engine.worked_configure ..).notes
  | openPipe rc =>
      simp only [Engine.setup, Engine.openPipe]
      split
      · rfl
      · split <;> rfl

theorem clear_of_still (still : ∀ asked, s.status ≠ .running asked) : Clear s :=
  fun asked running => absurd running (still asked)

theorem codesAnswered_make {plan : Plan} {agent : String} {e : Engine}
    {happenings : Engine.Happenings} (made : Engine.make plan agent = (some e, happenings)) :
    codesAnswered (happenings.map Happening.atCaller) = [] := by
  unfold Engine.make at made
  split at made
  · cases made
  · split at made <;> cases made
    rfl

/-- **Between crossings** nothing is answered, and none begins unless the library calls in. -/
theorem Clear.step (clear : Clear s) (stepped : s.step runners a = some r)
    (other : ∀ entry bound, a ≠ .move (.enters entry bound)) :
    Clear r.session ∧ codesAnswered r.seen = [] := by
  have moves : ∀ {m turn}, a = .move m → s.status = .running none →
      s.engine.move m = some turn → turn.engine.point.isClear = true ∧
        codesAnswered (turn.happenings.map Happening.inLoop) = [] := fun own status moved =>
    clear_move (clear _ status) moved fun entry bound same => other entry bound (own ▸ same ▸ rfl)
  cases Session.transition_of_step stepped with
  | @setup x engine happenings status set =>
      obtain rfl : (s.engine.setup x).1 = engine := congrArg Prod.fst (Option.some.inj set)
      obtain rfl : (s.engine.setup x).2 = happenings := congrArg Prod.snd (Option.some.inj set)
      exact ⟨clear_of_still (by simp [status]), by rw [seen_unchanged, codesAnswered_setup]⟩
  | @access x engine happenings used =>
      obtain rfl : (s.engine.access x).1 = engine := congrArg Prod.fst (Option.some.inj used)
      obtain rfl : (s.engine.access x).2 = happenings := congrArg Prod.snd (Option.some.inj used)
      obtain ⟨-, -, answers⟩ := views_access x s.engine
      refine ⟨?_, by rwa [seen_unchanged]⟩
      intro asked running
      simpa [access_fst] using clear asked running
  | move status moved =>
      obtain ⟨clear', answers⟩ := moves rfl status moved
      exact ⟨fun _ _ => clear', by rwa [seen_unchanged]⟩
  | @ask m turn call status moved =>
      obtain ⟨clear', answers⟩ := moves rfl status moved
      refine ⟨fun _ _ => clear', ?_⟩
      rw [seen_unchanged, codesAnswered_append, codesAnswered_append, answers, codesAnswered_logs]
      rfl
  | @forward m turn call notice status moved =>
      obtain ⟨clear', answers⟩ := moves rfl status moved
      obtain ⟨clear', nothing⟩ := clear_resume clear' .done
      refine ⟨fun _ _ => clear', ?_⟩
      have resumed : (TunnelControl.Engine.resume call .done turn.engine).2 = [] := nothing
      rw [seen_unchanged, resumed, codesAnswered_append, codesAnswered_append,
        codesAnswered_append, answers, codesAnswered_logs]
      rfl
  | log => exact ⟨clear, rfl⟩
  | @reply reply call status fits =>
      obtain ⟨clear', nothing⟩ := clear_resume (clear _ status) reply
      refine ⟨fun _ _ => clear', ?_⟩
      have resumed : (TunnelControl.Engine.resume call reply s.engine).2 = [] := nothing
      rw [seen_unchanged, resumed, codesAnswered_append, codesAnswered_append, codesAnswered_logs]
      rfl
  | enter => exact ⟨fun _ _ => rfl, rfl⟩
  | logLast status => exact ⟨clear, rfl⟩
  | acknowledge status fits logged | report status finished handled logged
  | post status finished channel logged =>
      refine ⟨clear_of_still (by simp [Session.afterReport]), ?_⟩
      subst logged
      split <;> rfl
  | failStart status logged =>
      refine ⟨clear_of_still (by simp), ?_⟩
      subst logged
      split <;> rfl
  | receive | hangUp => exact ⟨clear, rfl⟩
  | misname | findFull | failSpawn => exact ⟨clear_of_still (by simp [Session.refuse]), rfl⟩
  | drop | accept | takeSlot | launch | retire | free | unbind | close | returnSlot =>
      exact ⟨clear_of_still (by simp), rfl⟩

/-! ## The library calls in -/

/-- The library is at work where it calls in. -/
theorem inside_of_enters {entry : Entry} {bound : Bool} {turn : Turn Engine Note}
    (moved : s.engine.move (.enters entry bound) = some turn) :
    ∃ stage, s.engine.point = .inside stage ∧ turn = s.engine.callIn stage entry bound := by
  cases point : s.engine.point <;> simp only [Engine.move, point, reduceCtorEq] at moved
  rename_i stage
  exact ⟨stage, rfl, (Option.some.inj moved).symm⟩

theorem callIn_of_unreached {e : Engine} {entry : Entry} {bound : Bool}
    (inside : e.point = .inside stage) (unreached : entry.reach? bound = none) :
    e.callIn stage entry bound =
      ⟨e, entry.fallback?.toList.map fun rc => .note (.answered entry rc), none⟩ := by
  unfold Entry.reach? at unreached
  simp only [Engine.callIn, unreached, Engine.goBack, Engine.moveTo, ← inside]
  rfl

theorem callIn_of_reached {e : Engine} {entry : Entry} {bound : Bool}
    (reached : entry.reach? bound = some call) :
    e.callIn stage entry bound = ⟨e.moveTo (.asking stage entry), [], some call⟩ := by
  unfold Entry.reach? at reached
  simp only [Engine.callIn, reached]

/-- A call that is back before anything was replied. -/
theorem failsClosed_at_once {p : Passage Engine} {entry : Entry} {bound : Bool}
    (inside : p.before.engine.point = .inside stage)
    (engine : p.result.session.engine = p.before.engine)
    (status : p.result.session.status = .running none)
    (told : callsTold p.result.seen = (entry.reach? bound).toList)
    (replies : repliesGiven p.result.seen = [])
    (answers : codesAnswered p.result.seen = entry.fallback?.toList) :
    FailsClosed ((Crossing.mk entry bound p.before.engine [] [] [] [] none).follow p) ∧
      Clear p.result.session := by
  have back : inLibrary p.result.session = true := by
    rw [inLibrary, status, engine, inside]
  rw [Crossing.follow_of_unfinished rfl]
  refine ⟨⟨by simpa using told, by simp [replies], ?_, by simp [back, engine]⟩, ?_⟩
  · rw [code?_of_failed (Or.inl (by simpa using replies))]
    simpa using answers
  · intro asked _
    rw [engine, inside]
    rfl

/-- Only of reconnections there are notices, and nobody asks for a code then. -/
theorem fallback?_of_notice {entry : Entry} {bound : Bool} {notice : Notice}
    (reached : entry.reach? bound = some call) (told : call.notice? = some notice) :
    entry.fallback? = none := by
  obtain ⟨-, called⟩ := Entry.reach?_eq_some_iff.mp reached
  refine entry_of_fits (r := .done) called ?_
  cases call <;> first | rfl | cases told

/-- **The library calls in.** The controller is asked, or the call is over at once. -/
theorem pending_of_enters {entry : Entry} {bound : Bool}
    (stepped : s.step runners (.move (Move.enters entry bound)) = some r) :
    Pending ((Crossing.mk entry bound s.engine [] [] [] [] none).follow
        ⟨s, .move (Move.enters entry bound), r⟩) r.session ∨
      FailsClosed ((Crossing.mk entry bound s.engine [] [] [] [] none).follow
        ⟨s, .move (Move.enters entry bound), r⟩) ∧ Clear r.session := by
  cases Session.transition_of_step stepped with
  | move status moved silent =>
      obtain ⟨stage, inside, rfl⟩ := inside_of_enters moved
      cases reached : entry.reach? bound with
      | some call => simp [callIn_of_reached reached] at silent
      | none =>
          have back := callIn_of_unreached inside reached
          refine Or.inr (failsClosed_at_once inside ?_ status ?_ ?_ ?_)
          · simp only [back]
          · rw [seen_unchanged, callsTold_inLoop, reached]
            rfl
          · rw [seen_unchanged, repliesGiven_inLoop]
          · simp only [seen_unchanged, back]
            exact codesAnswered_back [] entry entry.fallback?
  | @ask m turn call status moved asked =>
      obtain ⟨stage, inside, rfl⟩ := inside_of_enters moved
      cases reached : entry.reach? bound with
      | none => simp [callIn_of_unreached inside reached] at asked
      | some call' =>
          have turn : s.engine.callIn stage entry bound = _ := callIn_of_reached reached
          obtain rfl : call' = call := by simpa [turn] using asked
          obtain ⟨rfl, called⟩ := Entry.reach?_eq_some_iff.mp reached
          left
          rw [Crossing.follow_of_unfinished rfl]
          refine ⟨?_, rfl, stage, call', inside, rfl, called, ?_, .reply ?_ rfl ?_ rfl⟩
          · simp [seen_unchanged, turn, codesAnswered]
          · simp [seen_unchanged, turn, callsTold]
          · simp only [turn]
          · simp [seen_unchanged, turn, repliesGiven]
  | @forward m turn call notice status moved asked channel told =>
      obtain ⟨stage, inside, rfl⟩ := inside_of_enters moved
      cases reached : entry.reach? bound with
      | none => simp [callIn_of_unreached inside reached] at asked
      | some call' =>
          have turn : s.engine.callIn stage entry bound = _ := callIn_of_reached reached
          obtain rfl : call' = call := by simpa [turn] using asked
          have resumed : TunnelControl.Engine.resume call' .done
              (s.engine.moveTo (.asking stage entry)) = (s.engine, []) :=
            (follow_moveTo ..).trans (follow_answer inside)
          have events : (s.engine.callIn stage entry bound).happenings.map Happening.inLoop ++
              (call'.announcement.map .log ++ [.forwarded notice] ++
                (TunnelControl.Engine.resume call' .done
                  (s.engine.callIn stage entry bound).engine).2.map Happening.inLoop) =
              call'.announcement.map .log ++ [.forwarded notice] := by
            simp only [turn, resumed]
            exact List.append_nil _
          refine Or.inr (failsClosed_at_once inside ?_ rfl ?_ ?_ ?_)
          · simp only [turn, resumed]
          · rw [seen_unchanged, events, callsTold_append, callsTold_logs, reached]
            exact congrArg (fun call => [call]) (Notice.call_eq told)
          · rw [seen_unchanged, events, repliesGiven_append, repliesGiven_logs]
            rfl
          · rw [seen_unchanged, events, codesAnswered_append, codesAnswered_logs,
              fallback?_of_notice reached told]
            rfl

end step

/-! ## A crossing comes to its end -/

/-- Whatever the controller replies, if it is being asked, and whatever codes the library
returns for what is written, the library has control back in the end, and the engine is the
one it called in at. -/
def Finishes (w : World Engine) (key : Nat) (s : Session Engine) (x : Crossing) : Prop :=
  ∀ (reply : Reply) (rc : Nat → Int32),
    (∀ call, s.status = .running (some call) → reply.fits call = true) →
    ∃ (acts : List (Session.Act Engine)) (new : List (Event Note)) (n : Nat),
      w.LeadsTo key (acts.map (.act key)) { s with engine := x.before, status := .running none }
        new ∧
      acts.filterMap codeReturned? = (List.range n).map rc ∧
      ∀ a ∈ acts, a = .reply reply ∨ a = .move Move.go ∨ codeReturned? a ≠ none

/-- Values are written and the library returns these codes for them. -/
def writeBack (codes : List Int32) : List (Session.Act Engine) :=
  codes.flatMap fun rc => [.move Move.go, .move (Move.returns rc)]

theorem map_writeBack (key : Nat) (codes : List Int32) :
    (writeBack codes).map (.act key) = writing key codes := by
  simp [writeBack, writing, List.map_flatMap]

theorem codes_writeBack (codes : List Int32) :
    (writeBack codes).filterMap codeReturned? = codes := by
  induction codes with
  | nil => rfl
  | cons rc codes ih => exact congrArg (rc :: ·) ih

theorem mem_writeBack {codes : List Int32} {a : Session.Act Engine} (mem : a ∈ writeBack codes) :
    a = .move Move.go ∨ codeReturned? a ≠ none := by
  obtain ⟨rc, -, mem⟩ := List.mem_flatMap.mp mem
  rcases List.mem_cons.mp mem with rfl | mem
  · exact Or.inl rfl
  · cases List.mem_singleton.mp mem
    exact Or.inr nofun

/-- Once the controller has replied only the library has a say. -/
theorem leadsTo_of_follow {e : Engine} {stage : Stage} (entry : Entry) (verdict : Verdict)
    (inside : e.point = .inside stage) (rc : Nat → Int32) :
    ∃ n, ∀ {w : World Engine} {key : Nat} {s : Session Engine}, w.session? key = some s →
      s.status = .running none → s.engine = (e.follow stage entry verdict).1 →
      ∃ new, w.LeadsTo key (writing key ((List.range n).map rc)) { s with engine := e } new := by
  have back : ∀ (code : Option Int32) (log : List Log.Entry) {w : World Engine} {key : Nat}
      {s : Session Engine}, w.session? key = some s →
      s.engine = (e.follow stage entry (.answer code log)).1 →
      ∃ new, w.LeadsTo key [] { s with engine := e } new := by
    intro code log w key s found engine
    rw [follow_answer inside] at engine
    have same : s.engine = e := engine
    exact ⟨[], w, rfl, by rw [found, ← same], by simp⟩
  match verdict with
  | .answer code log => exact ⟨0, fun found _ engine => back code log found engine⟩
  | .write code [] => exact ⟨0, fun found _ engine => back (some code) [] found engine⟩
  | .write code (a :: left) =>
      let codes := (List.range (left.length + 1)).map rc
      refine ⟨min (taken codes + 1) (left.length + 1), fun {w key s} found status engine => ?_⟩
      have engine : s.engine = e.moveTo (.writing stage entry code (a :: left)) := engine
      have count : codes.length = left.length + 1 := by simp [codes]
      obtain ⟨new, leads, -⟩ := leadsTo_of_writing found status (by rw [engine]; rfl) count
      have done : s.engine.moveTo (.inside stage) = e := by
        simp only [engine, Engine.moveTo, ← inside]
      rw [done, ← List.map_take, List.take_range] at leads
      exact ⟨new, leads⟩

/-- The library takes or refuses an answer. -/
theorem exists_returned {e : Engine} {stage : Stage} (entry : Entry) (code : Int32) (a : Answer)
    (left : List Answer) (inside : e.point = .inside stage) (rc : Int32) :
    ∃ turn : Turn Engine Note,
      (e.moveTo (.written stage entry code a left)).move (.returns rc) = some turn ∧
        turn.call = none ∧
        turn.engine = (e.follow stage entry
          (if rc = 0 then .write code left else .answer none [])).1 := by
  by_cases taken : rc = 0
  · have moved : (e.moveTo (.written stage entry code a left)).move (.returns rc) =
        some ⟨(e.follow stage entry (.write code left)).1,
          (e.follow stage entry (.write code left)).2, none⟩ := by
      rw [← follow_moveTo e (.written stage entry code a left) (.write code left)]
      simp [Engine.move, Engine.moveTo, taken]
    exact ⟨_, moved, rfl, by rw [if_pos taken]⟩
  · refine ⟨⟨e, [.log (.writeBackFailed (.rejected a.option)),
      .note (.answered entry FormResult.failed.raw)], none⟩, ?_, rfl, ?_⟩
    · simp [Engine.move, Engine.moveTo, Engine.goBack, taken, ← inside]
    · rw [if_neg taken, follow_answer inside]

theorem Pending.finishes {w : World Engine} {key : Nat} {s : Session Engine} {x : Crossing}
    (pending : Pending x s) (found : w.session? key = some s) : Finishes w key s x := by
  intro reply rc fits
  obtain ⟨-, -, stage, call, inside, -, -, -, awaits⟩ := pending
  cases awaits with
  | reply engine asked =>
      obtain ⟨n, follows⟩ :=
        leadsTo_of_follow x.entry (Verdict.ofReply x.entry reply) inside rc
      have stepped : s.step w.runners (.reply reply) = some
          ⟨{ s with
              engine := (TunnelControl.Engine.resume call reply s.engine).1
              status := .running none },
            [.replied call reply] ++ (reply.remark call).map .log ++
              (TunnelControl.Engine.resume call reply s.engine).2.map Happening.inLoop,
            .unchanged⟩ := by
        simp [Session.step, asked, fits call asked]
      have resumed : TunnelControl.Engine.resume call reply s.engine =
          x.before.follow stage x.entry (Verdict.ofReply x.entry reply) := by
        rw [engine]
        exact follow_moveTo ..
      obtain ⟨new, leads⟩ := (World.leadsTo_of_step found stepped).exists_trans
        fun w' found' => follows found' rfl (by rw [resumed])
      refine ⟨.reply reply :: writeBack ((List.range n).map rc), new, n, ?_, ?_, ?_⟩
      · rw [List.map_cons, map_writeBack]
        exact leads
      · exact codes_writeBack _
      · intro a mem
        exact (List.mem_cons.mp mem).imp id mem_writeBack
  | @library g result done left a engine running =>
      rcases engine with engine | engine
      · obtain ⟨n, follows⟩ :=
          leadsTo_of_follow x.entry (.write result.raw (a :: left)) inside rc
        obtain ⟨new, leads⟩ := follows found running engine
        refine ⟨writeBack ((List.range n).map rc), new, n, ?_, codes_writeBack _, ?_⟩
        · rw [map_writeBack, ← running]
          exact leads
        · exact fun b mem => Or.inr (mem_writeBack mem)
      · -- The library has an answer already, and returns a code for it first.
        let verdict := if rc 0 = 0 then Verdict.write result.raw left else .answer none []
        obtain ⟨n, follows⟩ :=
          leadsTo_of_follow x.entry verdict inside (fun i => rc (i + 1))
        obtain ⟨turn, moved, silent, returned⟩ := exists_returned (e := x.before) x.entry
          result.raw a left inside (rc 0)
        rw [← engine] at moved
        obtain ⟨new, leads⟩ := (World.leadsTo_of_move (m := Move.returns (rc 0)) found running
          moved silent).exists_trans fun w' found' => follows found' running returned
        refine ⟨.move (Move.returns (rc 0)) :: writeBack ((List.range n).map fun i => rc (i + 1)),
          new, n + 1, ?_, ?_, ?_⟩
        · rw [List.map_cons, map_writeBack, ← running]
          exact leads
        · rw [List.range_succ_eq_map, List.map_cons, List.map_map]
          exact congrArg (rc 0 :: ·) (codes_writeBack _)
        · intro b mem
          rcases List.mem_cons.mp mem with rfl | mem
          · exact Or.inr (Or.inr (by simp [codeReturned?]))
          · exact Or.inr (mem_writeBack mem)

/-! ## Runs -/

/-- What has become of the library's calls: they have failed closed, but for the last one if
that is not over. -/
structure Bounded (s : Session Engine) (h : List (Event Note)) (xs : List Crossing) : Prop where
  answered : codesAnswered h = xs.reverse.flatMap Crossing.answers
  crossings : (Clear s ∧ ∀ x ∈ xs, FailsClosed x) ∨
    ∃ x rest, xs = x :: rest ∧ Pending x s ∧ ∀ y ∈ rest, FailsClosed y

theorem cross_of_other {p : Passage Engine} {xs : List Crossing}
    (other : ∀ entry bound, p.act ≠ .move (Move.enters entry bound)) :
    cross xs p = match xs with | [] => [] | x :: xs => x.follow p :: xs := by
  unfold cross
  split
  · exact absurd ‹_› (other _ _)
  · rfl

/-- Nothing is added to a crossing that is over. -/
theorem cross_of_ended {p : Passage Engine} {xs : List Crossing}
    (other : ∀ entry bound, p.act ≠ .move (Move.enters entry bound))
    (ended : ∀ x ∈ xs, FailsClosed x) : cross xs p = xs := by
  rw [cross_of_other other]
  cases xs with
  | nil => rfl
  | cons x xs => simp [Crossing.follow, (ended x List.mem_cons_self).restored]

theorem Bounded.step {runners : List Runner} {s : Session Engine} {a : Session.Act Engine}
    {r : Session.Result Engine Note} {h : List (Event Note)} {xs : List Crossing}
    (bounded : Bounded s h xs) (stepped : s.step runners a = some r) :
    Bounded r.session (h ++ r.seen) (cross xs ⟨s, a, r⟩) := by
  obtain ⟨answered, ⟨clear, ended⟩ | ⟨x, rest, rfl, pending, ended⟩⟩ := bounded
  · by_cases enters : ∃ entry bound, a = .move (Move.enters entry bound)
    · obtain ⟨entry, bound, rfl⟩ := enters
      have next := pending_of_enters stepped
      have mine : ((Crossing.mk entry bound s.engine [] [] [] [] none).follow
          ⟨s, .move (Move.enters entry bound), r⟩).answers = codesAnswered r.seen := by
        rw [Crossing.follow_of_unfinished rfl]
        exact List.nil_append _
      refine ⟨?_, ?_⟩
      · simp [cross, codesAnswered_append, answered, mine]
      · rcases next with pending | ⟨closed, clear'⟩
        · exact Or.inr ⟨_, xs, rfl, pending, ended⟩
        · exact Or.inl ⟨clear', List.forall_mem_cons.mpr ⟨closed, ended⟩⟩
    · have other : ∀ entry bound, a ≠ .move (Move.enters entry bound) :=
        fun entry bound same => enters ⟨entry, bound, same⟩
      obtain ⟨clear', silent⟩ := clear.step stepped other
      rw [cross_of_ended other ended]
      refine ⟨?_, Or.inl ⟨clear', ended⟩⟩
      rw [codesAnswered_append, silent, List.append_nil, answered]
  · obtain ⟨other, next⟩ := pending.step stepped
    have mine : (x.follow ⟨s, a, r⟩).answers = x.answers ++ codesAnswered r.seen := by
      rw [Crossing.follow_of_unfinished pending.unfinished]
    rw [cross_of_other other]
    refine ⟨?_, ?_⟩
    · simp [codesAnswered_append, answered, mine]
    · rcases next with pending' | ⟨closed, clear'⟩
      · exact Or.inr ⟨_, rest, rfl, pending', ended⟩
      · exact Or.inl ⟨clear', List.forall_mem_cons.mpr ⟨closed, ended⟩⟩

/-- Whether an argument that the controller needs is missing. -/
def Entry.lacks : Entry → Bool
  | .browser none | .form none | .line _ none => true
  | _ => false

/-- A call of the library stays what it is: one call of the controller at most, and one
answer, which is the fallback unless the controller made something else of this very call. -/
structure Contained (w : World Engine) (key : Nat) (s : Session Engine) (x : Crossing) : Prop where
  told : x.told = (x.entry.reach? x.bound).toList
  /-- What is missing never reaches the controller. -/
  missing : x.entry.lacks = true ∨ x.bound = false → x.told = []
  /-- A certificate without a reason does. -/
  reason : x.entry = .certificate none → x.bound = true → x.told = [.certificate ""]
  ended : x.after ≠ none → FailsClosed x
  pending : x.after = none → x.answers = [] ∧ Finishes w key s x

theorem reach?_of_missing {entry : Entry} {bound : Bool}
    (missing : entry.lacks = true ∨ bound = false) : entry.reach? bound = none := by
  rcases missing with lacks | rfl
  · unfold Entry.lacks at lacks
    split at lacks <;> first | exact ite_self _ | cases lacks
  · rfl

theorem Bounded.contained {w : World Engine} {key : Nat} {s : Session Engine}
    {h : List (Event Note)} {xs : List Crossing} {x : Crossing} (bounded : Bounded s h xs)
    (found : w.session? key = some s) (mem : x ∈ xs) : Contained w key s x := by
  have either : FailsClosed x ∨ Pending x s := by
    rcases bounded.crossings with ⟨-, ended⟩ | ⟨x', rest, rfl, pending, ended⟩
    · exact Or.inl (ended x mem)
    · rcases List.mem_cons.mp mem with rfl | mem
      · exact Or.inr pending
      · exact Or.inl (ended x mem)
  have told : x.told = (x.entry.reach? x.bound).toList := by
    rcases either with closed | ⟨-, -, stage, call, -, bound, called, told, -⟩
    · exact closed.told
    · rw [told, Entry.reach?_eq_some_iff.mpr ⟨bound, called⟩]
      rfl
  refine ⟨told, fun missing => ?_, fun entry bound => ?_, fun ended => ?_, fun unfinished => ?_⟩
  · rw [told, reach?_of_missing missing]
    rfl
  · rw [told, entry, bound]
    rfl
  · exact either.resolve_right fun pending => ended pending.unfinished
  · rcases either with closed | pending
    · exact absurd (closed.restored.symm.trans unfinished) nofun
    · exact ⟨pending.unanswered, pending.finishes found⟩

/-- **Failing closed.** Of all that the library is answered in a run, each code belongs to one
of its calls, and each of these calls is contained: no matter what it came with, what the
controller made of the calls before, and whether it panicked over them. -/
theorem fails_closed {configs : List RunnerConfig} {as : List (Action Engine)} {w : World Engine}
    {key : Nat} {s : Session Engine} (ran : run as (World.new configs) = some w)
    (found : w.session? key = some s) :
    codesAnswered (w.history key) =
        (crossings (passages key as (World.new configs))).reverse.flatMap Crossing.answers ∧
      ∀ x ∈ crossings (passages key as (World.new configs)), Contained w key s x := by
  have bounded : Bounded s (w.history key) (crossings (passages key as (World.new configs))) := by
    refine World.passages_invariant (P := fun s h ps => Bounded s h (crossings ps)) ?_ ?_ ran found
    · intro plan agent lifecycle id engine happenings made
      exact ⟨codesAnswered_make made, Or.inl ⟨clear_of_still (by simp), by simp [crossings]⟩⟩
    · intro runners s a r h ps _ stepped bounded
      rw [crossings, List.foldl_append]
      exact bounded.step stepped
  exact ⟨bounded.answered, fun x mem => bounded.contained found mem⟩

/-- A certificate over which the controller panics, a browser that is to open nothing, a form
of which one value is refused, a certificate that is accepted, and a form with the controller
still at it. -/
def boundaryRun : List (Action Engine) :=
  atWork ++
    [.act 0 (.move (Move.enters (.certificate none) true)), .act 0 (.reply .panic),
      .act 0 (.move (Move.enters (.browser none) true)),
      .act 0 (.move (Move.enters (.form (some loginForm)) true)),
      .act 0 (.reply (.form loginAnswered .ok)), .act 0 (.move Move.go),
      .act 0 (.move (Move.returns 0)), .act 0 (.move Move.go), .act 0 (.move (Move.returns 22)),
      .act 0 (.move (Move.enters (.certificate none) true)),
      .act 0 (.reply (.certificate .accept)),
      .act 0 (.move (Move.enters (.form (some loginForm)) true))]

theorem boundaryRun_fails_closed :
    ∃ w s, run boundaryRun (World.new [.default]) = some w ∧ w.session? 0 = some s ∧
      codesAnswered (w.history 0) = [1, 1, -1, 0] ∧
      (crossings (passages 0 boundaryRun (World.new [.default]))).map Crossing.answers =
        [[], [0], [-1], [1], [1]] ∧
      ∀ x ∈ crossings (passages 0 boundaryRun (World.new [.default])), Contained w 0 s x := by
  obtain ⟨w, s, ran, found⟩ : ∃ w s, run boundaryRun (World.new [.default]) = some w ∧
      w.session? 0 = some s := ⟨_, _, rfl, rfl⟩
  have answers : (crossings (passages 0 boundaryRun (World.new [.default]))).map
      Crossing.answers = [[], [0], [-1], [1], [1]] := rfl
  obtain ⟨answered, contained⟩ := fails_closed ran found
  refine ⟨w, s, ran, found, ?_, answers, contained⟩
  rw [answered, List.flatMap_def, List.map_reverse, answers]
  rfl

end Native
end TunnelControl
