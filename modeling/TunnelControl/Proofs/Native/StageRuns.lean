import TunnelControl.Proofs.Native.Stages
import TunnelControl.Proofs.Settings

/-!
# Main loops from beginning to end

What is seen of a session that has entered the native main loop is the next part of its course,
step by step (`Entered.follows`) and so in every run: the surroundings are what the loop turned
out to be told. The other way round, whatever the surroundings are, a loop can be told just that,
and then it goes all the way to the end (`Entered.exists_rest`). `toGo` gets less on the way.
-/

namespace TunnelControl.Native

open Session (Transition)
open World (run passages)
open StageEvent

/-! ## The session -/

/-- Whether the loop is still ahead. -/
def isAhead : Status → Bool
  | .held | .starting | .placed | .launched => true
  | _ => false

/-- What is left of the session's course. -/
def left (s : Session Engine) (x : Surroundings) : List StageEvent :=
  match s.status with
  | .running _ => s.engine.left x
  | _ => []

/-- The session has entered the loop, and is asked about the addressing as long as the engine waits
for the reply to that. -/
structure Entered (s : Session Engine) : Prop where
  entered : isAhead s.status = false
  asked : ∀ call, s.status = .running (some call) →
    (s.engine.point = .informing ↔ ∃ info, call = .connected info)

/-- The events are the next part of the session's course. -/
structure Follows (s s' : Session Engine) (events : List StageEvent)
    (hear : Surroundings → Surroundings) : Prop where
  entered : Entered s'
  runner : s'.runner = s.runner
  tunScript : s'.engine.tunScript = s.engine.tunScript
  limits : s'.engine.limits = s.engine.limits
  left : ∀ x, events ++ left s' x = left s (hear x)

variable {runners : List Runner} {s : Session Engine} {a : Session.Act Engine}
  {r : Session.Result Engine Note}

/-- Nothing that the loop depends on changes. -/
theorem Entered.follows_aside {s' : Session Engine} (entered : Entered s)
    (status : s'.status = s.status) (engine : s'.engine = s.engine)
    (runner : s'.runner = s.runner) : Follows s s' [] id := by
  refine ⟨⟨status ▸ entered.entered, ?_⟩, runner, engine ▸ rfl, engine ▸ rfl, fun x => ?_⟩
  · rw [status, engine]
    exact entered.asked
  · rw [left, left, status, engine]
    rfl

theorem left_of_past (past : ∀ asked, s.status ≠ .running asked) (x : Surroundings) :
    left s x = [] := by
  unfold left
  split
  · exact absurd ‹_› (past _)
  · rfl

/-- After the loop. -/
theorem follows_after {s' : Session Engine} (past : ∀ asked, s.status ≠ .running asked)
    (entered : isAhead s'.status = false) (past' : ∀ asked, s'.status ≠ .running asked)
    (runner : s'.runner = s.runner) (tunScript : s'.engine.tunScript = s.engine.tunScript)
    (limits : s'.engine.limits = s.engine.limits) : Follows s s' [] id := by
  refine ⟨⟨entered, fun call running => absurd running (past' _)⟩, runner, tunScript, limits,
    fun x => ?_⟩
  rw [left_of_past past, left_of_past past']
  rfl

/-- The code that the loop came to is reported. -/
theorem follows_over {s' : Session Engine} {outcome : Outcome} (status : s.status = .running none)
    (finished : TunnelControl.Engine.outcome? s.engine = some outcome)
    (entered : isAhead s'.status = false) (past' : ∀ asked, s'.status ≠ .running asked)
    (runner : s'.runner = s.runner) (engine : s'.engine = s.engine) :
    Follows s s' [.reported outcome.code] id := by
  have point : s.engine.point = .done outcome := by
    have finished : s.engine.outcome? = some outcome := finished
    unfold Engine.outcome? at finished
    split at finished
    · cases finished
      assumption
    · cases finished
  refine ⟨⟨entered, fun call running => absurd running (past' _)⟩, runner, engine ▸ rfl,
    engine ▸ rfl, fun x => ?_⟩
  rw [left_of_past past', left, status, Engine.left_eq point]
  rfl

/-- A step of the loop, where the engine follows its course. -/
theorem follows_running {s' : Session Engine} {asked asked' : Option Callback}
    {events : List StageEvent} {hear : Surroundings → Surroundings}
    (status : s.status = .running asked) (status' : s'.status = .running asked')
    (asks : ∀ call, asked' = some call →
      (s'.engine.point = .informing ↔ ∃ info, call = .connected info))
    (runner : s'.runner = s.runner) (engine : s.engine.Follows s'.engine events hear) :
    Follows s s' events hear := by
  refine ⟨⟨by rw [status']; rfl, fun call running => ?_⟩, runner, engine.tunScript, engine.limits,
    fun x => ?_⟩
  · rw [status'] at running
    exact asks call (by cases running; rfl)
  · rw [left, left, status, status']
    exact engine.left x

/-- Whatever is done to a command pipe, the loop has nothing to do with it. -/
theorem still_of_access {x : Engine.Access Engine} {engine : Engine}
    {happenings : List (Happening Note)}
    (used : TunnelControl.Engine.access x s.engine = some (engine, happenings)) :
    engine = s.engine ∧ shown (happenings.map Happening.atCaller) = [] := by
  have used : s.engine.access x = (engine, happenings) := Option.some.inj used
  unfold Engine.access at used
  split at used <;> cases used <;> exact ⟨rfl, rfl⟩

/-- The act and what is seen of it make up what the session follows. -/
theorem Follows.seen {h : List (Event Note)} {hear : Surroundings → Surroundings}
    (next : Follows s r.session ((ofAnswer? s.engine.point a).toList ++ shown h) hear)
    (seen : r.seen = h) (other : ∀ entry, a ≠ .log entry) :
    Follows s r.session (ofPassage ⟨s, a, r⟩) hear := by
  subst seen
  cases a with
  | log entry => exact absurd rfl (other entry)
  | _ => exact next

section moves

variable {m : Move} {turn : Turn Engine Note} {call : Callback}

theorem follows_of_silent (status : s.status = .running none)
    (moved : s.engine.move m = some turn) (silent : turn.call = none) :
    Follows s { s with engine := turn.engine }
      (ofPassage ⟨s, .move m, ⟨{ s with engine := turn.engine },
        turn.happenings.map Happening.inLoop, .unchanged⟩⟩) (·.heard s.engine.point m) := by
  refine Follows.seen ?_ Session.Result.seen_unchanged nofun
  have next := Engine.follows_of_move moved
  rw [Engine.stageEvents, silent, Option.bind_none, Option.toList_none, List.append_nil] at next
  exact follows_running status status (by simp) rfl next

theorem follows_of_ask (status : s.status = .running none) (moved : s.engine.move m = some turn)
    (asked : turn.call = some call) :
    Follows s { s with engine := turn.engine, status := .running (some call) }
      (ofPassage ⟨s, .move m, ⟨{ s with engine := turn.engine, status := .running (some call) },
        turn.happenings.map Happening.inLoop ++ (call.announcement.map .log ++ [.called call]),
        .unchanged⟩⟩) (·.heard s.engine.point m) := by
  refine Follows.seen ?_ Session.Result.seen_unchanged nofun
  have next := Engine.follows_of_move moved
  rw [Engine.stageEvents, asked, Option.bind_some, ← shown_ask] at next
  refine follows_running status rfl ?_ rfl next
  rintro call ⟨⟩
  exact Engine.informing_iff_of_move moved asked

/-- With a notice that goes into its channel the engine has its reply at once. -/
theorem follows_of_forward {notice : Notice} (status : s.status = .running none)
    (moved : s.engine.move m = some turn) (asked : turn.call = some call)
    (told : call.notice? = some notice) :
    Follows s { s with
        engine := (turn.engine.resume .done).1
        lifecycle := s.lifecycle.forward notice
        status := .running none }
      (ofPassage ⟨s, .move m, ⟨{ s with
          engine := (turn.engine.resume .done).1
          lifecycle := s.lifecycle.forward notice
          status := .running none },
        turn.happenings.map Happening.inLoop ++ (call.announcement.map .log ++
          [.forwarded notice] ++ (turn.engine.resume .done).2.map Happening.inLoop),
        .unchanged⟩⟩) ((·.heard s.engine.point m) ∘ (·.replied turn.engine.point .done)) := by
  refine Follows.seen ?_ Session.Result.seen_unchanged nofun
  have taken : ofEvent? (.replied call .done) = none := Engine.ofEvent?_replied (.inl (by simp))
  have next := (Engine.follows_of_move moved).trans
    (Engine.follows_of_resume .done (Engine.informing_iff_of_move moved asked))
  rw [taken, Engine.stageEvents, asked, Option.bind_some, Option.toList_none, List.nil_append,
    List.append_assoc, ← shown_forward _ _ told] at next
  exact follows_running status rfl (by simp) rfl next

theorem follows_of_reply {r : Reply} (entered : Entered s)
    (status : s.status = .running (some call)) :
    Follows s { s with engine := (s.engine.resume r).1, status := .running none }
      (ofPassage ⟨s, .reply r, ⟨{ s with engine := (s.engine.resume r).1, status := .running none },
        [.replied call r] ++ (r.remark call).map .log ++
          (s.engine.resume r).2.map Happening.inLoop, .unchanged⟩⟩)
      (·.replied s.engine.point r) := by
  refine Follows.seen ?_ Session.Result.seen_unchanged nofun
  have next := Engine.follows_of_resume r (entered.asked call status)
  rw [← shown_reply] at next
  exact follows_running status rfl (by simp) rfl next

end moves

/-- The end of the loop shows in the code that is reported, wherever that goes. -/
theorem ofPassage_finish (runners : List Runner) (trans : Transition runners s .finish r) :
    ∃ outcome, TunnelControl.Engine.outcome? s.engine = some outcome ∧
      ofPassage ⟨s, .finish, r⟩ = [.reported outcome.code] := by
  cases trans with
  | @report outcome logs status finished handled logged =>
      have seen : shown (logs ++ [.log (.loopExited outcome.code), .ended outcome] ++
          [.called (.terminated ⟨s.id, outcome.code⟩)]) = [.reported outcome.code] := by
        rw [logged, shown_append, shown_append, shown_ite _ rfl]
        rfl
      refine ⟨outcome, finished, ?_⟩
      rw [ofPassage, Session.Result.seen_unchanged]
      exact seen
  | @post outcome logs status finished channel logged =>
      have seen : shown (logs ++ [.log (.loopExited outcome.code), .ended outcome] ++
          [.forwarded (.terminated ⟨s.id, outcome.code⟩)]) = [.reported outcome.code] := by
        rw [logged, shown_append, shown_append, shown_ite _ rfl]
        rfl
      refine ⟨outcome, finished, ?_⟩
      rw [ofPassage, Session.Result.seen_unchanged]
      exact seen

theorem follows_of_finish (runners : List Runner) (trans : Transition runners s .finish r) :
    Follows s r.session (ofPassage ⟨s, .finish, r⟩) id := by
  obtain ⟨outcome, finished, seen⟩ := ofPassage_finish runners trans
  rw [seen]
  cases trans with
  | report status => exact follows_over status finished rfl (by simp) rfl rfl
  | post status => exact follows_over status finished rfl (by simp) rfl rfl

/-- Nothing of the loop is left when the session comes to its end. -/
theorem follows_of_dispose (runners : List Runner) (trans : Transition runners s .dispose r) :
    Follows s r.session (ofPassage ⟨s, .dispose, r⟩) id := by
  cases trans with
  | retire status => exact follows_after (by simp [status]) rfl (by simp) rfl rfl rfl
  | free status => exact follows_after (by simp [status]) rfl (by simp) rfl rfl rfl
  | unbind status => exact follows_after (by simp [status]) rfl (by simp) rfl rfl rfl
  | close status => exact follows_after (by simp [status]) rfl (by simp) rfl rfl rfl
  | returnSlot status => exact follows_after (by simp [status]) rfl (by simp) rfl rfl rfl
  | @failStart fault logs status logged =>
      have seen : shown (logs ++ [.refused fault]) = [] := by
        rw [logged]
        cases fault <;> rfl
      refine Follows.seen ?_ Session.Result.seen_unchanged nofun
      rw [seen]
      exact follows_after (by simp [status]) rfl (by simp) rfl rfl rfl

/-- **One step.** Whatever is done to a session that has entered the loop, what is seen of it is the
next part of its course. -/
theorem Entered.follows (entered : Entered s) (trans : Transition runners s a r) :
    ∃ hear, Follows s r.session (ofPassage ⟨s, a, r⟩) hear := by
  cases trans with
  | @access x engine happenings used =>
      obtain ⟨rfl, silent⟩ := still_of_access used
      refine ⟨id, Follows.seen ?_ Session.Result.seen_unchanged nofun⟩
      rw [silent]
      exact entered.follows_aside rfl rfl rfl
  | move status moved silent => exact ⟨_, follows_of_silent status moved silent⟩
  | ask status moved asked => exact ⟨_, follows_of_ask status moved asked⟩
  | forward status moved asked channel told =>
      exact ⟨_, follows_of_forward status moved asked told⟩
  | log | logLast | receive | hangUp => exact ⟨id, entered.follows_aside rfl rfl rfl⟩
  | reply status => exact ⟨_, follows_of_reply entered status⟩
  | @acknowledge r result logs status fits logged =>
      have seen : shown (.replied (.terminated result) r :: logs) = [] := by
        rw [logged, shown_cons, shown_ite _ rfl]
        cases r <;> rfl
      refine ⟨id, Follows.seen ?_ Session.Result.seen_unchanged nofun⟩
      rw [seen]
      exact follows_after (by simp [status]) rfl (by simp [Session.afterReport]) rfl rfl rfl
  | report status finished handled logged =>
      exact ⟨id, follows_of_finish runners (.report status finished handled logged)⟩
  | post status finished channel logged =>
      exact ⟨id, follows_of_finish runners (.post status finished channel logged)⟩
  | retire status => exact ⟨id, follows_of_dispose runners (.retire status)⟩
  | free status => exact ⟨id, follows_of_dispose runners (.free status)⟩
  | unbind status => exact ⟨id, follows_of_dispose runners (.unbind status)⟩
  | close status => exact ⟨id, follows_of_dispose runners (.close status)⟩
  | returnSlot status => exact ⟨id, follows_of_dispose runners (.returnSlot status)⟩
  | failStart status logged => exact ⟨id, follows_of_dispose runners (.failStart status logged)⟩
  | _ =>
    have ahead := entered.entered
    simp_all [isAhead]

/-! ## Whole runs -/

/-- The course of a session that has entered the loop does not depend on anything but what the
loop is told. -/
theorem Entered.prefix_left {configs : List RunnerConfig} {s' : Session Engine}
    {ps : List (Passage Engine)} (path : Session.Path configs s ps s') (entered : Entered s) :
    Entered s' ∧ s'.runner = s.runner ∧ s'.engine.tunScript = s.engine.tunScript ∧
      ∃ x, ps.flatMap ofPassage <+: left s x := by
  induction path with
  | refl s => exact ⟨entered, rfl, rfl, default, List.nil_prefix⟩
  | cons same trans later ih =>
      obtain ⟨hear, next⟩ := entered.follows trans
      obtain ⟨still, runner, tunScript, x, later⟩ := ih next.entered
      refine ⟨still, runner.trans next.runner, tunScript.trans next.tunScript, hear x, ?_⟩
      rw [List.flatMap_cons, ← next.left]
      exact (List.prefix_append_right_inj _).mpr later

/-- Making a setting is none of the loop's own calls. -/
theorem isOfStage_of_libraryCall {x : Setting} {c : Call} (made : libraryCall? x = some c) :
    c.isOfStage = false := by
  cases x with
  | logLevel | dpd | insecureCrypto =>
      cases made
      rfl
  | protocol | url | csd =>
      obtain ⟨_, -, rfl⟩ := Option.map_eq_some_iff.mp made
      rfl
  | tunScript => cases made

theorem shown_setup (x : Setup) (e : Engine) :
    shown ((e.setup x).2.map Happening.atCaller) = [] := by
  cases x with
  | configure o rc =>
      obtain ⟨made, failed, -, left⟩ := e.configure_madeInOrder o rc
      have notes : (e.setup (.configure o rc)).2 = (made ++ failed.toList).flatMap callNotes :=
        congrArg Prod.snd left
      rw [notes, shown, List.filterMap_eq_nil_iff, List.forall_mem_map]
      intro note mem
      obtain ⟨x, -, mem⟩ := List.mem_flatMap.mp mem
      obtain ⟨c, called, rfl⟩ := List.mem_map.mp mem
      have other := isOfStage_of_libraryCall (Option.mem_toList.mp called)
      simp [Happening.atCaller, ofEvent?, other]
  | openPipe rc =>
      change shown ((e.openPipe rc).1.2.map Happening.atCaller) = []
      unfold Engine.openPipe
      repeat' split
      all_goals rfl

/-- Before the loop nothing is seen of it, until it is entered at its beginning. -/
theorem step_of_ahead (ahead : isAhead s.status = true) (trans : Transition runners s a r) :
    ofPassage ⟨s, a, r⟩ = [] ∧
      (isAhead r.session.status = true ∨
        (isAhead r.session.status = false ∧ ∀ asked, r.session.status ≠ .running asked) ∨
        ∃ i runner, s.runner = some i ∧ runners[i]? = some runner ∧ r.session = { s with
          engine := { s.engine with limits := runner.config.limits, point := .calling .cookie }
          status := .running none }) := by
  cases trans with
  | @setup x engine happenings status set =>
      have made : (s.engine.setup x).2 = happenings := congrArg Prod.snd (Option.some.inj set)
      refine ⟨?_, .inl ahead⟩
      rw [ofPassage, Session.Result.seen_unchanged, ← made]
      exact shown_setup x s.engine
  | @access x engine happenings used =>
      refine ⟨?_, .inl ahead⟩
      rw [ofPassage, Session.Result.seen_unchanged]
      exact (still_of_access used).2
  | drop status => exact ⟨rfl, .inr (.inl ⟨rfl, by simp⟩)⟩
  | misname status place nul => exact ⟨rfl, .inr (.inl ⟨rfl, by simp [Session.refuse]⟩)⟩
  | accept => exact ⟨rfl, .inl rfl⟩
  | findFull => exact ⟨rfl, .inr (.inl ⟨rfl, by simp [Session.refuse]⟩)⟩
  | takeSlot => exact ⟨rfl, .inl rfl⟩
  | launch => exact ⟨rfl, .inl rfl⟩
  | failSpawn => exact ⟨rfl, .inr (.inl ⟨rfl, by simp [Session.refuse]⟩)⟩
  | enter status given place => exact ⟨rfl, .inr (.inr ⟨_, _, given, place, rfl⟩)⟩
  | receive channel => exact ⟨rfl, .inl ahead⟩
  | hangUp channel => exact ⟨rfl, .inl ahead⟩
  | _ => simp_all [isAhead]

/-- **A loop goes along its course.** -/
theorem prefix_course_of_path {configs : List RunnerConfig} {s' : Session Engine}
    {ps : List (Passage Engine)} (path : Session.Path configs s ps s')
    (ahead : isAhead s.status = true) :
    ps.flatMap ofPassage = [] ∨ isAhead s'.status = false ∧
      ∃ i config x, s'.runner = some i ∧ configs[i]? = some config ∧
        ps.flatMap ofPassage <+: course s'.engine.tunScript config.limits x := by
  induction path with
  | refl s => exact .inl rfl
  | @cons runners s s' a r ps same trans later ih =>
      obtain ⟨silent, next⟩ := step_of_ahead ahead trans
      rw [List.flatMap_cons, silent, List.nil_append]
      rcases next with ahead | ⟨entered, past⟩ | ⟨i, runner, given, place, begun⟩
      · exact ih ahead
      · have entered : Entered r.session := ⟨entered, fun call running => absurd running (past _)⟩
        obtain ⟨-, -, -, x, nothing⟩ := entered.prefix_left later
        rw [left_of_past past, List.prefix_nil] at nothing
        exact .inl nothing
      · have entered : Entered r.session := ⟨by rw [begun]; rfl, by simp [begun]⟩
        obtain ⟨still, handed, stored, x, part⟩ := entered.prefix_left later
        refine .inr ⟨still.entered, i, runner.config, x, ?_, ?_, ?_⟩
        · rw [handed, begun, given]
        · rw [← same, List.getElem?_map, place]
          rfl
        · rw [stored, begun]
          rw [begun] at part
          exact part

/-! ## To the end -/

/-- The loop has only the library to wait for, or the controller to take the addressing. -/
inductive Poised (s : Session Engine) : Prop
  | calling {stage : Stage} (status : s.status = .running none)
      (point : s.engine.point = .calling stage)
  | inside {stage : Stage} (status : s.status = .running none)
      (point : s.engine.point = .inside stage)
  | informing {info : Addressing} (status : s.status = .running (some (.connected info)))
      (point : s.engine.point = .informing)
  | done {outcome : Outcome} (status : s.status = .running none)
      (point : s.engine.point = .done outcome)

/-- What is left of the loop, where waiting for the controller counts as well. -/
def toGo (s : Session Engine) (x : Surroundings) : Nat :=
  2 * (left s x).length + if s.status = .running none then 0 else 1

/-- The session goes on, with these events, to one with less to go. -/
structure GoesOn (s s' : Session Engine) (events : List StageEvent) (x : Surroundings) : Prop where
  usesChannel : s'.usesChannel = s.usesChannel
  left : events ++ Native.left s' x = Native.left s x
  toGo : toGo s' x < toGo s x
  poised : Poised s' ∨ Native.left s' x = []

theorem Follows.goesOn {s' : Session Engine} {events : List StageEvent}
    {hear : Surroundings → Surroundings} {x : Surroundings} (next : Follows s s' events hear)
    (heard : hear x = x) (usesChannel : s'.usesChannel = s.usesChannel)
    (some_ : events ≠ [] ∨ s.status ≠ .running none ∧ s'.status = .running none)
    (poised : Poised s' ∨ Native.left s' x = []) : GoesOn s s' events x := by
  have whole := next.left x
  rw [heard] at whole
  refine ⟨usesChannel, whole, ?_, poised⟩
  rw [toGo, toGo, ← whole, List.length_append]
  rcases some_ with some_ | ⟨waiting, status⟩
  · have := List.length_pos_of_ne_nil some_
    split <;> split <;> omega
  · rw [if_pos status, if_neg waiting]
    omega

/-- The code that a stage returns. -/
def Surroundings.code (x : Surroundings) : Stage → Int32
  | .cookie => x.cookie
  | .connection => x.connection
  | .tunScript _ => x.tunScript
  | .addressing => 0
  | .mainLoop => x.mainLoop

theorem Surroundings.returning_code (x : Surroundings) (stage : Stage) :
    x.returning (x.code stage) stage = x := by
  cases stage <;> rfl

theorem Engine.exists_afterStage (e : Engine) {stage : Stage} (other : stage ≠ .addressing)
    (rc : Int32) : ∃ turn, e.afterStage? stage rc = some turn ∧ turn.call = none ∧
      ((∃ next, turn.engine.point = .calling next) ∨ ∃ o, turn.engine.point = .done o) := by
  cases stage with
  | addressing => exact absurd rfl other
  | mainLoop => exact ⟨_, rfl, rfl, .inr ⟨_, rfl⟩⟩
  | _ =>
      refine ⟨_, rfl, ?_⟩
      split
      · exact ⟨rfl, .inl ⟨_, rfl⟩⟩
      · exact ⟨rfl, .inr ⟨_, rfl⟩⟩

/-- An answer is seen. -/
theorem ofPassage_ne_nil {m : Move} {event : StageEvent}
    (answer : ofAnswer? s.engine.point (.move m) = some event) :
    ofPassage ⟨s, .move m, r⟩ ≠ [] := by
  simp [ofPassage, answer]

/-- The library answers the question for the addressing. -/
theorem goesOn_of_addressing (status : s.status = .running none)
    (point : s.engine.point = .inside .addressing) (x : Surroundings)
    (fits : x.panics = true → s.usesChannel = false) (runners : List Runner) :
    ∃ a r, Transition runners s a r ∧ GoesOn s r.session (ofPassage ⟨s, a, r⟩) x := by
  have answer : ofAnswer? s.engine.point (.move (.informs x.addressing x.info)) =
      some (.informed x.addressing x.info) := rfl
  cases given : if x.addressing = 0 then x.info else none with
  | none =>
      have moved : s.engine.move (.informs x.addressing x.info) =
          some ⟨s.engine.moveTo (.calling .mainLoop),
            [.log (.addressingUnavailable x.addressing)], none⟩ := by
        simp only [Engine.move, point, given]
      exact ⟨_, _, .move status moved rfl, (follows_of_silent status moved rfl).goesOn rfl rfl
        (.inl (ofPassage_ne_nil answer)) (.inl (.calling status rfl))⟩
  | some info =>
      have moved : s.engine.move (.informs x.addressing x.info) =
          some ⟨s.engine.moveTo .informing, [], some (.connected info.read)⟩ := by
        simp only [Engine.move, point, given]
      cases channel : s.usesChannel with
      | false =>
          exact ⟨_, _, .ask status moved rfl (by simp [channel]) (by simp),
            (follows_of_ask status moved rfl).goesOn rfl rfl
              (.inl (ofPassage_ne_nil answer)) (.inl (.informing rfl rfl))⟩
      | true =>
          -- A channel does not panic.
          have calm : x.panics = false := by
            cases panics : x.panics with
            | false => rfl
            | true => rw [fits panics] at channel; cases channel
          have heard : (x.replied .informing .done).heard s.engine.point
              (.informs x.addressing x.info) = x := by
            simp [Surroundings.replied, Surroundings.heard, ← calm]
          exact ⟨_, _, .forward status moved rfl channel rfl (by simp),
            (follows_of_forward status moved rfl rfl).goesOn heard
              (Session.usesChannel_of_forward rfl) (.inl (ofPassage_ne_nil answer))
              (.inl (.calling rfl rfl))⟩

theorem Poised.goesOn (poised : Poised s) (entered : Entered s) (x : Surroundings)
    (fits : x.panics = true → s.usesChannel = false) (runners : List Runner) :
    ∃ a r, Transition runners s a r ∧ GoesOn s r.session (ofPassage ⟨s, a, r⟩) x := by
  cases poised with
  | @calling stage status point =>
      have moved : s.engine.move .go = some ⟨s.engine.moveTo (.inside stage),
          Engine.called (s.engine.stageCall stage), none⟩ := by
        simp only [Engine.move, point]
      refine ⟨_, _, .move status moved rfl, (follows_of_silent status moved rfl).goesOn rfl rfl
        (.inl ?_) (.inl (.inside status rfl))⟩
      cases stage <;> exact List.cons_ne_nil _ _
  | @inside stage status point =>
      by_cases addressing : stage = .addressing
      · subst addressing
        exact goesOn_of_addressing status point x fits runners
      · obtain ⟨turn, moved, silent, next⟩ := s.engine.exists_afterStage addressing (x.code stage)
        have moved : s.engine.move (.returns (x.code stage)) = some turn := by
          simpa only [Engine.move, point] using moved
        have answer : ofAnswer? s.engine.point (.move (.returns (x.code stage))) =
            some (.returned (x.code stage)) := by
          rw [point]
          rfl
        have heard : x.heard s.engine.point (.returns (x.code stage)) = x := by
          rw [point]
          exact x.returning_code stage
        refine ⟨_, _, .move status moved silent, (follows_of_silent status moved silent).goesOn
          heard rfl (.inl (ofPassage_ne_nil answer)) (.inl ?_)⟩
        rcases next with ⟨next, point⟩ | ⟨outcome, point⟩
        · exact .calling status point
        · exact .done status point
  | @informing info status point =>
      let reply : Reply := if x.panics then .panic else .done
      have fits : reply.fits (.connected info) = true := by
        cases panics : x.panics <;> simp [reply, panics, Reply.fits]
      have heard : x.replied s.engine.point reply = x := by
        rw [point]
        cases panics : x.panics <;> simp [reply, Surroundings.replied, ← panics]
      refine ⟨_, _, .reply status fits, (follows_of_reply entered status).goesOn heard rfl
        (.inr ⟨by simp [status], rfl⟩) (.inl ?_)⟩
      have next : (s.engine.resume reply).1 =
          s.engine.moveTo (if reply = .panic then .done .panicked else .calling .mainLoop) := by
        rw [Engine.resume_of_informing point]
      by_cases panics : reply = .panic
      · rw [if_pos panics] at next
        exact .done rfl (congrArg Engine.point next)
      · rw [if_neg panics] at next
        exact .calling rfl (congrArg Engine.point next)
  | @done outcome status point =>
      have finished : TunnelControl.Engine.outcome? s.engine = some outcome := by
        change s.engine.outcome? = some outcome
        simp only [Engine.outcome?, point]
      have reported {r : Session.Result Engine Note} (trans : Transition runners s .finish r) :
          ofPassage ⟨s, .finish, r⟩ ≠ [] := by
        obtain ⟨outcome, -, seen⟩ := ofPassage_finish runners trans
        simp [seen]
      cases channel : s.usesChannel with
      | false =>
          have trans : Transition runners s .finish _ := .report status finished channel rfl
          exact ⟨_, _, trans, (follows_of_finish runners trans).goesOn rfl rfl
            (.inl (reported trans)) (.inr (left_of_past (by simp) x))⟩
      | true =>
          have trans : Transition runners s .finish _ := .post status finished channel rfl
          exact ⟨_, _, trans, (follows_of_finish runners trans).goesOn rfl
            (Session.usesChannel_of_forward rfl) (.inl (reported trans))
            (.inr (left_of_past (by simp) x))⟩

theorem stageEvents_append {as bs : List (Action Engine)} {w w' : World Engine} {key : Nat}
    (ran : run as w = some w') :
    stageEvents key (as ++ bs) w = stageEvents key as w ++ stageEvents key bs w' := by
  rw [stageEvents, World.passages_append ran, List.flatMap_append]
  rfl

/-- Whatever the surroundings are, there are some in which the loop is told just this. -/
theorem Entered.exists_rest {w : World Engine} {key : Nat} (entered : Entered s)
    (found : w.session? key = some s) {x : Surroundings}
    (fits : x.panics = true → s.usesChannel = false) (poised : Poised s ∨ left s x = []) :
    ∃ as w', run as w = some w' ∧ stageEvents key as w = left s x := by
  induction count : toGo s x using Nat.strongRecOn generalizing w s with
  | ind n ih =>
      rcases poised with poised | nothing
      · obtain ⟨a, r, trans, goes⟩ := poised.goesOn entered x fits w.runners
        obtain ⟨hear, next⟩ := entered.follows trans
        have stepped := Session.step_of_transition trans
        obtain ⟨as, w', ran, seen⟩ := ih _ (count ▸ goes.toGo) next.entered
          (World.session?_advance_self found r) (goes.usesChannel ▸ fits) goes.poised rfl
        have begun : run [.act key a] w = some (w.advance key r) :=
          World.run_act found stepped []
        refine ⟨[.act key a] ++ as, w', ?_, ?_⟩
        · rw [World.run_append, begun]
          exact ran
        · rw [stageEvents_append begun, stageEvents, World.passages_of_act found stepped,
            if_pos rfl, List.flatMap_singleton, seen, goes.left]
      · exact ⟨[], w, rfl, nothing.symm⟩

/-- A session that has a slot knows its runner. -/
theorem runner_of_launched {configs : List RunnerConfig} {as : List (Action Engine)}
    {w : World Engine} {key : Nat} (ran : run as (World.new configs) = some w)
    (found : w.session? key = some s) (launched : s.status = .launched) :
    ∃ i config, s.runner = some i ∧ configs[i]? = some config := by
  refine World.passages_invariant (P := fun s _ _ => s.status = .placed ∨ s.status = .launched →
    ∃ i config, s.runner = some i ∧ configs[i]? = some config) ?_ ?_ ran found (.inr launched)
  · intro plan agent lifecycle id engine happenings made here
    simp at here
  · intro runners s a r h ps same stepped known here
    cases Session.transition_of_step stepped with
    | takeSlot status given place =>
        exact ⟨_, _, given, by rw [← same, List.getElem?_map, place]; rfl⟩
    | launch status => exact known (.inl status)
    | setup | access | receive | hangUp | log | logLast => exact known here
    | _ => simp_all [Session.refuse, Session.afterReport]

/-- **The stages of the main loop.** What is seen of a session's main loop in a run is the first
part of its course, with the script that is stored and the limits of its runner, in some
surroundings. And a loop that is about to be entered can meet with any surroundings, and takes the
whole of its course in them; only a channel never panics. -/
theorem main_loop_follows_course {configs : List RunnerConfig} {as : List (Action Engine)}
    {w : World Engine} {key : Nat} {s : Session Engine}
    (ran : run as (World.new configs) = some w) (found : w.session? key = some s) :
    (stageEvents key as (World.new configs) = [] ∨
      ∃ i config x, s.runner = some i ∧ configs[i]? = some config ∧
        stageEvents key as (World.new configs) <+: course s.engine.tunScript config.limits x) ∧
    (s.status = .launched → ∃ i config, s.runner = some i ∧ configs[i]? = some config ∧
      ∀ x : Surroundings, (x.panics = true → s.usesChannel = false) → ∃ bs w',
        run (as ++ bs) (World.new configs) = some w' ∧
        stageEvents key (as ++ bs) (World.new configs) =
          course s.engine.tunScript config.limits x) := by
  obtain ⟨plan, agent, lifecycle, id, engine, happenings, made, path⟩ := World.exists_path ran found
  have seen := prefix_course_of_path path rfl
  refine ⟨seen.imp_right And.right, fun launched => ?_⟩
  obtain ⟨i, config, given, place⟩ := runner_of_launched ran found launched
  refine ⟨i, config, given, place, fun x fits => ?_⟩
  have before : stageEvents key as (World.new configs) = [] := by
    rcases seen with nothing | ⟨entered, -⟩
    · exact nothing
    · rw [launched] at entered
      cases entered
  rw [← World.configs_of_run ran, List.getElem?_map] at place
  obtain ⟨runner, there, rfl⟩ := Option.map_eq_some_iff.mp place
  let inside : Session Engine := { s with
    engine := { s.engine with limits := runner.config.limits, point := .calling .cookie }
    status := .running none }
  have stepped : s.step w.runners .enter = some ⟨inside, [], .unchanged⟩ :=
    Session.step_of_transition (.enter launched given there)
  have begun : run [.act key .enter] w = some (w.advance key ⟨inside, [], .unchanged⟩) :=
    World.run_act found stepped []
  have entered : Entered inside := ⟨rfl, by simp [inside]⟩
  obtain ⟨bs, w', ran', rest⟩ := entered.exists_rest
    (World.session?_advance_self found ⟨inside, [], .unchanged⟩) fits (.inl (.calling rfl rfl))
  refine ⟨[.act key .enter] ++ bs, w', ?_, ?_⟩
  · rw [World.run_append, ran, Option.bind_some, World.run_append, begun]
    exact ran'
  · rw [stageEvents_append ran, before, stageEvents_append begun, rest, stageEvents,
      World.passages_of_act found stepped, if_pos rfl]
    rfl

/-- The connection fails, after the library called in and the controller wrote to the log as if it
knew of a failure before. -/
def failingRun : List (Action Engine) :=
  [.create (Plan.mk false) "agent" .handler, .act 0 (.start 0), .act 0 .reserve,
    .act 0 (.spawn none), .act 0 .enter, .act 0 (.move Move.go),
    .act 0 (.move (Move.enters .reconnected true)), .act 0 (.log (.cookieFailed 3)),
    .act 0 (.reply .panic), .act 0 (.move (Move.returns 0)), .act 0 (.move Move.go),
    .act 0 (.move (Move.returns (-5))), .act 0 .finish]

theorem failingRun_follows_course :
    ∃ w s, run failingRun (World.new [.default]) = some w ∧ w.session? 0 = some s ∧
      stageEvents 0 failingRun (World.new [.default]) =
        [.made .obtainCookie, .returned 0, .made .connect, .returned (-5),
          .warned (.connectionFailed (-5)), .reported (-5)] ∧
      ∃ x, stageEvents 0 failingRun (World.new [.default]) <+: course none .default x := by
  obtain ⟨w, s, ran, found, stored, handed⟩ : ∃ w s,
      run failingRun (World.new [.default]) = some w ∧ w.session? 0 = some s ∧
      s.engine.tunScript = none ∧ s.runner = some 0 :=
    ⟨_, _, rfl, rfl, rfl, rfl⟩
  have seen : stageEvents 0 failingRun (World.new [.default]) =
      [.made .obtainCookie, .returned 0, .made .connect, .returned (-5),
        .warned (.connectionFailed (-5)), .reported (-5)] := rfl
  rcases (main_loop_follows_course ran found).1 with nothing | ⟨i, config, x, given, place, part⟩
  · rw [seen] at nothing
    cases nothing
  · rw [handed] at given
    cases given
    cases place
    rw [stored] at part
    exact ⟨w, s, ran, found, seen, x, part⟩

end TunnelControl.Native
