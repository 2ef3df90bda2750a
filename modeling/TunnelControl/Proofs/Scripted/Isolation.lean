import Mathlib.Data.Fintype.EquivFin
import TunnelControl.Proofs.EngineIds
import TunnelControl.Proofs.Scripted.Lived

/-!
# Sessions do not interfere

Sessions share their runners and the controller, and their threads take turns in any order. If
each of them has a journal and a context of its own, no slot is ever missing and the controller
minds nothing but contexts, then none of this can be noticed in a session:
`sessions_do_not_interfere` compares it with the same session where it is the only one.

There is something to compare it with, since whatever is a cue for a session in the midst of
others can be repeated for one that is alone (`Lived.exists_alone`). Sends get tokens of their
own there, and to the terminal result the controller may reply something else, as it has another
number in it. That the two are the same to look at is `Lived.unique`.
-/

namespace TunnelControl.Scripted

open Session (Transition)
open World (Reachable)

variable {configs : List RunnerConfig} {o : Origin} {s t : Session Engine}
  {h : List (Event Note)} {cs : List Cue}

/-! ## Alone -/

/-- There is always a token that no send goes by. -/
theorem Queue.exists_fresh (q : Queue) : ∃ token, ∀ l ∈ q.loans, l.token ≠ token := by
  obtain ⟨token, fresh⟩ := Infinite.exists_notMem_finset (q.loans.map Loan.token).toFinset
  refine ⟨token, fun l mem same => fresh ?_⟩
  simpa using ⟨l, mem, same⟩

/-- A send of its own brings a command into a queue that somebody has a share of. -/
theorem Queue.exists_arrival {q : Queue} (owned : q.owned = true) (command : Command) :
    ∃ token q' q'', q.step? (.borrow token command) = some (q', [.began token command]) ∧
      q'.step? (.enter token) = some (q'', [.entered token]) ∧
      q'.waiting? token = some ⟨token, command, false⟩ := by
  obtain ⟨token, fresh⟩ := q.exists_fresh
  let q' : Queue := { q with loans := q.loans ++ [⟨token, command, false⟩] }
  have unused : (q.loans.any fun l => l.token == token) = false := by simpa using fresh
  have borrowed : q.step? (.borrow token command) = some (q', [.began token command]) := by
    simp [step?, unused, isOpen, owned, q']
  have waits : q'.waiting? token = some ⟨token, command, false⟩ := by
    have skipped : q.waiting? token = none := by
      rw [waiting?, List.find?_eq_none]
      intro l mem
      simp [fresh l mem]
    rw [waiting?] at skipped
    simp [waiting?, q', List.find?_append, skipped]
  obtain ⟨q'', entered⟩ : ∃ q'', q'.step? (.enter token) = some (q'', [.entered token]) := by
    rw [waiting?] at waits
    exact ⟨_, by rw [step?, waits]; rfl⟩
  exact ⟨token, q', q'', borrowed, entered, waits⟩

/-- A step of a send is a step of its session. -/
theorem transition_of_step? {runners : List Runner} {act : QueueAct} {queue : Queue}
    {notes : List SendNote} (used : s.engine.queue.step? act = some (queue, notes)) :
    Transition runners s (.access act)
      ⟨{ s with engine := { s.engine with queue } },
        (notes.map fun n => Happening.note (.send n)).map Happening.atCaller, .unchanged⟩ :=
  .access (by simp [TunnelControl.Engine.access, used])

section alone

variable {C : Type} [DecidableEq C] {controller : SharedController C} {context : C}

/-- The run `bs` is that of a session that came about from `o` and is the only one there. It was
given the cues `cs`, and the controller answered it with this context. -/
structure RunsAlone (controller : SharedController C) (context : C) (configs : List RunnerConfig)
    (o : Origin) (cs : List Cue) (bs : List (Action Engine)) (v : World Engine)
    (t : Session Engine) : Prop where
  ran : World.run bs (World.new configs) = some v
  only : v.sessions = [some t]
  origin : origin t = o
  cues : cues (World.passages 0 bs (World.new configs)) = cs
  answers : controller.Answers (fun _ => context) v.trace

namespace RunsAlone

variable {bs : List (Action Engine)} {v : World Engine}

theorem reach (alone : RunsAlone controller context configs o cs bs v t) : Reachable configs v :=
  .of_run .start alone.ran

theorem found (alone : RunsAlone controller context configs o cs bs v t) :
    v.session? 0 = some t := by
  rw [World.session?_eq_some_iff, alone.only]
  rfl

theorem key_eq {k : Nat} (alone : RunsAlone controller context configs o cs bs v t)
    (found : v.session? k = some s) : k = 0 := by
  have hlt := World.lt_length_of_session? found
  rw [alone.only] at hlt
  exact Nat.lt_one_iff.mp hlt

theorem lived (alone : RunsAlone controller context configs o cs bs v t) :
    Lived configs o t (v.history 0) cs := by
  rw [← alone.origin, ← alone.cues]
  exact lived_of_run alone.ran alone.found

theorem answersIn (alone : RunsAlone controller context configs o cs bs v t) :
    controller.AnswersIn context (v.history 0) := by
  have own : OwnContext (fun _ => context) v 0 := fun k s found _ => alone.key_eq found
  exact answersIn_history alone.reach own alone.answers

/-- A session that is alone takes one more step. -/
theorem act {b : Session.Act Engine} {r : Session.Result Engine Note}
    (alone : RunsAlone controller context configs o cs bs v t) (trans : Transition v.runners t b r)
    (answers : controller.AnswersIn context (v.history 0 ++ r.seen)) :
    RunsAlone controller context configs o (cs ++ (cue? t b).toList) (bs ++ [.act 0 b])
      (v.advance 0 r) r.session := by
  have stepped := Session.step_of_transition trans
  have made := World.act_of_step alone.found stepped
  have ran : World.run (bs ++ [.act 0 b]) (World.new configs) = some (v.advance 0 r) := by
    rw [World.run_append, alone.ran, Option.bind_some, World.run, made]
    rfl
  have only : (v.advance 0 r).sessions = [some r.session] := by
    simp [World.advance, alone.only]
  refine ⟨ran, only, (origin_of_transition trans).trans alone.origin, ?_, ?_⟩
  · rw [World.passages_append alone.ran, cues_append, alone.cues,
      World.passages_of_act alone.found stepped, if_pos rfl]
    cases given : cue? t b <;> simp [Scripted.cues, given]
  · refine answers_of_alone (.of_run .start ran) only ?_
    rwa [World.history_advance, if_pos rfl]

/-- A step in which nothing is replied. -/
theorem act_silent {b : Session.Act Engine} {r : Session.Result Engine Note}
    (alone : RunsAlone controller context configs o cs bs v t) (trans : Transition v.runners t b r)
    (silent : replies r.seen = []) :
    RunsAlone controller context configs o (cs ++ (cue? t b).toList) (bs ++ [.act 0 b])
      (v.advance 0 r) r.session :=
  alone.act trans (alone.answersIn.append_silent silent)

/-- A command arrives where a session is alone: somebody sends it. -/
theorem arrive (alone : RunsAlone controller context configs o cs bs v t) (command : Command)
    (here : isLetGo t.status = false) :
    ∃ bs' v' t', RunsAlone controller context configs o (cs ++ [.arrived command]) bs' v' t' := by
  have owned : t.engine.queue.owned = true := by simp [alone.lived.standing.owned, here]
  obtain ⟨token, q', q'', borrowed, entered, waits⟩ := Queue.exists_arrival owned command
  have begun := alone.act_silent (transition_of_step? borrowed) rfl
  have arrived := begun.act_silent (transition_of_step? entered) rfl
  exact ⟨_, _, _, by simpa [cue?, here, waits] using arrived⟩

/-- A session that is alone gets the reply that it waits for. -/
theorem reply {call : Callback} (alone : RunsAlone controller context configs o cs bs v t)
    (waits : t.status = .running (some call) ∨
      ∃ result, t.status = .reporting result ∧ call = .terminated result) :
    ∃ bs' v' t', RunsAlone controller context configs o (cs ++ [.goesOn]) bs' v' t' := by
  let own : Reply := controller.answer context (received (v.history 0)).dropLast call
  have fits : own.fits call = true := controller.fits ..
  obtain ⟨r, trans⟩ : ∃ r, Transition v.runners t (.reply own) r := by
    rcases waits with running | ⟨result, reporting, rfl⟩
    · exact ⟨_, .reply running fits⟩
    · exact ⟨_, .acknowledge reporting fits rfl⟩
  refine ⟨_, _, _, alone.act trans ?_⟩
  rcases trans.reply_cases with silent | ⟨call', reply, rest, same, waits', seen, silent⟩
  · exact alone.answersIn.append_silent silent
  · cases same
    have asked : call' = call := by
      rcases waits with running | ⟨result, reporting, rfl⟩ <;>
        rcases waits' with running' | ⟨result', reporting', rfl⟩ <;> simp_all
    subst asked
    rw [seen]
    exact alone.answersIn.append_reply rfl silent

end RunsAlone

/-- **A session can run alone.** The same script can be run by itself, with the same commands
at the same points. -/
theorem Lived.exists_alone (unlimited : ∀ config ∈ configs, config.maxActive = none)
    (hookless : ∀ n, Step.invoke n ∉ o.plan.script.steps) (lived : Lived configs o s h cs)
    (answers : controller.AnswersIn context h) :
    ∃ bs v t, RunsAlone controller context configs o cs bs v t := by
  induction lived with
  | made id lifecycle sound same =>
      have alone : (World.new configs).make (ε := Engine) o.plan o.userAgent lifecycle =
          (some (o.session .first lifecycle), [.note (.journal (.userAgent o.userAgent))]) := by
        rw [make_eq, if_neg (by simp [sound])]
        rfl
      refine ⟨[.create o.plan o.userAgent lifecycle], _, o.session .first lifecycle, rfl, ?_, same,
        rfl, ?_⟩
      · rw [World.sessions_attempt, alone]
        rfl
      · simp only [World.attempt, alone]
        exact throughout_singleton trivial
  | @step runners s a r h cs before same trans ih =>
      obtain ⟨bs, v, t, alone⟩ := ih answers.of_append
      obtain ⟨alike, -⟩ :=
        before.unique unlimited hookless alone.lived answers.of_append alone.answersIn
      cases cue : cue? s a with
      | none => exact ⟨bs, v, t, by simpa using alone⟩
      | some c =>
          rcases cue_cases cue with ⟨token, l, -, rfl, here, -⟩ | ⟨-, inside, always⟩
          · exact alone.arrive l.command (alike.isLetGo.trans here)
          · have free : ∀ x ∈ runners, x.config.maxActive = none := fun x hx =>
              unlimited _ (same ▸ List.mem_map_of_mem hx)
            have configs := (World.configs_of_run alone.ran).trans same.symm
            obtain ⟨r', trans', -⟩ := follows alike trans configs free cue inside
            rcases trans'.reply_cases with silent | ⟨call, reply, rest, rfl, waits, -⟩
            · exact ⟨_, _, _, by simpa [always t] using alone.act_silent trans' silent⟩
            · cases cue
              exact alone.reply waits

end alone

/-! ## Together -/

theorem notices_traits (h : List (Event Note)) :
    notices (traits h) = (notices h).map Notice.nameless := by
  rw [notices, traits, List.filterMap_filterMap, notices, List.map_filterMap]
  refine List.filterMap_congr fun event _ => ?_
  cases event with
  | note n => cases n <;> rfl
  | _ => rfl

theorem codes_traits (h : List (Event Note)) :
    (deliveries (traits h)).map TerminalResult.code =
      (deliveries h).map TerminalResult.code := by
  rw [deliveries, traits, List.filterMap_filterMap, deliveries, List.map_filterMap,
    List.map_filterMap]
  refine List.filterMap_congr fun event _ => ?_
  cases event with
  | note n => cases n <;> rfl
  | called call => cases call <;> rfl
  | forwarded notice => cases notice <;> rfl
  | _ => rfl

/-- Sessions that have nothing in common but the runners and the controller. -/
structure Apart {C : Type} (contexts : Nat → C) (w : World Engine) : Prop where
  contexts : ∀ key s, w.session? key = some s → OwnContext contexts w key
  /-- Their engines are made from different scripts. -/
  journals : ∀ key, WritesAlone w key
  hookless : ∀ key s, w.session? key = some s → ∀ n, Step.invoke n ∉ s.engine.script.steps
  /-- There are fewer than 2^64 engines. -/
  few : World.engines w.sessions < UInt64.size

/-- What is seen of a session is seen of the only session of another world. -/
structure SeenAlone (w : World Engine) (key : Nat) (s : Session Engine) (v : World Engine) :
    Prop where
  calls : (received (v.history 0)).map Callback.nameless =
    (received (w.history key)).map Callback.nameless
  notices : (notices (v.history 0)).map Notice.nameless =
    (notices (w.history key)).map Notice.nameless
  codes : (deliveries (v.history 0)).map TerminalResult.code =
    (deliveries (w.history key)).map TerminalResult.code
  journal : journal s.engine.key v = journal s.engine.key w

/-- The other sessions of the run `as` make no difference to this one. -/
structure Undisturbed {C : Type} [DecidableEq C] (controller : SharedController C)
    (contexts : Nat → C) (configs : List RunnerConfig) (as : List (Action Engine))
    (w : World Engine) (key : Nat) (s : Session Engine) : Prop where
  /-- It can run alone, with the same commands at the same points. -/
  alone : ∃ bs v t, RunsAlone controller (contexts key) configs (origin s)
    (cues (World.passages key as (World.new configs))) bs v t
  /-- However it does so, the same is seen of it. -/
  same : ∀ bs v t, RunsAlone controller (contexts key) configs (origin s)
    (cues (World.passages key as (World.new configs))) bs v t → SeenAlone w key s v
  /-- Its calls, and no others, come with its context. -/
  context : callsWith contexts (contexts key) w.trace = received (w.history key)
  /-- Its terminal result has the number of its engine. -/
  result : ∀ result ∈ deliveries (w.history key), result.engine = s.id
  /-- No other engine has this number. -/
  number : ∀ k t, w.session? k = some t → t.id = s.id → k = key

/-- **Sessions do not interfere.** Let each session of a run have a context, a journal and a
script without hooks of its own, and let the controller answer by contexts, with panics or without.
In whatever order the sessions go on, every one of them can be run alone with the same commands at
the same points, and it makes the same calls there, comes to the same code and leaves the same
journal. Its calls come with its own context, and its terminal result has the number of its own
engine. -/
theorem sessions_do_not_interfere {C : Type} [DecidableEq C] {controller : SharedController C}
    {contexts : Nat → C} {configs : List RunnerConfig} {as : List (Action Engine)}
    {w : World Engine} {key : Nat} {s : Session Engine}
    (unlimited : ∀ config ∈ configs, config.maxActive = none)
    (ran : World.run as (World.new configs) = some w) (apart : Apart contexts w)
    (answers : controller.Answers contexts w.trace) (found : w.session? key = some s) :
    Undisturbed controller contexts configs as w key s := by
  have reach : Reachable configs w := .of_run .start ran
  have lived := lived_of_run ran found
  have hookless := apart.hookless key s found
  have own := apart.contexts key s found
  have answersIn := answersIn_history reach own answers
  refine ⟨lived.exists_alone unlimited hookless answersIn, ?_, callsWith_eq_received reach own,
    ?_, ?_⟩
  · intro bs v t alone
    obtain ⟨-, seen⟩ := lived.unique unlimited hookless alone.lived answersIn alone.answersIn
    refine ⟨?_, ?_, ?_, ?_⟩
    · rw [← received_traits, seen, received_traits]
    · rw [← notices_traits, seen, notices_traits]
    · rw [← codes_traits, seen, codes_traits]
    · have key : t.engine.key = s.engine.key := congrArg (·.plan.key) alone.origin
      have writes : WritesAlone v 0 := fun _ k _ _ found' _ => alone.key_eq found'
      rw [journal_eq_recorded found (apart.journals _), ← recorded_traits, ← seen, recorded_traits,
        ← key, journal_eq_recorded alone.found writes]
  · intro result mem
    obtain ⟨e, he, delivered⟩ := List.mem_filterMap.mp mem
    have marked : .delivered result ∈ marks (fun _ => false) (w.history key) :=
      List.mem_flatMap.mpr ⟨e, he, delivered_mem_marks_iff.mpr delivered⟩
    obtain ⟨outcome, -, rfl⟩ := lived.along.ended_of_delivered marked
    rfl
  · exact fun k t found' same => reach.key_eq_of_id apart.few found' found same

/-- Accepts the first certificate that comes with a context, and panics over the next one. -/
def hasty : SharedController Nat where
  answer _ earlier call :=
    match call with
    | .certificate _ => if earlier.isEmpty then .certificate .accept else .panic
    | _ => call.defaultReply
  fits _ earlier call := by
    cases call with
    | certificate => cases earlier <;> rfl
    | _ => rfl

/-- Two sessions whose loops take turns. The controller panics in the second one, which shows
two certificates, and the first one is cancelled. -/
def interleaved : List (Action Engine) :=
  let begin key : List (Action Engine) :=
    [.act key (.start 0), .act key .reserve, .act key (.spawn none), .act key .enter]
  let go key : Action Engine := .act key (.move .go)
  [.create ⟨7, ⟨[.peerCert "a"], 0, false, none⟩⟩ "agent" .handler,
    .create ⟨8, ⟨[.peerCert "b", .peerCert "c"], 0, false, none⟩⟩ "agent" .handler] ++
  begin 1 ++ begin 0 ++
  [go 1, go 1, go 0, go 0, .act 1 (.reply (.certificate .accept)), go 1, go 1, go 1,
    .act 0 (.access (.borrow 1 .cancel)), .act 1 (.reply .panic),
    .act 0 (.reply (.certificate .accept)), .act 0 (.access (.enter 1)), go 0, go 0, go 0, go 0,
    .act 1 .finish, .act 0 .finish, .act 0 (.reply .done), .act 1 (.reply .done)]

theorem exists_interleaved :
    ∃ w s t, World.run interleaved (World.new [.default]) = some w ∧ w.session? 0 = some s ∧
      w.session? 1 = some t ∧ Apart (· + 10) w ∧ hasty.Answers (· + 10) w.trace ∧
      (deliveries (w.history 0)).map TerminalResult.code = [cancelledCode] ∧
      (deliveries (w.history 1)).map TerminalResult.code = [panicCode] := by
  obtain ⟨w, s, t, made, sessions, key, key', steps, steps', answers, codes⟩ :
      ∃ w s t, World.run interleaved (World.new [.default]) = some w ∧
        w.sessions = [some s, some t] ∧ s.engine.key = 7 ∧ t.engine.key = 8 ∧
        s.engine.script.steps = [.peerCert "a"] ∧
        t.engine.script.steps = [.peerCert "b", .peerCert "c"] ∧
        hasty.Answers (· + 10) w.trace ∧
        (deliveries (w.history 0)).map TerminalResult.code = [cancelledCode] ∧
        (deliveries (w.history 1)).map TerminalResult.code = [panicCode] :=
    ⟨_, _, _, rfl, rfl, rfl, rfl, rfl, rfl, by decide +kernel, rfl, rfl⟩
  refine ⟨w, s, t, made, ?_, ?_, ⟨?_, ?_, ?_, ?_⟩, answers, codes⟩
  · simp [World.session?, sessions]
  · simp [World.session?, sessions]
  · intro k x _ j y _ same
    exact Nat.add_right_cancel same
  · intro k
    exact writesAlone_of_nodup (by simp [sessions, key, key'])
  · intro k x found n
    have mem := List.mem_of_getElem? (World.session?_eq_some_iff.mp found)
    rw [sessions] at mem
    rcases List.mem_pair.mp mem with same | same <;> cases same
    · simp [steps]
    · simp [steps']
  · simp [World.engines, sessions, UInt64.size]

theorem interleaved_sessions_do_not_interfere :
    ∃ w s t, World.run interleaved (World.new [.default]) = some w ∧
      Undisturbed hasty (· + 10) [.default] interleaved w 0 s ∧
      Undisturbed hasty (· + 10) [.default] interleaved w 1 t ∧
      (deliveries (w.history 0)).map TerminalResult.code = [cancelledCode] ∧
      (deliveries (w.history 1)).map TerminalResult.code = [panicCode] := by
  obtain ⟨w, s, t, made, found, found', apart, answers, codes⟩ := exists_interleaved
  have unlimited : ∀ config ∈ [RunnerConfig.default], config.maxActive = none := by
    simp [RunnerConfig.default]
  exact ⟨w, s, t, made, sessions_do_not_interfere unlimited made apart answers found,
    sessions_do_not_interfere unlimited made apart answers found', codes⟩

end TunnelControl.Scripted
