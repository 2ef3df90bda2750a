import TunnelControl.Proofs.Passages
import TunnelControl.Proofs.Scripted.Closing
import TunnelControl.Proofs.Slots

/-!
# A scripted session by itself

What a session does next depends on little of its state, and `solo` is that much of it:
neither the number of its engine, nor the sends that are under way, nor what waits in its
channel. Its surroundings decide even less. They give it `Cue`s, and between two cues from
outside it `goesOn` in the one way in which it can, unless a hook has a say in it.

`follows` and `lockstep` make this precise. Where one session takes a step, another one that is
`Alike` can take it, too; and where both take a step at the same cue they stay alike, and the
same is seen of them (`traits`), except for the numbers of their engines.
-/

namespace TunnelControl

/-! ## Without engine numbers -/

/-- The call, whatever the number of the engine. -/
def Callback.nameless : Callback → Callback
  | .terminated result => .terminated ⟨.first, result.code⟩
  | call => call

def Notice.nameless : Notice → Notice
  | .terminated result => .terminated ⟨.first, result.code⟩
  | notice => notice

/-- The aftermath, whatever the fault. The name of a thread has the number of the engine in it. -/
def Aftermath.nameless : Aftermath → Aftermath
  | .refusal _ => .refusal (.threadName "")
  | aftermath => aftermath

namespace Aftermath

variable {a b : Aftermath}

theorem eq_nothing_of_nameless (same : b.nameless = nothing.nameless) : b = nothing := by
  cases b <;> first | rfl | cases same

theorem eq_slot_of_nameless (same : b.nameless = slot.nameless) : b = slot := by
  cases b <;> first | rfl | cases same

theorem exists_refusal_of_nameless {fault : StartFault}
    (same : b.nameless = (refusal fault).nameless) : ∃ fault', b = refusal fault' := by
  cases b <;> first | exact ⟨_, rfl⟩ | cases same

end Aftermath

namespace Status

def nameless : Status → Status
  | .reporting result => .reporting ⟨.first, result.code⟩
  | .retiring aftermath => .retiring aftermath.nameless
  | .freeing aftermath => .freeing aftermath.nameless
  | .unbinding aftermath => .unbinding aftermath.nameless
  | .closing aftermath => .closing aftermath.nameless
  | status => status

variable {a b : Status}

/-- The status is that other one, but for the number of the engine. -/
def Resembles (b : Status) : Status → Prop
  | .reporting result => ∃ result', b = .reporting result' ∧ result'.code = result.code
  | .retiring x => ∃ y, b = .retiring y ∧ y.nameless = x.nameless
  | .freeing x => ∃ y, b = .freeing y ∧ y.nameless = x.nameless
  | .unbinding x => ∃ y, b = .unbinding y ∧ y.nameless = x.nameless
  | .closing x => ∃ y, b = .closing y ∧ y.nameless = x.nameless
  | a => b = a

theorem resembles_of_nameless (same : b.nameless = a.nameless) : b.Resembles a := by
  cases a <;> cases b <;> grind [nameless, Resembles]

end Status

namespace Scripted

/-! ## What is seen -/

/-- What a session does for others to see, whatever the number of its engine. -/
def trait? : Event Note → Option (Event Note)
  | .called call => some (.called call.nameless)
  | .forwarded notice => some (.forwarded notice.nameless)
  | .note (.journal n) => some (.note (.journal n))
  | _ => none

def traits (h : List (Event Note)) : List (Event Note) := h.filterMap trait?

section traits

variable (h h' : List (Event Note)) (happenings : List (Happening Note))

@[simp] theorem traits_append : traits (h ++ h') = traits h ++ traits h' := List.filterMap_append

@[simp] theorem traits_logs (entries : List Log.Entry) : traits (entries.map .log) = [] := by
  simp [traits, trait?, List.filterMap_map, Function.comp_def]

@[simp] theorem traits_notes (notes : List SendNote) :
    traits (notes.map fun n => .note (.send n)) = [] := by
  simp [traits, trait?, List.filterMap_map, Function.comp_def]

/-- What is recorded can be seen. -/
theorem recorded_traits : recorded (traits h) = recorded h := by
  rw [recorded, traits, List.filterMap_filterMap, recorded]
  refine List.filterMap_congr fun event _ => ?_
  cases event with
  | note n => cases n <;> rfl
  | _ => rfl

end traits

/-! ## What comes from outside -/

/-- What makes a session go on. -/
inductive Cue
  | configured (options : Options)
  | dropped
  | started (runner : Nat)
  /-- A thread was made for it, or was not. -/
  | spawned (failure : Option Int32)
  /-- A command has entered the queue of the engine. -/
  | arrived (c : Command)
  /-- Nothing from outside. -/
  | goesOn
  deriving DecidableEq

/-- The send whose command is to enter next under a token. -/
def Queue.waiting? (q : Queue) (token : Nat) : Option Loan :=
  q.loans.find? fun l => l.token == token && !l.entered

/-- The cue that an act gives. Most of a send is none, and neither is what has to do with the
log or with the receiver of a channel. -/
def cue? (s : Session Engine) : Session.Act Engine → Option Cue
  | .setup options => some (.configured options)
  | .drop => some .dropped
  | .start runner => some (.started runner)
  | .spawn failure => some (.spawned failure)
  | .access (.enter token) =>
    if isLetGo s.status then none
    else (s.engine.queue.waiting? token).map (.arrived ·.command)
  | .access _ | .log _ | .receive | .hangUp => none
  | _ => some .goesOn

/-- Only a command gives its cue by a send, and it does so as long as the engine is there. -/
theorem cue_cases {s : Session Engine} {a : Session.Act Engine} {c : Cue}
    (cue : cue? s a = some c) :
    (∃ token l, a = .access (.enter token) ∧ c = .arrived l.command ∧ isLetGo s.status = false ∧
      s.engine.queue.waiting? token = some l) ∨
      (∀ act, a ≠ .access act) ∧ (∀ command, c ≠ .arrived command) ∧ ∀ t, cue? t a = some c := by
  cases a with
  | access act =>
      cases act with
      | enter token =>
          simp only [cue?] at cue
          split at cue
          · simp at cue
          · rename_i here
            obtain ⟨l, waits, rfl⟩ := Option.map_eq_some_iff.mp cue
            exact Or.inl ⟨token, l, rfl, rfl, by simpa using here, waits⟩
      | _ => simp [cue?] at cue
  | log | receive | hangUp => simp [cue?] at cue
  | _ =>
      cases cue
      exact Or.inr ⟨by simp, by simp, fun t => rfl⟩

def cues (ps : List (Passage Engine)) : List Cue := ps.filterMap fun p => cue? p.before p.act

/-! ## What a session is by itself -/

/-- What the next steps of a session depend on. -/
structure Solo where
  script : Script
  point : Point
  /-- The commands that are left for the loop. -/
  pending : List Command
  usesChannel : Bool
  runner : Option Nat
  status : Status

def solo (s : Session Engine) : Solo where
  script := s.engine.script
  point := s.engine.point
  pending := if isLetGo s.status then [] else s.engine.queue.pending
  usesChannel := s.usesChannel
  runner := s.runner
  status := s.status.nameless

/-- Engines whose loops cannot be told apart. -/
structure Engine.Alike (e e' : Engine) : Prop where
  script : e'.script = e.script
  point : e'.point = e.point
  pending : e'.queue.pending = e.queue.pending

/-- Sessions that cannot be told apart by themselves. -/
structure Alike (s t : Session Engine) : Prop where
  script : t.engine.script = s.engine.script
  point : t.engine.point = s.engine.point
  pending : isLetGo s.status = false → t.engine.queue.pending = s.engine.queue.pending
  usesChannel : t.usesChannel = s.usesChannel
  runner : t.runner = s.runner
  status : t.status.nameless = s.status.nameless

theorem isLetGo_nameless (status : Status) : isLetGo status.nameless = isLetGo status := by
  cases status <;> rfl

theorem Alike.isLetGo {s t : Session Engine} (alike : Alike s t) :
    isLetGo t.status = isLetGo s.status := by
  rw [← isLetGo_nameless, alike.status, isLetGo_nameless]

theorem alike_iff {s t : Session Engine} : Alike s t ↔ solo t = solo s := by
  constructor
  · intro alike
    have letGo := alike.isLetGo
    obtain ⟨script, point, pending, usesChannel, runner, status⟩ := alike
    simp only [solo, script, point, usesChannel, runner, status, letGo, Solo.mk.injEq, true_and,
      and_true]
    split
    · rfl
    · rename_i here
      exact pending (by simpa using here)
  · intro same
    have status : t.status.nameless = s.status.nameless := congrArg Solo.status same
    refine ⟨congrArg Solo.script same, congrArg Solo.point same, fun here => ?_,
      congrArg Solo.usesChannel same, congrArg Solo.runner same, status⟩
    have there : Scripted.isLetGo t.status = false := by
      rw [← isLetGo_nameless, status, isLetGo_nameless, here]
    simpa [solo, here, there] using congrArg Solo.pending same

namespace Alike

variable {s t : Session Engine} {x y : Status}

theorem engine (alike : Alike s t) (here : Scripted.isLetGo s.status = false) :
    s.engine.Alike t.engine :=
  ⟨alike.script, alike.point, alike.pending here⟩

/-- Only what the loop does not have any more may differ. -/
theorem withStatus (alike : Alike s t) (status : y.nameless = x.nameless)
    (here : Scripted.isLetGo x = false → Scripted.isLetGo s.status = false) :
    Alike { s with status := x } { t with status := y } :=
  ⟨alike.script, alike.point, fun h => alike.pending (here h), alike.usesChannel, alike.runner,
    status⟩

theorem withRunner (alike : Alike s t) (i : Nat) :
    Alike { s with runner := some i } { t with runner := some i } :=
  ⟨alike.script, alike.point, alike.pending, alike.usesChannel, rfl, alike.status⟩

theorem withEngine (alike : Alike s t) {e e' : Engine} (engines : e.Alike e')
    (status : y.nameless = x.nameless) :
    Alike { s with engine := e, status := x } { t with engine := e', status := y } :=
  ⟨engines.script, engines.point, fun _ => engines.pending, alike.usesChannel, alike.runner,
    status⟩

/-- A notice goes into both channels. -/
theorem forward (alike : Alike s t) (notice notice' : Notice) :
    Alike { s with lifecycle := s.lifecycle.forward notice }
      { t with lifecycle := t.lifecycle.forward notice' } := by
  refine ⟨alike.script, alike.point, alike.pending, ?_, alike.runner, alike.status⟩
  exact (Session.usesChannel_of_forward rfl).trans
    (alike.usesChannel.trans (Session.usesChannel_of_forward rfl).symm)

end Alike

/-! ## What is no cue -/

/-- What a step of a send makes of the queue. Only as a command enters there is more to take. -/
theorem Queue.pending_step? {q q' : Queue} {act : QueueAct} {notes : List SendNote}
    (used : q.step? act = some (q', notes)) :
    q'.pending = q.pending ∧ (∀ token, act ≠ .enter token) ∨
      ∃ token l, act = .enter token ∧ q' = { q with
          entered := q.entered ++ [l.command]
          loans :=
            q.loans.map fun l => if l.token = token then { l with entered := true } else l } ∧
        q.waiting? token = some l := by
  cases act with
  | borrow token c =>
      simp only [Queue.step?] at used
      split at used
      · simp at used
      · split at used <;> cases used <;> exact Or.inl ⟨rfl, by simp⟩
  | enter token =>
      obtain ⟨l, found, h⟩ := Option.map_eq_some_iff.mp used
      cases h
      exact Or.inr ⟨token, l, rfl, rfl, found⟩
  | giveBack token =>
      obtain ⟨l, -, h⟩ := Option.map_eq_some_iff.mp used
      cases h
      exact Or.inl ⟨rfl, by simp⟩

section steps

variable {runners runners' : List Runner} {s t : Session Engine} {a a' : Session.Act Engine}
  {r r' : Session.Result Engine Note} {c : Cue}

/-- What gives no cue leaves a session as it is by itself, and nothing of it is seen. -/
theorem silent_of_cue (trans : Session.Transition runners s a r) (silent : cue? s a = none) :
    solo r.session = solo s ∧ traits r.seen = [] := by
  rw [← alike_iff]
  cases trans with
  | @access act engine happenings used =>
      obtain ⟨⟨queue, notes⟩, stepped, h⟩ := Option.map_eq_some_iff.mp used
      cases h
      have pending : isLetGo s.status = false → queue.pending = s.engine.queue.pending := by
        intro here
        rcases Queue.pending_step? stepped with ⟨same, -⟩ | ⟨token, l, rfl, -, found⟩
        · exact same
        · simp [cue?, here, found] at silent
      refine ⟨⟨rfl, rfl, pending, rfl, rfl, rfl⟩, ?_⟩
      simp only [Session.Result.seen, SlotUse.events, List.append_nil, List.map_map]
      exact traits_notes notes
  | log status | logLast status => exact ⟨⟨rfl, rfl, fun _ => rfl, rfl, rfl, rfl⟩, rfl⟩
  | receive channel | hangUp channel =>
      exact ⟨⟨rfl, rfl, fun _ => rfl, by simp [Session.usesChannel, channel], rfl, rfl⟩, rfl⟩
  | _ => simp [cue?] at silent

/-! ## One step -/

theorem Queue.pop?_congr {q q' : Queue} (same : q'.pending = q.pending) :
    q'.pop? = q.pop?.map fun (c, _) => (c, { q' with taken := q'.taken + 1 }) := by
  simp only [pop?, same]
  split <;> rfl

theorem Queue.pending_taken (q : Queue) :
    { q with taken := q.taken + 1 }.pending = q.pending.tail := by
  simp [pending]

/-- Loops that cannot be told apart make the same moves. -/
theorem Engine.Alike.follows {e e' : Engine} {m : Move} {turn : Turn Engine Note}
    (alike : e.Alike e') (moved : e.Moved m turn) :
    ∃ turn' : Turn Engine Note, e'.Moved m turn' ∧ turn'.happenings = turn.happenings ∧
      turn'.call = turn.call ∧ turn.engine.Alike turn'.engine := by
  obtain ⟨script, point, pending⟩ := alike
  have pop := Queue.pop?_congr pending
  have both : ∀ p, (e.moveTo p).Alike (e'.moveTo p) := fun p => ⟨script, rfl, pending⟩
  cases moved with
  | @take c queue taking popped =>
      obtain ⟨rfl, -⟩ := Queue.pop?_eq_some popped
      rw [popped] at pop
      refine ⟨_, .take (point ▸ taking) pop, rfl, rfl, ⟨script, by simp [point], ?_⟩⟩
      rw [Queue.pending_taken, Queue.pending_taken, pending]
  | runOut here empty =>
      rw [empty] at pop
      exact ⟨_, .runOut (point.trans here) pop, rfl, rfl, script ▸ both _⟩
  | advance here empty =>
      rw [empty] at pop
      exact ⟨_, .advance (point.trans here) pop, rfl, rfl, both _⟩
  | record here => exact ⟨_, .record (point.trans here), rfl, rfl, both _⟩
  | stop here ends => exact ⟨_, .stop (point.trans here) ends, rfl, rfl, both _⟩
  | mute here goesOn unheard => exact ⟨_, .mute (point.trans here) goesOn unheard, rfl, rfl, both _⟩
  | report here goesOn heard => exact ⟨_, .report (point.trans here) goesOn heard, rfl, rfl, both _⟩
  | beginAlone here silent => exact ⟨_, .beginAlone (point.trans here) silent, rfl, rfl, both _⟩
  | beginMute here calls unheard =>
      exact ⟨_, .beginMute (point.trans here) calls unheard, rfl, rfl, both _⟩
  | begin here calls heard => exact ⟨_, .begin (point.trans here) calls heard, rfl, rfl, both _⟩
  | pass here => exact ⟨_, .pass (point.trans here), rfl, rfl, both _⟩
  | hookMute here unheard => exact ⟨_, .hookMute (point.trans here) unheard, rfl, rfl, both _⟩
  | hookCall here heard => exact ⟨_, .hookCall (point.trans here) heard, rfl, rfl, both _⟩
  | leave here => exact ⟨_, .leave (point.trans here), rfl, rfl, both _⟩
  | quit here => exact ⟨_, .quit (point.trans here), rfl, rfl, both _⟩
  | panic here => exact ⟨_, .panic (point.trans here), rfl, rfl, both _⟩

/-- A reply takes loops that cannot be told apart to the same point. -/
theorem Engine.Alike.resume {e e' : Engine} (alike : e.Alike e') (reply : Reply) :
    (e.moveTo (Engine.afterReply reply e.point)).Alike
      (e'.moveTo (Engine.afterReply reply e'.point)) :=
  ⟨alike.script, congrArg (Engine.afterReply reply) alike.point, alike.pending⟩

/-- A setting is refused or recorded, and which of both depends on the script. -/
theorem Engine.apply_cases (script : Script) (setting : Setting) :
    (∃ fault, ∀ e : Engine, e.script = script → ∀ happenings,
      apply (e, happenings) setting = ((e, happenings), .error fault)) ∨
    ∀ e : Engine, e.script = script → ∀ happenings,
      apply (e, happenings) setting = ((e, happenings ++ noted (.setting setting)), .ok ()) := by
  cases rejects : script.rejectsUrl with
  | none =>
      refine Or.inr ?_
      rintro e rfl happenings
      cases setting <;> simp [apply, rejects]
  | some code =>
      cases setting with
      | url url =>
          refine Or.inl ⟨⟨(Setting.url url).context, code⟩, ?_⟩
          rintro e rfl happenings
          simp [apply, rejects]
      | _ =>
          refine Or.inr ?_
          rintro e rfl happenings
          simp [apply]

/-- Engines of one script record the same as they are configured. -/
theorem Engine.applyAll_congr {e e' : Engine} (script : e'.script = e.script)
    (happenings : Happenings) (settings : List Setting) :
    (applyAll apply (e', happenings) settings).1.2 =
      (applyAll apply (e, happenings) settings).1.2 := by
  induction settings generalizing happenings with
  | nil => rfl
  | cons setting rest ih =>
      rcases apply_cases e.script setting with ⟨fault, refused⟩ | made
      · simp only [applyAll, refused e rfl, refused e' script]
      · simpa only [applyAll, made e rfl, made e' script] using ih _

theorem place_of_configs {i : Nat} {runner : Runner}
    (configs : runners'.map Runner.config = runners.map Runner.config)
    (place : runners[i]? = some runner) :
    ∃ runner', runners'[i]? = some runner' ∧ runner'.config = runner.config := by
  have same := congrArg (·[i]?) configs
  simpa [place] using same

/-- What turns on the name of a thread does not turn on the number of the engine. -/
theorem zero_mem_threadName_congr {config config' : RunnerConfig} (same : config' = config)
    (id id' : EngineId) : '\x00' ∈ (config'.threadName id').toList ↔
      '\x00' ∈ (config.threadName id).toList := by
  rw [zero_mem_threadName_iff, zero_mem_threadName_iff, same]

/-- Once an engine is gone, it is gone. -/
theorem isLetGo_of_transition (trans : Session.Transition runners s a r)
    (here : isLetGo r.session.status = false) : isLetGo s.status = false := by
  cases trans with
  | setup | access | log | logLast | receive | hangUp => exact here
  | unbind | close | returnSlot | failStart => cases here
  | _ => simp [*, isLetGo]

/-- The act can be done to `t` with a result that is alike. -/
def Followed (runners : List Runner) (t : Session Engine) (a : Session.Act Engine)
    (r : Session.Result Engine Note) : Prop :=
  ∃ r', Session.Transition runners t a r' ∧ Alike r.session r'.session ∧
    traits r'.seen = traits r.seen

namespace Alike

theorem follows_setup {options : Options} {engine : Engine} {happenings : List (Happening Note)}
    (alike : Alike s t) (held : t.status = .held)
    (set : TunnelControl.Engine.setup options s.engine = some (engine, happenings)) :
    Followed runners t (.setup options)
      ⟨{ s with engine }, happenings.map Happening.atCaller, .unchanged⟩ := by
  have kept : engine = s.engine := (Engine.setup_frame set).1
  have kept' : (t.engine.configure options).1.1 = t.engine := (Engine.setup_frame rfl).1
  have made : (s.engine.configure options).1.2 = happenings :=
    congrArg Prod.snd (Option.some.inj set)
  have same : (t.engine.configure options).1.2 = happenings :=
    (Engine.applyAll_congr alike.script [] options.settings).trans made
  refine ⟨_, .setup held rfl, ?_, ?_⟩
  · rw [kept, kept']
    exact alike
  · simp only [Session.Result.seen, same]

theorem exists_turn {m : Move} {turn : Turn Engine Note} (alike : Alike s t)
    (running : s.status = .running none)
    (moved : TunnelControl.Engine.move m s.engine = some turn) :
    ∃ turn' : Turn Engine Note, TunnelControl.Engine.move m t.engine = some turn' ∧
      turn'.happenings = turn.happenings ∧ turn'.call = turn.call ∧
      turn.engine.Alike turn'.engine := by
  have engines : s.engine.Alike t.engine := alike.engine (by rw [running]; rfl)
  obtain ⟨turn', moved', same⟩ := engines.follows (Engine.moved_of_move moved)
  exact ⟨turn', Engine.move_of_moved moved', same⟩

theorem outcome?_eq (alike : Alike s t) :
    TunnelControl.Engine.outcome? t.engine = TunnelControl.Engine.outcome? s.engine := by
  simp only [TunnelControl.Engine.outcome?, Engine.outcome?, alike.point]

end Alike

/-- **Following.** What gives a cue to a session can be done to one that is alike, and the two
stay alike. Only that a command arrives needs a send of its own. -/
theorem follows (alike : Alike s t) (trans : Session.Transition runners s a r)
    (configs : runners'.map Runner.config = runners.map Runner.config)
    (unlimited : ∀ x ∈ runners, x.config.maxActive = none) (cue : cue? s a = some c)
    (inside : ∀ command, c ≠ .arrived command) : Followed runners' t a r := by
  have status := Status.resembles_of_nameless alike.status
  have here := isLetGo_of_transition trans
  cases trans with
  | setup held set =>
      rw [held] at status
      exact alike.follows_setup status set
  | @access act =>
      rcases cue_cases cue with ⟨token, l, -, arrived, -⟩ | ⟨other, -⟩
      · exact absurd arrived (inside l.command)
      · exact absurd rfl (other act)
  | drop held =>
      rw [held] at status
      exact ⟨_, .drop status, alike.withStatus rfl here, rfl⟩
  | @misname i runner held place nul =>
      rw [held] at status
      obtain ⟨x, place', config⟩ := place_of_configs configs place
      exact ⟨_, .misname status place' ((zero_mem_threadName_congr config s.id t.id).mpr nul),
        (alike.withRunner i).withStatus rfl here, rfl⟩
  | @accept i runner held place name =>
      rw [held] at status
      obtain ⟨x, place', config⟩ := place_of_configs configs place
      exact ⟨_, .accept status place' (name ∘ (zero_mem_threadName_congr config s.id t.id).mp),
        (alike.withRunner i).withStatus rfl here, rfl⟩
  | findFull starting given place full =>
      simp [Runner.exhausted?, unlimited _ (List.mem_of_getElem? place)] at full
  | takeSlot starting given place free =>
      rw [starting] at status
      obtain ⟨x, place', config⟩ := place_of_configs configs place
      have free' : x.exhausted? = none := by
        simp [Runner.exhausted?, config, unlimited _ (List.mem_of_getElem? place)]
      exact ⟨_, .takeSlot status (alike.runner.trans given) place' free',
        alike.withStatus rfl here, rfl⟩
  | launch placed =>
      rw [placed] at status
      exact ⟨_, .launch status, alike.withStatus rfl here, rfl⟩
  | failSpawn placed =>
      rw [placed] at status
      exact ⟨_, .failSpawn status, alike.withStatus rfl here, rfl⟩
  | enter launched given place =>
      rw [launched] at status
      obtain ⟨x, place', config⟩ := place_of_configs configs place
      have engines := alike.engine (here rfl)
      have entered : ∀ limits, (s.engine.enter limits).1.Alike (t.engine.enter limits).1 :=
        fun _ => ⟨engines.script, by simp [Engine.enter, engines.script], engines.pending⟩
      rw [← config]
      exact ⟨_, .enter status (alike.runner.trans given) place',
        alike.withEngine (entered _) rfl, rfl⟩
  | @move m turn running moved silent =>
      obtain ⟨turn', moved', same, call, engines⟩ := alike.exists_turn running moved
      rw [running] at status
      refine ⟨_, .move status moved' (call.trans silent),
        alike.withEngine engines alike.status, ?_⟩
      simp only [Session.Result.seen, same]
  | @ask m turn call running moved asked untold plain =>
      obtain ⟨turn', moved', same, calls, engines⟩ := alike.exists_turn running moved
      rw [running] at status
      refine ⟨_, .ask status moved' (calls.trans asked)
        (fun channel => untold (alike.usesChannel.symm.trans channel)) plain,
        alike.withEngine engines rfl, ?_⟩
      simp only [Session.Result.seen, same]
  | @forward m turn call notice running moved asked channel told plain =>
      obtain ⟨turn', moved', same, calls, engines⟩ := alike.exists_turn running moved
      rw [running] at status
      have resumed := engines.resume .done
      refine ⟨_, .forward status moved' (calls.trans asked) (alike.usesChannel.trans channel) told
        plain, (alike.forward notice notice).withEngine resumed rfl, ?_⟩
      simp only [Session.Result.seen, same]
      rfl
  | log status | logLast status | receive channel | hangUp channel => simp [cue?] at cue
  | reply running fits =>
      rw [running] at status
      exact ⟨_, .reply status fits, alike.withEngine ((alike.engine (here rfl)).resume _) rfl, rfl⟩
  | @acknowledge reply result logs reporting fits logged =>
      rw [reporting] at status
      obtain ⟨result', status, -⟩ := status
      have fits' : reply.fits (.terminated result') = true := by
        cases reply <;> exact fits
      exact ⟨_, .acknowledge status fits' logged, alike.withStatus rfl here, rfl⟩
  | report running finished handled logged =>
      rw [running] at status
      subst logged
      refine ⟨_, .report status (alike.outcome?_eq.trans finished)
        (alike.usesChannel.trans handled) rfl, alike.withStatus rfl here, ?_⟩
      split <;> rfl
  | post running finished channel logged =>
      rw [running] at status
      subst logged
      refine ⟨_, .post status (alike.outcome?_eq.trans finished)
        (alike.usesChannel.trans channel) rfl, (alike.forward _ _).withStatus rfl here, ?_⟩
      split <;> rfl
  | retire retiring =>
      rw [retiring] at status
      obtain ⟨aftermath', status, same⟩ := status
      exact ⟨_, .retire status, alike.withStatus (congrArg Status.freeing same) here, rfl⟩
  | free freeing =>
      rw [freeing] at status
      obtain ⟨aftermath', status, same⟩ := status
      exact ⟨_, .free status, ⟨alike.script, alike.point, by simp [isLetGo], alike.usesChannel,
        alike.runner, congrArg Status.unbinding same⟩, rfl⟩
  | unbind unbinding =>
      rw [unbinding] at status
      obtain ⟨aftermath', status, same⟩ := status
      exact ⟨_, .unbind status, alike.withStatus (congrArg Status.closing same) here, rfl⟩
  | close closing =>
      rw [closing] at status
      obtain ⟨aftermath', status, same⟩ := status
      obtain rfl := Aftermath.eq_nothing_of_nameless same
      exact ⟨_, .close status, alike.withStatus rfl here, rfl⟩
  | returnSlot closing =>
      rw [closing] at status
      obtain ⟨aftermath', status, same⟩ := status
      obtain rfl := Aftermath.eq_slot_of_nameless same
      exact ⟨_, .returnSlot status, alike.withStatus rfl here, rfl⟩
  | @failStart fault logs closing logged =>
      rw [closing] at status
      obtain ⟨aftermath', status, same⟩ := status
      obtain ⟨fault', rfl⟩ := Aftermath.exists_refusal_of_nameless same
      refine ⟨_, .failStart status rfl, alike.withStatus rfl here, ?_⟩
      subst logged
      cases fault <;> cases fault' <;> rfl

/-! ## Two steps at one cue -/

/-- A command arrives. -/
theorem solo_of_arrived {command : Command} (trans : Session.Transition runners s a r)
    (within : s.engine.queue.taken ≤ s.engine.queue.entered.length)
    (arrived : cue? s a = some (.arrived command)) :
    solo r.session = { solo s with pending := (solo s).pending ++ [command] } ∧
      traits r.seen = [] := by
  cases trans with
  | @access act engine happenings used =>
      obtain ⟨⟨queue, notes⟩, stepped, h⟩ := Option.map_eq_some_iff.mp used
      cases h
      refine ⟨?_, ?_⟩
      · rcases Queue.pending_step? stepped with ⟨-, other⟩ | ⟨token, l, rfl, rfl, found⟩
        · cases act with
          | enter token => exact absurd rfl (other token)
          | _ => simp [cue?] at arrived
        · simp only [cue?, found, Option.map_some] at arrived
          split at arrived
          · simp at arrived
          · rename_i here
            obtain rfl : l.command = command := by simpa using arrived
            simp only [solo, if_neg here, Queue.pending, List.drop_append_of_le_length within]
            rfl
      · simp only [Session.Result.seen, SlotUse.events, List.append_nil, List.map_map]
        exact traits_notes notes
  | _ => simp [cue?] at arrived

/-- The act by which a session goes on. -/
def Solo.due (x : Solo) (reply : Reply) : Session.Act Engine :=
  match x.status, x.point with
  | .starting, _ => .reserve
  | .launched, _ => .enter
  | .running none, .done _ => .finish
  | .running none, .waiting .. => .move Move.pass
  | .running none, _ => .move Move.go
  | .running (some _), _ | .reporting _, _ => .reply reply
  | _, _ => .dispose

/-- Without a hook there is one move that a loop can make. -/
theorem due_of_moved {m : Move} {turn : Turn Engine Note} (running : s.status = .running none)
    (moved : Engine.Moved s.engine m turn) (unhooked : ∀ h rest, s.engine.point ≠ .hook h rest)
    (reply : Reply) : (solo s).due reply = .move m := by
  have status : (solo s).status = .running none := congrArg Status.nameless running
  have point : (solo s).point = s.engine.point := rfl
  unfold Solo.due
  rw [status, point]
  cases moved with
  | take taking popped => cases here : s.engine.point <;> simp [here] at taking <;> rfl
  | hookMute here | hookCall here | leave here | quit here | panic here =>
      exact absurd here (unhooked _ _)
  | _ => simp_all

/-- **Going on** can be done in one way only. -/
theorem exists_due (trans : Session.Transition runners s a r) (goesOn : cue? s a = some .goesOn)
    (unhooked : ∀ h rest, s.engine.point ≠ .hook h rest) :
    ∃ reply, a = (solo s).due reply := by
  have status : (solo s).status = s.status.nameless := rfl
  cases trans with
  | move running moved | ask running moved | forward running moved =>
      exact ⟨.done, (due_of_moved running (Engine.moved_of_move moved) unhooked .done).symm⟩
  | report running finished | post running finished =>
      have here := point_of_outcome? finished
      exact ⟨.done, by simp [Solo.due, running, solo, here, Status.nameless]⟩
  | @reply reply call running => exact ⟨reply, by simp [Solo.due, status, running, Status.nameless]⟩
  | @acknowledge reply result logs reporting =>
      exact ⟨reply, by simp [Solo.due, status, reporting, Status.nameless]⟩
  | @access act => cases act <;> simp [cue?] at goesOn
  | setup | drop | misname | accept | launch | failSpawn | log | logLast | receive | hangUp =>
      simp [cue?] at goesOn
  | _ => exact ⟨.done, by simp [Solo.due, Status.nameless, *]⟩

/-- The act that gives a cue from outside, but for commands, which come with sends. -/
def Cue.act? : Cue → Option (Session.Act Engine)
  | .configured options => some (.setup options)
  | .dropped => some .drop
  | .started runner => some (.start runner)
  | .spawned failure => some (.spawn failure)
  | .arrived _ | .goesOn => none

theorem act_of_cue {b : Session.Act Engine} (cue : cue? s a = some c) (act : c.act? = some b) :
    a = b := by
  rcases cue_cases cue with ⟨token, l, -, rfl, -⟩ | ⟨other, -⟩
  · cases act
  · cases a with
    | access x => exact absurd rfl (other x)
    | _ => cases cue <;> cases act <;> rfl

/-- Whatever the reply to it, nothing comes of the terminal result. -/
theorem solo_of_acknowledged {reply : Reply} {result : TerminalResult}
    (trans : Session.Transition runners s (.reply reply) r)
    (reporting : s.status = .reporting result) :
    r.session = s.afterReport ∧ traits r.seen = [] := by
  cases trans with
  | reply running => simp [reporting] at running
  | acknowledge _ _ logged =>
      subst logged
      refine ⟨rfl, ?_⟩
      split <;> rfl

/-- **Lockstep.** Sessions that are alike stay so with every cue, if they are given the same
replies, and the same is seen of them. -/
theorem lockstep (alike : Alike s t) (trans : Session.Transition runners s a r)
    (trans' : Session.Transition runners' t a' r')
    (configs : runners'.map Runner.config = runners.map Runner.config)
    (unlimited : ∀ x ∈ runners, x.config.maxActive = none) (cue : cue? s a = some c)
    (cue' : cue? t a' = some c) (unhooked : ∀ h rest, s.engine.point ≠ .hook h rest)
    (within : s.engine.queue.taken ≤ s.engine.queue.entered.length)
    (within' : t.engine.queue.taken ≤ t.engine.queue.entered.length)
    (replies : ∀ call reply reply', s.status = .running (some call) → a = .reply reply →
      a' = .reply reply' → reply' = reply) :
    Alike r.session r'.session ∧ traits r'.seen = traits r.seen := by
  have once : a' = a → (∀ command, c ≠ .arrived command) →
      Alike r.session r'.session ∧ traits r'.seen = traits r.seen := by
    rintro rfl inside
    obtain ⟨r₁, trans₁, next, seen⟩ := follows alike trans configs unlimited cue inside
    have same := Option.some.inj ((Session.step_of_transition trans').symm.trans
      (Session.step_of_transition trans₁))
    exact same ▸ ⟨next, seen⟩
  cases c with
  | arrived command =>
      obtain ⟨after, silent⟩ := solo_of_arrived trans within cue
      obtain ⟨after', silent'⟩ := solo_of_arrived trans' within' cue'
      rw [alike_iff, after, after', alike_iff.mp alike, silent, silent']
      exact ⟨rfl, rfl⟩
  | goesOn =>
      obtain ⟨reply, due⟩ := exists_due trans cue unhooked
      obtain ⟨reply', due'⟩ := exists_due trans' cue' (alike.point ▸ unhooked)
      rw [alike_iff.mp alike] at due'
      cases status : s.status with
      | reporting result =>
          simp only [Solo.due, solo, status, Status.nameless] at due due'
          subst due due'
          obtain ⟨result', reporting', code⟩ : t.status.Resembles (.reporting result) :=
            status ▸ Status.resembles_of_nameless alike.status
          obtain ⟨after, silent⟩ := solo_of_acknowledged trans status
          obtain ⟨after', silent'⟩ := solo_of_acknowledged trans' reporting'
          rw [after, after', silent, silent']
          exact ⟨alike.withStatus rfl fun _ => by rw [status]; rfl, rfl⟩
      | running asked =>
          cases asked with
          | none =>
              refine once ?_ (by simp)
              rw [due, due']
              simp only [Solo.due, solo, status, Status.nameless]
              cases s.engine.point <;> rfl
          | some call =>
              simp only [Solo.due, solo, status, Status.nameless] at due due'
              refine once ?_ (by simp)
              rw [due, due', replies call reply reply' status due due']
      | _ =>
          refine once ?_ (by simp)
          rw [due, due']
          simp only [Solo.due, solo, status, Status.nameless]
  | _ => exact once ((act_of_cue cue' rfl).trans (act_of_cue cue rfl).symm) (by simp)

end steps

end Scripted
end TunnelControl
