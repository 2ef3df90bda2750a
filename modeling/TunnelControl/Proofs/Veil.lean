import TunnelControl.World

/-!
# Veils

A veil blanks a part of what engines hold and note, and of what they are replied. If no
engine ever looks at that part (`Veil.Unseen`), then no session does, and no world: a step
taken under the veil is the step itself, veiled (`Veil.Unseen.world_step`). What two worlds
have in common under a veil they therefore keep in common, whatever happens to both.
-/

namespace TunnelControl

open Engine (Note)

/-- What is left of engines, of their notes and of replies once something in them is blanked. -/
structure Veil (ε : Type) [Engine ε] where
  engine : ε → ε
  note : Note ε → Note ε
  reply : Reply → Reply

namespace Veil

variable {ε : Type} [Engine ε] (v : Veil ε)

/-! ## What is veiled -/

def happening : Happening (Note ε) → Happening (Note ε)
  | .note n => .note (v.note n)
  | .log entry => .log entry

/-- An engine and what it has left behind. -/
def after (x : ε × List (Happening (Note ε))) : ε × List (Happening (Note ε)) :=
  (v.engine x.1, x.2.map v.happening)

def turn (t : Turn ε (Note ε)) : Turn ε (Note ε) :=
  ⟨v.engine t.engine, t.happenings.map v.happening, t.call⟩

def event : Event (Note ε) → Event (Note ε)
  | .note n => .note (v.note n)
  | .replied call r => .replied call (v.reply r)
  | e => e

def session (s : Session ε) : Session ε := { s with engine := v.engine s.engine }

def result (r : Session.Result ε (Note ε)) : Session.Result ε (Note ε) :=
  ⟨v.session r.session, r.events.map v.event, r.slots⟩

def act : Session.Act ε → Session.Act ε
  | .reply r => .reply (v.reply r)
  | a => a

def action : Action ε → Action ε
  | .act key a => .act key (v.act a)
  | a => a

def entry (x : Nat × Event (Note ε)) : Nat × Event (Note ε) := (x.1, v.event x.2)

def world (w : World ε) : World ε :=
  { w with sessions := w.sessions.map (Option.map v.session), trace := w.trace.map v.entry }

/-- No engine looks at what is blanked, and neither does what becomes of a reply. -/
structure Unseen (v : Veil ε) : Prop where
  make : ∀ plan agent, Engine.make (ε := ε) plan agent =
    ((Engine.make plan agent).1.map v.engine, (Engine.make plan agent).2.map v.happening)
  setup : ∀ x e, Engine.setup x (v.engine e) = (Engine.setup x e).map v.after
  access : ∀ x e, Engine.access x (v.engine e) = (Engine.access x e).map v.after
  enter : ∀ limits e, Engine.enter limits (v.engine e) = v.after (Engine.enter limits e)
  move : ∀ m e, Engine.move m (v.engine e) = (Engine.move m e).map v.turn
  resume : ∀ call r e,
    Engine.resume call (v.reply r) (v.engine e) = v.after (Engine.resume call r e)
  outcome : ∀ e, Engine.outcome? (v.engine e) = Engine.outcome? e
  retire : ∀ e, Engine.retire (v.engine e) = v.after (Engine.retire e)
  free : ∀ e, Engine.free (v.engine e) = v.after (Engine.free e)
  taken : v.reply .done = .done
  panic : ∀ r, v.reply r = .panic ↔ r = .panic
  fits : ∀ r call, (v.reply r).fits call = r.fits call
  remark : ∀ r call, (v.reply r).remark call = r.remark call

@[simp] theorem event_log (entry : Log.Entry) : v.event (.log entry) = .log entry := rfl

@[simp] theorem event_inLoop (x : Happening (Note ε)) :
    v.event x.inLoop = (v.happening x).inLoop := by
  cases x <;> rfl

@[simp] theorem event_atCaller (x : Happening (Note ε)) :
    v.event x.atCaller = (v.happening x).atCaller := by
  cases x <;> rfl

theorem map_event_slots (use : SlotUse) : use.events.map v.event = use.events := by
  cases use <;> rfl

theorem seen_result (r : Session.Result ε (Note ε)) : (v.result r).seen = r.seen.map v.event := by
  simp [Session.Result.seen, result, map_event_slots]

theorem report (s : Session ε) (outcome : Outcome) :
    (v.session s).report outcome =
      (v.session (s.report outcome).1, (s.report outcome).2.map v.event) := by
  have channel : (v.session s).usesChannel = s.usesChannel := rfl
  unfold Session.report
  rw [channel]
  cases s.usesChannel <;> by_cases panicked : outcome = .panicked <;>
    simp [session, event, Session.afterReport, panicked]

theorem session?_world (w : World ε) (key : Nat) :
    (v.world w).session? key = (w.session? key).map v.session := by
  simp only [World.session?, world, List.getElem?_map]
  cases w.sessions[key]? <;> rfl

theorem map_entry (key : Nat) (events : List (Event (Note ε))) :
    (events.map (key, ·)).map v.entry = (events.map v.event).map (key, ·) := by
  simp only [List.map_map]
  rfl

theorem world_advance (key : Nat) (r : Session.Result ε (Note ε)) (w : World ε) :
    (v.world w).advance key (v.result r) = v.world (w.advance key r) := by
  simp only [World.advance, seen_result, world, List.map_append, List.map_set, map_entry]
  rfl

end Veil

namespace Veil.Unseen

variable {ε : Type} [Engine ε] {v : Veil ε}

/-! ## Sessions -/

theorem dispatch (unseen : v.Unseen) (s : Session ε) (call : Callback) :
    (v.session s).dispatch call =
      (v.session (s.dispatch call).1, (s.dispatch call).2.map v.event) := by
  have channel : (v.session s).usesChannel = s.usesChannel := rfl
  unfold Session.dispatch
  rw [channel]
  cases (if s.usesChannel then call.notice? else none) with
  | none =>
      have called : v.event (.called call) = .called call := rfl
      simp [session, Function.comp_def, called]
  | some notice =>
      have forwarded : v.event (.forwarded notice) = .forwarded notice := rfl
      have resumed := unseen.resume call .done s.engine
      rw [unseen.taken] at resumed
      simp [session, Function.comp_def, forwarded, resumed, after]

theorem dispose (unseen : v.Unseen) (s : Session ε) :
    (v.session s).dispose? = s.dispose?.map v.result := by
  obtain ⟨id, userAgent, engine, lifecycle, runner, status⟩ := s
  cases status with
  | retiring => simp [Session.dispose?, session, result, unseen.retire, after, Function.comp_def]
  | freeing =>
      have released : v.event .released = .released := rfl
      simp [Session.dispose?, session, result, unseen.free, after, released, Function.comp_def]
  | closing aftermath =>
      cases aftermath with
      | refusal fault => cases fault <;> rfl
      | _ => rfl
  | _ => rfl

section running

variable {s : Session ε} (running : s.status = .running none) (runners : List Runner)
include running

theorem step_move (unseen : v.Unseen) (m : Engine.Move ε) :
    (v.session s).step runners (.move m) = (s.step runners (.move m)).map v.result := by
  have veiled : (v.session s).status = .running none := running
  simp only [Session.step, running, veiled]
  rw [show (v.session s).engine = v.engine s.engine from rfl, unseen.move, Option.map_map,
    Option.map_map]
  refine congrArg (Option.map · _) (funext fun t => ?_)
  cases called : t.call with
  | none => simp [turn, session, result, called, Function.comp_def]
  | some call =>
      have moved : { v.session s with engine := v.engine t.engine, status := .running none } =
          v.session { s with engine := t.engine, status := .running none } := rfl
      simp [turn, result, called, Function.comp_def, moved, unseen.dispatch]

theorem step_finish (unseen : v.Unseen) :
    (v.session s).step runners .finish = (s.step runners .finish).map v.result := by
  have veiled : (v.session s).status = .running none := running
  simp only [Session.step, running, veiled]
  rw [show (v.session s).engine = v.engine s.engine from rfl, unseen.outcome, Option.map_map]
  refine congrArg (Option.map · _) (funext fun outcome => ?_)
  simp only [Function.comp_apply, result, v.report]

end running

theorem step_reply (unseen : v.Unseen) (runners : List Runner) (r : Reply) (s : Session ε) :
    (v.session s).step runners (.reply (v.reply r)) =
      (s.step runners (.reply r)).map v.result := by
  obtain ⟨id, userAgent, engine, lifecycle, runner, status⟩ := s
  cases status with
  | running asked =>
      cases asked with
      | none => rfl
      | some call =>
          have replied : v.event (.replied call r) = .replied call (v.reply r) := rfl
          simp only [Session.step, session, unseen.fits]
          split
          · simp [unseen.resume, unseen.remark, result, session, after, replied,
              Function.comp_def]
          · rfl
  | reporting outcome =>
      simp only [Session.step, session, unseen.fits]
      split
      · simp only [unseen.panic]
        split <;> rfl
      · rfl
  | _ => rfl

/-- **A session minds no veil.** What it makes of an act is the same behind a veil that no engine
looks behind, and what is seen of it is what is seen anyway, veiled. -/
theorem step (unseen : v.Unseen) (runners : List Runner) (a : Session.Act ε) (s : Session ε) :
    (v.session s).step runners (v.act a) = (s.step runners a).map v.result := by
  obtain ⟨id, userAgent, engine, lifecycle, runner, status⟩ := s
  cases a with
  | setup x =>
      cases status with
      | held => simp [Session.step, session, act, unseen.setup, result, after, Function.comp_def]
      | _ => rfl
  | access x =>
      simp [Session.step, session, act, unseen.access, result, after, Function.comp_def]
  | drop => cases status <;> rfl
  | start i =>
      cases status with
      | held =>
          simp only [Session.step, session, act, Option.map_map]
          refine congrArg (Option.map · _) (funext fun r => ?_)
          simp only [Function.comp_apply, apply_ite v.result]
          rfl
      | _ => rfl
  | reserve =>
      cases status with
      | starting =>
          simp only [Session.step, session, act, Option.map_map]
          refine congrArg (Option.map · _) (funext fun r => ?_)
          simp only [Function.comp_apply]
          split <;> rfl
      | _ => rfl
  | spawn failure => cases failure <;> cases status <;> rfl
  | enter =>
      cases status with
      | launched =>
          simp [Session.step, session, act, unseen.enter, result, after, Function.comp_def]
      | _ => rfl
  | move m =>
      cases status with
      | running asked =>
          cases asked with
          | none => exact unseen.step_move rfl runners m
          | some call => rfl
      | _ => rfl
  | log entry =>
      cases status with
      | running asked => cases asked <;> rfl
      | _ => rfl
  | reply r => exact unseen.step_reply runners r _
  | finish =>
      cases status with
      | running asked =>
          cases asked with
          | none => exact unseen.step_finish rfl runners
          | some call => rfl
      | _ => rfl
  | dispose => exact unseen.dispose _
  | receive =>
      cases lifecycle with
      | channel isOpen waiting => cases isOpen <;> rfl
      | handler => rfl
  | hangUp => cases lifecycle <;> rfl

/-! ## Worlds -/

/-- What is made has nothing in it that a veil would hide. -/
theorem make_veiled (unseen : v.Unseen) (plan : Engine.Plan ε) (userAgent : String)
    (lifecycle : Lifecycle) (w : World ε) :
    w.make plan userAgent lifecycle =
      ((w.make plan userAgent lifecycle).1.map v.session,
        (w.make plan userAgent lifecycle).2.map v.event) := by
  have unbound : v.event .unbound = .unbound := rfl
  have made := unseen.make plan userAgent
  unfold World.make
  cases new : Engine.make (ε := ε) plan userAgent with
  | mk engine happenings =>
      rw [new] at made
      obtain ⟨same, same'⟩ := Prod.mk.inj made
      have seen : (happenings.map Happening.atCaller).map v.event =
          happenings.map Happening.atCaller := by
        simpa using (congrArg (List.map Happening.atCaller) same').symm
      cases engine with
      | none => simp only [List.map_append, seen]; rfl
      | some e =>
          simp only [seen, Option.map_some, session]
          rw [← Option.some.inj same]

theorem world_attempt (unseen : v.Unseen) (plan : Engine.Plan ε) (userAgent : String)
    (lifecycle : Lifecycle) (w : World ε) :
    (v.world w).attempt plan userAgent lifecycle =
      v.world (w.attempt plan userAgent lifecycle) := by
  have same : (v.world w).make plan userAgent lifecycle = w.make plan userAgent lifecycle := rfl
  have made := unseen.make_veiled plan userAgent lifecycle w
  unfold World.attempt
  rw [same]
  cases new : w.make plan userAgent lifecycle with
  | mk s events =>
      rw [new] at made
      obtain ⟨kept, kept'⟩ := Prod.mk.inj made
      simp only [world, List.map_append, List.map_cons, List.map_nil, map_entry, ← kept, ← kept',
        List.length_map]

/-- **No world minds a veil**, either. -/
theorem world_step (unseen : v.Unseen) (a : Action ε) (w : World ε) :
    (v.world w).step (v.action a) = (w.step a).map v.world := by
  cases a with
  | create plan userAgent lifecycle =>
      exact congrArg some (unseen.world_attempt plan userAgent lifecycle w)
  | act key a =>
      simp only [World.step, action, session?_world]
      cases w.session? key with
      | none => rfl
      | some s =>
          have stepped := unseen.step w.runners a s
          simp only [Option.map_some, Option.bind_eq_bind, Option.bind_some]
          rw [show (v.world w).runners = w.runners from rfl, stepped]
          cases s.step w.runners a with
          | none => rfl
          | some r => exact congrArg some (v.world_advance key r w)

end Veil.Unseen
end TunnelControl
