import TunnelControl.Rehearsal.Controller
import TunnelControl.Scripted.Engine

/-!
# Rehearsals with scripted engines

A stage holds a world of scripted sessions with a rehearsed controller for each,
under names of the caller's choice, and the hooks and gates of the scripts. An
operation on the stage is done, and then every session plays on by itself until
it is over or blocked: at a closed gate, idle with no command left, or because
its handle has not been given away. So what an operation shows does not depend
on time.

Everything goes through `World.step`; a stage only picks the steps.
-/

namespace TunnelControl.Rehearsal

open Scripted (Script Gate)

/-- What a hook of a script does: calls in order, then it panics or returns. -/
structure Hook where
  calls : List HookCall
  returns : Option Int32
  panics : Bool

/-- A hook under way. -/
structure HookRun where
  left : List HookCall
  results : List CallResult

/-- Notes the result of the call made last. -/
def HookRun.note (r : CallResult) (run : HookRun) : HookRun :=
  { run with results := run.results ++ [r] }

/-- Whether the call made last panicked. Hooks of a stage let panics through. -/
def HookRun.isUnwinding (run : HookRun) : Bool :=
  match run.results.getLast? with
  | some .panicked => true
  | _ => false

/-- One line of what is seen of a session. -/
inductive Line
  | event (e : Event Scripted.Note)
  /-- A command that a trigger sent. -/
  | sent (c : Command) (result : Except SendFault Unit)
  /-- A hook came to its end. -/
  | hook (results : List CallResult)

/-- How a session's notices are taken. -/
inductive Attendance
  /-- By the controller. -/
  | recorder
  /-- Through a channel. -/
  | channel
  /-- Through a channel whose receiver is gone from the start. -/
  | channelDropped
  /-- By nobody. -/
  | unbound
  deriving DecidableEq

/-- One session of the stage. -/
structure Member where
  name : String
  /-- Its place in the world. -/
  key : Nat
  controller : Controller
  attendance : Attendance
  /-- Whether the receiver of its channel is still held. -/
  receives : Bool
  hookRun : Option HookRun
  /-- The name of its loop's thread, once it has been given to a runner. -/
  thread : String
  /-- What has been seen of it since the last operation. -/
  lines : List Line

def Member.forget (m : Member) : Member := { m with lines := [] }

structure Stage where
  world : World Scripted.Engine
  scripts : List Script
  hooks : List Hook
  openGates : List Gate
  members : List Member
  /-- Command pipes by name, with the session that each belongs to. -/
  pipes : List (String × Nat)

namespace Stage

def new (scripts : List Script) (hooks : List Hook) (runners : List RunnerConfig) : Stage :=
  ⟨World.new runners, scripts, hooks, [], [], []⟩

/-- The largest stack that a thread can be made with is below this size. -/
def stackBound : Nat := 0x1000000000000000

/-- The error with which making a thread fails, if it does. -/
def spawnFailure (c : RunnerConfig) : Option Int32 :=
  if c.stackSize.any (stackBound ≤ ·) then some 11 else none

def session? (st : Stage) (m : Member) : Option (Session Scripted.Engine) :=
  st.world.session? m.key

/-- Does one act on a member's session and notes what is seen of it. -/
def act (a : Session.Act Scripted.Engine) (st : Stage) (m : Member) : Stage × Member :=
  match st.world.step (.act m.key a) with
  | none => (st, m)
  | some world =>
    let seen := (world.trace.drop st.world.trace.length).map fun e => Line.event e.2
    ({ st with world }, { m with lines := m.lines ++ seen })

/-- Sends a command through a pipe of a session, one step after another. Sends
of a stage never overlap, so one token serves them all. -/
def send (key : Nat) (c : Command) (st : Stage) : Stage × Except SendFault Unit :=
  let take (a : Scripted.QueueAct) (w : World Scripted.Engine) :=
    (w.step (.act key (.access a))).getD w
  let world := take (.giveBack 0) (take (.enter 0) (take (.borrow 0 c) st.world))
  let result := (world.trace.drop st.world.trace.length).findSome? fun
    | (_, .note (.send (.ended _ result))) => some result
    | _ => none
  ({ st with world }, result.getD (.error .closed))

/-- Does what the controller does about a call, and replies. -/
def perform : List Deed → Reply → Stage → Member → Stage × Member
  | [], reply, st, m => st.act (.reply reply) m
  | .log entry :: deeds, reply, st, m =>
    let (st, m) := st.act (.log entry) m
    perform deeds reply st m
  | .send c :: deeds, reply, st, m =>
    let (st, result) := st.send m.key c
    perform deeds reply st { m with lines := m.lines ++ [.sent c result] }

/-- What becomes of a call: the member's controller answers it, or, if it is a
notice that nobody attends to, it is just taken. -/
def responseTo (call : Callback) (m : Member) : Controller × Response :=
  if call.isLifecycle && m.attendance = .unbound then (m.controller, ⟨[], .done⟩)
  else m.controller.respond call

/-- Answers the call that a member's session is asking about. -/
def answer (call : Callback) (st : Stage) (m : Member) : Stage × Member :=
  let (controller, response) := responseTo call m
  let m := { m with
    controller
    hookRun := m.hookRun.map (HookRun.note (.ofReply response.reply)) }
  perform response.deeds response.reply st m

/-- Whether a member's session waits for the answer to a call. -/
def asks (st : Stage) (m : Member) : Bool :=
  match (st.session? m).map Session.status with
  | some (.running (some _)) => true
  | _ => false

/-- Plays the next part of the hook that the loop is in. A call that nobody has
to answer gives nothing. -/
def playHook (h : Nat) (st : Stage) (m : Member) : Stage × Member :=
  let hook := st.hooks[h]?.getD ⟨[], none, false⟩
  let run := m.hookRun.getD ⟨hook.calls, []⟩
  if run.isUnwinding then st.act (.move .panic) { m with hookRun := none }
  else
    match run.left with
    | [] =>
      let m := { m with hookRun := none, lines := m.lines ++ [.hook run.results] }
      st.act (.move (if hook.panics then .panic else .leave hook.returns)) m
    | call :: left =>
      let run := { run with left }
      match call with
      | .describe => (st, { m with hookRun := some (run.note .described) })
      | .unreadable => (st, { m with hookRun := some (run.note .unreadable) })
      | .up u =>
        let (st, m) := st.act (.move (.call u)) m
        (st, { m with hookRun := some (if st.asks m then run else run.note .nothing) })

/-- Plays the next part of a member's session; none if it is over or blocked. -/
def playOnce (st : Stage) (m : Member) : Option (Stage × Member) :=
  match st.session? m with
  | none => none
  | some s =>
    match s.status with
    | .held | .gone => none
    | .starting => some (st.act .reserve m)
    | .placed =>
      let failure := (s.runner.bind (st.world.runners[·]?)).bind fun r => spawnFailure r.config
      some (st.act (.spawn failure) m)
    | .launched => some (st.act .enter m)
    | .running (some call) => some (st.answer call m)
    | .reporting result => some (st.answer (.terminated result) m)
    | .running none =>
      match s.engine.point with
      | .done _ => some (st.act .finish { m with hookRun := none })
      | .hook h _ => some (st.playHook h m)
      | .waiting gate _ =>
        if gate ∈ st.openGates then some (st.act (.move .pass) m) else none
      | .idle _ =>
        if s.engine.queue.pending.isEmpty then none else some (st.act (.move .go) m)
      | _ => some (st.act (.move .go) m)
    | .retiring _ | .freeing _ | .unbinding _ | .closing _ => some (st.act .dispose m)

/-- Plays a member's session on, for at most `fuel` parts. -/
def play : Nat → Stage → Member → Stage × Member
  | 0, st, m => (st, m)
  | fuel + 1, st, m =>
    match st.playOnce m with
    | none => (st, m)
    | some (st, m) => play fuel st m

/-- More parts than a session has left: each step of its script, each call of a
hook, each command and each trigger is a few, and so is its end. -/
def partsLeft (st : Stage) (m : Member) : Nat :=
  match st.session? m with
  | none => 0
  | some s =>
    let calls := (st.hooks.flatMap Hook.calls).length
    8 * (4 + s.engine.script.steps.length * (2 + calls) + s.engine.queue.entered.length +
      m.controller.triggers.length)

/-- Plays the sessions on in the order of their making. -/
def settleAll : List Member → Stage → List Member × Stage
  | [], st => ([], st)
  | m :: ms, st =>
    let (st, m) := play (st.partsLeft m) st m
    let (ms, st) := settleAll ms st
    (m :: ms, st)

/-- Plays everything on until it is over or blocked. -/
def settle (st : Stage) : Stage :=
  let (members, st') := settleAll st.members st
  { st' with members }

/-! ## Operations -/

/-- Why an operation could not be done. -/
inductive Trouble
  | noSession
  | noHandle
  | noScript
  | noRunner
  | noPipe
  | noGate
  | noChannel
  | duplicateSession
  | badCommand
  | session (fault : SessionFault)
  | start (fault : StartFault)
  | send (fault : SendFault)

/-- What an operation shows. -/
inductive Result
  | ok
  | made (id : EngineId) (userAgent : String)
  | started (id : EngineId)
  | text (s : String)
  | notices (ns : List Notice)
  | number (n : Nat)
  | runner (c : RunnerConfig)
  | journal (j : Scripted.Journal)

abbrev Answer := Except Trouble Result

inductive Op
  | make (name : String) (script : Nat) (userAgent : String) (controller : Controller)
      (attendance : Attendance)
  | configure (name : String) (options : Options)
  | describe (name : String)
  | describeEngine (name : String)
  | openPipe (name pipe : String)
  | send (pipe : String) (command : Option Command)
  | start (name : String) (runner : Nat)
  | drop (name : String)
  | openGate (gate : Gate)
  | receive (name : String)
  | hangUp (name : String)
  | active (runner : Nat)
  | runner (runner : Nat)
  | journal (script : Nat)

/-- How many gates there are. -/
def gateCount : Nat := 8

def member? (st : Stage) (name : String) : Except Trouble Member :=
  match st.members.find? fun m => m.name == name with
  | some m => .ok m
  | none => .error .noSession

/-- A member whose handle is still held, and its session. -/
def held? (st : Stage) (name : String) : Except Trouble (Member × Session Scripted.Engine) :=
  match st.member? name with
  | .error e => .error e
  | .ok m =>
    match st.session? m with
    | some s => if s.status = .held then .ok (m, s) else .error .noHandle
    | none => .error .noHandle

def setMember (st : Stage) (m : Member) : Stage :=
  { st with members := st.members.map fun n => if n.name = m.name then m else n }

/-- Acts on a held session. -/
def onHeld (st : Stage) (m : Member) (a : Session.Act Scripted.Engine) : Stage :=
  let (st, m) := st.act a m
  st.setMember m

def describeSession (s : Session Scripted.Engine) : String :=
  "SessionHandle \x7b user_agent: " ++ Text.quoted s.userAgent ++ ", engine: " ++ s.id.describe ++
    ", .. \x7d"

def describeEngine (s : Session Scripted.Engine) : String :=
  Text.fieldsText "ScriptedEngine"
    [("id", s.id.describe), ("steps", toString s.engine.script.steps.length)]

/-- The diagnostic text of a command pipe. -/
def pipeText : String := "CommandPipe \x7b .. \x7d"

def lifecycleFor : Attendance → Lifecycle
  | .recorder | .unbound => .handler
  | .channel => .channel true []
  | .channelDropped => .channel false []

/-- Makes a session from a script, which is looked up before the name is. The
name is taken even if no engine can be made. -/
def make (st : Stage) (name : String) (script : Nat) (userAgent : String)
    (controller : Controller) (attendance : Attendance) : Stage × Answer :=
  match st.scripts[script]? with
  | none => (st, .error .noScript)
  | some plan =>
    if (st.member? name).isOk then (st, .error .duplicateSession)
    else
      let key := st.world.sessions.length
      let made := Scripted.Plan.mk script plan
      match st.world.step (.create made userAgent (lifecycleFor attendance)) with
      | none => (st, .error (.session .construction))
      | some world =>
        let seen := (world.trace.drop st.world.trace.length).map fun e => Line.event e.2
        let m : Member :=
          ⟨name, key, controller, attendance, attendance = .channel, none, "", seen⟩
        ({ st with world, members := st.members ++ [m] },
          match world.session? key with
          | some s => .ok (.made s.id s.userAgent)
          | none => .error (.session .construction))

/-- Whether a line tells that a session could not be started. -/
def refusal? : Line → Option StartFault
  | .event (.refused fault) => some fault
  | _ => none

/-- Hands a session to a runner and lets it play. -/
def start (st : Stage) (name : String) (runner : Nat) : Stage × Answer :=
  match st.world.runners[runner]? with
  | none => (st, .error .noRunner)
  | some r =>
    match st.held? name with
    | .error e => (st, .error e)
    | .ok (m, s) =>
      let st := (st.onHeld { m with thread := r.config.threadName s.id } (.start runner)).settle
      let seen := (st.member? name).toOption.elim [] Member.lines
      (st, match seen.findSome? refusal? with
        | some fault => .error (.start fault)
        | none => .ok (.started s.id))

/-- What waits in a member's channel, which is emptied. -/
def receive (st : Stage) (m : Member) : Stage × Answer :=
  if !m.receives then (st, .error .noChannel)
  else
    let (st, after) := st.act .receive m
    let taken := (after.lines.drop m.lines.length).findSome? fun
      | .event (.received notices _) => some notices
      | _ => none
    (st.setMember after, .ok (.notices (taken.getD [])))

def hangUp (st : Stage) (m : Member) : Stage × Answer :=
  let (st, m) := st.act .hangUp { m with receives := false }
  (st.setMember m, .ok .ok)

/-- Does an operation, without letting the sessions play on. -/
def operate (st : Stage) : Op → Stage × Answer
  | .make name script userAgent controller attendance =>
    st.make name script userAgent controller attendance
  | .configure name options =>
    match st.held? name with
    | .error e => (st, .error e)
    | .ok (m, s) =>
      (st.onHeld m (.setup options),
        match (Scripted.Engine.configure options s.engine).2 with
        | .ok () => .ok .ok
        | .error fault => .error (.session (.engine fault)))
  | .describe name => (st, (st.held? name).map fun (_, s) => .text (describeSession s))
  | .describeEngine name => (st, (st.held? name).map fun (_, s) => .text (describeEngine s))
  | .openPipe name pipe =>
    match st.held? name with
    | .error e => (st, .error e)
    | .ok (m, _) => ({ st with pipes := (pipe, m.key) :: st.pipes }, .ok (.text pipeText))
  | .send pipe command =>
    match st.pipes.lookup pipe, command with
    | none, _ => (st, .error .noPipe)
    | some _, none => (st, .error .badCommand)
    | some key, some c =>
      let (st, result) := st.send key c
      (st, match result with
        | .ok () => .ok .ok
        | .error fault => .error (.send fault))
  | .start name runner => st.start name runner
  | .drop name =>
    match st.held? name with
    | .error e => (st, .error e)
    | .ok (m, _) => (st.onHeld m .drop, .ok .ok)
  | .openGate gate =>
    if gate < gateCount then ({ st with openGates := gate :: st.openGates }, .ok .ok)
    else (st, .error .noGate)
  | .receive name =>
    match st.member? name with
    | .error e => (st, .error e)
    | .ok m => st.receive m
  | .hangUp name =>
    match st.member? name with
    | .error e => (st, .error e)
    | .ok m => st.hangUp m
  | .active runner =>
    (st, match st.world.runners[runner]? with
      | none => .error .noRunner
      | some r => .ok (.number r.active))
  | .runner runner =>
    (st, match st.world.runners[runner]? with
      | none => .error .noRunner
      | some r => .ok (.runner r.config))
  | .journal script =>
    (st, if script < st.scripts.length then .ok (.journal (Scripted.journal script st.world))
      else .error .noScript)

/-- Does an operation and lets everything play on: what it shows, and what is
seen of each session, in the order in which they were made. -/
def run (st : Stage) (op : Op) : Stage × Answer × List Member :=
  let fresh := { st with members := st.members.map Member.forget }
  let (st, answer) := fresh.operate op
  let st := st.settle
  (st, answer, st.members)

end Stage
end TunnelControl.Rehearsal
