import TunnelControl.Native.Engine
import TunnelControl.Rehearsal.Controller
import TunnelControl.Rehearsal.Stage

/-!
# Rehearsals with native engines

A stage for one native session at a time, with a rehearsed controller and a
rehearsed library in place of the real one. The library returns prepared codes,
and while it is at work on a stage of the main loop it calls in as its list for
that stage says. It also holds the reading end of the command pipe; it may hang
up on it, and closes it at the latest when it frees the engine.
-/

namespace TunnelControl.Rehearsal

open Native (IpInfo Place)

/-- What the library does while it is at work. -/
inductive Visit
  /-- Calls in; the codes are those for the answers of a form. -/
  | entry (e : Native.Entry) (bound : Bool) (codes : Place → Int32)
  /-- Takes the commands that are waiting in the pipe. -/
  | takeCommands

/-- A rehearsed library. -/
structure Library where
  /-- The codes that calls return. -/
  rc : Native.Call → Int32
  refusesEngine : Bool
  info : Option IpInfo
  cookie : List Visit
  connection : List Visit
  mainLoop : List Visit

/-- What the library does during the call of a stage. -/
def Library.visits (l : Library) : Native.Stage → List Visit
  | .cookie => l.cookie
  | .connection => l.connection
  | .mainLoop => l.mainLoop
  | _ => []

inductive NativeLine
  | event (e : Event Native.Note)
  | sent (c : Command) (result : Except SendFault Unit)
  /-- The library took these commands from the pipe. -/
  | taken (cs : List Command)

structure NativeStage where
  world : World Native.Engine
  library : Library
  controller : Controller
  /-- The session made last. -/
  current : Option Nat
  /-- The session whose command pipe was opened last. -/
  pipe : Option Nat
  /-- The library's end of a command pipe, as long as it is held: the session it
  belongs to, and the commands that have not been taken. -/
  reader : Option (Nat × List Command)
  /-- What the library will still do during the call under way. -/
  visits : List Visit
  /-- The codes for the answers of the form under way. -/
  codes : Place → Int32
  /-- What has been seen since the last operation. -/
  lines : List NativeLine

namespace NativeStage

open Stage (Trouble Answer Result)

/-- The place of the only runner. -/
def runner : Nat := 0

def new (limits : LoopLimits) (library : Library) (controller : Controller) : NativeStage :=
  ⟨World.new [{ RunnerConfig.default with limits }], library, controller, none, none, none, [],
    fun _ => 0, []⟩

def session? (st : NativeStage) (key : Nat) : Option (Session Native.Engine) :=
  st.world.session? key

/-- Notes the events by which a world has grown. -/
def observe (st : NativeStage) (world : World Native.Engine) : NativeStage :=
  { st with
    world
    lines := st.lines ++
      (world.trace.drop st.world.trace.length).map fun e => NativeLine.event e.2 }

/-- Does one act on a session. -/
def act (key : Nat) (a : Session.Act Native.Engine) (st : NativeStage) : NativeStage :=
  match st.world.step (.act key a) with
  | none => st
  | some world => st.observe world

/-- The error of writing to a pipe that nobody reads. -/
def brokenPipe : Int32 := 32

/-- The result of a send among the newest events. -/
def sendResult? (events : List (Nat × Event Native.Note)) : Option (Except SendFault Unit) :=
  events.findSome? fun
    | (_, .note (.sent _ result)) => some result
    | _ => none

/-- Sends a command through the pipe of a session. It waits in the pipe until
the library takes it. -/
def send (key : Nat) (c : Command) (st : NativeStage) : NativeStage × Except SendFault Unit :=
  let failure := if st.reader.any (·.1 == key) then none else some brokenPipe
  let after := st.act key (.access (Native.Access.send c failure))
  let result := (sendResult? (after.world.trace.drop st.world.trace.length)).getD (.error .closed)
  match result with
  | .ok () => ({ after with reader := st.reader.map fun (k, cs) => (k, cs ++ [c]) }, .ok ())
  | .error fault => (after, .error fault)

/-- Does what the controller does about a call, and replies. A command goes to
the pipe opened last, if there is one. -/
def perform (key : Nat) : List Deed → Reply → NativeStage → NativeStage
  | [], reply, st => st.act key (.reply reply)
  | .log entry :: deeds, reply, st => perform key deeds reply (st.act key (.log entry))
  | .send c :: deeds, reply, st =>
    match st.pipe with
    | none => perform key deeds reply st
    | some pipe =>
      let (st, result) := st.send pipe c
      perform key deeds reply { st with lines := st.lines ++ [.sent c result] }

def answer (key : Nat) (call : Callback) (st : NativeStage) : NativeStage :=
  let (controller, response) := st.controller.respond call
  perform key response.deeds response.reply { st with controller }

/-- Lets the library do the next thing during the call of a stage. -/
def playLibrary (key : Nat) (e : Native.Engine) (stage : Native.Stage) (st : NativeStage) :
    NativeStage :=
  match st.visits with
  | .entry entry bound codes :: visits =>
    { st with visits, codes }.act key (.move (Native.Move.enters entry bound))
  | .takeCommands :: visits =>
    let waiting := (st.reader.map Prod.snd).getD []
    { st with
      visits
      reader := st.reader.map fun (k, _) => (k, [])
      lines := st.lines ++ [.taken waiting] }
  | [] =>
    let rc := st.library.rc (e.stageCall stage)
    match stage with
    | .addressing => st.act key (.move (Native.Move.informs rc st.library.info))
    | _ => st.act key (.move (Native.Move.returns rc))

/-- Plays the next part of a session; none if it is over or its handle is held. -/
def playOnce (key : Nat) (st : NativeStage) : Option NativeStage :=
  match st.session? key with
  | none => none
  | some s =>
    match s.status with
    | .held | .gone => none
    | .starting => some (st.act key .reserve)
    | .placed => some (st.act key (.spawn none))
    | .launched => some (st.act key .enter)
    | .running (some call) => some (st.answer key call)
    | .reporting result => some (st.answer key (.terminated result))
    | .running none =>
      match s.engine.point with
      | .done _ => some (st.act key .finish)
      | .calling stage =>
        some ({ st with visits := st.library.visits stage }.act key (.move Native.Move.go))
      | .inside stage => some (st.playLibrary key s.engine stage)
      | .written _ _ _ current _ =>
        some (st.act key (.move (Native.Move.returns (st.codes current.slot.place))))
      | _ => some (st.act key (.move Native.Move.go))
    | .freeing _ => some ({ st with reader := none }.act key .dispose)
    | .retiring _ | .unbinding _ | .closing _ => some (st.act key .dispose)

/-- Plays a session on, for at most `fuel` parts. -/
def play (key : Nat) : Nat → NativeStage → NativeStage
  | 0, st => st
  | fuel + 1, st =>
    match st.playOnce key with
    | none => st
    | some st => play key fuel st

/-- The parts that one visit of the library may come to: the answers of a form
are two each, and a controller may add prompts to it, but no more slots. -/
def visitParts : Visit → Nat
  | .entry e _ _ => 4 + 2 * (1 + e.slots.options.length)
  | .takeCommands => 1

/-- More parts than a session can come to. -/
def parts (l : Library) : Nat :=
  (l.cookie ++ l.connection ++ l.mainLoop).foldl (fun n v => n + visitParts v) 32

/-- Plays a session until it is over. -/
def settle (key : Nat) (st : NativeStage) : NativeStage := st.play key (parts st.library)

/-! ## Operations -/

inductive Op
  | make (userAgent : String)
  | configure (options : Options)
  | openPipe
  | send (command : Option Command)
  | hangUp
  | drop
  | start

/-- What dropping shows: there may have been nothing to drop. -/
inductive Shown
  | result (r : Result)
  | nothing

/-- The session made last, if its handle is still held. -/
def held? (st : NativeStage) : Option (Nat × Session Native.Engine) :=
  st.current.bind fun key =>
    (st.session? key).bind fun s => if s.status = .held then some (key, s) else none

/-- Drops the session made last, if its handle is still held. -/
def dropHeld (st : NativeStage) : NativeStage :=
  match st.held? with
  | none => st
  | some (key, _) => (st.act key .drop).settle key

def make (st : NativeStage) (userAgent : String) : NativeStage × Except Trouble Shown :=
  let st := st.dropHeld
  let key := st.world.sessions.length
  let plan := Native.Plan.mk st.library.refusesEngine
  match st.world.step (.create plan userAgent .handler) with
  | none => (st, .error (.session .construction))
  | some world =>
    ({ st.observe world with current := some key },
      match world.session? key with
      | some s => .ok (.result (.started s.id))
      | none => .error (.session .construction))

def engineResult : Except EngineFault Unit → Except Trouble Shown
  | .ok () => .ok (.result .ok)
  | .error fault => .error (.session (.engine fault))

def openPipe (st : NativeStage) (key : Nat) (s : Session Native.Engine) :
    NativeStage × Except Trouble Shown :=
  let rc := st.library.rc .setupCommandPipe
  let after := st.act key (.setup (Native.Setup.openPipe rc))
  match (Native.Engine.openPipe rc s.engine).2 with
  | .error fault => (after, engineResult (.error fault))
  | .ok () =>
    let reader := if s.engine.descriptor.isSome then st.reader else some (key, [])
    ({ after with pipe := some key, reader }, engineResult (.ok ()))

def operate (st : NativeStage) : Op → NativeStage × Except Trouble Shown
  | .make userAgent => st.make userAgent
  | .configure options =>
    match st.held? with
    | none => (st, .error .noHandle)
    | some (key, s) =>
      (st.act key (.setup (Native.Setup.configure options st.library.rc)),
        engineResult (Native.Engine.configure options st.library.rc s.engine).2)
  | .openPipe =>
    match st.held? with
    | none => (st, .error .noHandle)
    | some (key, s) => st.openPipe key s
  | .send command =>
    match st.pipe, command with
    | none, _ => (st, .error .noPipe)
    | some _, none => (st, .error .badCommand)
    | some key, some c =>
      let (st, result) := st.send key c
      (st, match result with
        | .ok () => .ok (.result .ok)
        | .error fault => .error (.send fault))
  | .hangUp => ({ st with reader := none }, .ok (.result .ok))
  | .drop =>
    match st.held? with
    | none => (st, .ok .nothing)
    | some _ => (st.dropHeld, .ok (.result .ok))
  | .start =>
    match st.held? with
    | none => (st, .error .noHandle)
    | some (key, s) => ((st.act key (.start runner)).settle key, .ok (.result (.started s.id)))

/-- Does an operation: what it shows, and what was seen. -/
def run (st : NativeStage) (op : Op) : NativeStage × Except Trouble Shown × List NativeLine :=
  let (st, shown) := { st with lines := [] }.operate op
  (st, shown, st.lines)

end NativeStage
end TunnelControl.Rehearsal
