import TunnelControl.Engine
import TunnelControl.Runner

/-!
# Sessions

A session is one engine, the callback context its calls go to, and the handle
that owns both. The holder of the handle configures the engine, and either
drops the handle or hands it to a runner; from then on only the loop's thread
touches the engine.

However a session ends, the same is done in the same order: the engine is let
go in two halves, then the callback context is dropped, and only then does what
is left follow, which may be to give back the runner's slot or to report why the
session could not be started.

`Session.step` says what each act does to a session. Acts that do not fit the
state the session is in have no effect and no result.
-/

namespace TunnelControl

/-- Where the notices of a session's life go. -/
inductive Lifecycle
  /-- To the controller, as calls. -/
  | handler
  /-- Into a channel: whether its receiver is still there, and what waits in it. -/
  | channel (isOpen : Bool) (waiting : List Notice)

/-- Puts a notice into the channel; without a receiver it is lost. -/
def Lifecycle.forward (notice : Notice) : Lifecycle → Lifecycle
  | .handler => .handler
  | .channel true waiting => .channel true (waiting ++ [notice])
  | .channel false waiting => .channel false waiting

/-- What follows once engine and context of a session are gone. -/
inductive Aftermath
  | nothing
  | refusal (fault : StartFault)
  | slot
  deriving DecidableEq

inductive Status
  /-- Somebody holds the handle. -/
  | held
  /-- Handed to a runner; no slot yet. -/
  | starting
  /-- With a slot; no thread yet. -/
  | placed
  /-- With a thread that has not entered the main loop yet. -/
  | launched
  /-- In the main loop; the call that the controller is to answer, if any. -/
  | running (asked : Option Callback)
  /-- The controller has been told the terminal result. -/
  | reporting (result : TerminalResult)
  /-- The engine is to be let go, first half. -/
  | retiring (aftermath : Aftermath)
  /-- The engine is to be let go, second half. -/
  | freeing (aftermath : Aftermath)
  /-- The callback context is to be dropped. -/
  | unbinding (aftermath : Aftermath)
  /-- Only the aftermath is left. -/
  | closing (aftermath : Aftermath)
  /-- Nothing of it is left. -/
  | gone
  deriving DecidableEq

/-- What happens in a session. -/
inductive Event (ν : Type)
  /-- The engine's own record. -/
  | note (n : ν)
  /-- Logged by the thread that runs the loop. -/
  | log (entry : Log.Entry)
  /-- Logged by the thread that makes, configures or starts the session. -/
  | callerLog (entry : Log.Entry)
  | called (call : Callback)
  | replied (call : Callback) (reply : Reply)
  /-- A notice went to the lifecycle channel. -/
  | forwarded (notice : Notice)
  /-- The receiver took all that waited in the channel, and was told whether that
  was the end of it. -/
  | received (notices : List Notice) (isEnd : Bool)
  /-- The session was started: a thread was made for its loop. Its engine's number
  is the answer. -/
  | started (id : EngineId)
  /-- The session could not be started. -/
  | refused (fault : StartFault)
  /-- The main loop is over. -/
  | ended (outcome : Outcome)
  /-- The engine is gone. -/
  | released
  /-- The callback context is gone. -/
  | unbound
  /-- A slot of the session's runner was taken for it. -/
  | slotTaken
  /-- The slot was given back. -/
  | slotReturned

/-- On the loop's thread. -/
def Happening.inLoop {ν : Type} : Happening ν → Event ν
  | .note n => .note n
  | .log entry => .log entry

/-- On the thread of the caller. -/
def Happening.atCaller {ν : Type} : Happening ν → Event ν
  | .note n => .note n
  | .log entry => .callerLog entry

structure Session (ε : Type) where
  id : EngineId
  userAgent : String
  engine : ε
  lifecycle : Lifecycle
  /-- The runner that the session was handed to. -/
  runner : Option Nat
  status : Status

/-- What an act means for the slots of the session's runner. -/
inductive SlotUse
  | unchanged
  | taken
  | returned
  deriving DecidableEq

/-- What is seen of it. -/
def SlotUse.events {ν : Type} : SlotUse → List (Event ν)
  | .unchanged => []
  | .taken => [.slotTaken]
  | .returned => [.slotReturned]

/-- The result of an act. -/
structure Session.Result (ε ν : Type) where
  session : Session ε
  events : List (Event ν)
  slots : SlotUse

/-- Everything that is seen of an act. -/
def Session.Result.seen {ε ν : Type} (r : Session.Result ε ν) : List (Event ν) :=
  r.events ++ r.slots.events

/-- What can be done to a session once it is made. -/
inductive Session.Act (ε : Type) [Engine ε]
  /-- The holder configures the engine. -/
  | setup (s : Engine.Setup ε)
  /-- Somebody uses a command pipe. -/
  | access (a : Engine.Access ε)
  /-- The holder drops the handle. -/
  | drop
  /-- The holder hands the session to a runner. -/
  | start (runner : Nat)
  /-- The runner looks for a slot. -/
  | reserve
  /-- The runner makes a thread, or fails to. -/
  | spawn (failure : Option Int32)
  /-- The thread enters the main loop. -/
  | enter
  | move (m : Engine.Move ε)
  /-- The controller, while it is asked, writes to the log. -/
  | log (entry : Log.Entry)
  | reply (r : Reply)
  /-- The thread reports that the main loop has ended. -/
  | finish
  /-- The next part of ending the session. -/
  | dispose
  /-- The receiver takes what waits in the channel. -/
  | receive
  /-- The receiver goes away. -/
  | hangUp

namespace Session

variable {ε : Type}

/-- Whether notices go to a channel rather than to the controller. -/
def usesChannel (s : Session ε) : Bool :=
  match s.lifecycle with
  | .handler => false
  | .channel .. => true

/-- Whether the callback context still exists, and with it the sending side of
a lifecycle channel. -/
def isBound (s : Session ε) : Bool :=
  match s.status with
  | .closing _ | .gone => false
  | _ => true

variable [Engine ε]

open Engine (Note)

/-- Brings a call of the engine to the controller. A notice for a channel is put
into it, and the engine has its reply at once. -/
def dispatch (s : Session ε) (call : Callback) : Session ε × List (Event (Note ε)) :=
  match (if s.usesChannel then call.notice? else none) with
  | none =>
    ({ s with status := .running (some call) },
      call.announcement.map .log ++ [.called call])
  | some notice =>
    let (engine, happenings) := Engine.resume call .done s.engine
    ({ s with
        engine
        lifecycle := Lifecycle.forward notice s.lifecycle
        status := .running none },
      call.announcement.map .log ++ [.forwarded notice] ++ happenings.map Happening.inLoop)

/-- Goes on after the terminal result has been delivered. -/
def afterReport (s : Session ε) : Session ε := { s with status := .retiring .slot }

/-- Delivers the terminal result. -/
def report (s : Session ε) (outcome : Outcome) : Session ε × List (Event (Note ε)) :=
  let result : TerminalResult := ⟨s.id, outcome.code⟩
  let panicLog : List (Event (Note ε)) :=
    if outcome = .panicked then [.log .loopPanicked] else []
  let logs := panicLog ++ [.log (.loopExited outcome.code), .ended outcome]
  if s.usesChannel then
    (({ s with lifecycle := Lifecycle.forward (.terminated result) s.lifecycle }).afterReport,
      logs ++ [.forwarded (.terminated result)])
  else
    ({ s with status := .reporting result }, logs ++ [.called (.terminated result)])

/-- One part of ending the session. -/
def dispose? (s : Session ε) : Option (Result ε (Note ε)) :=
  match s.status with
  | .retiring aftermath =>
    let (engine, happenings) := Engine.retire s.engine
    some ⟨{ s with engine, status := .freeing aftermath }, happenings.map Happening.inLoop,
      .unchanged⟩
  | .freeing aftermath =>
    let (engine, happenings) := Engine.free s.engine
    some ⟨{ s with engine, status := .unbinding aftermath },
      happenings.map Happening.inLoop ++ [.released], .unchanged⟩
  | .unbinding aftermath =>
    some ⟨{ s with status := .closing aftermath }, [.unbound], .unchanged⟩
  | .closing aftermath =>
    let gone := { s with status := .gone }
    match aftermath with
    | .nothing => some ⟨gone, [], .unchanged⟩
    | .slot => some ⟨gone, [], .returned⟩
    | .refusal fault =>
      let logs : List (Event (Note ε)) := match fault with
        | .spawn errno => [.callerLog (.spawnFailed s.id errno)]
        | _ => []
      some ⟨gone, logs ++ [.refused fault], .unchanged⟩
  | _ => none

/-- Ends a session that could not be started. -/
def refuse (s : Session ε) (fault : StartFault) : Session ε :=
  { s with status := .retiring (.refusal fault) }

/-- What an act does to a session, given the runner it was handed to; none if
the session cannot be acted on in this way now. -/
def step (runners : List Runner) (act : Act ε) (s : Session ε) : Option (Result ε (Note ε)) :=
  match act, s.status with
  | .setup x, .held =>
    (Engine.setup x s.engine).map fun (engine, happenings) =>
      ⟨{ s with engine }, happenings.map Happening.atCaller, .unchanged⟩
  | .access x, _ =>
    (Engine.access x s.engine).map fun (engine, happenings) =>
      ⟨{ s with engine }, happenings.map Happening.atCaller, .unchanged⟩
  | .drop, .held => some ⟨{ s with status := .retiring .nothing }, [], .unchanged⟩
  | .start runner, .held =>
    (runners[runner]?).map fun r =>
      let name := r.config.threadName s.id
      let given := { s with runner := some runner }
      if name.toList.contains '\x00' then ⟨given.refuse (.threadName name), [], .unchanged⟩
      else ⟨{ given with status := .starting }, [], .unchanged⟩
  | .reserve, .starting =>
    (s.runner.bind (runners[·]?)).map fun r =>
      match r.reserve with
      | .error limit => ⟨s.refuse (.capacity limit), [], .unchanged⟩
      | .ok _ => ⟨{ s with status := .placed }, [], .taken⟩
  | .spawn none, .placed => some ⟨{ s with status := .launched }, [.started s.id], .unchanged⟩
  | .spawn (some errno), .placed => some ⟨s.refuse (.spawn errno), [], .returned⟩
  | .enter, .launched =>
    (s.runner.bind (runners[·]?)).map fun r =>
      let (engine, happenings) := Engine.enter r.config.limits s.engine
      ⟨{ s with engine, status := .running none }, happenings.map Happening.inLoop, .unchanged⟩
  | .move m, .running none =>
    (Engine.move m s.engine).map fun turn =>
      let moved := { s with engine := turn.engine }
      let (after, events) := match turn.call with
        | none => (moved, [])
        | some call => moved.dispatch call
      ⟨after, turn.happenings.map Happening.inLoop ++ events, .unchanged⟩
  | .log entry, .running (some _) => some ⟨s, [.log entry], .unchanged⟩
  | .log entry, .reporting _ => some ⟨s, [.log entry], .unchanged⟩
  | .reply r, .running (some call) =>
    if r.fits call then
      let (engine, happenings) := Engine.resume call r s.engine
      some ⟨{ s with engine, status := .running none },
        [.replied call r] ++ (r.remark call).map .log ++ happenings.map Happening.inLoop,
        .unchanged⟩
    else none
  | .reply r, .reporting result =>
    let call := Callback.terminated result
    if r.fits call then
      let logs : List (Event (Note ε)) :=
        if r = .panic then [.log .terminalHandlerPanicked] else []
      some ⟨s.afterReport, .replied call r :: logs, .unchanged⟩
    else none
  | .finish, .running none =>
    (Engine.outcome? s.engine).map fun outcome =>
      let (after, events) := s.report outcome
      ⟨after, events, .unchanged⟩
  | .dispose, _ => s.dispose?
  | .receive, _ =>
    match s.lifecycle with
    | .channel true waiting =>
      some ⟨{ s with lifecycle := .channel true [] }, [.received waiting !s.isBound], .unchanged⟩
    | _ => none
  | .hangUp, _ =>
    match s.lifecycle with
    | .channel .. => some ⟨{ s with lifecycle := .channel false [] }, [], .unchanged⟩
    | .handler => none
  | _, _ => none

end Session
end TunnelControl
