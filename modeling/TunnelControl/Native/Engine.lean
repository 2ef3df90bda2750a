import TunnelControl.Command
import TunnelControl.Engine
import TunnelControl.Native.Addressing
import TunnelControl.Native.Entry
import TunnelControl.Options
import TunnelControl.World

/-!
# The native engine

The native engine leaves the protocol to a library. Its main loop is a row of
library calls: obtain a cookie, make the connection, set up the tunnel script if
one is stored, ask for the addressing, and enter the library's own loop. The
first of the first three that returns a code other than zero ends the loop with
that code; missing addressing is only logged.

What the library returns, and when it calls in, is part of the moves. While a
library call is under way the library may call in at any entry point, and while
answers to a form are written back it returns a code for each.
-/

namespace TunnelControl.Native

/-- A call into the library. -/
inductive Call
  | create (userAgent : CText)
  | setBrowserCallback
  | setReconnectedHandler
  | setLogLevel (level : Int32)
  | setProtocol (name : CText)
  | parseUrl (url : CText)
  | setDpd (seconds : Int32)
  | allowInsecureCrypto (allowed : Bool)
  | setupCsd (uid : UInt32) (silent : Bool) (wrapper : CText)
  | setupCommandPipe
  | obtainCookie
  | connect
  | setupTunScript (script : CText)
  | addressing
  | mainLoop (limits : LoopLimits)
  | setOptionValue (slot : Slot) (value : CText)
  | free

/-- A library call of the main loop. -/
inductive Stage
  | cookie
  | connection
  | tunScript (script : CText)
  | addressing
  | mainLoop

/-- Where the main loop stands. -/
inductive Point
  /-- Not entered yet. -/
  | ready
  /-- About to make the call of a stage. -/
  | calling (stage : Stage)
  /-- The library is at work. -/
  | inside (stage : Stage)
  /-- The library called in, and the controller is being asked. -/
  | asking (stage : Stage) (entry : Entry)
  /-- About to write the first of the answers that are left. -/
  | writing (stage : Stage) (entry : Entry) (code : Int32) (left : List Answer)
  /-- Waiting for the library to take or refuse an answer. -/
  | written (stage : Stage) (entry : Entry) (code : Int32) (current : Answer) (left : List Answer)
  /-- The controller is being told the addressing. -/
  | informing
  | done (outcome : Outcome)

/-- What an engine notes. -/
inductive Note
  | call (c : Call)
  /-- An entry point answered the library. -/
  | answered (entry : Entry) (rc : Int32)
  /-- A command's byte was written to the descriptor. -/
  | wrote (c : Command)
  /-- A send is over. -/
  | sent (c : Command) (result : Except SendFault Unit)

/-- What the main loop is driven with. -/
inductive Move
  /-- The loop does what comes next. -/
  | go
  /-- The library call under way returns a code. -/
  | returns (rc : Int32)
  /-- The library answers the question for the addressing. -/
  | informs (rc : Int32) (info : Option IpInfo)
  /-- The library calls in, with a reference to the callback context or without. -/
  | enters (entry : Entry) (bound : Bool)

/-- What the holder of the handle may ask. -/
inductive Setup
  /-- Applies options; the library returns these codes. -/
  | configure (options : Options) (rc : Call → Int32)
  /-- Opens the command pipe; the library returns this code. -/
  | openPipe (rc : Int32)

/-- What anyone with a command pipe may do: send a command, which the system may
fail to write. -/
inductive Access
  | send (c : Command) (failure : Option Int32)

structure Engine where
  /-- The script for the tunnel, stored until the connection is made. -/
  tunScript : Option CText
  csdWrapper : Option CText
  /-- The writing end of the command pipe, shared by all handles to it. -/
  descriptor : Option Int32
  limits : LoopLimits
  point : Point

/-- What an engine is made from: whether the library makes none. -/
structure Plan where
  refused : Bool

namespace Engine

abbrev Happenings := List (Happening Note)

def called (c : Call) : Happenings := [.note (.call c)]

def moveTo (e : Engine) (point : Point) : Engine := { e with point }

/-! ## Configuring -/

/-- The error number of an invalid argument. -/
def invalidArgument : Int32 := 22

/-- The result of a setting, and what happened. -/
abbrev Applied := (Engine × Happenings) × Except EngineFault Unit

/-- Makes a call that returns a code. -/
def checked (s : Engine × Happenings) (setting : Setting) (rc : Call → Int32) (c : Call) :
    Applied :=
  ((s.1, s.2 ++ called c), EngineFault.check setting.context (rc c))

/-- Goes on with a text that can be passed to the library, or fails without
calling it. -/
def withText (s : Engine × Happenings) (setting : Setting) (text : String)
    (go : CText → Applied) : Applied :=
  match CText.ofText? text with
  | some c => go c
  | none => (s, .error ⟨setting.context, -invalidArgument⟩)

/-- Makes one setting. The script for the tunnel is only stored. -/
def apply (rc : Call → Int32) (s : Engine × Happenings) (setting : Setting) : Applied :=
  let (e, happenings) := s
  match setting with
  | .logLevel level => ((e, happenings ++ called (.setLogLevel level.raw)), .ok ())
  | .protocol p =>
    withText s setting p.name fun name => checked s setting rc (.setProtocol name)
  | .url url => withText s setting url fun url => checked s setting rc (.parseUrl url)
  | .dpd seconds =>
    let capped := Int32.ofNat (min seconds.toNat 0x7FFFFFFF)
    ((e, happenings ++ called (.setDpd capped)), .ok ())
  | .insecureCrypto allowed => checked s setting rc (.allowInsecureCrypto allowed)
  | .tunScript script =>
    withText s setting script fun script =>
      (({ e with tunScript := some script }, happenings), .ok ())
  | .csd csd =>
    withText s setting csd.wrapper fun wrapper =>
      match checked s setting rc (.setupCsd csd.uid csd.silent wrapper) with
      | ((e, happenings), .ok ()) => (({ e with csdWrapper := some wrapper }, happenings), .ok ())
      | failed => failed

/-- Applies options up to the first setting that fails. -/
def configure (options : Options) (rc : Call → Int32) (e : Engine) : Applied :=
  applyAll (apply rc) (e, []) options.settings

/-- Opens the command pipe, which is done once: as long as it has failed the
next attempt calls the library again, after it never does. -/
def openPipe (rc : Int32) (e : Engine) : Applied :=
  match e.descriptor with
  | some _ => ((e, []), .ok ())
  | none =>
    if rc < 0 then ((e, called .setupCommandPipe), .error ⟨"setup command pipe", rc⟩)
    else (({ e with descriptor := some rc }, called .setupCommandPipe), .ok ())

def setup (s : Setup) (e : Engine) : Engine × Happenings :=
  match s with
  | .configure options rc => (configure options rc e).1
  | .openPipe rc => (openPipe rc e).1

/-! ## Commands -/

/-- Sends a command: one byte to the descriptor, as long as there is one. -/
def access (a : Access) (e : Engine) : Engine × Happenings :=
  match a, e.descriptor with
  | .send c _, none => (e, [.note (.sent c (.error .closed))])
  | .send c (some errno), some _ => (e, [.note (.sent c (.error (.writing errno)))])
  | .send c none, some _ => (e, [.note (.wrote c), .note (.sent c (.ok ()))])

/-! ## The main loop -/

/-- The library call of a stage. -/
def stageCall (e : Engine) : Stage → Call
  | .cookie => .obtainCookie
  | .connection => .connect
  | .tunScript script => .setupTunScript script
  | .addressing => .addressing
  | .mainLoop => .mainLoop e.limits

/-- Ends the loop with a code. -/
def endWith (e : Engine) (code : Int32) (log : List Log.Entry) : Turn Engine Note :=
  ⟨e.moveTo (.done (.returned code)), log.map .log, none⟩

/-- Goes on once the library has returned a code from a stage. The addressing is
not returned as a code. -/
def afterStage? (e : Engine) (stage : Stage) (rc : Int32) : Option (Turn Engine Note) :=
  let next (s : Stage) : Turn Engine Note := ⟨e.moveTo (.calling s), [], none⟩
  match stage with
  | .cookie => some (if rc = 0 then next .connection else e.endWith rc [.cookieFailed rc])
  | .connection =>
    some (if rc = 0 then next ((e.tunScript.map Stage.tunScript).getD .addressing)
      else e.endWith rc [.connectionFailed rc])
  | .tunScript _ => some (if rc = 0 then next .addressing else e.endWith rc [.tunScriptFailed rc])
  | .mainLoop => some (e.endWith rc [])
  | .addressing => none

/-- Goes back into the library from an entry point, with a code where one is
asked for. -/
def goBack (e : Engine) (stage : Stage) (entry : Entry) (rc : Option Int32)
    (log : List Log.Entry) : Engine × Happenings :=
  (e.moveTo (.inside stage),
    log.map .log ++ (rc.toList.map fun rc => .note (.answered entry rc)))

/-- Where the engine stands once an entry point knows what to do. -/
def follow (e : Engine) (stage : Stage) (entry : Entry) : Verdict → Engine × Happenings
  | .answer rc log => e.goBack stage entry rc log
  | .write code [] => e.goBack stage entry (some code) []
  | .write code answers => (e.moveTo (.writing stage entry code answers), [])

/-- The library calls in. Without a context, or without an argument that the
controller needs, the fallback is answered at once. -/
def callIn (e : Engine) (stage : Stage) (entry : Entry) (bound : Bool) : Turn Engine Note :=
  match (if bound then entry.callback? else none) with
  | none =>
    let (e, happenings) := e.goBack stage entry entry.fallback? []
    ⟨e, happenings, none⟩
  | some call => ⟨e.moveTo (.asking stage entry), [], some call⟩

/-- One move of the main loop. -/
def move (m : Move) (e : Engine) : Option (Turn Engine Note) :=
  match m, e.point with
  | .go, .calling stage => some ⟨e.moveTo (.inside stage), called (e.stageCall stage), none⟩
  | .returns rc, .inside stage => e.afterStage? stage rc
  | .informs rc info, .inside .addressing =>
    match (if rc = 0 then info else none) with
    | some info => some ⟨e.moveTo .informing, [], some (.connected info.read)⟩
    | none =>
      some ⟨e.moveTo (.calling .mainLoop), [.log (.addressingUnavailable rc)], none⟩
  | .enters entry bound, .inside stage => some (e.callIn stage entry bound)
  | .go, .writing stage entry code (a :: left) =>
    some ⟨e.moveTo (.written stage entry code a left),
      called (.setOptionValue a.slot a.value), none⟩
  | .returns rc, .written stage entry code current left =>
    if rc = 0 then
      let (e, happenings) := e.follow stage entry (.write code left)
      some ⟨e, happenings, none⟩
    else
      let (e, happenings) :=
        e.goBack stage entry (some FormResult.failed.raw)
          [.writeBackFailed (.rejected current.option)]
      some ⟨e, happenings, none⟩
  | _, _ => none

theorem call_callIn_ne_terminated (e : Engine) (stage : Stage) (entry : Entry) (bound : Bool)
    (result : TerminalResult) :
    (e.callIn stage entry bound).call ≠ some (.terminated result) := by
  unfold callIn
  split
  · simp
  · rename_i call h
    split at h
    · exact fun hc => entry.callback?_ne_terminated result (h.trans hc)
    · simp at h

theorem call_move_ne_terminated {m : Move} {e : Engine} {turn : Turn Engine Note}
    (h : e.move m = some turn) (result : TerminalResult) :
    turn.call ≠ some (.terminated result) := by
  unfold move at h
  split at h
  · cases h; simp
  · rename_i stage _
    cases stage <;> simp only [afterStage?, endWith, Option.some.injEq, reduceCtorEq] at h
    all_goals subst h; try split
    all_goals simp
  · split at h <;> cases h <;> simp
  · cases h; exact call_callIn_ne_terminated _ _ _ _ result
  · cases h; simp
  · split at h <;> cases h <;> simp
  · simp at h

/-- Takes the controller's reply. At an entry point a panic is stopped; a panic
on being told the addressing ends the loop. -/
def resume (r : Reply) (e : Engine) : Engine × Happenings :=
  match e.point with
  | .asking stage entry => e.follow stage entry (Verdict.ofReply entry r)
  | .informing =>
    if r = .panic then (e.moveTo (.done .panicked), []) else (e.moveTo (.calling .mainLoop), [])
  | _ => (e, [])

def outcome? (e : Engine) : Option Outcome :=
  match e.point with
  | .done outcome => some outcome
  | _ => none

/-- Makes an engine. A user agent that cannot be passed to the library makes
none, without a call; neither does a library that refuses. -/
def make (plan : Plan) (userAgent : String) : Option Engine × Happenings :=
  match CText.ofText? userAgent with
  | none => (none, [])
  | some agent =>
    if plan.refused then (none, called (.create agent) ++ [.log .engineRefused])
    else (some ⟨none, none, none, LoopLimits.default, .ready⟩,
      called (.create agent) ++ called .setBrowserCallback ++ called .setReconnectedHandler)

end Engine

/-- Letting the engine go takes the descriptor away from the command pipes
before the library frees what it belongs to. -/
instance : TunnelControl.Engine Engine where
  Note := Note
  Plan := Plan
  Setup := Setup
  Access := Access
  Move := Move
  make := Engine.make
  setup s e := some (Engine.setup s e)
  access a e := some (Engine.access a e)
  enter limits e := ({ e with limits, point := .calling .cookie }, [])
  move := Engine.move
  resume _ r e := Engine.resume r e
  outcome? := Engine.outcome?
  retire e := ({ e with descriptor := none }, [])
  free e := (e, Engine.called .free)
  call_ne_terminated := Engine.call_move_ne_terminated

end TunnelControl.Native
