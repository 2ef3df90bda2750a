import TunnelControl.Engine
import TunnelControl.Scripted.Journal
import TunnelControl.Scripted.Queue
import TunnelControl.Scripted.Script
import TunnelControl.World

/-!
# The scripted engine

The main loop looks into the command queue ahead of every step and once more
after the last one, and takes what it finds one command at a time. A command is
first recorded, then obeyed. The first command or step that gives a code ends
the loop with it.

`Point` is where the loop stands. Every access to the queue or the journal and
every call is a move of its own, so that anything may come between two of them.
-/

namespace TunnelControl.Scripted

/-- Where the main loop stands. -/
inductive Point
  /-- Not entered yet. -/
  | ready
  /-- About to look into the queue ahead of the steps that are left. -/
  | poll (rest : List Step)
  /-- About to write into the journal. -/
  | record (n : LoopNote) (next : Point)
  /-- About to obey a command that has been recorded. -/
  | obey (c : Command) (back : Point)
  /-- About to run a step; the queue was found empty. -/
  | step (s : Step) (rest : List Step)
  /-- Waiting for commands. -/
  | idle (rest : List Step)
  /-- Waiting at a gate. -/
  | waiting (gate : Gate) (rest : List Step)
  /-- Inside a hook. -/
  | hook (h : Nat) (rest : List Step)
  /-- Waiting for a reply that makes no difference. -/
  | asking (back : Point)
  | askingCertificate (rest : List Step)
  | askingForm (rest : List Step)
  | askingBrowser (rest : List Step)
  | done (outcome : Outcome)
  deriving DecidableEq

/-- What an engine notes: its part of the journal, and marks that tell how far
it has come. -/
inductive Note
  | journal (n : JournalNote)
  /-- The queue was found empty ahead of the steps that are left. -/
  | foundEmpty (rest : List Step)
  /-- A step began. -/
  | began (s : Step)
  /-- A hook returned. -/
  | hookReturned (code : Option Int32)
  /-- A hook panicked, or let a panic of the controller through. -/
  | hookPanicked
  | send (n : SendNote)

/-- What the main loop is driven with. -/
inductive Move
  /-- The loop does what comes next. -/
  | go
  /-- The gate that the loop waits for is open. -/
  | pass
  /-- The hook makes a call. -/
  | call (u : Upcall)
  /-- The hook returns; a code ends the loop. -/
  | leave (code : Option Int32)
  /-- The hook panics. -/
  | panic

structure Engine where
  /-- The script that the engine was made from, by its number. -/
  key : Nat
  script : Script
  queue : Queue
  point : Point

/-- What an engine is made from. -/
structure Plan where
  key : Nat
  script : Script

namespace Engine

abbrev Happenings := List (Happening Note)

def noted (n : JournalNote) : Happenings := [.note (.journal n)]

def moveTo (e : Engine) (point : Point) : Engine := { e with point }

@[simp] theorem point_moveTo (e : Engine) (point : Point) : (e.moveTo point).point = point := rfl

@[simp] theorem script_moveTo (e : Engine) (point : Point) :
    (e.moveTo point).script = e.script := rfl

@[simp] theorem queue_moveTo (e : Engine) (point : Point) :
    (e.moveTo point).queue = e.queue := rfl

/-! ## Configuring -/

/-- Makes one setting and records it. A refused server address leaves no record. -/
def apply (s : Engine × Happenings) (setting : Setting) :
    (Engine × Happenings) × Except EngineFault Unit :=
  match setting, s.1.script.rejectsUrl with
  | .url _, some code => (s, .error ⟨setting.context, code⟩)
  | _, _ => ((s.1, s.2 ++ noted (.setting setting)), .ok ())

/-- Applies options up to the first setting that fails. -/
def configure (options : Options) (e : Engine) :
    (Engine × Happenings) × Except EngineFault Unit :=
  applyAll apply (e, []) options.settings

/-! ## The main loop -/

/-- Calls the controller, if the call reaches it at all, and goes on at `back`
in case it does not. -/
def callUp (e : Engine) (u : Upcall) (back waiting : Point) (happenings : Happenings) :
    Turn Engine Note :=
  match u.callback? with
  | none => ⟨e.moveTo back, happenings, none⟩
  | some call => ⟨e.moveTo waiting, happenings, some call⟩

/-- Begins a step. -/
def begin (e : Engine) (s : Step) (rest : List Step) : Turn Engine Note :=
  let mark : Happenings := [.note (.began s)]
  let inform u := e.callUp u (.poll rest) (.asking (.poll rest)) mark
  match s with
  | .progress level message =>
    inform (.progress level (Progress.plain message) (Progress.plain message))
  | .peerCert cert => e.callUp (.certificate cert) (.poll rest) (.askingCertificate rest) mark
  | .authForm f => e.callUp (.form f) (.poll rest) (.askingForm rest) mark
  | .browser uri => e.callUp (.browser uri) (.poll rest) (.askingBrowser rest) mark
  | .connected info => inform (.connected info)
  | .reconnected => inform .reconnected
  | .idle => ⟨e.moveTo (.idle rest), mark, none⟩
  | .waitFor gate => ⟨e.moveTo (.waiting gate rest), mark, none⟩
  | .invoke h => ⟨e.moveTo (.hook h rest), mark, none⟩

/-- Obeys a command: it ends the loop with its code, or asks for statistics. -/
def obey (e : Engine) (c : Command) (back : Point) : Turn Engine Note :=
  match c with
  | .cancel => ⟨e.moveTo (.done (.returned cancelledCode)), [], none⟩
  | .detach => ⟨e.moveTo (.done (.returned detachedCode)), [], none⟩
  | .pause => ⟨e.moveTo (.done (.returned pausedCode)), [], none⟩
  | .stats =>
    let line := Progress.plain "statistics requested"
    e.callUp (.progress Level.info.raw line line) back (.asking back) []

/-- Takes the oldest pending command, which is then recorded and obeyed. -/
def take? (e : Engine) (back : Point) : Option (Turn Engine Note) :=
  e.queue.pop?.map fun (c, queue) =>
    ⟨{ e with queue, point := .record (.command c) (.obey c back) }, [], none⟩

/-- One move of the main loop. -/
def move (m : Move) (e : Engine) : Option (Turn Engine Note) :=
  match m, e.point with
  | .go, .poll rest =>
    some <| (e.take? (.poll rest)).getD <|
      let mark : Happenings := [.note (.foundEmpty rest)]
      match rest with
      | [] => ⟨e.moveTo (.done (.returned e.script.exitCode)), mark, none⟩
      | s :: rest' => ⟨e.moveTo (.step s rest'), mark, none⟩
  | .go, .record n next => some ⟨e.moveTo next, noted n.note, none⟩
  | .go, .obey c back => some (e.obey c back)
  | .go, .step s rest => some (e.begin s rest)
  | .go, .idle rest => e.take? (.idle rest)
  | .pass, .waiting _ rest => some ⟨e.moveTo (.poll rest), [], none⟩
  | .call u, .hook h rest =>
    some (e.callUp u (.hook h rest) (.asking (.hook h rest)) [])
  | .leave code, .hook _ rest =>
    let next := match code with
      | none => .poll rest
      | some code => .done (.returned code)
    some ⟨e.moveTo next, [.note (.hookReturned code)], none⟩
  | .panic, .hook .. => some ⟨e.moveTo (.done .panicked), [.note .hookPanicked], none⟩
  | _, _ => none

theorem call_callUp_ne_terminated (e : Engine) (u : Upcall) (back waiting : Point)
    (happenings : Happenings) (result : TerminalResult) :
    (e.callUp u back waiting happenings).call ≠ some (.terminated result) := by
  unfold callUp
  split
  · simp
  · rename_i call h
    exact fun hc => u.callback?_ne_terminated result (h.trans hc)

theorem call_move_ne_terminated {m : Move} {e : Engine} {turn : Turn Engine Note}
    (h : e.move m = some turn) (result : TerminalResult) :
    turn.call ≠ some (.terminated result) := by
  unfold move at h
  split at h
  · cases h
    cases hp : e.queue.pop? <;> simp only [take?, hp, Option.map_none, Option.map_some,
      Option.getD_none, Option.getD_some]
    · split <;> simp
    · simp
  · cases h; simp
  · rename_i c _ _
    cases h
    cases c <;> first | exact call_callUp_ne_terminated _ _ _ _ _ result | simp [obey]
  · rename_i s _ _
    cases h
    cases s <;> first | exact call_callUp_ne_terminated _ _ _ _ _ result | simp [begin]
  · obtain ⟨_, _, rfl⟩ := Option.map_eq_some_iff.mp h
    simp
  · cases h; simp
  · cases h; exact call_callUp_ne_terminated _ _ _ _ _ result
  · cases h; simp
  · cases h; simp
  · simp at h

/-- Where the loop goes on once the controller has answered a form. -/
def afterForm (f : Form) (result : FormResult) (rest : List Step) : Point :=
  match result with
  | .ok => .record (.submitted f.responses) (.poll rest)
  | .newGroup => .poll rest
  | .cancelled => .done (.returned formCancelled)
  | .failed => .done (.returned formFailed)

/-- Where the loop goes on with a reply. A panic of the controller ends it, unless
a hook made the call: it arises in the hook, which may stop it or let it through. -/
def afterReply (r : Reply) (p : Point) : Point :=
  match p, r with
  | .asking (.hook h rest), .panic => .hook h rest
  | .asking back, .certificate _ | .asking back, .form .. | .asking back, .browser _
  | .asking back, .done => back
  | .askingCertificate rest, .certificate decision =>
    .record (.certificate decision.raw)
      (if decision.raw = 0 then .poll rest else .done (.returned certRejected))
  | .askingForm rest, .form f result =>
    .record (.form result.raw) (afterForm f (FormResult.ofRaw result.raw) rest)
  | .askingBrowser rest, .browser fault =>
    let raw : Int32 := if fault.isNone then 0 else 1
    .record (.browser raw) (if raw = 0 then .poll rest else .done (.returned formFailed))
  | _, _ => .done .panicked

def outcome? (e : Engine) : Option Outcome :=
  match e.point with
  | .done outcome => some outcome
  | _ => none

/-- Enters the main loop and records its limits. -/
def enter (limits : LoopLimits) (e : Engine) : Engine × Happenings :=
  (e.moveTo (.poll e.script.steps), noted (.limits limits))

/-- Makes an engine from a script, unless the script refuses. -/
def make (plan : Plan) (userAgent : String) : Option Engine × Happenings :=
  if plan.script.failsConstruction then (none, [])
  else (some ⟨plan.key, plan.script, Queue.new, .ready⟩, noted (.userAgent userAgent))

end Engine

/-- Letting the engine go is recorded in the journal first; then the engine
gives up the queue. -/
instance : TunnelControl.Engine Engine where
  Note := Note
  Plan := Plan
  Setup := Options
  Access := QueueAct
  Move := Move
  make := Engine.make
  setup options e := some (Engine.configure options e).1
  access act e :=
    (e.queue.step? act).map fun (queue, notes) =>
      ({ e with queue }, notes.map fun n => .note (.send n))
  enter := Engine.enter
  move := Engine.move
  resume _ r e := (e.moveTo (Engine.afterReply r e.point), [])
  outcome? := Engine.outcome?
  retire e := (e, Engine.noted .freed)
  free e := ({ e with queue := e.queue.disown }, [])
  call_ne_terminated := Engine.call_move_ne_terminated

/-- The part of an event that belongs into a journal. -/
def Note.journalNote? : Note → Option JournalNote
  | .journal n => some n
  | _ => none

/-- The journal of a script: what the engines made from it noted, in the order
in which it happened. -/
def journal (key : Nat) (w : World Engine) : Journal :=
  w.trace.filterMap fun (k, event) =>
    match event, w.session? k with
    | .note n, some s => if s.engine.key = key then n.journalNote? else none
    | _, _ => none

end TunnelControl.Scripted
