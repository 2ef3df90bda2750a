import TunnelControl.Callback
import TunnelControl.Command
import TunnelControl.Rehearsal.FormAct

/-!
# Rehearsed controllers

A rehearsed controller answers calls from prepared lists, one entry for each
call of a kind; where the list has no entry it leaves the call to its defaults.
A trigger goes off once, at the first call that suits it, before the answer is
taken: it sends a command or panics.
-/

namespace TunnelControl.Rehearsal

/-- The kinds of call. -/
inductive Occasion
  | certificate
  | form
  | browser
  | progress
  | connected
  | reconnected
  | terminated
  deriving DecidableEq

def Occasion.ofCallback : Callback → Occasion
  | .certificate _ => .certificate
  | .form _ => .form
  | .browser _ => .browser
  | .progress .. => .progress
  | .connected _ => .connected
  | .reconnected => .reconnected
  | .terminated _ => .terminated

/-- The text of a call that a trigger is compared with. -/
def callText : Callback → String
  | .certificate cert => cert
  | .form f => f.message.getD ""
  | .browser uri => uri
  | .progress _ line => line
  | .connected info => info.addr.getD ""
  | .reconnected | .terminated _ => ""

inductive TriggerAct
  | panic
  | send (c : Command)
  deriving DecidableEq

structure Trigger where
  occasion : Occasion
  text : Option String
  act : TriggerAct
  deriving DecidableEq

def Trigger.suits (t : Trigger) (call : Callback) : Bool :=
  t.occasion = Occasion.ofCallback call && t.text.all (· == callText call)

/-- A prepared answer to a request for a browser. -/
inductive BrowserAnswer
  | opened
  | declined (reason : String)

/-- In each list, none leaves the call to the defaults. -/
structure Controller where
  certs : List (Option Bool)
  forms : List (Option FormPlan)
  browsers : List (Option BrowserAnswer)
  /-- Progress lines are also handled as they are by default. -/
  emits : Bool
  triggers : List Trigger

/-- What a controller does before it replies. -/
inductive Deed
  | log (entry : Log.Entry)
  | send (c : Command)

/-- What a controller does about one call. -/
structure Response where
  deeds : List Deed
  reply : Reply

/-- Takes the first element for which `p` holds out of a list. -/
def takeFirst {α : Type} (p : α → Bool) : List α → Option α × List α
  | [] => (none, [])
  | a :: as =>
    if p a then (some a, as)
    else
      let (found, rest) := takeFirst p as
      (found, a :: rest)

namespace Controller

/-- Answers a call from the lists. -/
def answer (c : Controller) (call : Callback) : Controller × Response :=
  let fallback : Response := ⟨[], call.defaultReply⟩
  match call with
  | .certificate _ =>
    let response := match c.certs.head?.join with
      | some accepted => ⟨[], .certificate (CertDecision.ofBool accepted)⟩
      | none => fallback
    ({ c with certs := c.certs.tail }, response)
  | .form f =>
    let response := match c.forms.head?.join with
      | some plan =>
        let (desk, verdict) := plan.runOn f
        ⟨desk.log.map .log, verdict.elim .panic (.form desk.form)⟩
      | none => fallback
    ({ c with forms := c.forms.tail }, response)
  | .browser uri =>
    let response := match c.browsers.head?.join with
      | some .opened => ⟨[], .browser none⟩
      | some (.declined reason) => ⟨[], .browser (some (.launch uri reason))⟩
      | none => fallback
    ({ c with browsers := c.browsers.tail }, response)
  | _ => (c, fallback)

/-- What the controller does about a call: the default handling of progress
lines if it is asked for, then the first trigger that suits, then the answer. A
panic takes no answer from the lists. -/
def respond (c : Controller) (call : Callback) : Controller × Response :=
  let emitted := if c.emits then call.defaultLog.map Deed.log else []
  let (trigger, triggers) := takeFirst (fun t => t.suits call) c.triggers
  let c := { c with triggers }
  match trigger.map Trigger.act with
  | some .panic => (c, ⟨emitted, .panic⟩)
  | act =>
    let sent := match act with
      | some (.send command) => [Deed.send command]
      | _ => []
    let (c, response) := c.answer call
    (c, ⟨emitted ++ sent ++ response.deeds, response.reply⟩)

end Controller

/-! ## Calls made by hand -/

/-- A call that a hook or a test makes in place of an engine. -/
inductive HookCall
  | up (u : Upcall)
  /-- Looks at the dispatcher itself. -/
  | describe
  /-- A call whose argument could not be read; it is not made. -/
  | unreadable

inductive CallResult
  | nothing
  | code (raw : Int32)
  | form (raw : Int32) (responses : List (String × String))
  | described
  | unreadable
  | panicked

/-- What a reply is to the one who made the call. -/
def CallResult.ofReply : Reply → CallResult
  | .panic => .panicked
  | .form f result => .form result.raw f.responses
  | r => r.raw?.elim .nothing .code

/-- The diagnostic text of the dispatcher. -/
def dispatcherText : String := "Trampolines \x7b .. \x7d"

/-- One line of what a call made outside of any session led to. -/
inductive CallLine
  | called (call : Callback)
  | replied (call : Callback) (reply : Reply)
  | log (entry : Log.Entry)

/-- Makes one call on a controller outside of any session. Commands have no
engine to go to and are lost. -/
def HookCall.perform (c : Controller) : HookCall → Controller × CallResult × List CallLine
  | .describe => (c, .described, [])
  | .unreadable => (c, .unreadable, [])
  | .up u =>
    match u.callback? with
    | none => (c, .nothing, [])
    | some call =>
      let (c, response) := c.respond call
      let logged := response.deeds.filterMap fun
        | .log entry => some (CallLine.log entry)
        | .send _ => none
      (c, .ofReply response.reply,
        call.announcement.map .log ++ [.called call] ++ logged ++
          [.replied call response.reply] ++ (response.reply.remark call).map .log)

/-- Makes calls in order. -/
def HookCall.performAll (c : Controller) : List HookCall → List (CallResult × List CallLine)
  | [] => []
  | call :: rest =>
    let (c, result, lines) := call.perform c
    (result, lines) :: performAll c rest

end TunnelControl.Rehearsal
