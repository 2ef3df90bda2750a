import TunnelControl.Addressing
import TunnelControl.Log.Entry
import TunnelControl.Outcome
import TunnelControl.Progress

/-!
# Calls into the controller

An engine has no way back into the controller but the calls below. Each call is
an `Upcall` as the engine makes it; it reaches the controller as a `Callback`,
and the controller's `Reply` goes back to the engine as a code. What is logged
on the way in is `Callback.announcement`, on the way out `Reply.remark`.

Any reply may be a panic.
-/

namespace TunnelControl

/-- The controller's verdict on the certificate of the gateway. -/
inductive CertDecision
  | accept
  | reject
  deriving DecidableEq

namespace CertDecision

def all : List CertDecision := [accept, reject]

/-- Zero is trust. -/
def raw : CertDecision → Int32
  | accept => 0
  | reject => 1

def ofBool (accepted : Bool) : CertDecision := if accepted then accept else reject

def name : CertDecision → String
  | accept => "accept"
  | reject => "reject"

def codec : Codec CertDecision := .named name all

end CertDecision

/-- A call as the controller receives it. -/
inductive Callback
  | certificate (cert : String)
  | form (form : Form)
  | browser (uri : String)
  | progress (level : Level) (line : String)
  | connected (info : Addressing)
  | reconnected
  | terminated (result : TerminalResult)
  deriving DecidableEq

/-- What the controller makes of a call. -/
inductive Reply
  | certificate (decision : CertDecision)
  /-- The form as the controller leaves it. -/
  | form (form : Form) (result : FormResult)
  /-- Why the browser was not opened, or none if it was. -/
  | browser (fault : Option BrowserFault)
  /-- The notice was taken. -/
  | done
  | panic
  deriving DecidableEq

/-- Whether the reply is one for the call. -/
def Reply.fits : Reply → Callback → Bool
  | .panic, _ => true
  | .certificate _, .certificate _ => true
  | .form .., .form _ => true
  | .browser _, .browser _ => true
  | .done, .progress .. | .done, .connected _ | .done, .reconnected | .done, .terminated _ => true
  | _, _ => false

/-- The code that goes back to the engine, for calls that have one. -/
def Reply.raw? : Reply → Option Int32
  | .certificate decision => some decision.raw
  | .form _ result => some result.raw
  | .browser none => some 0
  | .browser (some _) => some 1
  | _ => none

/-- What is logged before the controller is called. -/
def Callback.announcement : Callback → List Log.Entry
  | .connected info => [.tunnelEstablished info.addr info.addr6 info.mtu]
  | .reconnected => [.reconnected]
  | _ => []

/-- What is logged once the controller has replied. -/
def Reply.remark : Reply → Callback → List Log.Entry
  | .browser (some fault), .browser uri => [.browserDeclined uri fault]
  | _, _ => []

/-- Whether the call is one of the notices of a session's life, which go to its
lifecycle handler. -/
def Callback.isLifecycle : Callback → Bool
  | .connected _ | .reconnected | .terminated _ => true
  | _ => false

/-- The reply of a controller that leaves the call to its defaults: certificates
are rejected, forms fail, browsers are not opened, notices are taken. -/
def Callback.defaultReply : Callback → Reply
  | .certificate _ => .certificate .reject
  | .form f => .form f .failed
  | .browser _ => .browser (some .unsupported)
  | _ => .done

/-- What the default handling of a call logs: progress lines are repeated. -/
def Callback.defaultLog : Callback → List Log.Entry
  | .progress level line => [.ofLine level line]
  | _ => []

/-- A call as an engine makes it. -/
inductive Upcall
  | certificate (cert : String)
  | form (form : Form)
  | browser (uri : String)
  /-- A line still to be formatted, by its two passes. -/
  | progress (level : Int32) (first second : Progress.Pass)
  /-- A finished line. -/
  | line (level : Int32) (text : String)
  | connected (info : Addressing)
  | reconnected
  deriving DecidableEq

/-- The call that reaches the controller; a line that cannot be formatted
reaches nobody. -/
def Upcall.callback? : Upcall → Option Callback
  | .certificate cert => some (.certificate cert)
  | .form f => some (.form f)
  | .browser uri => some (.browser uri)
  | .progress level first second =>
    (Progress.render first second).map (.progress (Level.ofRaw level))
  | .line level text => some (.progress (Level.ofRaw level) text)
  | .connected info => some (.connected info)
  | .reconnected => some .reconnected

theorem Upcall.callback?_ne_terminated (u : Upcall) (result : TerminalResult) :
    u.callback? ≠ some (.terminated result) := by
  cases u <;> simp [Upcall.callback?]

/-! ## Lifecycle notices as records -/

/-- A notice of a session's life, as it goes through a channel. -/
inductive Notice
  | connected (info : Addressing)
  | reconnected
  | terminated (result : TerminalResult)
  deriving DecidableEq

def Callback.notice? : Callback → Option Notice
  | .connected info => some (.connected info)
  | .reconnected => some .reconnected
  | .terminated result => some (.terminated result)
  | _ => none

/-- A notice is written as an object whose `type` names it, with the fields of
what it holds beside that key. It is also read from an array that starts with
its name and goes on with the fields. -/
def Notice.codec : Codec Notice where
  write
    | .connected info =>
      .obj (("type", .str "connected") :: (Addressing.codec.write info).entries)
    | .reconnected => .obj [("type", .str "reconnected")]
    | .terminated result =>
      .obj (("type", .str "terminated") :: (TerminalResult.codec.write result).entries)
  read
    | .obj entries =>
      match Json.field? "type" entries with
      | some (.str "connected") => (Addressing.codec.read (.obj entries)).map .connected
      | some (.str "reconnected") => some .reconnected
      | some (.str "terminated") => (TerminalResult.codec.read (.obj entries)).map .terminated
      | _ => none
    | .arr (.str "connected" :: elems) => (Addressing.codec.read (.arr elems)).map .connected
    | .arr [.str "reconnected"] => some .reconnected
    | .arr (.str "terminated" :: elems) => (TerminalResult.codec.read (.arr elems)).map .terminated
    | _ => none

end TunnelControl
