import TunnelControl.EngineId
import TunnelControl.Form
import TunnelControl.Level
import TunnelControl.Text.Blank

/-!
# Log records

What is written to the log of the host: each kind of record with the facts it
holds, and from these its severity, its message and its fields. These are the
lines of the engine and the records of form processors at every severity, and
all others of severity `info` and above; what the program notes of its own steps
below that is not among them.
-/

namespace TunnelControl.Log

inductive Severity
  | error
  | warn
  | info
  | debug
  | trace
  deriving DecidableEq

def Severity.name : Severity → String
  | .error => "error"
  | .warn => "warn"
  | .info => "info"
  | .debug => "debug"
  | .trace => "trace"

/-- The severity of a record that repeats one of the engine's lines. -/
def Severity.ofLevel : Level → Severity
  | .error => .error
  | .info => .info
  | .debug => .debug
  | .trace => .trace

/-- The value of a field. -/
inductive Value
  | text (s : String)
  | number (n : Int32)
  deriving DecidableEq

inductive Entry
  /-- A progress line of the engine, without the white space at its end. -/
  | line (level : Level) (text : String)
  | browserDeclined (uri : String) (fault : BrowserFault)
  | tunnelEstablished (addr addr6 : Option String) (mtu : Int32)
  | reconnected
  | spawnFailed (engine : EngineId) (errno : Int32)
  | loopPanicked
  | loopExited (code : Int32)
  | terminalHandlerPanicked
  | processingForm (banner message error : Option String)
  | formOption (name label : String) (kind : OptionKind)
  | formChoice (choice : Choice)
  /-- A form option has refused a user name or a password. -/
  | credentialRejected (fault : FormFault)
  /-- The native library made no engine. -/
  | engineRefused
  | cookieFailed (rc : Int32)
  | connectionFailed (rc : Int32)
  | tunScriptFailed (rc : Int32)
  | addressingUnavailable (rc : Int32)
  | writeBackFailed (fault : FormFault)
  /-- A panic was stopped on its way into the native library. -/
  | boundaryPanicked
  deriving DecidableEq

namespace Entry

def severity : Entry → Severity
  | line level _ => .ofLevel level
  | tunnelEstablished .. | reconnected | loopExited _ | processingForm .. => .info
  | formOption .. | formChoice _ => .debug
  | loopPanicked | terminalHandlerPanicked | boundaryPanicked => .error
  | _ => .warn

def message : Entry → String
  | line _ text => text
  | browserDeclined .. => "external browser delegation declined"
  | tunnelEstablished .. => "tunnel established"
  | reconnected => "engine reconnected"
  | spawnFailed .. => "failed to spawn protocol loop"
  | loopPanicked => "protocol loop panicked"
  | loopExited _ => "protocol loop exited"
  | terminalHandlerPanicked => "terminal result handler panicked"
  | processingForm .. => "processing auth form"
  | formOption .. => "option"
  | formChoice _ => "choice"
  | credentialRejected _ => "credential rejected"
  | engineRefused => "openconnect_vpninfo_new returned NULL"
  | cookieFailed _ => "failed to obtain cookie"
  | connectionFailed _ => "failed to make CSTP connection"
  | tunScriptFailed _ => "failed to set up tun script"
  | addressingUnavailable _ => "tunnel addressing unavailable"
  | writeBackFailed _ => "auth form write-back failed"
  | boundaryPanicked => "callback panicked across the native boundary"

/-- The part of the program a record speaks for, where it is not our own. -/
def target? : Entry → Option String
  | line .. => some "openconnect"
  | _ => none

def fields : Entry → List (String × Value)
  | browserDeclined uri fault => [("uri", .text uri), ("error", .text fault.message)]
  | tunnelEstablished addr addr6 mtu =>
    [("addr", .text (Text.quotedOption addr)), ("addr6", .text (Text.quotedOption addr6)),
     ("mtu", .number mtu)]
  | spawnFailed engine errno =>
    [("engine", .text engine.display), ("error", .text (Errno.text errno))]
  | loopExited code => [("code", .number code)]
  | processingForm banner message error =>
    [("banner", .text (banner.getD "")), ("message_field", .text (message.getD "")),
     ("error", .text (error.getD ""))]
  | formOption name label kind =>
    [("name", .text name), ("label", .text label), ("kind", .text kind.describe)]
  | formChoice choice => [("name", .text choice.name), ("label", .text choice.label)]
  | cookieFailed rc | connectionFailed rc | tunScriptFailed rc | addressingUnavailable rc =>
    [("rc", .number rc)]
  | credentialRejected fault | writeBackFailed fault => [("error", .text fault.message)]
  | _ => []

/-- The record that repeats a progress line. -/
def ofLine (level : Level) (text : String) : Entry := line level (Text.trimEnd text)

end Entry
end TunnelControl.Log
