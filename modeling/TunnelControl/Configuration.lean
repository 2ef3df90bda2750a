import TunnelControl.Limits
import TunnelControl.Options
import TunnelControl.Text.Decimal

/-!
# Configuration of a host

A host that embeds the bridge is configured by variables, usually those of its
environment. Every value is taken without the white space around it, and a
blank value counts as unset. The variables are checked in a fixed order, so the
first one that is wrong is the one reported.
-/

namespace TunnelControl

/-- The variables that hold the configuration. -/
inductive Variable
  | userAgent
  | protocol
  | server
  | logLevel
  | reconnectTimeout
  | reconnectInterval
  | maxSessions
  | logFilter
  deriving DecidableEq

def Variable.name : Variable → String
  | .userAgent => "OC_BRIDGE_USER_AGENT"
  | .protocol => "OC_BRIDGE_PROTOCOL"
  | .server => "OC_BRIDGE_SERVER"
  | .logLevel => "OC_BRIDGE_LOG_LEVEL"
  | .reconnectTimeout => "OC_BRIDGE_RECONNECT_TIMEOUT"
  | .reconnectInterval => "OC_BRIDGE_RECONNECT_INTERVAL"
  | .maxSessions => "OC_BRIDGE_MAX_SESSIONS"
  | .logFilter => "OC_BRIDGE_LOG"

/-- Why a value is refused. -/
inductive ConfigReason
  | protocol (unknown : Protocol.Unknown)
  | level (unknown : Level.Unknown)
  | number (fault : Text.DecimalFault)
  | negative
  /-- An interval below the shortest one that engines accept. -/
  | tooShort
  | zero
  deriving DecidableEq

def ConfigReason.message : ConfigReason → String
  | .protocol u => u.message
  | .level u => u.message
  | .number f => f.message
  | .negative => "must not be negative"
  | .tooShort =>
    "must be at least " ++ toString LoopLimits.shortestInterval.toInt ++ " seconds"
  | .zero => "must be positive"

/-- A variable whose value is refused. -/
structure ConfigFault where
  var : Variable
  reason : ConfigReason
  deriving DecidableEq

def ConfigFault.message (f : ConfigFault) : String :=
  "invalid " ++ f.var.name ++ ": " ++ f.reason.message

structure Configuration where
  userAgent : Option String
  protocol : Option Protocol
  server : Option String
  logLevel : Level
  limits : LoopLimits
  maxSessions : Option UInt64
  logFilter : String
  deriving DecidableEq

namespace Configuration

def defaultUserAgent : String := "openconnect-bridge/0.1.0"

def defaultLogFilter : String := "info"

/-- The configuration where nothing is set. -/
def default : Configuration :=
  ⟨none, none, none, Level.default, LoopLimits.default, none, defaultLogFilter⟩

/-- The value of a variable, without white space around it; a blank one is unset. -/
def value? (lookup : String → Option String) (v : Variable) : Option String :=
  ((lookup v.name).map Text.trim).filter fun s => !s.isEmpty

/-- Reads a variable that may be unset. -/
def readVariable {α : Type} (lookup : String → Option String) (v : Variable)
    (read : String → Except ConfigReason α) : Except ConfigFault (Option α) :=
  match value? lookup v with
  | none => .ok none
  | some s =>
    match read s with
    | .ok a => .ok (some a)
    | .error reason => .error ⟨v, reason⟩

def readProtocol (s : String) : Except ConfigReason Protocol :=
  (Protocol.parse s).mapError .protocol

def readLevel (s : String) : Except ConfigReason Level :=
  (Level.parse s).mapError .level

/-- A number of seconds from zero. -/
def readTimeout (s : String) : Except ConfigReason Int32 :=
  match Text.readInt32 s.toList with
  | .error fault => .error (.number fault)
  | .ok n => if n < 0 then .error .negative else .ok n

/-- A number of seconds from the shortest interval. -/
def readInterval (s : String) : Except ConfigReason Int32 :=
  match Text.readInt32 s.toList with
  | .error fault => .error (.number fault)
  | .ok n => if n < LoopLimits.shortestInterval then .error .tooShort else .ok n

/-- A number of sessions from one. -/
def readSessions (s : String) : Except ConfigReason UInt64 :=
  match Text.readUInt64 s.toList with
  | .error fault => .error (.number fault)
  | .ok n => if n = 0 then .error .zero else .ok n

/-- Reads the configuration from variables. -/
def ofLookup (lookup : String → Option String) : Except ConfigFault Configuration := do
  let protocol ← readVariable lookup .protocol readProtocol
  let logLevel ← readVariable lookup .logLevel readLevel
  let timeout ← readVariable lookup .reconnectTimeout readTimeout
  let interval ← readVariable lookup .reconnectInterval readInterval
  let maxSessions ← readVariable lookup .maxSessions readSessions
  pure {
    userAgent := value? lookup .userAgent
    protocol
    server := value? lookup .server
    logLevel := logLevel.getD Level.default
    limits := ⟨timeout.getD LoopLimits.default.reconnectTimeout,
      interval.getD LoopLimits.default.reconnectInterval⟩
    maxSessions
    logFilter := (value? lookup .logFilter).getD defaultLogFilter }

/-- The user agent to present: the one that is set, else the customary one of
the protocol, else our own. -/
def effectiveUserAgent (c : Configuration) : String :=
  (c.userAgent.or (c.protocol.bind Protocol.customaryUserAgent?)).getD defaultUserAgent

/-- The options of a session under this configuration. -/
def options (c : Configuration) : Options :=
  { Options.default with protocol := c.protocol, server := c.server, logLevel := c.logLevel }

end Configuration
end TunnelControl
