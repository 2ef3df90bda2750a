import TunnelControl.Errno
import TunnelControl.Text.Quoted

/-!
# Failures

The ways in which creating, configuring, starting and commanding a session can
fail, each with its text.
-/

namespace TunnelControl

/-- An engine call that returned a code other than zero. -/
structure EngineFault where
  /-- What was attempted. -/
  context : String
  code : Int32
  deriving DecidableEq

namespace EngineFault

/-- A call that returned zero succeeded. -/
def check (context : String) (code : Int32) : Except EngineFault Unit :=
  if code = 0 then .ok () else .error ⟨context, code⟩

def errno (f : EngineFault) : Int32 := Errno.ofCode f.code

def message (f : EngineFault) : String := f.context ++ ": " ++ Errno.text f.errno

end EngineFault

/-- Failures of creating or configuring a session. -/
inductive SessionFault
  /-- The engine could not be made. -/
  | construction
  | engine (fault : EngineFault)
  deriving DecidableEq

def SessionFault.message : SessionFault → String
  | .construction => "failed to create VPN session"
  | .engine f => f.message

/-- Failures of starting a session. -/
inductive StartFault
  /-- As many loops are running as the runner allows. -/
  | capacity (limit : Nat)
  /-- The name for the loop's thread contains NUL. -/
  | threadName (name : String)
  /-- The thread could not be made. -/
  | spawn (errno : Int32)
  deriving DecidableEq

def StartFault.message : StartFault → String
  | .capacity limit => "session capacity exhausted (" ++ toString limit ++ " loops already running)"
  | .threadName name =>
    "invalid loop thread name " ++ Text.quoted name ++ ": names cannot contain NUL"
  | .spawn errno => "failed to spawn protocol loop thread: " ++ Errno.text errno

/-- Failures of sending a command. -/
inductive SendFault
  /-- The engine is gone. -/
  | closed
  /-- Writing the command failed. -/
  | writing (errno : Int32)
  deriving DecidableEq

def SendFault.message : SendFault → String
  | .closed => "engine has already been released"
  | .writing errno => "failed to write engine command: " ++ Errno.text errno

/-- Why a browser was not opened. -/
inductive BrowserFault
  /-- There is no browser to open. -/
  | unsupported
  | launch (uri reason : String)
  deriving DecidableEq

def BrowserFault.message : BrowserFault → String
  | .unsupported => "no external browser is available"
  | .launch uri reason => "failed to open " ++ uri ++ ": " ++ reason

/-- Failures of answering a form option. -/
inductive FormFault
  /-- A selection was given a value that none of its choices has. -/
  | invalidChoice (option value : String)
  /-- The engine did not take the value. -/
  | rejected (option : String)
  deriving DecidableEq

def FormFault.message : FormFault → String
  | .invalidChoice option value =>
    "'" ++ value ++ "' is not a valid choice for option '" ++ option ++ "'"
  | .rejected option => "engine rejected the value for option '" ++ option ++ "'"

end TunnelControl
