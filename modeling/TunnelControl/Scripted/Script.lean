import TunnelControl.Callback

/-!
# Scripts

A script is what a scripted engine does in its main loop: a list of steps, and
the code that it returns once all of them are done. It stands in for an engine
where controllers are tried out without a gateway.
-/

namespace TunnelControl.Scripted

/-- A latch. A loop that waits for it goes on once it is open. -/
abbrev Gate := Nat

inductive Step
  | progress (level : Int32) (message : String)
  | peerCert (cert : String)
  | authForm (form : Form)
  | browser (uri : String)
  | connected (info : Addressing)
  | reconnected
  /-- Holds the tunnel open until a command ends the loop. -/
  | idle
  | waitFor (gate : Gate)
  /-- Runs a hook, known by its number: code that may call the controller
  through the engine and may end the loop. -/
  | invoke (hook : Nat)
  deriving DecidableEq

/-- The step in diagnostics. -/
def Step.describe : Step → String
  | .progress level message =>
    Text.fieldsText "Progress"
      [("level", toString level.toInt), ("message", Text.quoted message)]
  | .peerCert cert => Text.fieldsText "PeerCert" [("cert", Text.quoted cert)]
  | .authForm form => "AuthForm(" ++ form.describe ++ ")"
  | .browser uri => Text.fieldsText "ExternalBrowser" [("uri", Text.quoted uri)]
  | .connected info => "Connected(" ++ Text.quotedOption info.addr ++ ")"
  | .reconnected => "Reconnected"
  | .idle => "Idle"
  | .waitFor _ => "WaitFor"
  | .invoke _ => "Invoke"

structure Script where
  steps : List Step
  exitCode : Int32
  /-- No engine can be made from the script. -/
  failsConstruction : Bool
  /-- The code with which every server address is refused. -/
  rejectsUrl : Option Int32

/-! ## Codes with which a loop ends early -/

/-- The controller rejected the certificate. -/
def certRejected : Int32 := -22

/-- The controller cancelled a form. -/
def formCancelled : Int32 := 1

/-- Authentication failed, or the browser was not opened. -/
def formFailed : Int32 := -5

def cancelledCode : Int32 := -4

def detachedCode : Int32 := -103

def pausedCode : Int32 := 0

end TunnelControl.Scripted
