import TunnelControl.EngineId
import TunnelControl.Fault

/-!
# How a protocol loop ends

A loop returns a code or panics. The terminal result that reaches the
controller carries one code for both: a panic has the smallest code there is.
-/

namespace TunnelControl

/-- How the loop itself ended. -/
inductive Outcome
  | returned (code : Int32)
  | panicked
  deriving DecidableEq

/-- The code reported for a loop that panicked. -/
def panicCode : Int32 := Int32.minValue

def Outcome.code : Outcome → Int32
  | .returned code => code
  | .panicked => panicCode

/-- What a terminal result is read as when it tells of no success. -/
inductive LoopFault
  | engine (fault : EngineFault)
  | panicked
  deriving DecidableEq

def LoopFault.message : LoopFault → String
  | .engine f => f.message
  | .panicked => "protocol loop panicked"

/-- What is reported once a protocol loop has ended. -/
structure TerminalResult where
  engine : EngineId
  code : Int32
  deriving DecidableEq

namespace TerminalResult

def isSuccess (r : TerminalResult) : Bool := r.code = 0

/-- The meaning of the code. -/
def verdict (r : TerminalResult) : Except LoopFault Unit :=
  if r.code = 0 then .ok ()
  else if r.code = panicCode then .error .panicked
  else .error (.engine ⟨"main loop", r.code⟩)

def fields : Fields (EngineId × Int32 × Unit) :=
  .cons (.required "engine" EngineId.codec) <| .cons (.required "code" .int32) .nil

def codec : Codec TerminalResult :=
  .record fields (fun r => (r.engine, r.code, ())) fun (engine, code, _) => ⟨engine, code⟩

end TerminalResult
end TunnelControl
