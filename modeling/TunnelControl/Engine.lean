import TunnelControl.Callback
import TunnelControl.Limits

/-!
# Engines

An engine owns the wire protocol. The bridge makes it, configures it, runs its
main loop and answers its calls. Here an engine is a machine that others drive
step by step: whatever it does not decide itself (what its surroundings return,
when a gate opens, what a hook does) is part of the move it is driven with, so a
statement about all sequences of moves is one about all surroundings.

An engine never reaches the controller. A move may end in a call, and the
session that drives the engine brings it the reply.
-/

namespace TunnelControl

/-- What an engine leaves behind as it works: its own notes and log records. -/
inductive Happening (ν : Type)
  | note (n : ν)
  | log (entry : Log.Entry)

/-- The result of a move: the engine, what happened, and the call it is now
waiting to have answered, if any. -/
structure Turn (ε ν : Type) where
  engine : ε
  happenings : List (Happening ν)
  call : Option Callback

/-- What an engine must provide. -/
class Engine (ε : Type) where
  /-- What its own records consist of. -/
  Note : Type
  /-- What it is made from, apart from a user agent. -/
  Plan : Type
  /-- What the holder of an unstarted session may ask of it. -/
  Setup : Type
  /-- What anyone with a command pipe may do to it, at any time. -/
  Access : Type
  /-- What its main loop may be driven with. -/
  Move : Type
  /-- Makes an engine, or refuses. -/
  make : Plan → String → Option ε × List (Happening Note)
  /-- None if the engine cannot be asked this. -/
  setup : Setup → ε → Option (ε × List (Happening Note))
  access : Access → ε → Option (ε × List (Happening Note))
  /-- Enters the main loop. -/
  enter : LoopLimits → ε → ε × List (Happening Note)
  /-- One move of the main loop; none if the engine cannot make it now. -/
  move : Move → ε → Option (Turn ε Note)
  /-- Takes the reply to the call that the last move ended in. -/
  resume : Callback → Reply → ε → ε × List (Happening Note)
  /-- How the main loop ended, once it has. -/
  outcome? : ε → Option Outcome
  /-- The first half of letting the engine go. -/
  retire : ε → ε × List (Happening Note)
  /-- The second half: nothing of the engine is left after it. -/
  free : ε → ε × List (Happening Note)
  /-- Terminal results are reported by runners, never by engines. -/
  call_ne_terminated : ∀ {m e turn}, move m e = some turn →
    ∀ result, turn.call ≠ some (.terminated result)

end TunnelControl
