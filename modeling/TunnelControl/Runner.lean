import TunnelControl.Configuration
import TunnelControl.EngineId
import TunnelControl.Limits

/-!
# Runners

A runner starts protocol loops on threads of their own and counts the loops that
have a slot. A slot is taken before a thread is made and given back when the
loop has ended for good.
-/

namespace TunnelControl

structure RunnerConfig where
  limits : LoopLimits
  /-- How many loops may run at once. -/
  maxActive : Option Nat
  /-- What the names of the loops' threads start with. -/
  threadStem : String
  /-- The size of the loops' stacks, in bytes. -/
  stackSize : Option Nat
  deriving DecidableEq

namespace RunnerConfig

def default : RunnerConfig := ⟨LoopLimits.default, none, "oc-session", none⟩

/-- The name of the thread for an engine. -/
def threadName (c : RunnerConfig) (id : EngineId) : String := c.threadStem ++ "-" ++ id.hexText

end RunnerConfig

/-- The runner for a configuration: its limits and its number of sessions. -/
def Configuration.runnerConfig (c : Configuration) : RunnerConfig :=
  { RunnerConfig.default with limits := c.limits, maxActive := c.maxSessions.map UInt64.toNat }

/-- A runner and the number of its slots that are taken. -/
structure Runner where
  config : RunnerConfig
  active : Nat
  deriving DecidableEq

namespace Runner

def new (config : RunnerConfig) : Runner := ⟨config, 0⟩

/-- The limit that leaves no slot to take, if there is one. -/
def exhausted? (r : Runner) : Option Nat := r.config.maxActive.filter fun limit => limit ≤ r.active

/-- Takes a slot, or tells the limit that is in the way. -/
def reserve (r : Runner) : Except Nat Runner :=
  match r.exhausted? with
  | some limit => .error limit
  | none => .ok { r with active := r.active + 1 }

/-- Gives a slot back. -/
def release (r : Runner) : Runner := { r with active := r.active - 1 }

end Runner
end TunnelControl
