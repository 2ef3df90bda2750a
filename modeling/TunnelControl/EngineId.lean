import TunnelControl.Json.Codec
import TunnelControl.Text.Decimal

/-!
# Engine numbers

Every engine has a number of its own, by which a result is told to belong to
it. Numbers are given out in order from 1 and would start over after 2^64.
-/

namespace TunnelControl

structure EngineId where
  raw : UInt64
  deriving DecidableEq

namespace EngineId

def first : EngineId := ⟨1⟩

def next (id : EngineId) : EngineId := ⟨id.raw + 1⟩

def hexText (id : EngineId) : String := Text.hex id.raw.toNat

/-- The name of the engine in log records. -/
def display (id : EngineId) : String := "engine-" ++ id.hexText

/-- The engine's number in diagnostics. -/
def describe (id : EngineId) : String := "EngineId(" ++ toString id.raw.toNat ++ ")"

def codec : Codec EngineId where
  write id := Codec.uint64.write id.raw
  read j := (Codec.uint64.read j).map EngineId.mk

end EngineId
end TunnelControl
