import TunnelControl.Json.Codec

/-!
# Loop limits

How long, and how often at most, an engine tries to bring a dropped tunnel back.
-/

namespace TunnelControl

/-- Both in seconds. -/
structure LoopLimits where
  reconnectTimeout : Int32
  reconnectInterval : Int32
  deriving DecidableEq

namespace LoopLimits

/-- The smallest interval that engines accept. -/
def shortestInterval : Int32 := 10

def default : LoopLimits := ⟨300, shortestInterval⟩

def fields : Fields (Int32 × Int32 × Unit) :=
  .cons (.required "reconnect_timeout" .int32) <|
  .cons (.required "reconnect_interval" .int32) .nil

def codec : Codec LoopLimits :=
  .record fields (fun l => (l.reconnectTimeout, l.reconnectInterval, ()))
    fun (timeout, interval, _) => ⟨timeout, interval⟩

end LoopLimits
end TunnelControl
