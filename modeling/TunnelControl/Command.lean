import TunnelControl.Json.Codec

/-!
# Engine commands

What a controller can ask of a running protocol loop. Each command is one byte
on the wire to the engine.
-/

namespace TunnelControl

inductive Command
  /-- Ends the loop and logs out of the gateway. -/
  | cancel
  /-- Ends the loop with success and keeps the session cookie valid. -/
  | pause
  /-- Ends the loop without logging out. -/
  | detach
  /-- Asks for traffic statistics; the loop goes on. -/
  | stats
  deriving DecidableEq

namespace Command

def all : List Command := [cancel, pause, detach, stats]

def name : Command → String
  | cancel => "cancel"
  | pause => "pause"
  | detach => "detach"
  | stats => "stats"

def letter : Command → Char
  | cancel => 'x'
  | pause => 'p'
  | detach => 'd'
  | stats => 's'

/-- The byte that stands for the command. -/
def byte (c : Command) : UInt8 := c.letter.toUInt8

def ofByte? (b : UInt8) : Option Command := all.find? fun c => c.byte == b

def codec : Codec Command := .named name all

theorem ofByte?_byte (c : Command) : ofByte? c.byte = some c := by cases c <;> decide

end Command
end TunnelControl
