import TunnelControl.Json.Codec
import TunnelControl.Text.Ascii
import TunnelControl.Text.Blank

/-!
# VPN protocols

The flavours of VPN gateway that an engine can talk to.
-/

namespace TunnelControl

inductive Protocol
  | anyConnect
  | globalProtect
  | pulse
  | networkConnect
  | fortinet
  | f5
  | array
  deriving DecidableEq

namespace Protocol

def all : List Protocol :=
  [anyConnect, globalProtect, pulse, networkConnect, fortinet, f5, array]

/-- The name by which engines know the protocol. -/
def name : Protocol → String
  | anyConnect => "anyconnect"
  | globalProtect => "gp"
  | pulse => "pulse"
  | networkConnect => "nc"
  | fortinet => "fortinet"
  | f5 => "f5"
  | array => "array"

/-- The name in written records. -/
def tag : Protocol → String
  | anyConnect => "any_connect"
  | globalProtect => "global_protect"
  | pulse => "pulse"
  | networkConnect => "network_connect"
  | fortinet => "fortinet"
  | f5 => "f5"
  | array => "array"

/-- The user agent that gateways of this flavour expect from their own clients. -/
def customaryUserAgent? : Protocol → Option String
  | anyConnect => some "AnyConnect Darwin_i386 5.1.8.122"
  | globalProtect => some "Global Protect"
  | _ => none

/-- The words that name a protocol, in lower case. -/
def ofWord? : String → Option Protocol
  | "anyconnect" => some anyConnect
  | "gp" | "globalprotect" => some globalProtect
  | "pulse" => some pulse
  | "nc" => some networkConnect
  | "fortinet" => some fortinet
  | "f5" => some f5
  | "array" => some array
  | _ => none

/-- A word that names no protocol; holds the word in lower case. -/
structure Unknown where
  word : String
  deriving DecidableEq

def Unknown.message (u : Unknown) : String := "unknown VPN protocol '" ++ u.word ++ "'"

/-- Reads a protocol without regard to letter case and surrounding white space. -/
def parse (s : String) : Except Unknown Protocol :=
  let word := Text.asciiLower (Text.trim s)
  match ofWord? word with
  | some protocol => .ok protocol
  | none => .error ⟨word⟩

def codec : Codec Protocol := .named tag all

end Protocol
end TunnelControl
