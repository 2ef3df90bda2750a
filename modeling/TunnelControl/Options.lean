import TunnelControl.Fault
import TunnelControl.Level
import TunnelControl.Protocol

/-!
# Session options

What is set on an engine before its loop starts. `Options.settings` lists the
settings that the options ask for in the order in which they are made, and
`applyAll` makes them one after another up to the first that fails.
-/

namespace TunnelControl

/-- How the host scan of the gateway is dealt with. -/
structure CsdOptions where
  /-- The user the wrapper runs as. -/
  uid : UInt32
  /-- Keeps the engine from warning before it runs the wrapper. -/
  silent : Bool
  /-- The script that is run in place of the gateway's own program. -/
  wrapper : String
  deriving DecidableEq

def CsdOptions.fields : Fields (UInt32 × Bool × String × Unit) :=
  .cons (.required "uid" .uint32) <| .cons (.withDefault "silent" .flag true) <|
  .cons (.required "wrapper" .text) .nil

def CsdOptions.codec : Codec CsdOptions :=
  .record CsdOptions.fields (fun c => (c.uid, c.silent, c.wrapper, ()))
    fun (uid, silent, wrapper, _) => ⟨uid, silent, wrapper⟩

structure Options where
  protocol : Option Protocol
  server : Option String
  logLevel : Level
  /-- Seconds between probes for a dead peer. -/
  forceDpd : Option UInt32
  allowInsecureCrypto : Bool
  tunScript : Option String
  csd : Option CsdOptions
  deriving DecidableEq

/-- One setting to make on an engine. -/
inductive Setting
  | logLevel (level : Level)
  | protocol (protocol : Protocol)
  | url (url : String)
  | dpd (seconds : UInt32)
  | insecureCrypto (allowed : Bool)
  | tunScript (script : String)
  | csd (csd : CsdOptions)
  deriving DecidableEq

/-- What a failure to make the setting is reported as. -/
def Setting.context : Setting → String
  | .logLevel _ => "set log level"
  | .protocol _ => "set protocol"
  | .url _ => "parse URL"
  | .dpd _ => "set dpd"
  | .insecureCrypto _ => "set allow-insecure-crypto"
  | .tunScript _ => "setup tun script"
  | .csd _ => "setup CSD"

namespace Options

def default : Options := ⟨none, none, Level.default, none, false, none, none⟩

/-- The settings in the order in which they are made. The log level is always
set; an empty server, an interval of zero and a host scan without a wrapper
count as not given; insecure cryptography is only ever allowed, never forbidden. -/
def settings (o : Options) : List Setting :=
  [.logLevel o.logLevel]
    ++ (o.protocol.map Setting.protocol).toList
    ++ ((o.server.filter fun s => !s.isEmpty).map Setting.url).toList
    ++ ((o.forceDpd.filter fun n => 0 < n).map Setting.dpd).toList
    ++ (if o.allowInsecureCrypto then [.insecureCrypto true] else [])
    ++ (o.tunScript.map Setting.tunScript).toList
    ++ ((o.csd.filter fun c => !c.wrapper.isEmpty).map Setting.csd).toList

def fields :
    Fields (Option Protocol × Option String × Level × Option UInt32 × Bool × Option String ×
      Option CsdOptions × Unit) :=
  .cons (.nullable "protocol" Protocol.codec) <| .cons (.nullable "server" .text) <|
  .cons (.required "log_level" Level.codec) <| .cons (.nullable "force_dpd" .uint32) <|
  .cons (.required "allow_insecure_crypto" .flag) <| .cons (.nullable "tun_script" .text) <|
  .cons (.nullable "csd" CsdOptions.codec) .nil

def codec : Codec Options :=
  .record fields
    (fun o => (o.protocol, o.server, o.logLevel, o.forceDpd, o.allowInsecureCrypto, o.tunScript,
      o.csd, ()))
    fun (protocol, server, logLevel, forceDpd, allowInsecureCrypto, tunScript, csd, _) =>
      ⟨protocol, server, logLevel, forceDpd, allowInsecureCrypto, tunScript, csd⟩

end Options

/-- Makes settings in order up to the first that fails; a failing one may leave
its mark on the engine, the ones after it are not made. -/
def applyAll {σ : Type} (apply : σ → Setting → σ × Except EngineFault Unit) :
    σ → List Setting → σ × Except EngineFault Unit
  | s, [] => (s, .ok ())
  | s, setting :: rest =>
    match apply s setting with
    | (s', .ok ()) => applyAll apply s' rest
    | (s', .error fault) => (s', .error fault)

/-- What every single setting keeps, all of them keep. -/
theorem applyAll_induction {σ : Type} {apply : σ → Setting → σ × Except EngineFault Unit}
    {P : σ → Prop} (kept : ∀ s setting, P s → P (apply s setting).1) {s : σ} (h : P s)
    (settings : List Setting) : P (applyAll apply s settings).1 := by
  induction settings generalizing s with
  | nil => exact h
  | cons setting rest ih =>
      have next := kept s setting h
      unfold applyAll
      split
      · rename_i s' happened
        rw [happened] at next
        exact ih next
      · rename_i s' fault happened
        rwa [happened] at next

end TunnelControl
