import TunnelControl.Json.Codec
import TunnelControl.Text.Ascii

/-!
# Tunnel addressing

The addresses, routes and options that the gateway assigned once the tunnel is
established.
-/

namespace TunnelControl

structure Addressing where
  addr : Option String
  netmask : Option String
  addr6 : Option String
  netmask6 : Option String
  dns : List String
  nbns : List String
  domain : Option String
  proxyPac : Option String
  mtu : Int32
  splitDns : List String
  splitIncludes : List String
  splitExcludes : List String
  gateway : Option String
  /-- The options sent on the CSTP channel, in order. -/
  cstpOptions : List (String × String)
  dtlsOptions : List (String × String)
  deriving DecidableEq

namespace Addressing

/-- The value of the first CSTP option of that name, whatever its letter case. -/
def cstpOption? (a : Addressing) (name : String) : Option String :=
  (a.cstpOptions.find? fun o => Text.sameIgnoringCase o.1 name).map Prod.snd

def fields :
    Fields (Option String × Option String × Option String × Option String × List String ×
      List String × Option String × Option String × Int32 × List String × List String ×
      List String × Option String × List (String × String) × List (String × String) × Unit) :=
  let texts key := Field.withDefault key Codec.text.list []
  let pairs key := Field.withDefault key (Codec.pair .text .text).list []
  .cons (.optional "addr" .text) <| .cons (.optional "netmask" .text) <|
  .cons (.optional "addr6" .text) <| .cons (.optional "netmask6" .text) <|
  .cons (texts "dns") <| .cons (texts "nbns") <|
  .cons (.optional "domain" .text) <| .cons (.optional "proxy_pac" .text) <|
  .cons (.required "mtu" .int32) <| .cons (texts "split_dns") <|
  .cons (texts "split_includes") <| .cons (texts "split_excludes") <|
  .cons (.optional "gateway" .text) <| .cons (pairs "cstp_options") <|
  .cons (pairs "dtls_options") .nil

def codec : Codec Addressing :=
  .record fields
    (fun a => (a.addr, a.netmask, a.addr6, a.netmask6, a.dns, a.nbns, a.domain, a.proxyPac, a.mtu,
      a.splitDns, a.splitIncludes, a.splitExcludes, a.gateway, a.cstpOptions, a.dtlsOptions, ()))
    fun (addr, netmask, addr6, netmask6, dns, nbns, domain, proxyPac, mtu, splitDns, splitIncludes,
        splitExcludes, gateway, cstpOptions, dtlsOptions, _) =>
      ⟨addr, netmask, addr6, netmask6, dns, nbns, domain, proxyPac, mtu, splitDns, splitIncludes,
        splitExcludes, gateway, cstpOptions, dtlsOptions⟩

end Addressing
end TunnelControl
