import TunnelControl.Addressing
import TunnelControl.Native.CText

/-!
# Addressing as the native library holds it

Missing single texts are none, missing entries of lists are passed over, and an
option of the tunnel counts only if it has a name; a missing value is empty.
-/

namespace TunnelControl.Native

structure IpInfo where
  addr : Option CText
  netmask : Option CText
  addr6 : Option CText
  netmask6 : Option CText
  dns : List (Option CText)
  nbns : List (Option CText)
  domain : Option CText
  proxyPac : Option CText
  mtu : Int32
  splitDns : List (Option CText)
  splitIncludes : List (Option CText)
  splitExcludes : List (Option CText)
  gateway : Option CText
  cstpOptions : List (Option CText × Option CText)
  dtlsOptions : List (Option CText × Option CText)

/-- The entries of a list that are there. -/
def readEntries (entries : List (Option CText)) : List String :=
  entries.filterMap fun e => e.map CText.text

/-- The options that have a name. -/
def readOptions (options : List (Option CText × Option CText)) : List (String × String) :=
  options.filterMap fun (name, value) => name.map fun n => (n.text, textOrEmpty value)

def IpInfo.read (i : IpInfo) : TunnelControl.Addressing where
  addr := i.addr.map CText.text
  netmask := i.netmask.map CText.text
  addr6 := i.addr6.map CText.text
  netmask6 := i.netmask6.map CText.text
  dns := readEntries i.dns
  nbns := readEntries i.nbns
  domain := i.domain.map CText.text
  proxyPac := i.proxyPac.map CText.text
  mtu := i.mtu
  splitDns := readEntries i.splitDns
  splitIncludes := readEntries i.splitIncludes
  splitExcludes := readEntries i.splitExcludes
  gateway := i.gateway.map CText.text
  cstpOptions := readOptions i.cstpOptions
  dtlsOptions := readOptions i.dtlsOptions

end TunnelControl.Native
