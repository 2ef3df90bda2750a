import TunnelControl.Native.Addressing
import TunnelControl.Proofs.Native.Reading
import TunnelControl.Proofs.Text.Letters

/-!
# Reading the addressing

The addressing of a tunnel is read part by part, and a part that is missing is read in three ways:
a text that stands alone is none, an entry of a list is passed over, and the value of an option is
empty. A route after a missing one is read like any other. What is routed into the tunnel and what
is kept out of it depends on this, so `IpInfo.ReadsAs` says it of the lists as they are held, by
the places of their entries.

An option is looked up by its name, and the case of letters does not matter. The answer is the
value of the first option of that name among those the library holds; options without a name are
not there for a lookup.
-/

namespace TunnelControl
namespace Native

/-- The texts of the entries that are there. -/
def EntriesRead (entries : List (Option CText)) (texts : List String) : Prop :=
  ∃ places, Extract (fun _ e s => ∃ c, e = some c ∧ c.ReadsAs s) entries places texts

/-- The name of the option is there, and is read as the text. -/
def IsNamed (o : Option CText × Option CText) (name : String) : Prop :=
  ∃ c, o.1 = some c ∧ c.ReadsAs name

/-- The options that have a name, with their values. -/
def OptionsRead (options : List (Option CText × Option CText)) (read : List (String × String)) :
    Prop :=
  ∃ places, Extract (fun _ o r => IsNamed o r.1 ∧ ReadsOrEmpty o.2 r.2) options places read

/-- The addressing is read from what the library holds: each part from its own. -/
@[mk_iff]
structure IpInfo.ReadsAs (i : IpInfo) (a : TunnelControl.Addressing) : Prop where
  addr : Option.Rel CText.ReadsAs i.addr a.addr
  netmask : Option.Rel CText.ReadsAs i.netmask a.netmask
  addr6 : Option.Rel CText.ReadsAs i.addr6 a.addr6
  netmask6 : Option.Rel CText.ReadsAs i.netmask6 a.netmask6
  dns : EntriesRead i.dns a.dns
  nbns : EntriesRead i.nbns a.nbns
  domain : Option.Rel CText.ReadsAs i.domain a.domain
  proxyPac : Option.Rel CText.ReadsAs i.proxyPac a.proxyPac
  mtu : i.mtu = a.mtu
  splitDns : EntriesRead i.splitDns a.splitDns
  splitIncludes : EntriesRead i.splitIncludes a.splitIncludes
  splitExcludes : EntriesRead i.splitExcludes a.splitExcludes
  gateway : Option.Rel CText.ReadsAs i.gateway a.gateway
  cstpOptions : OptionsRead i.cstpOptions a.cstpOptions
  dtlsOptions : OptionsRead i.dtlsOptions a.dtlsOptions

theorem readEntries_eq_iff {entries : List (Option CText)} {texts : List String} :
    readEntries entries = texts ↔ EntriesRead entries texts := by
  apply Extract.filterMap_eq_iff
  intro _ e s
  simp only [Option.map_eq_some_iff, CText.text_eq_iff]

theorem readOptions_eq_iff {options : List (Option CText × Option CText)}
    {read : List (String × String)} : readOptions options = read ↔ OptionsRead options read := by
  apply Extract.filterMap_eq_iff
  rintro _ ⟨name, value⟩ ⟨s, v⟩
  simp only [IsNamed, Option.map_eq_some_iff, Prod.mk.injEq, CText.text_eq_iff,
    textOrEmpty_eq_iff]
  constructor
  · rintro ⟨⟨c, there, reads⟩, valued⟩
    exact ⟨c, there, reads, valued⟩
  · rintro ⟨c, there, reads, valued⟩
    exact ⟨⟨c, there, reads⟩, valued⟩

theorem IpInfo.read_eq_iff {i : IpInfo} {a : TunnelControl.Addressing} :
    i.read = a ↔ i.ReadsAs a := by
  rw [readsAs_iff]
  obtain ⟨⟩ := a
  simp only [IpInfo.read, TunnelControl.Addressing.mk.injEq, map_text_eq_iff, readEntries_eq_iff,
    readOptions_eq_iff]

/-- The name of the option is there, and is this one but for the case of letters. -/
def IsCalled (o : Option CText × Option CText) (name : String) : Prop :=
  ∃ s, IsNamed o s ∧ List.Forall₂ Text.SameButForCase s.toList name.toList

theorem isCalled_iff {o : Option CText × Option CText} {name : String} :
    IsCalled o name ↔ o.1.any (fun c => Text.sameIgnoringCase c.text name) = true := by
  rw [Option.any_eq_true]
  simp only [Text.sameIgnoringCase_iff]
  constructor
  · rintro ⟨s, ⟨c, there, reads⟩, same⟩
    obtain rfl := CText.text_eq_iff.mpr reads
    exact ⟨c, there, same⟩
  · rintro ⟨c, there, same⟩
    exact ⟨c.text, ⟨c, there, c.readsAs_text⟩, same⟩

/-- The value of the first option that is called so; a missing value is empty. -/
def FirstCalled (options : List (Option CText × Option CText)) (name value : String) : Prop :=
  ∃ before o after, options = before ++ o :: after ∧ (∀ o' ∈ before, ¬ IsCalled o' name) ∧
    IsCalled o name ∧ ReadsOrEmpty o.2 value

/-- Looking for a name in what was read is looking for it in what the library holds. -/
theorem find?_readOptions (options : List (Option CText × Option CText)) (p : String → Bool) :
    ((readOptions options).find? fun r => p r.1).map Prod.snd =
      (options.find? fun o => o.1.any fun c => p c.text).map fun o => textOrEmpty o.2 := by
  induction options with
  | nil => rfl
  | cons o options ih =>
      obtain ⟨name, value⟩ := o
      cases name with
      | none => exact ih
      | some c =>
          show (((c.text, textOrEmpty value) :: readOptions options).find? _).map Prod.snd = _
          cases found : p c.text with
          | false =>
              rw [List.find?_cons_of_neg (by simp [found]),
                List.find?_cons_of_neg (by simp [found]), ih]
          | true =>
              rw [List.find?_cons_of_pos (by simp [found]),
                List.find?_cons_of_pos (by simp [found])]
              rfl

theorem cstpOption?_read (i : IpInfo) (name : String) :
    i.read.cstpOption? name = (i.cstpOptions.find? fun o =>
      o.1.any fun c => Text.sameIgnoringCase c.text name).map fun o => textOrEmpty o.2 :=
  find?_readOptions i.cstpOptions fun s => Text.sameIgnoringCase s name

theorem cstpOption?_eq_some_iff {i : IpInfo} {name value : String} :
    i.read.cstpOption? name = some value ↔ FirstCalled i.cstpOptions name value := by
  rw [cstpOption?_read, Option.map_eq_some_iff]
  constructor
  · rintro ⟨o, found, valued⟩
    obtain ⟨called, before, after, split, others⟩ := List.find?_eq_some_iff_append.mp found
    refine ⟨before, o, after, split, ?_, isCalled_iff.mpr called, textOrEmpty_eq_iff.mp valued⟩
    intro o' mem called'
    have other := others o' mem
    rw [isCalled_iff.mp called'] at other
    cases other
  · rintro ⟨before, o, after, split, others, called, valued⟩
    refine ⟨o, List.find?_eq_some_iff_append.mpr ?_, textOrEmpty_eq_iff.mpr valued⟩
    refine ⟨isCalled_iff.mp called, before, after, split, ?_⟩
    intro o' mem
    rw [Bool.not_eq_true', Bool.eq_false_iff, ne_eq, ← isCalled_iff]
    exact others o' mem

theorem cstpOption?_eq_none_iff {i : IpInfo} {name : String} :
    i.read.cstpOption? name = none ↔ ∀ o ∈ i.cstpOptions, ¬ IsCalled o name := by
  rw [cstpOption?_read, Option.map_eq_none_iff, List.find?_eq_none]
  simp only [isCalled_iff]

/-- **The addressing is read as it is held.** What is read is what `IpInfo.ReadsAs` says, and no
other addressing is. The option of a name is the first one that the library holds under it, and
there is none only if the library holds none. -/
theorem addressing_read_as_held (i : IpInfo) :
    (∀ a, i.read = a ↔ i.ReadsAs a) ∧
    ∀ name, (∀ value, i.read.cstpOption? name = some value ↔
        FirstCalled i.cstpOptions name value) ∧
      (i.read.cstpOption? name = none ↔ ∀ o ∈ i.cstpOptions, ¬ IsCalled o name) := by
  refine ⟨fun a => IpInfo.read_eq_iff, fun name => ⟨fun value => ?_, ?_⟩⟩
  · exact cstpOption?_eq_some_iff
  · exact cstpOption?_eq_none_iff

/-- Routes are missing at the start and in the middle, and one is not well-formed. Of the options
for the timeout the first has no name, and the second has no value. -/
def patchyInfo : IpInfo :=
  let text (s : String) : Option CText := some (.ofBytes (Text.encodeUtf8 s))
  { addr := text "10.0.0.2", netmask := none, addr6 := some (.ofBytes []), netmask6 := none
    dns := [none, text "10.0.0.1", none], nbns := [none, none, none]
    domain := some (.ofBytes [240, 159, 146, 99, 255]), proxyPac := none, mtu := -1
    splitDns := [], splitIncludes := [none, text "10.1.0.0/16", none, none, text "10.2.0.0/16"]
    splitExcludes := [some (.ofBytes [128]), none, text "10.1.0.0/16", text "10.1.0.0/16"]
    gateway := text "vpn"
    cstpOptions := [(none, text "1"), (text "X-TIMEOUT", none), (text "x-timeout", text "2")]
    dtlsOptions := [(text "x-dtls", none), (none, none), (some (.ofBytes [226, 130]), text "3")] }

theorem patchy_info_read :
    patchyInfo.ReadsAs
      { addr := some "10.0.0.2", netmask := none, addr6 := some "", netmask6 := none
        dns := ["10.0.0.1"], nbns := [], domain := some "\uFFFDc\uFFFD", proxyPac := none
        mtu := -1, splitDns := [], splitIncludes := ["10.1.0.0/16", "10.2.0.0/16"]
        splitExcludes := ["\uFFFD", "10.1.0.0/16", "10.1.0.0/16"], gateway := some "vpn"
        cstpOptions := [("X-TIMEOUT", ""), ("x-timeout", "2")]
        dtlsOptions := [("x-dtls", ""), ("\uFFFD", "3")] } ∧
    FirstCalled patchyInfo.cstpOptions "x-Timeout" "" ∧
    ∀ o ∈ patchyInfo.cstpOptions, ¬ IsCalled o "x-dtls" := by
  obtain ⟨reads, called⟩ := addressing_read_as_held patchyInfo
  exact ⟨(reads _).mp (by decide), ((called _).1 _).mp (by decide), (called _).2.mp (by decide)⟩

end Native
end TunnelControl
