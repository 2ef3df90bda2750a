import TunnelControl.Callback
import TunnelControl.Command
import TunnelControl.Limits
import TunnelControl.Options

/-!
# What is written is read back

A codec is faithful if it reads everything back that it writes. Records are made of fields, so
all that has to be looked at for a record is each of its fields and that no two have the same key
(`Codec.record_faithful`). A field may be left out of an object only for the one value that it
takes when its key is absent.

A notice is written with the fields of what it holds beside its own tag. The tag clashes with
none of them, so they are found behind it as if it were not there (`Fields.ofEntries_entries`).
-/

namespace TunnelControl

open scoped List

/-- The keys of an object. -/
def Json.keys (j : Json) : List String := j.entries.map Prod.fst

/-! ## Codecs -/

namespace Codec

variable {α β : Type} {c : Codec α} {d : Codec β}

/-- Everything that is written is read back. -/
def Faithful (c : Codec α) : Prop := ∀ a, c.read (c.write a) = some a

/-- Null is not written for any value, so it is free to stand for none. -/
def NeverNull (c : Codec α) : Prop := ∀ a, c.write a ≠ .null

theorem text_faithful : text.Faithful := fun _ => rfl

theorem flag_faithful : flag.Faithful := fun _ => rfl

theorem integer_faithful {lo hi : Int} {toInt : α → Int} {ofInt : Int → α}
    (within : ∀ a, lo ≤ toInt a ∧ toInt a ≤ hi) (inverse : ∀ a, ofInt (toInt a) = a) :
    (integer lo hi toInt ofInt).Faithful := by
  intro a
  simp only [integer, if_pos (within a), inverse]

theorem int32_faithful : int32.Faithful := by
  refine integer_faithful (fun n => ?_) Int32.ofInt_toInt
  have above := n.minValue_le_toInt
  have below := n.toInt_lt
  simp at above below
  omega

theorem uint32_faithful : uint32.Faithful := by
  refine integer_faithful (fun n => ?_) (fun n => ?_)
  · have below := n.toNat_lt
    omega
  · simp

theorem uint64_faithful : uint64.Faithful := by
  refine integer_faithful (fun n => ?_) (fun n => ?_)
  · have below := n.toNat_lt
    omega
  · simp

theorem list_faithful (faithful : c.Faithful) : c.list.Faithful := by
  intro as
  change (as.map c.write).mapM c.read = some as
  induction as with
  | nil => rfl
  | cons a as ih => simp [faithful a, ih]

theorem pair_faithful (first : c.Faithful) (second : d.Faithful) : (c.pair d).Faithful := by
  rintro ⟨a, b⟩
  simp [pair, first a, second b]

theorem nullable_faithful (faithful : c.Faithful) (given : c.NeverNull) :
    c.nullable.Faithful := by
  rintro (_ | a)
  · rfl
  · have read : c.nullable.read (c.write a) = (c.read (c.write a)).map some := by
      simp only [nullable]
      split
      · exact absurd ‹_› (given a)
      · rfl
    exact read.trans (by rw [faithful a]; rfl)

/-- A name that is written is found again if no two are the same. -/
theorem read_named {name : α → String} {all : List α} (distinct : (all.map name).Nodup) {a : α}
    (mem : a ∈ all) : (named name all).read (.str (name a)) = some a := by
  change (all.find? fun b => name b == name a) = some a
  induction all with
  | nil => cases mem
  | cons b all ih =>
      obtain ⟨fresh, distinct⟩ := List.nodup_cons.mp distinct
      rcases List.mem_cons.mp mem with rfl | mem
      · simp
      · have other : name b ≠ name a := fun same => fresh (same ▸ List.mem_map_of_mem mem)
        simpa [other] using ih distinct mem

theorem named_faithful {name : α → String} {all : List α} (distinct : (all.map name).Nodup)
    (complete : ∀ a, a ∈ all) : (named name all).Faithful :=
  fun a => read_named distinct (complete a)

end Codec

/-! ## Fields -/

namespace Field

variable {β : Type} {c : Codec β} {key : String}

/-- What is written of a field is read back, and what is not written is the value that the field
takes when its key is absent. -/
structure Faithful (f : Field β) : Prop where
  codec : f.codec.Faithful
  omitted : ∀ b, f.unwritten b = true → f.absent = some b

theorem required_faithful (faithful : c.Faithful) : (required key c).Faithful :=
  ⟨faithful, nofun⟩

theorem withDefault_faithful (faithful : c.Faithful) (value : β) :
    (withDefault key c value).Faithful :=
  ⟨faithful, nofun⟩

theorem nullable_faithful (faithful : c.Faithful) (given : c.NeverNull) :
    (nullable key c).Faithful :=
  ⟨Codec.nullable_faithful faithful given, nofun⟩

theorem optional_faithful (faithful : c.Faithful) (given : c.NeverNull) :
    (optional key c).Faithful where
  codec := Codec.nullable_faithful faithful given
  omitted
    | none, _ => rfl

theorem unlessEmpty_faithful (faithful : c.Faithful) : (unlessEmpty key c).Faithful where
  codec := Codec.list_faithful faithful
  omitted
    | [], _ => rfl

/-- A field finds its own entry behind others. -/
theorem readFrom_append {f : Field β} (faithful : f.Faithful) {before after : List (String × Json)}
    (early : f.key ∉ before.map Prod.fst) (late : f.key ∉ after.map Prod.fst) (b : β) :
    f.readFrom (before ++ (f.writeTo b ++ after)) = some b := by
  have absent {entries : List (String × Json)} (fresh : f.key ∉ entries.map Prod.fst) :
      entries.lookup f.key = none := by
    rw [List.lookup_eq_none_iff]
    intro e mem
    exact bne_iff_ne.mpr fun same => fresh (same ▸ List.mem_map_of_mem mem)
  rw [readFrom, Json.field?, List.lookup_append, absent early, Option.none_or, writeTo]
  cases out : f.unwritten b with
  | true => simpa [absent late] using faithful.omitted b out
  | false => simpa using faithful.codec b

end Field

/-! ## Records -/

namespace Fields

variable {α : Type}

def Faithful {α : Type} : Fields α → Prop
  | nil => True
  | cons f fs => f.Faithful ∧ fs.Faithful

/-- No key is written but those of the fields, each at most once. -/
theorem keys_entries_sublist (fs : Fields α) (a : α) : (fs.entries a).map Prod.fst <+ fs.keys := by
  induction fs with
  | nil => exact List.Sublist.slnil
  | cons f fs ih =>
      rw [entries, List.map_append, Field.writeTo]
      split
      · exact (ih _).cons _
      · exact (ih _).cons_cons _

/-- The fields are found behind entries that have none of their keys. -/
theorem ofEntries_entries {fs : Fields α} (faithful : fs.Faithful) (distinct : fs.keys.Nodup)
    (a : α) {before : List (String × Json)} (fresh : ∀ key ∈ fs.keys, key ∉ before.map Prod.fst) :
    fs.ofEntries (before ++ fs.entries a) = some a := by
  induction fs generalizing before with
  | nil => rfl
  | cons f fs ih =>
      obtain ⟨b, c⟩ := a
      obtain ⟨own, others⟩ := faithful
      obtain ⟨new, distinct⟩ := List.nodup_cons.mp distinct
      have head : f.readFrom (before ++ (f.writeTo b ++ fs.entries c)) = some b :=
        Field.readFrom_append own (fresh _ List.mem_cons_self)
          (fun mem => new ((keys_entries_sublist fs c).subset mem)) b
      -- To the fields that follow, this one is one more entry to look past.
      have tail : fs.ofEntries ((before ++ f.writeTo b) ++ fs.entries c) = some c := by
        refine ih others distinct c fun key mem => ?_
        rw [List.map_append, List.mem_append, not_or]
        refine ⟨fresh key (List.mem_cons_of_mem _ mem), ?_⟩
        rw [Field.writeTo]
        split
        · simp
        · simpa using fun same : key = f.key => new (same ▸ mem)
      rw [List.append_assoc] at tail
      simp only [ofEntries, entries, head, tail]
      rfl

end Fields

namespace Codec

variable {α σ : Type} {fs : Fields α} {toFields : σ → α} {ofFields : α → σ}

/-- A record is read back from an object that holds more, if what comes before has none of its
keys. -/
theorem read_record_behind (faithful : fs.Faithful) (distinct : fs.keys.Nodup)
    (inverse : ∀ s, ofFields (toFields s) = s) {before : List (String × Json)}
    (fresh : ∀ key ∈ fs.keys, key ∉ before.map Prod.fst) (s : σ) :
    (record fs toFields ofFields).read
      (.obj (before ++ ((record fs toFields ofFields).write s).entries)) = some s := by
  change (fs.ofEntries (before ++ fs.entries (toFields s))).map ofFields = some s
  rw [Fields.ofEntries_entries faithful distinct _ fresh, Option.map_some, inverse]

theorem record_faithful (faithful : fs.Faithful) (distinct : fs.keys.Nodup)
    (inverse : ∀ s, ofFields (toFields s) = s) : (record fs toFields ofFields).Faithful := by
  intro s
  have fresh : ∀ key ∈ fs.keys, key ∉ ([] : List (String × Json)).map Prod.fst := by simp
  exact read_record_behind faithful distinct inverse fresh s

theorem keys_record_sublist (s : σ) : ((record fs toFields ofFields).write s).keys <+ fs.keys :=
  fs.keys_entries_sublist (toFields s)

end Codec

/-! ## The types that are exchanged -/

theorem Level.codec_faithful : Level.codec.Faithful :=
  Codec.named_faithful (by decide) fun a => by cases a <;> decide

theorem Protocol.codec_faithful : Protocol.codec.Faithful :=
  Codec.named_faithful (by decide) fun a => by cases a <;> decide

theorem FormResult.codec_faithful : FormResult.codec.Faithful :=
  Codec.named_faithful (by decide) fun a => by cases a <;> decide

theorem CertDecision.codec_faithful : CertDecision.codec.Faithful :=
  Codec.named_faithful (by decide) fun a => by cases a <;> decide

theorem Command.codec_faithful : Command.codec.Faithful :=
  Codec.named_faithful (by decide) fun a => by cases a <;> decide

/-- A kind with a number keeps it, also where the number is that of a kind with a name. -/
theorem OptionKind.codec_faithful : OptionKind.codec.Faithful := by
  intro kind
  by_cases named : kind ∈ plain
  · have read : (Codec.named name plain).read (.str kind.name) = some kind :=
      Codec.read_named (by decide) named
    cases kind with
    | other n => simp [plain] at named
    | _ => exact read
  · cases kind with
    | other n =>
        change (Codec.int32.read (Codec.int32.write n)).map other = some (other n)
        rw [Codec.int32_faithful n]
        rfl
    | _ => exact absurd (by decide) named

theorem EngineId.codec_faithful : EngineId.codec.Faithful := by
  intro id
  change (Codec.uint64.read (Codec.uint64.write id.raw)).map EngineId.mk = some id
  rw [Codec.uint64_faithful id.raw]
  rfl

theorem LoopLimits.fields_faithful : LoopLimits.fields.Faithful :=
  ⟨Field.required_faithful Codec.int32_faithful, Field.required_faithful Codec.int32_faithful,
    trivial⟩

theorem LoopLimits.codec_faithful : LoopLimits.codec.Faithful :=
  Codec.record_faithful LoopLimits.fields_faithful (by decide) fun _ => rfl

theorem TerminalResult.fields_faithful : TerminalResult.fields.Faithful :=
  ⟨Field.required_faithful EngineId.codec_faithful, Field.required_faithful Codec.int32_faithful,
    trivial⟩

theorem TerminalResult.codec_faithful : TerminalResult.codec.Faithful :=
  Codec.record_faithful TerminalResult.fields_faithful (by decide) fun _ => rfl

theorem CsdOptions.fields_faithful : CsdOptions.fields.Faithful :=
  ⟨Field.required_faithful Codec.uint32_faithful,
    Field.withDefault_faithful Codec.flag_faithful true,
    Field.required_faithful Codec.text_faithful, trivial⟩

theorem CsdOptions.codec_faithful : CsdOptions.codec.Faithful :=
  Codec.record_faithful CsdOptions.fields_faithful (by decide) fun _ => rfl

/-- Optional texts. -/
theorem Field.optional_text_faithful (key : String) : (Field.optional key .text).Faithful :=
  optional_faithful Codec.text_faithful nofun

theorem Options.fields_faithful : Options.fields.Faithful := by
  have text (key : String) : (Field.nullable key .text).Faithful :=
    Field.nullable_faithful Codec.text_faithful nofun
  exact ⟨Field.nullable_faithful Protocol.codec_faithful nofun, text "server",
    Field.required_faithful Level.codec_faithful,
    Field.nullable_faithful Codec.uint32_faithful nofun,
    Field.required_faithful Codec.flag_faithful, text "tun_script",
    Field.nullable_faithful CsdOptions.codec_faithful nofun, trivial⟩

theorem Options.codec_faithful : Options.codec.Faithful :=
  Codec.record_faithful Options.fields_faithful (by decide) fun _ => rfl

theorem Choice.fields_faithful : Choice.fields.Faithful :=
  ⟨Field.required_faithful Codec.text_faithful, Field.required_faithful Codec.text_faithful,
    trivial⟩

theorem Choice.codec_faithful : Choice.codec.Faithful :=
  Codec.record_faithful Choice.fields_faithful (by decide) fun _ => rfl

theorem FormOption.fields_faithful : FormOption.fields.Faithful :=
  ⟨Field.required_faithful Codec.text_faithful, Field.required_faithful Codec.text_faithful,
    Field.required_faithful OptionKind.codec_faithful,
    Field.unlessEmpty_faithful Choice.codec_faithful,
    Field.optional_text_faithful "value", trivial⟩

theorem FormOption.codec_faithful : FormOption.codec.Faithful :=
  Codec.record_faithful FormOption.fields_faithful (by decide) fun _ => rfl

theorem Form.fields_faithful : Form.fields.Faithful :=
  ⟨Field.optional_text_faithful "banner", Field.optional_text_faithful "message",
    Field.optional_text_faithful "error",
    Field.optional_faithful FormOption.codec_faithful nofun,
    Field.withDefault_faithful (Codec.list_faithful FormOption.codec_faithful) [], trivial⟩

theorem Form.codec_faithful : Form.codec.Faithful :=
  Codec.record_faithful Form.fields_faithful (by decide) fun _ => rfl

theorem Addressing.fields_faithful : Addressing.fields.Faithful := by
  have text (key : String) : (Field.optional key .text).Faithful :=
    Field.optional_text_faithful key
  have texts (key : String) : (Field.withDefault key Codec.text.list []).Faithful :=
    Field.withDefault_faithful (Codec.list_faithful Codec.text_faithful) []
  have pairs (key : String) : (Field.withDefault key (Codec.pair .text .text).list []).Faithful :=
    Field.withDefault_faithful
      (Codec.list_faithful (Codec.pair_faithful Codec.text_faithful Codec.text_faithful)) []
  exact ⟨text _, text _, text _, text _, texts _, texts _, text _, text _,
    Field.required_faithful Codec.int32_faithful, texts _, texts _, texts _, text _, pairs _,
    pairs _, trivial⟩

theorem Addressing.codec_faithful : Addressing.codec.Faithful :=
  Codec.record_faithful Addressing.fields_faithful (by decide) fun _ => rfl

/-! ## Notices -/

namespace Notice

/-- What the notice is, as its tag says. -/
def tag : Notice → String
  | connected _ => "connected"
  | reconnected => "reconnected"
  | terminated _ => "terminated"

/-- What the notice holds, written by itself. -/
def content : Notice → Json
  | connected info => Addressing.codec.write info
  | reconnected => .obj []
  | terminated result => TerminalResult.codec.write result

theorem write_eq (n : Notice) :
    codec.write n = .obj (("type", .str n.tag) :: n.content.entries) := by
  cases n <;> rfl

theorem keys_content_sublist (n : Notice) :
    ∃ keys : List String, n.content.keys <+ keys ∧ keys.Nodup ∧ "type" ∉ keys := by
  cases n with
  | connected info =>
      exact ⟨Addressing.fields.keys, Codec.keys_record_sublist info, by decide, by decide⟩
  | reconnected => exact ⟨[], List.Sublist.slnil, by decide, by decide⟩
  | terminated result =>
      exact ⟨TerminalResult.fields.keys, Codec.keys_record_sublist result, by decide, by decide⟩

theorem keys_write_nodup (n : Notice) : (codec.write n).keys.Nodup := by
  obtain ⟨keys, sublist, distinct, untagged⟩ := n.keys_content_sublist
  rw [write_eq]
  exact List.nodup_cons.mpr ⟨fun mem => untagged (sublist.subset mem), sublist.nodup distinct⟩

/-- Behind the tag, what the notice holds is read as if it stood by itself. -/
theorem codec_faithful : codec.Faithful := by
  intro n
  cases n with
  | connected info =>
      have fresh : ∀ key ∈ Addressing.fields.keys,
          key ∉ [("type", Json.str "connected")].map Prod.fst := by decide
      exact congrArg (Option.map connected) <|
        Codec.read_record_behind Addressing.fields_faithful (by decide) (fun _ => rfl) fresh info
  | reconnected => rfl
  | terminated result =>
      have fresh : ∀ key ∈ TerminalResult.fields.keys,
          key ∉ [("type", Json.str "terminated")].map Prod.fst := by decide
      exact congrArg (Option.map terminated) <|
        Codec.read_record_behind TerminalResult.fields_faithful (by decide) (fun _ => rfl) fresh
          result

end Notice

/-! ## What is left out -/

/-- A key that is there unless its value is left out. -/
def keyUnless (key : String) (out : Bool) : List String := if out then [] else [key]

/-- For each field its key, if it is written. -/
def Fields.writtenKeys {α : Type} : Fields α → α → List (List String)
  | nil, _ => []
  | cons f fs, (b, c) => keyUnless f.key (f.unwritten b) :: fs.writtenKeys c

theorem Fields.keys_entries {α : Type} (fs : Fields α) (a : α) :
    (fs.entries a).map Prod.fst = (fs.writtenKeys a).flatten := by
  induction fs with
  | nil => rfl
  | cons f fs ih =>
      rw [entries, List.map_append, ih, writtenKeys, List.flatten_cons, Field.writeTo, keyUnless]
      split <;> rfl

theorem Codec.keys_record {α σ : Type} (fs : Fields α) {toFields : σ → α} (ofFields : α → σ)
    (s : σ) :
    ((record fs toFields ofFields).write s).keys = (fs.writtenKeys (toFields s)).flatten :=
  fs.keys_entries (toFields s)

/-! ## The round trip -/

/-- **What is written is read back.** Every type that is exchanged as JSON has a faithful codec.
Forms, their options and addressing leave out the keys of what is not given, and an option leaves
out its choices if there are none. Session options have every key, with null for what is not given.
A notice has its tag and beside it the fields of what it holds, and no key occurs in it twice. -/
theorem exchanged_json_round_trip :
    (Level.codec.Faithful ∧ Protocol.codec.Faithful ∧ OptionKind.codec.Faithful ∧
      FormResult.codec.Faithful ∧ CertDecision.codec.Faithful ∧ Command.codec.Faithful ∧
      CsdOptions.codec.Faithful ∧ Options.codec.Faithful ∧ LoopLimits.codec.Faithful ∧
      EngineId.codec.Faithful ∧ TerminalResult.codec.Faithful ∧ Choice.codec.Faithful ∧
      FormOption.codec.Faithful ∧ Form.codec.Faithful ∧ Addressing.codec.Faithful ∧
      Notice.codec.Faithful) ∧
    (∀ o : FormOption, (FormOption.codec.write o).keys =
      [["name"], ["label"], ["kind"], keyUnless "choices" o.choices.isEmpty,
        keyUnless "value" o.value.isNone].flatten) ∧
    (∀ f : Form, (Form.codec.write f).keys =
      [keyUnless "banner" f.banner.isNone, keyUnless "message" f.message.isNone,
        keyUnless "error" f.error.isNone, keyUnless "auth_group" f.authGroup.isNone,
        ["options"]].flatten) ∧
    (∀ a : Addressing, (Addressing.codec.write a).keys =
      [keyUnless "addr" a.addr.isNone, keyUnless "netmask" a.netmask.isNone,
        keyUnless "addr6" a.addr6.isNone, keyUnless "netmask6" a.netmask6.isNone, ["dns"],
        ["nbns"], keyUnless "domain" a.domain.isNone, keyUnless "proxy_pac" a.proxyPac.isNone,
        ["mtu"], ["split_dns"], ["split_includes"], ["split_excludes"],
        keyUnless "gateway" a.gateway.isNone, ["cstp_options"], ["dtls_options"]].flatten) ∧
    (∀ o : Options, Options.codec.write o =
      .obj [("protocol", Protocol.codec.nullable.write o.protocol),
        ("server", Codec.text.nullable.write o.server), ("log_level", Level.codec.write o.logLevel),
        ("force_dpd", Codec.uint32.nullable.write o.forceDpd),
        ("allow_insecure_crypto", .bool o.allowInsecureCrypto),
        ("tun_script", Codec.text.nullable.write o.tunScript),
        ("csd", CsdOptions.codec.nullable.write o.csd)]) ∧
    ∀ n : Notice, Notice.codec.write n = .obj (("type", .str n.tag) :: n.content.entries) ∧
      (Notice.codec.write n).keys.Nodup :=
  ⟨⟨Level.codec_faithful, Protocol.codec_faithful, OptionKind.codec_faithful,
      FormResult.codec_faithful, CertDecision.codec_faithful, Command.codec_faithful,
      CsdOptions.codec_faithful, Options.codec_faithful, LoopLimits.codec_faithful,
      EngineId.codec_faithful, TerminalResult.codec_faithful, Choice.codec_faithful,
      FormOption.codec_faithful, Form.codec_faithful, Addressing.codec_faithful,
      Notice.codec_faithful⟩,
    fun o => Codec.keys_record FormOption.fields _ o, fun f => Codec.keys_record Form.fields _ f,
    fun a => Codec.keys_record Addressing.fields _ a, fun _ => rfl,
    fun n => ⟨n.write_eq, n.keys_write_nodup⟩⟩

/-- Session options do not leave out the key of what is not given. -/
theorem default_options_write_null :
    Options.default.server = none ∧
      Json.field? "server" (Options.codec.write Options.default).entries = some .null :=
  ⟨rfl, rfl⟩

end TunnelControl
