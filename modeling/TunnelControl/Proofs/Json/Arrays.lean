import TunnelControl.Proofs.Json.RoundTrip

/-!
# Records as arrays

A record may be read from an array of its fields in the order of their declaration, and fields may
be missing at its end. This is the same as reading the object with the fields that are there
(`Codec.ReadsArrays`), except that an array lacks only fields that have a default of their own: a
field that may hold null for none may be absent from an object, but an array has to have it. A
notice is read in this way too, from an array with its tag in front
(`Notice.read_array_eq_some_iff`).
-/

namespace TunnelControl

namespace Fields

variable {α : Type}

/-- Of an object only what it holds under the keys of the fields is read. -/
theorem ofEntries_congr (fs : Fields α) {entries entries' : List (String × Json)}
    (same : ∀ key ∈ fs.keys, Json.field? key entries = Json.field? key entries') :
    fs.ofEntries entries = fs.ofEntries entries' := by
  induction fs with
  | nil => rfl
  | cons f fs ih =>
      have own : f.readFrom entries = f.readFrom entries' := by
        rw [Field.readFrom, same f.key List.mem_cons_self, Field.readFrom]
      rw [ofEntries, ofEntries, own, ih fun key mem => same key (List.mem_cons_of_mem _ mem)]

/-- The keys of the fields that an array may lack. -/
def cuttable {α : Type} : Fields α → List String
  | nil => []
  | cons f fs => if f.cut.isSome then f.key :: fs.cuttable else fs.cuttable

/-- What a field takes where it is cut from an array, it takes where its key is absent. -/
def CutAsAbsent {α : Type} : Fields α → Prop
  | nil => True
  | cons f fs => (∀ b, f.cut = some b → f.absent = some b) ∧ fs.CutAsAbsent

theorem mem_cuttable_cons {β γ : Type} {f : Field β} {fs : Fields γ} {key : String} :
    key ∈ (cons f fs).cuttable ↔ (key = f.key ∧ f.cut.isSome = true) ∨ key ∈ fs.cuttable := by
  rw [cuttable]
  split
  · rename_i may
    simp [may]
  · rename_i never
    simp [never]

theorem cuttable_subset_keys (fs : Fields α) : fs.cuttable ⊆ fs.keys := by
  induction fs with
  | nil => exact List.Subset.refl _
  | cons f fs ih =>
      intro key mem
      rcases mem_cuttable_cons.mp mem with ⟨rfl, -⟩ | later
      · exact List.mem_cons_self
      · exact List.mem_cons_of_mem _ (ih later)

/-- To the fields behind the first one it does not matter whether that one may be cut. -/
theorem forall_mem_cuttable_cons {β γ : Type} {f : Field β} {fs : Fields γ} (new : f.key ∉ fs.keys)
    {keys : List String} (sub : keys ⊆ fs.keys) :
    (∀ key ∈ keys, key ∈ (cons f fs).cuttable) ↔ ∀ key ∈ keys, key ∈ fs.cuttable := by
  refine forall₂_congr fun key mem => ?_
  rw [mem_cuttable_cons, or_iff_right_iff_imp]
  rintro ⟨rfl, -⟩
  exact absurd (sub mem) new

/-- The first field of a record, and then the others. -/
theorem pair_eq_some_iff {β γ : Type} {x : Option β} {y : Option γ} {b : β} {c : γ} :
    (do let b ← x; let c ← y; pure (b, c)) = some (b, c) ↔ x = some b ∧ y = some c := by
  cases x <;> cases y <;> simp

/-- Fields are read from an array as from the object that holds its elements under their keys. -/
theorem ofElements_eq_some_iff {fs : Fields α} (cut : fs.CutAsAbsent) (distinct : fs.keys.Nodup)
    {js : List Json} {a : α} :
    fs.ofElements js = some a ↔
      js.length ≤ fs.keys.length ∧ (∀ key ∈ fs.keys.drop js.length, key ∈ fs.cuttable) ∧
        fs.ofEntries (fs.keys.zip js) = some a := by
  induction fs generalizing js with
  | nil => cases js <;> simp [ofElements, ofEntries, keys]
  | cons f fs ih =>
      obtain ⟨own, others⟩ := cut
      obtain ⟨new, distinct⟩ := List.nodup_cons.mp distinct
      obtain ⟨b, c⟩ := a
      cases js with
      | nil =>
          have none : f.readFrom [] = f.absent := rfl
          rw [ofElements, ofEntries, keys, pair_eq_some_iff, List.zip_nil_right, pair_eq_some_iff,
            ih others distinct, List.zip_nil_right, none, List.length_nil, List.drop_zero,
            List.drop_zero, List.forall_mem_cons, forall_mem_cuttable_cons new (List.Subset.refl _),
            mem_cuttable_cons]
          constructor
          · rintro ⟨value, -, defaults, later⟩
            exact ⟨Nat.zero_le _, ⟨.inl ⟨rfl, by rw [value]; rfl⟩, defaults⟩, own b value, later⟩
          · rintro ⟨-, ⟨first, defaults⟩, value, later⟩
            obtain ⟨b', cut⟩ : ∃ b', f.cut = some b' := by
              rcases first with ⟨-, may⟩ | mem
              · exact Option.isSome_iff_exists.mp may
              · exact absurd (cuttable_subset_keys fs mem) new
            have same : b' = b := Option.some.inj ((own b' cut).symm.trans value)
            exact ⟨same ▸ cut, Nat.zero_le _, defaults, later⟩
      | cons j js =>
          have head : f.readFrom ((f.key, j) :: fs.keys.zip js) = f.codec.read j := by
            simp [Field.readFrom, Json.field?]
          have tail : fs.ofEntries ((f.key, j) :: fs.keys.zip js) =
              fs.ofEntries (fs.keys.zip js) := by
            refine fs.ofEntries_congr fun key mem => ?_
            have other : (key == f.key) = false :=
              beq_eq_false_iff_ne.mpr fun same => new (same ▸ mem)
            rw [Json.field?, List.lookup_cons, other]
            rfl
          rw [ofElements, ofEntries, keys, pair_eq_some_iff, ih others distinct, List.zip_cons_cons,
            pair_eq_some_iff, head, tail, List.length_cons, List.length_cons, List.drop_succ_cons,
            forall_mem_cuttable_cons new (List.drop_subset _ _), Nat.add_le_add_iff_right]
          constructor
          · rintro ⟨first, short, defaults, later⟩
            exact ⟨short, defaults, first, later⟩
          · rintro ⟨short, defaults, first, later⟩
            exact ⟨first, short, defaults, later⟩

/-- The array with every field in it is read back. -/
theorem ofElements_elements {fs : Fields α} (faithful : fs.Faithful) (a : α) :
    fs.ofElements (fs.elements a) = some a := by
  induction fs with
  | nil => rfl
  | cons f fs ih =>
      obtain ⟨b, c⟩ := a
      obtain ⟨own, others⟩ := faithful
      rw [elements, ofElements, pair_eq_some_iff]
      exact ⟨own.codec b, ih others c⟩

end Fields

namespace Codec

variable {α σ : Type} {fs : Fields α} {toFields : σ → α} {ofFields : α → σ}

/-- An array is read as the object that holds its elements under the first of the keys, if each of
the keys that are left over has a default. -/
def ReadsArrays (c : Codec σ) (keys defaulted : List String) : Prop :=
  ∀ (elems : List Json) (s : σ), c.read (.arr elems) = some s ↔
    elems.length ≤ keys.length ∧ (∀ key ∈ keys.drop elems.length, key ∈ defaulted) ∧
      c.read (.obj (keys.zip elems)) = some s

theorem record_readsArrays (cut : fs.CutAsAbsent) (distinct : fs.keys.Nodup) :
    (record fs toFields ofFields).ReadsArrays fs.keys fs.cuttable := by
  intro elems s
  change (fs.ofElements elems).map ofFields = some s ↔
    _ ∧ _ ∧ (fs.ofEntries (fs.keys.zip elems)).map ofFields = some s
  simp only [Option.map_eq_some_iff, Fields.ofElements_eq_some_iff cut distinct]
  constructor
  · rintro ⟨a, ⟨short, defaults, read⟩, made⟩
    exact ⟨short, defaults, a, read, made⟩
  · rintro ⟨short, defaults, a, read, made⟩
    exact ⟨a, ⟨short, defaults, read⟩, made⟩

/-- A key that is not known makes no difference in front. -/
theorem read_record_cons {key : String} (unknown : key ∉ fs.keys) (j : Json)
    (entries : List (String × Json)) :
    (record fs toFields ofFields).read (.obj ((key, j) :: entries)) =
      (record fs toFields ofFields).read (.obj entries) := by
  refine congrArg (Option.map ofFields) (fs.ofEntries_congr fun known mem => ?_)
  have other : (known == key) = false := beq_eq_false_iff_ne.mpr fun same => unknown (same ▸ mem)
  rw [Json.field?, List.lookup_cons, other]
  rfl

theorem read_record_elements (faithful : fs.Faithful) (inverse : ∀ s, ofFields (toFields s) = s)
    (s : σ) : (record fs toFields ofFields).read (.arr (fs.elements (toFields s))) = some s := by
  change (fs.ofElements (fs.elements (toFields s))).map ofFields = some s
  rw [Fields.ofElements_elements faithful, Option.map_some, inverse]

end Codec

/-! ## Notices -/

theorem TerminalResult.fields_cutAsAbsent : fields.CutAsAbsent := ⟨nofun, nofun, trivial⟩

theorem Addressing.fields_cutAsAbsent : fields.CutAsAbsent := by
  -- A field that may be cut takes the same value if its key is absent.
  have same {β : Type} (x : Option β) : ∀ b, x = some b → x = some b := fun _ made => made
  exact ⟨same _, same _, same _, same _, same _, same _, same _, same _, nofun, same _, same _,
    same _, same _, same _, same _, trivial⟩

namespace Notice

/-- The keys of what the notice holds. -/
def keys : Notice → List String
  | connected _ => Addressing.fields.keys
  | reconnected => []
  | terminated _ => TerminalResult.fields.keys

/-- The keys that have a default. -/
def defaulted : Notice → List String
  | connected _ => Addressing.fields.cuttable
  | reconnected => []
  | terminated _ => TerminalResult.fields.cuttable

theorem tag_of_read_array {js : List Json} {n : Notice} (read : codec.read (.arr js) = some n) :
    ∃ elems, js = .str n.tag :: elems := by
  simp only [codec] at read
  split at read
  case h_1 => contradiction
  case h_2 same =>
    obtain ⟨info, -, rfl⟩ := Option.map_eq_some_iff.mp read
    exact ⟨_, Json.arr.inj same⟩
  case h_3 same =>
    cases read
    exact ⟨_, Json.arr.inj same⟩
  case h_4 same =>
    obtain ⟨result, -, rfl⟩ := Option.map_eq_some_iff.mp read
    exact ⟨_, Json.arr.inj same⟩
  case h_5 => cases read

/-- What a notice holds is a record; the tag in front of its entries is not one of its keys. -/
theorem read_beside_iff {α σ : Type} {fs : Fields α} {toFields : σ → α} {ofFields : α → σ}
    {make : σ → Notice} (injective : make.Injective) (cut : fs.CutAsAbsent)
    (distinct : fs.keys.Nodup) (untagged : "type" ∉ fs.keys) {tag : Json} {elems : List Json}
    {s : σ} :
    ((Codec.record fs toFields ofFields).read (.arr elems)).map make = some (make s) ↔
      elems.length ≤ fs.keys.length ∧ (∀ key ∈ fs.keys.drop elems.length, key ∈ fs.cuttable) ∧
        ((Codec.record fs toFields ofFields).read
          (.obj (("type", tag) :: fs.keys.zip elems))).map make = some (make s) := by
  rw [Codec.read_record_cons untagged, Option.map_eq_some_iff, Option.map_eq_some_iff]
  simp only [injective.eq_iff, exists_eq_right]
  exact Codec.record_readsArrays cut distinct elems s

/-- A notice is read from an array that starts with its tag, as from the object with that tag and
the other elements under the keys of what the notice holds. -/
theorem read_array_eq_some_iff {js : List Json} {n : Notice} :
    codec.read (.arr js) = some n ↔
      ∃ elems, js = .str n.tag :: elems ∧ elems.length ≤ n.keys.length ∧
        (∀ key ∈ n.keys.drop elems.length, key ∈ n.defaulted) ∧
        codec.read (.obj (("type", .str n.tag) :: n.keys.zip elems)) = some n := by
  have beside (elems : List Json) :
      codec.read (.arr (.str n.tag :: elems)) = some n ↔
        elems.length ≤ n.keys.length ∧ (∀ key ∈ n.keys.drop elems.length, key ∈ n.defaulted) ∧
          codec.read (.obj (("type", .str n.tag) :: n.keys.zip elems)) = some n := by
    cases n with
    | connected info =>
        exact read_beside_iff (fun _ _ => connected.inj) Addressing.fields_cutAsAbsent (by decide)
          (by decide)
    | reconnected =>
        cases elems with
        | nil => simp [codec, tag, keys, Json.field?]
        | cons j js => simp [codec, tag, keys]
    | terminated result =>
        exact read_beside_iff (fun _ _ => terminated.inj) TerminalResult.fields_cutAsAbsent
          (by decide) (by decide)
  constructor
  · intro read
    obtain ⟨elems, rfl⟩ := tag_of_read_array read
    exact ⟨elems, rfl, (beside elems).mp read⟩
  · rintro ⟨elems, rfl, rest⟩
    exact (beside elems).mpr rest

end Notice

/-! ## The records that are exchanged -/

/-- **An array is read like the object of its elements.** It may lack fields at its end as far as
they have a default, and it may not be longer than the record. The array with all fields of a value
is read back to the value. -/
theorem arrays_read_as_objects :
    (CsdOptions.codec.ReadsArrays ["uid", "silent", "wrapper"] ["silent"] ∧
      Options.codec.ReadsArrays ["protocol", "server", "log_level", "force_dpd",
        "allow_insecure_crypto", "tun_script", "csd"] [] ∧
      LoopLimits.codec.ReadsArrays ["reconnect_timeout", "reconnect_interval"] [] ∧
      TerminalResult.codec.ReadsArrays ["engine", "code"] [] ∧
      Choice.codec.ReadsArrays ["name", "label"] [] ∧
      FormOption.codec.ReadsArrays ["name", "label", "kind", "choices", "value"]
        ["choices", "value"] ∧
      Form.codec.ReadsArrays ["banner", "message", "error", "auth_group", "options"]
        ["banner", "message", "error", "auth_group", "options"] ∧
      Addressing.codec.ReadsArrays ["addr", "netmask", "addr6", "netmask6", "dns", "nbns",
        "domain", "proxy_pac", "mtu", "split_dns", "split_includes", "split_excludes", "gateway",
        "cstp_options", "dtls_options"]
        ["addr", "netmask", "addr6", "netmask6", "dns", "nbns", "domain", "proxy_pac",
          "split_dns", "split_includes", "split_excludes", "gateway", "cstp_options",
          "dtls_options"]) ∧
    (∀ c : CsdOptions, CsdOptions.codec.read
      (.arr (CsdOptions.fields.elements (c.uid, c.silent, c.wrapper, ()))) = some c) ∧
    (∀ o : Options, Options.codec.read
      (.arr (Options.fields.elements (o.protocol, o.server, o.logLevel, o.forceDpd,
        o.allowInsecureCrypto, o.tunScript, o.csd, ()))) = some o) ∧
    (∀ l : LoopLimits, LoopLimits.codec.read
      (.arr (LoopLimits.fields.elements (l.reconnectTimeout, l.reconnectInterval, ()))) = some l) ∧
    (∀ r : TerminalResult, TerminalResult.codec.read
      (.arr (TerminalResult.fields.elements (r.engine, r.code, ()))) = some r) ∧
    (∀ c : Choice, Choice.codec.read
      (.arr (Choice.fields.elements (c.name, c.label, ()))) = some c) ∧
    (∀ o : FormOption, FormOption.codec.read
      (.arr (FormOption.fields.elements (o.name, o.label, o.kind, o.choices, o.value, ()))) =
        some o) ∧
    (∀ f : Form, Form.codec.read
      (.arr (Form.fields.elements (f.banner, f.message, f.error, f.authGroup, f.options, ()))) =
        some f) ∧
    ∀ a : Addressing, Addressing.codec.read
      (.arr (Addressing.fields.elements (a.addr, a.netmask, a.addr6, a.netmask6, a.dns, a.nbns,
        a.domain, a.proxyPac, a.mtu, a.splitDns, a.splitIncludes, a.splitExcludes, a.gateway,
        a.cstpOptions, a.dtlsOptions, ()))) = some a := by
  -- A field that may be cut takes the same value if its key is absent.
  have same {β : Type} (x : Option β) : ∀ b, x = some b → x = some b := fun _ made => made
  refine ⟨⟨?_, ?_, ?_, ?_, ?_, ?_, ?_, ?_⟩, ?_, ?_, ?_, ?_, ?_, ?_, ?_, ?_⟩
  · exact Codec.record_readsArrays ⟨nofun, same _, nofun, trivial⟩ (by decide)
  · exact Codec.record_readsArrays ⟨nofun, nofun, nofun, nofun, nofun, nofun, nofun, trivial⟩
      (by decide)
  · exact Codec.record_readsArrays ⟨nofun, nofun, trivial⟩ (by decide)
  · exact Codec.record_readsArrays TerminalResult.fields_cutAsAbsent (by decide)
  · exact Codec.record_readsArrays ⟨nofun, nofun, trivial⟩ (by decide)
  · exact Codec.record_readsArrays ⟨nofun, nofun, nofun, same _, same _, trivial⟩ (by decide)
  · exact Codec.record_readsArrays ⟨same _, same _, same _, same _, same _, trivial⟩ (by decide)
  · exact Codec.record_readsArrays Addressing.fields_cutAsAbsent (by decide)
  · exact Codec.read_record_elements CsdOptions.fields_faithful fun _ => rfl
  · exact Codec.read_record_elements Options.fields_faithful fun _ => rfl
  · exact Codec.read_record_elements LoopLimits.fields_faithful fun _ => rfl
  · exact Codec.read_record_elements TerminalResult.fields_faithful fun _ => rfl
  · exact Codec.read_record_elements Choice.fields_faithful fun _ => rfl
  · exact Codec.read_record_elements FormOption.fields_faithful fun _ => rfl
  · exact Codec.read_record_elements Form.fields_faithful fun _ => rfl
  · exact Codec.read_record_elements Addressing.fields_faithful fun _ => rfl

end TunnelControl
