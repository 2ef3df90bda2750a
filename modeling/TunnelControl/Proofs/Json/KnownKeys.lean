import TunnelControl.Proofs.Json.Shape

/-!
# Only known keys count

Every record that is exchanged is read by its shape, and so is a notice, whose tag decides which
record stands beside it. Reading therefore does not depend on the order of keys, on keys that the
shape does not know, or on null in place of a key that is absent, at any depth, and it fails where
null stands for a value that is needed.
-/

namespace TunnelControl

/-! ## Records -/

def CsdOptions.shape : Shape :=
  .record [("uid", .plain), ("silent", .plain), ("wrapper", .plain)]

def Options.shape : Shape :=
  .record [("protocol", .optional .plain), ("server", .optional .plain), ("log_level", .plain),
    ("force_dpd", .optional .plain), ("allow_insecure_crypto", .plain),
    ("tun_script", .optional .plain), ("csd", .optional CsdOptions.shape)]

def LoopLimits.shape : Shape :=
  .record [("reconnect_timeout", .plain), ("reconnect_interval", .plain)]

def TerminalResult.parts : List (String × Shape) := [("engine", .plain), ("code", .plain)]

def Choice.shape : Shape := .record [("name", .plain), ("label", .plain)]

def FormOption.shape : Shape :=
  .record [("name", .plain), ("label", .plain), ("kind", .plain), ("choices", .list Choice.shape),
    ("value", .optional .plain)]

def Form.shape : Shape :=
  .record [("banner", .optional .plain), ("message", .optional .plain),
    ("error", .optional .plain), ("auth_group", .optional FormOption.shape),
    ("options", .list FormOption.shape)]

def Addressing.parts : List (String × Shape) :=
  [("addr", .optional .plain), ("netmask", .optional .plain), ("addr6", .optional .plain),
    ("netmask6", .optional .plain), ("dns", .list .plain), ("nbns", .list .plain),
    ("domain", .optional .plain), ("proxy_pac", .optional .plain), ("mtu", .plain),
    ("split_dns", .list .plain), ("split_includes", .list .plain),
    ("split_excludes", .list .plain), ("gateway", .optional .plain),
    ("cstp_options", .list .plain), ("dtls_options", .list .plain)]

theorem Codec.text_readsBy : text.ReadsBy .plain := plain_readsBy rfl

theorem CsdOptions.codec_readsBy : codec.ReadsBy shape := by
  refine Codec.record_readsBy ?_ (by decide)
  exact .cons (Field.required_readsBy "uid" (Codec.plain_readsBy rfl) rfl) <|
    .cons (Field.withDefault_readsBy "silent" true (Codec.plain_readsBy rfl) rfl) <|
    .cons (Field.required_readsBy "wrapper" Codec.text_readsBy rfl) .nil

theorem Options.codec_readsBy : codec.ReadsBy shape := by
  refine Codec.record_readsBy ?_ (by decide)
  exact .cons (Field.nullable_readsBy "protocol" (Codec.plain_readsBy rfl)) <|
    .cons (Field.nullable_readsBy "server" Codec.text_readsBy) <|
    .cons (Field.required_readsBy "log_level" (Codec.plain_readsBy rfl) rfl) <|
    .cons (Field.nullable_readsBy "force_dpd" (Codec.plain_readsBy rfl)) <|
    .cons (Field.required_readsBy "allow_insecure_crypto" (Codec.plain_readsBy rfl) rfl) <|
    .cons (Field.nullable_readsBy "tun_script" Codec.text_readsBy) <|
    .cons (Field.nullable_readsBy "csd" CsdOptions.codec_readsBy) .nil

theorem LoopLimits.codec_readsBy : codec.ReadsBy shape := by
  refine Codec.record_readsBy ?_ (by decide)
  exact .cons (Field.required_readsBy "reconnect_timeout" (Codec.plain_readsBy rfl) rfl) <|
    .cons (Field.required_readsBy "reconnect_interval" (Codec.plain_readsBy rfl) rfl) .nil

theorem TerminalResult.fields_readsBy : fields.ReadsBy parts :=
  .cons (Field.required_readsBy "engine" (Codec.plain_readsBy rfl) rfl) <|
  .cons (Field.required_readsBy "code" (Codec.plain_readsBy rfl) rfl) .nil

theorem Choice.codec_readsBy : codec.ReadsBy shape := by
  refine Codec.record_readsBy ?_ (by decide)
  exact .cons (Field.required_readsBy "name" Codec.text_readsBy rfl) <|
    .cons (Field.required_readsBy "label" Codec.text_readsBy rfl) .nil

theorem FormOption.codec_readsBy : codec.ReadsBy shape := by
  refine Codec.record_readsBy ?_ (by decide)
  exact .cons (Field.required_readsBy "name" Codec.text_readsBy rfl) <|
    .cons (Field.required_readsBy "label" Codec.text_readsBy rfl) <|
    .cons (Field.required_readsBy "kind" (Codec.plain_readsBy rfl) rfl) <|
    .cons (Field.unlessEmpty_readsBy "choices" Choice.codec_readsBy) <|
    .cons (Field.optional_readsBy "value" Codec.text_readsBy) .nil

theorem Form.codec_readsBy : codec.ReadsBy shape := by
  refine Codec.record_readsBy ?_ (by decide)
  exact .cons (Field.optional_readsBy "banner" Codec.text_readsBy) <|
    .cons (Field.optional_readsBy "message" Codec.text_readsBy) <|
    .cons (Field.optional_readsBy "error" Codec.text_readsBy) <|
    .cons (Field.optional_readsBy "auth_group" FormOption.codec_readsBy) <|
    .cons (Field.withDefault_readsBy "options" [] (Codec.list_readsBy FormOption.codec_readsBy) rfl)
      .nil

theorem Addressing.fields_readsBy : fields.ReadsBy parts := by
  have text (key : String) : (Field.optional key .text).ReadsBy (.optional .plain) :=
    Field.optional_readsBy key Codec.text_readsBy
  have texts (key : String) : (Field.withDefault key Codec.text.list []).ReadsBy (.list .plain) :=
    Field.withDefault_readsBy key [] (Codec.list_readsBy Codec.text_readsBy) rfl
  have pairs (key : String) :
      (Field.withDefault key (Codec.pair .text .text).list []).ReadsBy (.list .plain) :=
    Field.withDefault_readsBy key [] (Codec.list_readsBy (Codec.plain_readsBy rfl)) rfl
  exact .cons (text "addr") <| .cons (text "netmask") <| .cons (text "addr6") <|
    .cons (text "netmask6") <| .cons (texts "dns") <| .cons (texts "nbns") <|
    .cons (text "domain") <| .cons (text "proxy_pac") <|
    .cons (Field.required_readsBy "mtu" (Codec.plain_readsBy rfl) rfl) <|
    .cons (texts "split_dns") <| .cons (texts "split_includes") <|
    .cons (texts "split_excludes") <| .cons (text "gateway") <| .cons (pairs "cstp_options") <|
    .cons (pairs "dtls_options") .nil

theorem TerminalResult.codec_readsBy : codec.ReadsBy (.record parts) :=
  Codec.record_readsBy fields_readsBy (by decide)

theorem Addressing.codec_readsBy : codec.ReadsBy (.record parts) :=
  Codec.record_readsBy fields_readsBy (by decide)

/-! ## Notices -/

namespace Notice

/-- What is known of an object beside its tag. -/
def parts (entries : List (String × Json)) : List (String × Shape) :=
  match Json.field? "type" entries with
  | some (.str "connected") => Addressing.parts
  | some (.str "terminated") => TerminalResult.parts
  | _ => []

/-- The tag and what stands beside it make one record. -/
def shape (entries : List (String × Json)) : Shape := .record (("type", .plain) :: parts entries)

/-- One change to an object that makes no difference to the notice. -/
def Variation (entries entries' : List (String × Json)) : Prop :=
  (shape entries).Variation (.obj entries) (.obj entries')

theorem keys_nodup (entries : List (String × Json)) :
    ((("type", Shape.plain) :: parts entries).map Prod.fst).Nodup := by
  unfold parts
  split <;> decide

variable {entries entries' : List (String × Json)}

/-- Objects that agree on the tag and on what is known beside it are read alike. -/
theorem read_congr (tag : Json.field? "type" entries = Json.field? "type" entries')
    (beside : ∀ key s, (key, s) ∈ parts entries →
      s.Alike (Json.field? key entries) (Json.field? key entries')) :
    codec.read (.obj entries) = codec.read (.obj entries') := by
  simp only [codec, ← tag]
  split
  · rename_i named
    rw [parts, named] at beside
    exact congrArg (Option.map connected) <| congrArg (Option.map _) <|
      Fields.ofEntries_of_alike Addressing.fields_readsBy beside
  · rfl
  · rename_i named
    rw [parts, named] at beside
    exact congrArg (Option.map terminated) <| congrArg (Option.map _) <|
      Fields.ofEntries_of_alike TerminalResult.fields_readsBy beside
  · rfl

theorem read_of_variation (varied : Variation entries entries') :
    codec.read (.obj entries) = codec.read (.obj entries') := by
  have alike (key : String) (s : Shape) (known : (key, s) ∈ ("type", .plain) :: parts entries) :
      s.Alike (Json.field? key entries) (Json.field? key entries') :=
    varied.alike (keys_nodup entries) known
  exact read_congr (alike "type" .plain List.mem_cons_self).eq_of_plain
    fun key s known => alike key s (List.mem_cons_of_mem _ known)

theorem read_of_spoilt (spoilt : (shape entries).Spoilt (.obj entries)) :
    codec.read (.obj entries) = none := by
  cases spoilt with
  | @field _ _ key s j known held inner =>
      rcases List.mem_cons.mp known with same | beside
      · cases same
        cases inner
        simp only [codec, held]
      · simp only [codec]
        unfold parts at beside
        split at beside
        · rename_i named
          have fails := Fields.ofEntries_of_spoilt Addressing.fields_readsBy beside held inner
          simp [named, Addressing.codec, Codec.record, fails]
        · rename_i named
          have fails := Fields.ofEntries_of_spoilt TerminalResult.fields_readsBy beside held inner
          simp [named, TerminalResult.codec, Codec.record, fails]
        · cases beside

end Notice

/-! ## All that is read -/

/-- **Reading depends on the known keys only.** A record or a notice is read as before if its keys
are put in another order, if keys are added that it does not know, or if null is put for a key that
is absent and stands for none, in it or in a record inside. Nothing is read if null stands where a
value is needed. -/
theorem only_known_keys_count :
    (CsdOptions.codec.DependsOn CsdOptions.shape ∧ Options.codec.DependsOn Options.shape ∧
      LoopLimits.codec.DependsOn LoopLimits.shape ∧
      TerminalResult.codec.DependsOn (.record TerminalResult.parts) ∧
      Choice.codec.DependsOn Choice.shape ∧ FormOption.codec.DependsOn FormOption.shape ∧
      Form.codec.DependsOn Form.shape ∧ Addressing.codec.DependsOn (.record Addressing.parts)) ∧
    (∀ entries entries', Relation.EqvGen Notice.Variation entries entries' →
      Notice.codec.read (.obj entries) = Notice.codec.read (.obj entries')) ∧
    ∀ entries, (Notice.shape entries).Spoilt (.obj entries) →
      Notice.codec.read (.obj entries) = none := by
  refine ⟨⟨CsdOptions.codec_readsBy.dependsOn, Options.codec_readsBy.dependsOn,
    LoopLimits.codec_readsBy.dependsOn, TerminalResult.codec_readsBy.dependsOn,
    Choice.codec_readsBy.dependsOn, FormOption.codec_readsBy.dependsOn,
    Form.codec_readsBy.dependsOn, Addressing.codec_readsBy.dependsOn⟩, ?_, ?_⟩
  · intro entries entries' varied
    let read (entries : List (String × Json)) : Option Notice := Notice.codec.read (.obj entries)
    have step : ∀ e e', Notice.Variation e e' → read e = read e' :=
      fun _ _ => Notice.read_of_variation
    exact congrArg (Quot.lift read step) (Quot.eqvGen_sound varied)
  · exact fun _ => Notice.read_of_spoilt

/-- Nothing of the addressing but the size of packets. -/
def Addressing.sized : Addressing where
  addr := none
  netmask := none
  addr6 := none
  netmask6 := none
  dns := []
  nbns := []
  domain := none
  proxyPac := none
  mtu := 1400
  splitDns := []
  splitIncludes := []
  splitExcludes := []
  gateway := none
  cstpOptions := []
  dtlsOptions := []

/-- Entries in another order, with a key that is not known and null for an address, make the same
notice, and null for the size of packets makes none. -/
theorem rearranged_notice_read :
    Notice.codec.read (.obj [("type", .str "connected"), ("mtu", .int 1400)]) =
        some (.connected .sized) ∧
      Notice.codec.read (.obj [("addr", .null), ("site", .bool true), ("mtu", .int 1400),
        ("type", .str "connected")]) = some (.connected .sized) ∧
      Notice.codec.read (.obj [("type", .str "connected"), ("mtu", .null)]) = none := by
  obtain ⟨-, alike, spoilt⟩ := only_known_keys_count
  have plain : Notice.codec.read (.obj [("type", .str "connected"), ("mtu", .int 1400)]) =
      some (.connected .sized) := by rfl
  refine ⟨plain, ?_, ?_⟩
  · have turned : Notice.Variation [("type", .str "connected"), ("mtu", .int 1400)]
        [("mtu", .int 1400), ("type", .str "connected")] := .permuted (by decide) (.swap _ _ _)
    have added : Notice.Variation [("mtu", .int 1400), ("type", .str "connected")]
        [("site", .bool true), ("mtu", .int 1400), ("type", .str "connected")] :=
      .added (by decide)
    have nulled : Notice.Variation
        [("site", .bool true), ("mtu", .int 1400), ("type", .str "connected")]
        [("addr", .null), ("site", .bool true), ("mtu", .int 1400), ("type", .str "connected")] :=
      .nulled (.tail _ (.head _)) (by decide)
    rw [← plain]
    refine (alike _ _ ?_).symm
    exact .trans _ _ _ (.rel _ _ turned) <| .trans _ _ _ (.rel _ _ added) (.rel _ _ nulled)
  · have known : ("mtu", Shape.plain) ∈ Addressing.parts := by simp [Addressing.parts]
    exact spoilt _ (.field (.tail _ known) rfl (.null rfl))

end TunnelControl
