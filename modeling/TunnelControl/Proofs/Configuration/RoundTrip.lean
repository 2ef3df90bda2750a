import TunnelControl.Proofs.Configuration.Validity

/-!
# A configuration is read back from its texts

The variables of a configuration hold the names of its protocol and level in any letter case, the
decimal texts of its numbers, and its own texts as they are, each with any white space around it
(`Configuration.Spells`). What the configuration does not have is missing, or blank. A sound
configuration is read back from such variables.
-/

namespace TunnelControl

/-! ## Names in any letter case -/

section

variable {s : String}

theorem Text.bare_of_sameIgnoringCase {name : String} (bare : Bare (asciiLower name))
    (same : sameIgnoringCase name s = true) : Bare s := by
  apply bare_of_asciiLower
  rwa [← eq_of_beq same]

theorem Protocol.bare_of_spelling {p : Protocol} (same : Text.sameIgnoringCase p.name s = true) :
    Text.Bare s := by
  refine Text.bare_of_sameIgnoringCase ?_ same
  cases p <;> decide

theorem Level.bare_of_spelling {l : Level} (same : Text.sameIgnoringCase l.name s = true) :
    Text.Bare s := by
  refine Text.bare_of_sameIgnoringCase ?_ same
  cases l <;> decide

theorem Protocol.name_mem_spellings (p : Protocol) : p.name ∈ p.spellings := by
  cases p <;> decide

theorem Level.name_mem_spellings (l : Level) : l.name ∈ l.spellings := by cases l <;> decide

end

namespace Configuration

variable {lookup : String → Option String} {v : Variable} {c : Configuration}

/-! ## Texts of one variable -/

/-- The variable holds one of the texts for the value, and is unset if there is no value. -/
def Gives {α : Type} (lookup : String → Option String) (v : Variable)
    (spelling : α → String → Prop) : Option α → Prop
  | none => Unset lookup v
  | some a => ∃ s, spelling a s ∧ Holds lookup v s

/-- A variable says what its texts stand for. -/
theorem yields_of_gives {α β : Type} {spelling : α → String → Prop} {standsFor : String → β → Prop}
    {f : Option α → β} {x : Option α}
    (stands : ∀ a ∈ x, ∀ s, spelling a s → Text.Bare s ∧ standsFor s (f (some a)))
    (given : Gives lookup v spelling x) : Yields lookup v standsFor (f none) (f x) := by
  cases x with
  | none => exact .inl ⟨given, rfl⟩
  | some a =>
      obtain ⟨s, spelled, holds⟩ := given
      obtain ⟨bare, for_a⟩ := stands a rfl s spelled
      exact .inr ⟨s, bare, holds, for_a⟩

/-! ## Texts of a configuration -/

/-- The variables hold texts for what the configuration has. -/
structure Spells (lookup : String → Option String) (c : Configuration) : Prop where
  userAgent : Gives lookup .userAgent (fun t s => s = t) c.userAgent
  protocol : Gives lookup .protocol (fun p s => Text.sameIgnoringCase p.name s = true) c.protocol
  server : Gives lookup .server (fun t s => s = t) c.server
  logLevel :
    Gives lookup .logLevel (fun l s => Text.sameIgnoringCase l.name s = true) (some c.logLevel)
  timeout : Gives lookup .reconnectTimeout (fun n s => s = Text.decimal n.toInt)
    (some c.limits.reconnectTimeout)
  interval : Gives lookup .reconnectInterval (fun n s => s = Text.decimal n.toInt)
    (some c.limits.reconnectInterval)
  maxSessions :
    Gives lookup .maxSessions (fun n s => s = Text.decimal n.toNat) c.maxSessions
  logFilter : Gives lookup .logFilter (fun t s => s = t) (some c.logFilter)

/-- The variables say what is spelled in them. -/
theorem says_of_spells (sound : Sound c) (spelled : Spells lookup c) (v : Variable) :
    Says lookup c v := by
  have bare (k : Int) : Text.Bare (Text.decimal k) := (Text.isInteger_decimal k).bare
  cases v with
  | userAgent =>
      rw [Says]
      refine yields_of_gives (f := id) ?_ spelled.userAgent
      rintro t set s rfl
      exact ⟨sound.userAgent s set, rfl⟩
  | protocol =>
      rw [Says]
      refine yields_of_gives (f := id) ?_ spelled.protocol
      rintro p - s same
      exact ⟨Protocol.bare_of_spelling same, p, rfl, p.name, p.name_mem_spellings, same⟩
  | server =>
      rw [Says]
      refine yields_of_gives (f := id) ?_ spelled.server
      rintro t set s rfl
      exact ⟨sound.server s set, rfl⟩
  | logLevel =>
      rw [Says]
      refine yields_of_gives (f := (·.getD Level.default)) ?_ spelled.logLevel
      rintro l ⟨⟩ s same
      exact ⟨Level.bare_of_spelling same, _, Level.name_mem_spellings _, same⟩
  | reconnectTimeout =>
      rw [Says]
      refine yields_of_gives (f := (·.getD LoopLimits.default.reconnectTimeout)) ?_ spelled.timeout
      rintro n ⟨⟩ s rfl
      exact ⟨bare _, Text.isInteger_decimal _⟩
  | reconnectInterval =>
      rw [Says]
      refine yields_of_gives (f := (·.getD LoopLimits.default.reconnectInterval)) ?_
        spelled.interval
      rintro n ⟨⟩ s rfl
      exact ⟨bare _, Text.isInteger_decimal _⟩
  | maxSessions =>
      rw [Says]
      refine yields_of_gives (f := id) ?_ spelled.maxSessions
      rintro n - s rfl
      exact ⟨bare _, n, rfl, Text.isNatural_decimal n.toNat⟩
  | logFilter =>
      rw [Says]
      refine yields_of_gives (f := (·.getD defaultLogFilter)) ?_ spelled.logFilter
      rintro t ⟨⟩ s rfl
      exact ⟨sound.logFilter, rfl⟩

/-- **A configuration is read back from its texts**, if it is sound. -/
theorem read_back_of_spells (sound : Sound c) (spelled : Spells lookup c) :
    ofLookup lookup = .ok c :=
  ofLookup_eq_ok_iff_sound.mpr ⟨sound, says_of_spells sound spelled⟩

/-- The greatest numbers, names in mixed case, white space of several kinds, and a server that is
blank. -/
def spaciousVariables : String → Option String := fun name =>
  [("OC_BRIDGE_USER_AGENT", "\u2003Corp Client\n"), ("OC_BRIDGE_PROTOCOL", " gP\t"),
    ("OC_BRIDGE_SERVER", " \u3000"), ("OC_BRIDGE_LOG_LEVEL", "TrAcE"),
    ("OC_BRIDGE_RECONNECT_TIMEOUT", " 2147483647"), ("OC_BRIDGE_RECONNECT_INTERVAL", "10\r\n"),
    ("OC_BRIDGE_MAX_SESSIONS", "18446744073709551615 "),
    ("OC_BRIDGE_LOG", " openconnect=trace")].lookup name

def spacious : Configuration :=
  ⟨some "Corp Client", some .globalProtect, none, .trace, ⟨2147483647, 10⟩,
    some 18446744073709551615, "openconnect=trace"⟩

theorem spacious_read_back :
    Sound spacious ∧ Spells spaciousVariables spacious ∧
      ofLookup spaciousVariables = .ok spacious := by
  have agent : Text.Bare "Corp Client" := by decide
  have sound : Sound spacious :=
    ⟨by decide, by decide, by decide, by rintro s ⟨⟩; exact agent, nofun, by decide⟩
  have holds {v : Variable} {s : String} (raw : String) (set : spaciousVariables v.name = some raw)
      (bare : Text.Bare s) (trimmed : Text.trim raw = s) : Holds spaciousVariables v s :=
    ⟨raw, set, (Text.padded_iff bare).mpr trimmed⟩
  have noServer : Unset spaciousVariables .server := by
    rintro raw ⟨⟩
    exact List.all_eq_true.mp (by decide)
  have spelled : Spells spaciousVariables spacious := by
    refine ⟨⟨_, rfl, holds _ rfl agent ?_⟩, ⟨"gP", ?_, holds _ rfl ?_ ?_⟩, noServer,
      ⟨"TrAcE", ?_, holds _ rfl ?_ ?_⟩, ⟨_, rfl, holds _ rfl ?_ ?_⟩, ⟨_, rfl, holds _ rfl ?_ ?_⟩,
      ⟨_, rfl, holds _ rfl ?_ ?_⟩, ⟨_, rfl, holds _ rfl ?_ ?_⟩⟩
    all_goals decide
  exact ⟨sound, spelled, read_back_of_spells sound spelled⟩

end Configuration
end TunnelControl
