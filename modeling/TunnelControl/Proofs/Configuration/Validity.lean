import TunnelControl.Proofs.Configuration.Variables

/-!
# Which configurations are accepted

The reading fails if a variable has a value that it cannot have, and in no other case. The first
such variable in the order of `Variable.checked` is the one reported, whatever the later ones hold
(`ofLookup_eq_error_iff`). What is accepted is sound (`Configuration.Sound`), and each of its fields
is what the field's own variable says (`Configuration.Says`): there is one such configuration at
most, and it is the one that is read.
-/

namespace TunnelControl

namespace Configuration

variable {lookup : String → Option String} {v : Variable} {fault : ConfigFault}

/-! ## All variables -/

/-- Of checks that are made in order the first that fails decides. -/
theorem forM_eq_error_iff {α ε : Type} {check : α → Except ε Unit} {e : ε} {l : List α} :
    l.forM check = .error e ↔
      ∃ before a after, l = before ++ a :: after ∧ check a = .error e ∧
        ∀ b ∈ before, check b = .ok () := by
  induction l with
  | nil => simp [pure, Except.pure]
  | cons a l ih =>
      change (check a >>= fun _ => l.forM check) = .error e ↔ _
      cases first : check a with
      | error e' =>
          constructor
          · rintro ⟨⟩
            exact ⟨[], a, l, rfl, first, by simp⟩
          · rintro ⟨before, b, after, split, failed, fine⟩
            cases before with
            | nil =>
                cases split
                exact first.symm.trans failed
            | cons c before =>
                cases split
                cases first.symm.trans (fine _ List.mem_cons_self)
      | ok _ =>
          refine Iff.trans ih ?_
          constructor
          · rintro ⟨before, b, after, rfl, failed, fine⟩
            exact ⟨a :: before, b, after, rfl, failed, List.forall_mem_cons.mpr ⟨first, fine⟩⟩
          · rintro ⟨before, b, after, split, failed, fine⟩
            cases before with
            | nil =>
                cases split
                cases first.symm.trans failed
            | cons c before =>
                cases split
                exact ⟨before, b, after, rfl, failed, (List.forall_mem_cons.mp fine).2⟩

theorem forM_fails_iff {α ε : Type} {check : α → Except ε Unit} {l : List α} :
    (∃ e, l.forM check = .error e) ↔ ∃ a ∈ l, ∃ e, check a = .error e := by
  induction l with
  | nil => simp [pure, Except.pure]
  | cons a l ih =>
      change (∃ e, (check a >>= fun _ => l.forM check) = .error e) ↔ _
      rw [List.exists_mem_cons_iff, ← ih]
      cases check a with
      | error e => exact ⟨fun _ => .inl ⟨e, rfl⟩, fun _ => ⟨e, rfl⟩⟩
      | ok _ =>
          constructor
          · exact .inr
          · rintro (⟨e, ⟨⟩⟩ | later)
            exact later

/-- Reading fails with the first fault there is. -/
theorem ofLookup_eq_error_iff :
    ofLookup lookup = .error fault ↔ Variable.checked.forM (verdict lookup) = .error fault := by
  -- To a failure it does not matter what was read before it.
  have next {α β : Type} {x : Except ConfigFault α} {f : α → Except ConfigFault β}
      {rest : Except ConfigFault Unit}
      (same : ∀ a, f a = .error fault ↔ rest = .error fault) :
      (x >>= f) = .error fault ↔ ((x.map fun _ => ()) >>= fun _ => rest) = .error fault := by
    cases x with
    | error e => constructor <;> rintro ⟨⟩ <;> rfl
    | ok a => exact same a
  unfold ofLookup
  refine next fun protocol => next fun level => next fun timeout => next fun interval =>
    next fun sessions => ?_
  constructor <;> rintro ⟨⟩

theorem ofLookup_fails_iff : (∃ fault, ofLookup lookup = .error fault) ↔ ∃ v, Offends lookup v := by
  simp only [ofLookup_eq_error_iff, forM_fails_iff, verdict_fails_iff]
  constructor
  · rintro ⟨v, -, offends⟩
    exact ⟨v, offends⟩
  · rintro ⟨v, s, bare, holds, refused⟩
    exact ⟨v, refused.mem_checked, s, bare, holds, refused⟩

/-! ## What is accepted -/

/-- A configuration within the bounds that are checked, and without a text that would be read as
another one. -/
structure Sound (c : Configuration) : Prop where
  timeout : 0 ≤ c.limits.reconnectTimeout
  interval : 10 ≤ c.limits.reconnectInterval
  maxSessions : c.maxSessions ≠ some 0
  userAgent : ∀ s ∈ c.userAgent, Text.Bare s
  server : ∀ s ∈ c.server, Text.Bare s
  logFilter : Text.Bare c.logFilter

/-- The field that a variable gives is the same in both configurations. -/
def SameAt (c c' : Configuration) : Variable → Prop
  | .userAgent => c.userAgent = c'.userAgent
  | .protocol => c.protocol = c'.protocol
  | .server => c.server = c'.server
  | .logLevel => c.logLevel = c'.logLevel
  | .reconnectTimeout => c.limits.reconnectTimeout = c'.limits.reconnectTimeout
  | .reconnectInterval => c.limits.reconnectInterval = c'.limits.reconnectInterval
  | .maxSessions => c.maxSessions = c'.maxSessions
  | .logFilter => c.logFilter = c'.logFilter

variable {c : Configuration}

theorem logFilter_of_ofLookup (accepted : ofLookup lookup = .ok c) :
    c.logFilter = (value? lookup .logFilter).getD defaultLogFilter := by
  unfold ofLookup at accepted
  obtain ⟨protocol, -, accepted⟩ := ok_of_bind accepted
  obtain ⟨level, -, accepted⟩ := ok_of_bind accepted
  obtain ⟨timeout, -, accepted⟩ := ok_of_bind accepted
  obtain ⟨interval, -, accepted⟩ := ok_of_bind accepted
  obtain ⟨sessions, -, accepted⟩ := ok_of_bind accepted
  cases accepted
  rfl

/-- What the variables say is what is read. -/
theorem ofLookup_of_readFrom (read : ReadFrom lookup c)
    (logFilter : c.logFilter = (value? lookup .logFilter).getD defaultLogFilter) :
    ofLookup lookup = .ok c := by
  obtain ⟨userAgent, protocol, server, ⟨level, hlevel, setLevel⟩, ⟨timeout, htimeout, setTimeout⟩,
    ⟨interval, hinterval, setInterval⟩, sessions⟩ := read
  obtain ⟨agent, p, url, l, ⟨t, i⟩, n, filter⟩ := c
  simp only at *
  subst userAgent server setLevel setTimeout setInterval logFilter
  simp only [ofLookup, protocol, hlevel, htimeout, hinterval, sessions]
  rfl

theorem ofLookup_eq_ok_iff :
    ofLookup lookup = .ok c ↔
      ReadFrom lookup c ∧ c.logFilter = (value? lookup .logFilter).getD defaultLogFilter := by
  constructor
  · intro accepted
    exact ⟨readFrom_of_ofLookup accepted, logFilter_of_ofLookup accepted⟩
  · rintro ⟨read, logFilter⟩
    exact ofLookup_of_readFrom read logFilter

theorem ReadFrom.maxSessions_ne_zero (read : ReadFrom lookup c) : c.maxSessions ≠ some 0 := by
  intro zero
  have made := read.maxSessions
  rw [zero] at made
  obtain ⟨s, -, accepted⟩ := read_of_readVariable made
  exact (readSessions_eq_ok_iff.mp accepted).2 rfl

theorem sound_of_ofLookup (accepted : ofLookup lookup = .ok c) : Sound c := by
  have read := readFrom_of_ofLookup accepted
  refine ⟨read.timeout_nonneg, read.interval_ge, read.maxSessions_ne_zero, ?_, ?_, ?_⟩
  · intro s given
    exact (value?_eq_some_iff.mp (read.userAgent.symm.trans given)).1
  · intro s given
    exact (value?_eq_some_iff.mp (read.server.symm.trans given)).1
  · rw [logFilter_of_ofLookup accepted]
    cases given : value? lookup .logFilter with
    | none => decide
    | some s => exact (value?_eq_some_iff.mp given).1

/-- The readers find what the variables say; what they check beyond that holds of a sound
configuration. -/
theorem forall_says_iff (sound : Sound c) :
    (∀ v, Says lookup c v) ↔
      ReadFrom lookup c ∧ c.logFilter = (value? lookup .logFilter).getD defaultLogFilter := by
  constructor
  · intro said
    refine ⟨⟨says_userAgent_iff.mp (said _), says_protocol_iff.mp (said _),
      says_server_iff.mp (said _), says_logLevel_iff.mp (said _),
      (says_timeout_iff sound.timeout).mp (said _), (says_interval_iff sound.interval).mp (said _),
      (says_sessions_iff sound.maxSessions).mp (said _)⟩, says_logFilter_iff.mp (said _)⟩
  · rintro ⟨read, logFilter⟩ v
    cases v with
    | userAgent => exact says_userAgent_iff.mpr read.userAgent
    | protocol => exact says_protocol_iff.mpr read.protocol
    | server => exact says_server_iff.mpr read.server
    | logLevel => exact says_logLevel_iff.mpr read.logLevel
    | reconnectTimeout => exact (says_timeout_iff sound.timeout).mpr read.timeout
    | reconnectInterval => exact (says_interval_iff sound.interval).mpr read.interval
    | maxSessions => exact (says_sessions_iff sound.maxSessions).mpr read.maxSessions
    | logFilter => exact says_logFilter_iff.mpr logFilter

/-- What is accepted is sound and as the variables say, and nothing else is. -/
theorem ofLookup_eq_ok_iff_sound :
    ofLookup lookup = .ok c ↔ Sound c ∧ ∀ v, Says lookup c v := by
  rw [ofLookup_eq_ok_iff]
  constructor
  · intro read
    have sound := sound_of_ofLookup (ofLookup_eq_ok_iff.mpr read)
    exact ⟨sound, (forall_says_iff sound).mpr read⟩
  · rintro ⟨sound, said⟩
    exact (forall_says_iff sound).mp said

/-- What is read of a variable does not depend on another one. -/
theorem sameAt_of_ofLookup {lookup' : String → Option String} {c' : Configuration}
    (accepted : ofLookup lookup = .ok c) (accepted' : ofLookup lookup' = .ok c')
    (same : lookup' v.name = lookup v.name) : SameAt c c' v := by
  have read := readFrom_of_ofLookup accepted
  have read' := readFrom_of_ofLookup accepted'
  have once {α : Type} {reader : String → Except ConfigReason α} {a a' : Option α}
      (made : readVariable lookup v reader = .ok a)
      (made' : readVariable lookup' v reader = .ok a') : a = a' := by
    rw [readVariable_congr same, made] at made'
    exact Except.ok.inj made'
  cases v with
  | userAgent => rw [SameAt, read.userAgent, read'.userAgent, value?_congr same]
  | protocol => exact once read.protocol read'.protocol
  | server => rw [SameAt, read.server, read'.server, value?_congr same]
  | logLevel =>
      obtain ⟨level, made, set⟩ := read.logLevel
      obtain ⟨level', made', set'⟩ := read'.logLevel
      rw [SameAt, set, set', once made made']
  | reconnectTimeout =>
      obtain ⟨n, made, set⟩ := read.timeout
      obtain ⟨n', made', set'⟩ := read'.timeout
      rw [SameAt, set, set', once made made']
  | reconnectInterval =>
      obtain ⟨n, made, set⟩ := read.interval
      obtain ⟨n', made', set'⟩ := read'.interval
      rw [SameAt, set, set', once made made']
  | maxSessions => exact once read.maxSessions read'.maxSessions
  | logFilter =>
      rw [SameAt, logFilter_of_ofLookup accepted, logFilter_of_ofLookup accepted',
        value?_congr same]

/-- **A configuration is accepted exactly when it is valid.** Reading fails if a variable has a
value that it cannot have, and in no other case. The fault tells of the first such variable, and no
other variable behind it changes the fault. What is accepted is sound and says in each field what
the field's own variable says, and a configuration of which this holds is the one that is accepted.
Where two sets of variables are accepted and agree on a variable, its field is the same. -/
theorem accepted_iff_valid (lookup : String → Option String) :
    ((∃ fault, ofLookup lookup = .error fault) ↔ ∃ v, Offends lookup v) ∧
    (∀ fault, ofLookup lookup = .error fault →
      ∃ before after, Variable.checked = before ++ fault.var :: after ∧
        Offends lookup fault.var ∧ (∀ v ∈ before, ¬ Offends lookup v) ∧
        ∀ lookup' : String → Option String,
          (∀ v ∈ before ++ [fault.var], lookup' v.name = lookup v.name) →
          ofLookup lookup' = .error fault) ∧
    (∀ c, ofLookup lookup = .ok c ↔ Sound c ∧ ∀ v, Says lookup c v) ∧
    ∀ c, ofLookup lookup = .ok c →
      ∀ lookup' c', ofLookup lookup' = .ok c' →
        ∀ v : Variable, lookup' v.name = lookup v.name → SameAt c c' v := by
  refine ⟨ofLookup_fails_iff, ?_, fun _ => ofLookup_eq_ok_iff_sound, ?_⟩
  · intro fault failed
    obtain ⟨before, v, after, order, refused, fine⟩ :=
      forM_eq_error_iff.mp (ofLookup_eq_error_iff.mp failed)
    obtain rfl := var_of_verdict refused
    refine ⟨before, after, order, verdict_fails_iff.mp ⟨fault, refused⟩, ?_, ?_⟩
    · intro v mem offends
      obtain ⟨other, refused'⟩ := verdict_fails_iff.mpr offends
      cases (fine v mem).symm.trans refused'
    · intro lookup' same
      apply ofLookup_eq_error_iff.mpr
      apply forM_eq_error_iff.mpr
      refine ⟨before, fault.var, after, order, ?_, ?_⟩
      · rw [verdict_congr (same _ (by simp)), refused]
      · intro v mem
        rw [verdict_congr (same v (List.mem_append_left _ mem)), fine v mem]
  · intro c accepted lookup' c' accepted' v same
    exact sameAt_of_ofLookup accepted accepted' same

/-- A level that is none, and behind it an interval that is too short. -/
def loudVariables : String → Option String := fun name =>
  [("OC_BRIDGE_LOG_LEVEL", " loud "), ("OC_BRIDGE_RECONNECT_INTERVAL", "+5")].lookup name

/-- Each of the texts stands for something: a protocol and a level by their other names, numbers
with a sign and with zeros in front, and a server within white space. -/
def plainVariables : String → Option String := fun name =>
  [("OC_BRIDGE_PROTOCOL", "GlobalProtect"), ("OC_BRIDGE_SERVER", "\tvpn.example "),
    ("OC_BRIDGE_LOG_LEVEL", " Error"), ("OC_BRIDGE_RECONNECT_INTERVAL", "+60"),
    ("OC_BRIDGE_MAX_SESSIONS", "007"), ("OC_BRIDGE_LOG", "  ")].lookup name

def plain : Configuration :=
  ⟨none, some .globalProtect, some "vpn.example", .error, ⟨300, 60⟩, some 7, "info"⟩

/-- A level that is none is reported, also if the interval behind it is mended. What is accepted
is what the variables say, and a user agent changes nothing else. -/
theorem loud_reported_plain_accepted :
    (ofLookup loudVariables = .error ⟨.logLevel, .level ⟨"loud"⟩⟩ ∧
      ofLookup (fun name =>
        if name = Variable.reconnectInterval.name then some "60" else loudVariables name) =
          .error ⟨.logLevel, .level ⟨"loud"⟩⟩) ∧
    ofLookup plainVariables = .ok plain ∧ (∀ v, ¬ Offends plainVariables v) ∧ Sound plain ∧
      (∀ v, Says plainVariables plain v) ∧
      ∃ c, ofLookup (fun name =>
          if name = Variable.userAgent.name then some "Corp" else plainVariables name) = .ok c ∧
        c.userAgent = some "Corp" ∧ ∀ v ≠ .userAgent, SameAt plain c v := by
  constructor
  · have failed : ofLookup loudVariables = .error ⟨.logLevel, .level ⟨"loud"⟩⟩ := by rfl
    refine ⟨failed, ?_⟩
    obtain ⟨-, faults, -⟩ := accepted_iff_valid loudVariables
    obtain ⟨before, after, order, -, -, unchanged⟩ := faults _ failed
    apply unchanged
    -- Only the protocol is looked at before the level.
    rcases before with - | ⟨first, - | ⟨second, before⟩⟩
    · cases order
    · cases order
      decide
    · injection order with _ order
      injection order with _ order
      have mem : Variable.logLevel ∈ before ++ .logLevel :: after := by simp
      have later : Variable.logLevel ∉ [.reconnectTimeout, .reconnectInterval, .maxSessions] := by
        decide
      exact absurd (order ▸ mem) later
  · have accepted : ofLookup plainVariables = .ok plain := by rfl
    obtain ⟨fails, -, accepts, own⟩ := accepted_iff_valid plainVariables
    obtain ⟨sound, said⟩ := (accepts plain).mp accepted
    have named : ofLookup (fun name =>
        if name = Variable.userAgent.name then some "Corp" else plainVariables name) =
          .ok { plain with userAgent := some "Corp" } := by rfl
    refine ⟨accepted, ?_, sound, said, _, named, rfl, ?_⟩
    · intro v offends
      obtain ⟨fault, failed⟩ := fails.mpr ⟨v, offends⟩
      cases accepted.symm.trans failed
    · intro v other
      refine own plain accepted _ _ named v ?_
      cases v with
      | userAgent => exact absurd rfl other
      | _ => rfl

end Configuration
end TunnelControl
