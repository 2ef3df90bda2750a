import TunnelControl.Proofs.Configuration
import TunnelControl.Proofs.Text.Decimal

/-!
# What the variables say

The texts of one variable, in terms that do not mention the readers: those that it cannot have
(`Variable.Refuses`), and what the others stand for (`Configuration.Says`). Five variables can have
a value that is refused: a name that is unknown, or a text that is no number or one outside its
bounds. The readers fail on these values and on no others, and they find what is said.
-/

namespace TunnelControl

/-! ## Values that are refused -/

/-- The words that name a protocol. -/
def Protocol.words : List String :=
  ["anyconnect", "gp", "globalprotect", "pulse", "nc", "fortinet", "f5", "array"]

/-- The words that name a level. -/
def Level.words : List String := ["err", "error", "info", "debug", "trace"]

/-- The text is that of no number of the type, or of one that is ruled out. -/
def NoNumber {α : Type} (isNumber ruledOut : α → Prop) : Prop :=
  (¬ ∃ n, isNumber n) ∨ ∃ n, isNumber n ∧ ruledOut n

/-- The values that the variable cannot have. -/
def Variable.Refuses : Variable → String → Prop
  | .protocol, s => ∀ word ∈ Protocol.words, Text.sameIgnoringCase word s = false
  | .logLevel, s => ∀ word ∈ Level.words, Text.sameIgnoringCase word s = false
  | .reconnectTimeout, s => NoNumber (fun n : Int32 => Text.IsInteger s.toList n.toInt) (· < 0)
  | .reconnectInterval, s => NoNumber (fun n : Int32 => Text.IsInteger s.toList n.toInt) (· < 10)
  | .maxSessions, s => NoNumber (fun n : UInt64 => Text.IsNatural s.toList n.toNat) (· = 0)
  | .userAgent, _ | .server, _ | .logFilter, _ => False

/-- The variables whose values may be refused, in the order in which they are looked at. -/
def Variable.checked : List Variable :=
  [.protocol, .logLevel, .reconnectTimeout, .reconnectInterval, .maxSessions]

theorem Variable.Refuses.mem_checked {v : Variable} {s : String} (refused : v.Refuses s) :
    v ∈ checked := by
  cases v with
  | userAgent => exact refused.elim
  | server => exact refused.elim
  | logFilter => exact refused.elim
  | _ => decide

theorem Protocol.ofWord?_eq_none_iff {word : String} : ofWord? word = none ↔ word ∉ words := by
  unfold ofWord?
  split <;> simp_all [words]

theorem Level.ofWord?_eq_none_iff {word : String} : ofWord? word = none ↔ word ∉ words := by
  unfold ofWord?
  split <;> simp_all [words]

/-- A text is one of the words, in any letter case, if it is after its case is dropped. -/
theorem exists_same_iff {words : List String}
    (lower : ∀ word ∈ words, Text.asciiLower word = word) (s : String) :
    (∃ word ∈ words, Text.sameIgnoringCase word s = true) ↔ Text.asciiLower s ∈ words := by
  constructor
  · rintro ⟨word, mem, same⟩
    rw [Text.sameIgnoringCase, lower word mem, beq_iff_eq] at same
    rwa [← same]
  · intro mem
    refine ⟨Text.asciiLower s, mem, ?_⟩
    rw [Text.sameIgnoringCase, lower _ mem, beq_self_eq_true]

theorem forall_differs_iff {words : List String}
    (lower : ∀ word ∈ words, Text.asciiLower word = word) (s : String) :
    (∀ word ∈ words, Text.sameIgnoringCase word s = false) ↔ Text.asciiLower s ∉ words := by
  simp only [← exists_same_iff lower, not_exists, not_and, Bool.not_eq_true]

/-! ## Words and what they stand for -/

/-- The words for the protocol. -/
def Protocol.spellings : Protocol → List String
  | globalProtect => ["gp", "globalprotect"]
  | p => [p.name]

/-- The words for the level. -/
def Level.spellings : Level → List String
  | error => ["err", "error"]
  | l => [l.name]

/-- The text is a word for the protocol, in any letter case. -/
def Protocol.IsSpelled (p : Protocol) (s : String) : Prop :=
  ∃ word ∈ p.spellings, Text.sameIgnoringCase word s = true

def Level.IsSpelled (l : Level) (s : String) : Prop :=
  ∃ word ∈ l.spellings, Text.sameIgnoringCase word s = true

theorem Protocol.mem_spellings_iff {p : Protocol} {word : String} :
    word ∈ p.spellings ↔ ofWord? word = some p := by
  constructor
  · intro mem
    cases p with
    | globalProtect =>
        rcases List.mem_pair.mp mem with rfl | rfl
        · rfl
        · rfl
    | _ =>
        rw [List.mem_singleton.mp mem]
        rfl
  · intro found
    unfold ofWord? at found
    split at found <;> cases found <;> simp [spellings, name]

theorem Level.mem_spellings_iff {l : Level} {word : String} :
    word ∈ l.spellings ↔ ofWord? word = some l := by
  constructor
  · intro mem
    cases l with
    | error =>
        rcases List.mem_pair.mp mem with rfl | rfl
        · rfl
        · rfl
    | _ =>
        rw [List.mem_singleton.mp mem]
        rfl
  · intro found
    unfold ofWord? at found
    split at found <;> cases found <;> simp [spellings, name]

theorem Protocol.isSpelled_iff {p : Protocol} {s : String} :
    p.IsSpelled s ↔ ofWord? (Text.asciiLower s) = some p := by
  rw [IsSpelled, exists_same_iff (by cases p <;> decide), mem_spellings_iff]

theorem Level.isSpelled_iff {l : Level} {s : String} :
    l.IsSpelled s ↔ ofWord? (Text.asciiLower s) = some l := by
  rw [IsSpelled, exists_same_iff (by cases l <;> decide), mem_spellings_iff]

namespace Configuration

/-! ## Readers -/

theorem readProtocol_eq_ok_iff {s : String} {p : Protocol} (trimmed : Text.trim s = s) :
    readProtocol s = .ok p ↔ p.IsSpelled s := by
  rw [Protocol.isSpelled_iff, readProtocol, Protocol.parse, trimmed]
  cases Protocol.ofWord? (Text.asciiLower s) with
  | none => simp [Except.mapError]
  | some p' => simp [Except.mapError]

theorem readLevel_eq_ok_iff {s : String} {l : Level} (trimmed : Text.trim s = s) :
    readLevel s = .ok l ↔ l.IsSpelled s := by
  rw [Level.isSpelled_iff, readLevel, Level.parse, trimmed]
  cases Level.ofWord? (Text.asciiLower s) with
  | none => simp [Except.mapError]
  | some l' => simp [Except.mapError]

theorem readProtocol_fails_iff {s : String} (trimmed : Text.trim s = s) :
    (∃ reason, readProtocol s = .error reason) ↔ Variable.Refuses .protocol s := by
  rw [Variable.Refuses, forall_differs_iff (by decide), ← Protocol.ofWord?_eq_none_iff,
    readProtocol, Protocol.parse, trimmed]
  cases Protocol.ofWord? (Text.asciiLower s) with
  | none => simp [Except.mapError]
  | some p => simp [Except.mapError]

theorem readLevel_fails_iff {s : String} (trimmed : Text.trim s = s) :
    (∃ reason, readLevel s = .error reason) ↔ Variable.Refuses .logLevel s := by
  rw [Variable.Refuses, forall_differs_iff (by decide), ← Level.ofWord?_eq_none_iff,
    readLevel, Level.parse, trimmed]
  cases Level.ofWord? (Text.asciiLower s) with
  | none => simp [Except.mapError]
  | some p => simp [Except.mapError]

/-- A number that is read and then checked. -/
def checkedNumber {α : Type} (read : Except Text.DecimalFault α) (ruledOut : α → Prop)
    [DecidablePred ruledOut] (reason : ConfigReason) : Except ConfigReason α :=
  match read with
  | .error fault => .error (.number fault)
  | .ok n => if ruledOut n then .error reason else .ok n

theorem readTimeout_eq (s : String) :
    readTimeout s = checkedNumber (Text.readInt32 s.toList) (· < 0) .negative := by
  unfold readTimeout checkedNumber
  cases Text.readInt32 s.toList <;> rfl

theorem readInterval_eq (s : String) :
    readInterval s =
      checkedNumber (Text.readInt32 s.toList) (· < LoopLimits.shortestInterval) .tooShort := by
  unfold readInterval checkedNumber
  cases Text.readInt32 s.toList <;> rfl

theorem readSessions_eq (s : String) :
    readSessions s = checkedNumber (Text.readUInt64 s.toList) (· = 0) .zero := by
  unfold readSessions checkedNumber
  cases Text.readUInt64 s.toList <;> rfl

section

variable {α : Type} {read : Except Text.DecimalFault α} {ruledOut : α → Prop}
  [DecidablePred ruledOut] {reason : ConfigReason}

theorem checkedNumber_eq_ok_iff {n : α} :
    checkedNumber read ruledOut reason = .ok n ↔ read = .ok n ∧ ¬ ruledOut n := by
  unfold checkedNumber
  cases read with
  | error fault => simp
  | ok m =>
      by_cases bad : ruledOut m
      · simp only [bad, if_true]
        constructor
        · rintro ⟨⟩
        · rintro ⟨⟨⟩, fine⟩
          exact absurd bad fine
      · simp only [bad, if_false]
        constructor
        · rintro ⟨⟩
          exact ⟨rfl, bad⟩
        · rintro ⟨⟨⟩, -⟩
          rfl

theorem checkedNumber_fails_iff {isNumber : α → Prop} (accepts : ∀ n, read = .ok n ↔ isNumber n) :
    (∃ r, checkedNumber read ruledOut reason = .error r) ↔ NoNumber isNumber ruledOut := by
  unfold checkedNumber NoNumber
  simp only [← accepts]
  cases read with
  | error fault => simp
  | ok m => by_cases bad : ruledOut m <;> simp [bad]

end

theorem readTimeout_eq_ok_iff {s : String} {n : Int32} :
    readTimeout s = .ok n ↔ Text.IsInteger s.toList n.toInt ∧ 0 ≤ n := by
  rw [readTimeout_eq, checkedNumber_eq_ok_iff, Text.readInt32_eq_ok_iff, Int32.not_lt]

theorem readInterval_eq_ok_iff {s : String} {n : Int32} :
    readInterval s = .ok n ↔
      Text.IsInteger s.toList n.toInt ∧ LoopLimits.shortestInterval ≤ n := by
  rw [readInterval_eq, checkedNumber_eq_ok_iff, Text.readInt32_eq_ok_iff, Int32.not_lt]

theorem readSessions_eq_ok_iff {s : String} {n : UInt64} :
    readSessions s = .ok n ↔ Text.IsNatural s.toList n.toNat ∧ n ≠ 0 := by
  rw [readSessions_eq, checkedNumber_eq_ok_iff, Text.readUInt64_eq_ok_iff]

theorem readTimeout_fails_iff {s : String} :
    (∃ reason, readTimeout s = .error reason) ↔ Variable.Refuses .reconnectTimeout s := by
  rw [readTimeout_eq]
  exact checkedNumber_fails_iff fun _ => Text.readInt32_eq_ok_iff

theorem readInterval_fails_iff {s : String} :
    (∃ reason, readInterval s = .error reason) ↔ Variable.Refuses .reconnectInterval s := by
  rw [readInterval_eq]
  exact checkedNumber_fails_iff fun _ => Text.readInt32_eq_ok_iff

theorem readSessions_fails_iff {s : String} :
    (∃ reason, readSessions s = .error reason) ↔ Variable.Refuses .maxSessions s := by
  rw [readSessions_eq]
  exact checkedNumber_fails_iff fun _ => Text.readUInt64_eq_ok_iff

/-! ## One variable -/

variable {lookup : String → Option String} {v : Variable} {fault : ConfigFault}

/-- The variable is set to the text, with any white space around it. -/
def Holds (lookup : String → Option String) (v : Variable) (s : String) : Prop :=
  ∃ raw, lookup v.name = some raw ∧ Text.Padded s raw

/-- The variable is missing, or there is nothing but white space in it. -/
def Unset (lookup : String → Option String) (v : Variable) : Prop :=
  ∀ raw ∈ lookup v.name, ∀ c ∈ raw.toList, Text.isBlank c = true

/-- The variable is set to a value that it cannot have. -/
def Offends (lookup : String → Option String) (v : Variable) : Prop :=
  ∃ s, Text.Bare s ∧ Holds lookup v s ∧ v.Refuses s

theorem value?_eq_some_iff {s : String} :
    value? lookup v = some s ↔ Text.Bare s ∧ Holds lookup v s := by
  rw [value?, Option.filter_eq_some_iff, Option.map_eq_some_iff]
  constructor
  · rintro ⟨⟨raw, set, rfl⟩, visible⟩
    exact ⟨Text.bare_trim (by simpa using visible), raw, set, Text.padded_trim raw⟩
  · rintro ⟨bare, raw, set, padded⟩
    exact ⟨⟨raw, set, Text.trim_of_padded bare padded⟩, by simpa using bare.nonempty⟩

theorem value?_eq_none_iff : value? lookup v = none ↔ Unset lookup v := by
  rw [value?, Unset]
  cases lookup v.name with
  | none => simp
  | some raw => simp [Option.filter, ← Text.trim_eq_empty_iff]

/-- What comes of reading a variable, without the value that is read. -/
def verdict (lookup : String → Option String) (v : Variable) : Except ConfigFault Unit :=
  let without {α : Type} (read : String → Except ConfigReason α) : Except ConfigFault Unit :=
    (readVariable lookup v read).map fun _ => ()
  match v with
  | .protocol => without readProtocol
  | .logLevel => without readLevel
  | .reconnectTimeout => without readTimeout
  | .reconnectInterval => without readInterval
  | .maxSessions => without readSessions
  | .userAgent | .server | .logFilter => .ok ()

theorem value?_congr {lookup' : String → Option String} (same : lookup' v.name = lookup v.name) :
    value? lookup' v = value? lookup v := by
  rw [value?, same, value?]

theorem readVariable_congr {α : Type} {read : String → Except ConfigReason α}
    {lookup' : String → Option String} (same : lookup' v.name = lookup v.name) :
    readVariable lookup' v read = readVariable lookup v read := by
  rw [readVariable, value?_congr same, readVariable]

theorem verdict_congr {lookup' : String → Option String} (same : lookup' v.name = lookup v.name) :
    verdict lookup' v = verdict lookup v := by
  cases v <;> simp only [verdict, readVariable_congr same]

theorem map_readVariable_eq_error_iff {α : Type} {read : String → Except ConfigReason α} :
    ((readVariable lookup v read).map fun _ => ()) = .error fault ↔
      ∃ s reason, value? lookup v = some s ∧ read s = .error reason ∧ fault = ⟨v, reason⟩ := by
  unfold readVariable
  cases value? lookup v with
  | none => simp [Except.map]
  | some s => cases made : read s <;> simp [Except.map, made, eq_comm]

/-- A reader that refuses what the variable cannot have fails if there is such a value. -/
theorem readVariable_fails_iff {α : Type} {read : String → Except ConfigReason α}
    (refuses : ∀ {s}, Text.trim s = s → ((∃ reason, read s = .error reason) ↔ v.Refuses s)) :
    (∃ fault, ((readVariable lookup v read).map fun _ => ()) = .error fault) ↔
      Offends lookup v := by
  constructor
  · rintro ⟨fault, failed⟩
    obtain ⟨s, reason, given, fails, -⟩ := map_readVariable_eq_error_iff.mp failed
    obtain ⟨bare, holds⟩ := value?_eq_some_iff.mp given
    exact ⟨s, bare, holds, (refuses (value?_eq_some given).1).mp ⟨reason, fails⟩⟩
  · rintro ⟨s, bare, holds, refused⟩
    have given := value?_eq_some_iff.mpr ⟨bare, holds⟩
    obtain ⟨reason, fails⟩ := (refuses (value?_eq_some given).1).mpr refused
    exact ⟨⟨v, reason⟩, map_readVariable_eq_error_iff.mpr ⟨s, reason, given, fails, rfl⟩⟩

theorem verdict_fails_iff : (∃ fault, verdict lookup v = .error fault) ↔ Offends lookup v := by
  cases v with
  | protocol => exact readVariable_fails_iff readProtocol_fails_iff
  | logLevel => exact readVariable_fails_iff readLevel_fails_iff
  | reconnectTimeout => exact readVariable_fails_iff fun _ => readTimeout_fails_iff
  | reconnectInterval => exact readVariable_fails_iff fun _ => readInterval_fails_iff
  | maxSessions => exact readVariable_fails_iff fun _ => readSessions_fails_iff
  | _ => simp [verdict, Offends, Variable.Refuses]

/-- A fault tells of the variable that it was found in. -/
theorem var_of_verdict (failed : verdict lookup v = .error fault) : fault.var = v := by
  have own {α : Type} {read : String → Except ConfigReason α}
      (failed : ((readVariable lookup v read).map fun _ => ()) = .error fault) : fault.var = v := by
    obtain ⟨s, reason, -, -, rfl⟩ := map_readVariable_eq_error_iff.mp failed
    rfl
  cases v with
  | userAgent => cases failed
  | server => cases failed
  | logFilter => cases failed
  | _ => exact own failed

/-! ## What the variables say -/

/-- The variable holds a text that stands for what is there, or it is unset and what is there is
what stands where nothing is said. -/
def Yields {α : Type} (lookup : String → Option String) (v : Variable)
    (standsFor : String → α → Prop) (absent a : α) : Prop :=
  (Unset lookup v ∧ a = absent) ∨ ∃ s, Text.Bare s ∧ Holds lookup v s ∧ standsFor s a

/-- The field that the variable gives is what the variable says. -/
def Says (lookup : String → Option String) (c : Configuration) : Variable → Prop
  | .userAgent => Yields lookup .userAgent (fun s t => t = some s) none c.userAgent
  | .protocol =>
    Yields lookup .protocol (fun s p => ∃ known ∈ p, known.IsSpelled s) none c.protocol
  | .server => Yields lookup .server (fun s t => t = some s) none c.server
  | .logLevel => Yields lookup .logLevel (fun s l => l.IsSpelled s) Level.default c.logLevel
  | .reconnectTimeout =>
    Yields lookup .reconnectTimeout (fun s n => Text.IsInteger s.toList n.toInt)
      LoopLimits.default.reconnectTimeout c.limits.reconnectTimeout
  | .reconnectInterval =>
    Yields lookup .reconnectInterval (fun s n => Text.IsInteger s.toList n.toInt)
      LoopLimits.default.reconnectInterval c.limits.reconnectInterval
  | .maxSessions =>
    Yields lookup .maxSessions (fun s n => ∃ k ∈ n, Text.IsNatural s.toList k.toNat) none
      c.maxSessions
  | .logFilter => Yields lookup .logFilter (fun s t => t = s) defaultLogFilter c.logFilter

section

variable {α β : Type} {standsFor : String → β → Prop} {absent b : β}

theorem yields_iff :
    Yields lookup v standsFor absent b ↔
      (value? lookup v).elim (b = absent) fun s => standsFor s b := by
  rw [Yields, ← value?_eq_none_iff]
  simp only [← and_assoc, ← value?_eq_some_iff]
  cases value? lookup v with
  | none => simp
  | some s => simp

/-- A text that is kept as it is. -/
theorem yields_value_iff {f : Option String → β} :
    Yields lookup v (fun s b => b = f (some s)) (f none) b ↔ b = f (value? lookup v) := by
  rw [yields_iff]
  cases value? lookup v with
  | none => rfl
  | some s => rfl

/-- A text that a reader takes to what it stands for. -/
theorem yields_readVariable_iff {read : String → Except ConfigReason α} {f : Option α → β}
    (reads : ∀ s, Text.trim s = s → (standsFor s b ↔ ∃ a, read s = .ok a ∧ b = f (some a))) :
    Yields lookup v standsFor (f none) b ↔
      ∃ x, readVariable lookup v read = .ok x ∧ b = f x := by
  rw [yields_iff, readVariable]
  cases given : value? lookup v with
  | none => simp
  | some s =>
      rw [Option.elim_some, reads s (value?_eq_some given).1]
      cases made : read s with
      | error reason => simp [made]
      | ok a => simp [made]

end

section

variable {c : Configuration}

theorem says_userAgent_iff :
    Says lookup c .userAgent ↔ c.userAgent = value? lookup .userAgent :=
  yields_value_iff (f := id)

theorem says_server_iff : Says lookup c .server ↔ c.server = value? lookup .server :=
  yields_value_iff (f := id)

theorem says_logFilter_iff :
    Says lookup c .logFilter ↔
      c.logFilter = (value? lookup .logFilter).getD defaultLogFilter :=
  yields_value_iff (f := (·.getD defaultLogFilter))

theorem says_protocol_iff :
    Says lookup c .protocol ↔ readVariable lookup .protocol readProtocol = .ok c.protocol := by
  have reads (s : String) (trimmed : Text.trim s = s) :
      (∃ known ∈ c.protocol, known.IsSpelled s) ↔
        ∃ p, readProtocol s = .ok p ∧ c.protocol = some p := by
    simp only [readProtocol_eq_ok_iff trimmed, Option.mem_def, and_comm]
  rw [Says]
  refine Iff.trans (yields_readVariable_iff (f := id) reads) ?_
  simp

theorem says_logLevel_iff :
    Says lookup c .logLevel ↔
      ∃ l, readVariable lookup .logLevel readLevel = .ok l ∧
        c.logLevel = l.getD Level.default := by
  have reads (s : String) (trimmed : Text.trim s = s) :
      c.logLevel.IsSpelled s ↔ ∃ l, readLevel s = .ok l ∧ c.logLevel = l := by
    simp only [readLevel_eq_ok_iff trimmed, exists_eq_right']
  rw [Says]
  exact yields_readVariable_iff (f := (·.getD Level.default)) reads

theorem says_timeout_iff (bound : 0 ≤ c.limits.reconnectTimeout) :
    Says lookup c .reconnectTimeout ↔
      ∃ n, readVariable lookup .reconnectTimeout readTimeout = .ok n ∧
        c.limits.reconnectTimeout = n.getD LoopLimits.default.reconnectTimeout := by
  have reads (s : String) (_ : Text.trim s = s) :
      Text.IsInteger s.toList c.limits.reconnectTimeout.toInt ↔
        ∃ n, readTimeout s = .ok n ∧ c.limits.reconnectTimeout = n := by
    simp only [readTimeout_eq_ok_iff, exists_eq_right', bound, and_true]
  rw [Says]
  exact yields_readVariable_iff (f := (·.getD LoopLimits.default.reconnectTimeout)) reads

theorem says_interval_iff (bound : LoopLimits.shortestInterval ≤ c.limits.reconnectInterval) :
    Says lookup c .reconnectInterval ↔
      ∃ n, readVariable lookup .reconnectInterval readInterval = .ok n ∧
        c.limits.reconnectInterval = n.getD LoopLimits.default.reconnectInterval := by
  have reads (s : String) (_ : Text.trim s = s) :
      Text.IsInteger s.toList c.limits.reconnectInterval.toInt ↔
        ∃ n, readInterval s = .ok n ∧ c.limits.reconnectInterval = n := by
    simp only [readInterval_eq_ok_iff, exists_eq_right', bound, and_true]
  rw [Says]
  exact yields_readVariable_iff (f := (·.getD LoopLimits.default.reconnectInterval)) reads

theorem says_sessions_iff (bound : c.maxSessions ≠ some 0) :
    Says lookup c .maxSessions ↔
      readVariable lookup .maxSessions readSessions = .ok c.maxSessions := by
  have reads (s : String) (_ : Text.trim s = s) :
      (∃ k ∈ c.maxSessions, Text.IsNatural s.toList k.toNat) ↔
        ∃ n, readSessions s = .ok n ∧ c.maxSessions = some n := by
    simp only [readSessions_eq_ok_iff, Option.mem_def]
    constructor
    · rintro ⟨k, set, natural⟩
      refine ⟨k, ⟨natural, ?_⟩, set⟩
      rintro rfl
      exact bound set
    · rintro ⟨k, ⟨natural, -⟩, set⟩
      exact ⟨k, set, natural⟩
  rw [Says]
  refine Iff.trans (yields_readVariable_iff (f := id) reads) ?_
  simp

end

end Configuration
end TunnelControl
