import TunnelControl.Proofs.Text.Blank
import TunnelControl.Runner

/-!
# What is read from variables

A configuration that is accepted says what the variables say (`Configuration.ReadFrom`), keeps
within the bounds that readers check, and has a user agent to present that is not blank: an
explicit one has no white space around it, so it would be unset if there were nothing else in it.
-/

namespace TunnelControl

namespace Configuration

variable {lookup : String → Option String} {c : Configuration}

theorem value?_eq_some {v : Variable} {s : String} (given : value? lookup v = some s) :
    Text.trim s = s ∧ s ≠ "" := by
  obtain ⟨found, visible⟩ := Option.filter_eq_some_iff.mp given
  obtain ⟨raw, -, rfl⟩ := Option.map_eq_some_iff.mp found
  exact ⟨Text.trim_trim raw, by simpa using visible⟩

/-! ## Reading -/

theorem ok_of_bind {α β : Type} {x : Except ConfigFault α} {f : α → Except ConfigFault β} {b : β}
    (made : x >>= f = .ok b) : ∃ a, x = .ok a ∧ f a = .ok b := by
  cases x with
  | error fault => cases made
  | ok a => exact ⟨a, rfl, made⟩

/-- The configuration says what the variables say. -/
structure ReadFrom (lookup : String → Option String) (c : Configuration) : Prop where
  userAgent : c.userAgent = value? lookup .userAgent
  protocol : readVariable lookup .protocol readProtocol = .ok c.protocol
  server : c.server = value? lookup .server
  logLevel : ∃ level, readVariable lookup .logLevel readLevel = .ok level ∧
    c.logLevel = level.getD Level.default
  timeout : ∃ n, readVariable lookup .reconnectTimeout readTimeout = .ok n ∧
    c.limits.reconnectTimeout = n.getD LoopLimits.default.reconnectTimeout
  interval : ∃ n, readVariable lookup .reconnectInterval readInterval = .ok n ∧
    c.limits.reconnectInterval = n.getD LoopLimits.default.reconnectInterval
  maxSessions : readVariable lookup .maxSessions readSessions = .ok c.maxSessions

theorem readFrom_of_ofLookup (accepted : ofLookup lookup = .ok c) : ReadFrom lookup c := by
  unfold ofLookup at accepted
  obtain ⟨protocol, hprotocol, accepted⟩ := ok_of_bind accepted
  obtain ⟨level, hlevel, accepted⟩ := ok_of_bind accepted
  obtain ⟨timeout, htimeout, accepted⟩ := ok_of_bind accepted
  obtain ⟨interval, hinterval, accepted⟩ := ok_of_bind accepted
  obtain ⟨sessions, hsessions, accepted⟩ := ok_of_bind accepted
  cases accepted
  exact ⟨rfl, hprotocol, rfl, ⟨level, hlevel, rfl⟩, ⟨timeout, htimeout, rfl⟩,
    ⟨interval, hinterval, rfl⟩, hsessions⟩

/-- A reader has accepted the value of a variable that is set. -/
theorem read_of_readVariable {α : Type} {v : Variable} {read : String → Except ConfigReason α}
    {a : α} (made : readVariable lookup v read = .ok (some a)) :
    ∃ s, value? lookup v = some s ∧ read s = .ok a := by
  unfold readVariable at made
  split at made
  · cases made
  · rename_i s given
    split at made
    · rename_i a' accepted
      cases made
      exact ⟨s, given, accepted⟩
    · cases made

theorem le_of_readTimeout {s : String} {n : Int32} (made : readTimeout s = .ok n) : 0 ≤ n := by
  unfold readTimeout at made
  split at made
  · cases made
  · split at made
    · cases made
    · rename_i bound
      cases made
      exact Int32.not_lt.mp bound

theorem le_of_readInterval {s : String} {n : Int32} (made : readInterval s = .ok n) :
    LoopLimits.shortestInterval ≤ n := by
  unfold readInterval at made
  split at made
  · cases made
  · split at made
    · cases made
    · rename_i bound
      cases made
      exact Int32.not_lt.mp bound

namespace ReadFrom

theorem timeout_nonneg (read : ReadFrom lookup c) : 0 ≤ c.limits.reconnectTimeout := by
  obtain ⟨n, made, same⟩ := read.timeout
  cases n with
  | none =>
      rw [same]
      decide
  | some n =>
      obtain ⟨s, -, accepted⟩ := read_of_readVariable made
      rw [same]
      exact le_of_readTimeout accepted

theorem interval_ge (read : ReadFrom lookup c) :
    LoopLimits.shortestInterval ≤ c.limits.reconnectInterval := by
  obtain ⟨n, made, same⟩ := read.interval
  cases n with
  | none =>
      rw [same]
      decide
  | some n =>
      obtain ⟨s, -, accepted⟩ := read_of_readVariable made
      rw [same]
      exact le_of_readInterval accepted

/-- The user agent to present is never blank. -/
theorem userAgent_visible (read : ReadFrom lookup c) : Text.trim c.effectiveUserAgent ≠ "" := by
  rw [effectiveUserAgent]
  cases explicit : c.userAgent with
  | some agent =>
      obtain ⟨trimmed, visible⟩ := value?_eq_some (read.userAgent.symm.trans explicit)
      rw [Option.some_or, Option.getD_some, trimmed]
      exact visible
  | none =>
      rw [Option.none_or]
      cases c.protocol with
      | none => decide
      | some p => cases p <;> decide

/-- The settings are the log level, the protocol if there is one, and the server if there is
one. -/
theorem settings_eq (read : ReadFrom lookup c) :
    c.options.settings = [.logLevel c.logLevel] ++ (c.protocol.map Setting.protocol).toList ++
      ((value? lookup .server).map Setting.url).toList := by
  have server : c.server.filter (fun s => !s.isEmpty) = value? lookup .server := by
    rw [read.server]
    cases given : value? lookup .server with
    | none => rfl
    | some s => simp [Option.filter, (value?_eq_some given).2]
  simp [Options.settings, options, Options.default, server]

end ReadFrom

end Configuration
end TunnelControl
