import TunnelControl.Proofs.History

/-!
# Numbers of engines

Engines are numbered in the order in which they are made, and attempts that make none use up
no number. A number comes back only after 2^64 engines, so as long as there are fewer every
session is told from every other by the number of its engine.
-/

namespace TunnelControl

/-- The number of the engine that comes after `n` others. -/
def EngineId.nth (n : Nat) : EngineId := ⟨UInt64.ofNat (n + 1)⟩

theorem EngineId.next_nth (n : Nat) : (nth n).next = nth (n + 1) := by
  simp [next, nth, UInt64.ofNat_add]

theorem EngineId.nth_inj {m n : Nat} (hm : m < UInt64.size) (hn : n < UInt64.size)
    (same : nth m = nth n) : m = n := by
  have raw := congrArg (fun id : EngineId => id.raw.toNat) same
  simp only [nth, UInt64.toNat_ofNat'] at raw
  simp only [UInt64.size] at hm hn
  omega

namespace World

open Engine (Note)

variable {ε : Type}

/-- How many engines were made. -/
def engines (sessions : List (Option (Session ε))) : Nat := sessions.countP (·.isSome)

theorem engines_congr {sessions sessions' : List (Option (Session ε))}
    (same : sessions'.map Option.isSome = sessions.map Option.isSome) (k : Nat) :
    engines (sessions'.take k) = engines (sessions.take k) := by
  have taken := congrArg (fun l => (l.take k).countP id) same
  simpa [engines, ← List.map_take, List.countP_map, Function.comp_def] using taken

/-- Of two engines the later one has more engines before it. -/
theorem engines_take_lt {sessions : List (Option (Session ε))} {j k : Nat} {s : Session ε}
    (place : sessions[j]? = some (some s)) (before : j < k) :
    engines (sessions.take j) < engines (sessions.take k) := by
  obtain ⟨hj, here⟩ := List.getElem?_eq_some_iff.mp place
  have le : engines (sessions.take (j + 1)) ≤ engines (sessions.take k) :=
    (List.take_prefix_take_left before).sublist.countP_le
  have counted : engines (sessions.take (j + 1)) = engines (sessions.take j) + 1 := by
    simp [engines, List.take_succ_eq_append_getElem hj, here, List.countP_append]
  omega

variable [Engine ε] {configs : List RunnerConfig} {w : World ε}

/-- Every engine has the number that the engines before it leave for it. -/
structure Numbered (w : World ε) : Prop where
  next : w.nextId = .nth (engines w.sessions)
  own : ∀ k s, w.session? k = some s → s.id = .nth (engines (w.sessions.take k))

theorem id_of_transition {runners : List Runner} {s : Session ε} {a : Session.Act ε}
    {r : Session.Result ε (Note ε)} (trans : Session.Transition runners s a r) :
    r.session.id = s.id := by
  cases trans <;> rfl

theorem id_of_make {plan : Engine.Plan ε} {agent : String} {lifecycle : Lifecycle}
    {s : Session ε} (made : (w.make plan agent lifecycle).1 = some s) : s.id = w.nextId := by
  unfold make at made
  split at made
  · simp at made
  · cases made
    rfl

theorem Numbered.attempt (numbered : Numbered w) (plan : Engine.Plan ε) (agent : String)
    (lifecycle : Lifecycle) : Numbered (w.attempt plan agent lifecycle) := by
  obtain ⟨next, own⟩ := numbered
  constructor
  · have counted : engines (w.attempt plan agent lifecycle).sessions =
        engines w.sessions + if (w.make plan agent lifecycle).1.isSome then 1 else 0 := by
      simp [sessions_attempt, engines, List.countP_append, List.countP_cons]
    rw [counted]
    change (if (w.make plan agent lifecycle).1.isSome then w.nextId.next else w.nextId) = _
    split
    · rw [next, EngineId.next_nth]
    · exact next
  · intro k s found
    rw [session?_eq_some_iff, sessions_attempt] at found
    rw [sessions_attempt]
    rcases Nat.lt_or_ge k w.sessions.length with old | last
    · rw [List.getElem?_append_left old] at found
      rw [List.take_append_of_le_length (Nat.le_of_lt old)]
      exact own k s (session?_eq_some_iff.mpr found)
    · obtain ⟨here, made⟩ :
          k - w.sessions.length = 0 ∧ (w.make plan agent lifecycle).1 = some s := by
        simpa [List.getElem?_append_right last, List.getElem?_singleton] using found
      obtain rfl : k = w.sessions.length := Nat.le_antisymm (Nat.le_of_sub_eq_zero here) last
      rw [id_of_make made, next, List.take_left]

theorem Numbered.advance {k : Nat} {s : Session ε} {a : Session.Act ε}
    {r : Session.Result ε (Note ε)} (numbered : Numbered w) (found : w.session? k = some s)
    (trans : Session.Transition w.runners s a r) : Numbered (w.advance k r) := by
  obtain ⟨next, own⟩ := numbered
  obtain ⟨hlt, here⟩ := List.getElem?_eq_some_iff.mp (session?_eq_some_iff.mp found)
  have same : (w.advance k r).sessions.map Option.isSome = w.sessions.map Option.isSome := by
    refine List.ext_getElem? fun j => ?_
    by_cases hj : k = j
    · subst hj
      simp [World.advance, hlt, here]
    · simp [World.advance, hj]
  constructor
  · have all := engines_congr same w.sessions.length
    have length : (w.advance k r).sessions.length = w.sessions.length := length_sessions_advance r
    rw [List.take_length, ← length, List.take_length] at all
    rw [all]
    exact next
  · intro j t found'
    rw [engines_congr same]
    rw [session?_advance found] at found'
    split at found'
    · rename_i hj
      cases found'
      rw [id_of_transition trans, hj]
      exact own k s found
    · exact own j t found'

theorem Reachable.numbered (reach : Reachable configs w) : Numbered w := by
  induction reach with
  | start => exact ⟨rfl, by simp [new, session?]⟩
  | @step w w' action before made ih =>
      cases action with
      | create plan agent lifecycle =>
          cases made
          exact ih.attempt plan agent lifecycle
      | act k a =>
          obtain ⟨s, r, found, trans, rfl⟩ := act_cases made
          exact ih.advance found trans

/-- **Numbers tell engines apart**, as long as there are fewer than 2^64. -/
theorem Reachable.key_eq_of_id {j k : Nat} {s t : Session ε} (reach : Reachable configs w)
    (few : engines w.sessions < UInt64.size) (found : w.session? j = some s)
    (found' : w.session? k = some t) (same : s.id = t.id) : j = k := by
  have numbered := reach.numbered
  have lt : ∀ i, engines (w.sessions.take i) < UInt64.size := fun i =>
    Nat.lt_of_le_of_lt ((List.take_sublist i w.sessions).countP_le) few
  rw [numbered.own j s found, numbered.own k t found'] at same
  have equal := EngineId.nth_inj (lt j) (lt k) same
  rcases Nat.lt_trichotomy j k with before | same | after
  · have := engines_take_lt (session?_eq_some_iff.mp found) before
    omega
  · exact same
  · have := engines_take_lt (session?_eq_some_iff.mp found') after
    omega

end World
end TunnelControl
