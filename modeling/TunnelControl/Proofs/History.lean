import TunnelControl.Proofs.Transition

/-!
# Histories in reachable worlds

The trace of a world interleaves what happens in all of its sessions. A step
adds to the history of one session and leaves every other alone, so what the
transitions of a single session preserve holds of every session of every
reachable world: `Reachable.session_invariant`. Sessions for which no engine
could be made have the one history of `Reachable.unmade`.
-/

namespace TunnelControl.World

open Engine (Note)
open Session (Transition)

variable {ε : Type} [Engine ε] {w w' : World ε} {key : Nat} {s : Session ε}

/-! ## What one step changes -/

theorem session?_eq_some_iff : w.session? key = some s ↔ w.sessions[key]? = some (some s) := by
  unfold session?
  cases w.sessions[key]? <;> simp

theorem lt_length_of_session? (h : w.session? key = some s) : key < w.sessions.length :=
  (List.getElem?_eq_some_iff.mp (session?_eq_some_iff.mp h)).1

private theorem filterMap_own (es : List (Event (Note ε))) :
    (es.map (key, ·)).filterMap
      (fun (k, event) => if k = key then some event else none) = es := by
  induction es with
  | nil => rfl
  | cons e es ih =>
      rw [List.map_cons, List.filterMap_cons, ih]
      simp

private theorem filterMap_other {k : Nat} (hne : key ≠ k) (es : List (Event (Note ε))) :
    (es.map (key, ·)).filterMap
      (fun (j, event) => if j = k then some event else none) = [] := by
  induction es with
  | nil => rfl
  | cons e es ih => simp [hne]

theorem history_advance (r : Session.Result ε (Note ε)) (k : Nat) :
    (w.advance key r).history k =
      if k = key then w.history k ++ r.seen else w.history k := by
  simp only [history, advance, List.filterMap_append]
  split
  · rename_i h
    subst h
    rw [filterMap_own]
  · rename_i h
    rw [filterMap_other (Ne.symm h), List.append_nil]

theorem session?_advance (h : w.session? key = some s) (r : Session.Result ε (Note ε))
    (k : Nat) :
    (w.advance key r).session? k = if k = key then some r.session else w.session? k := by
  have hlt := lt_length_of_session? h
  simp only [session?, advance]
  split
  · rename_i hk
    subst hk
    simp [hlt]
  · rename_i hk
    simp [Ne.symm hk]

theorem length_sessions_advance (r : Session.Result ε (Note ε)) :
    (w.advance key r).sessions.length = w.sessions.length := by
  simp [advance]

theorem history_attempt (plan : Engine.Plan ε) (agent : String) (lifecycle : Lifecycle)
    (k : Nat) :
    (w.attempt plan agent lifecycle).history k =
      if k = w.sessions.length then w.history k ++ (w.make plan agent lifecycle).2
      else w.history k := by
  simp only [history, attempt, List.filterMap_append]
  split
  · rename_i h
    subst h
    rw [filterMap_own]
  · rename_i h
    rw [filterMap_other (Ne.symm h), List.append_nil]

theorem sessions_attempt (plan : Engine.Plan ε) (agent : String) (lifecycle : Lifecycle) :
    (w.attempt plan agent lifecycle).sessions =
      w.sessions ++ [(w.make plan agent lifecycle).1] := rfl

/-- An act on a session goes through one of its transitions. -/
theorem act_cases {a : Session.Act ε} (h : w.step (.act key a) = some w') :
    ∃ s r, w.session? key = some s ∧ Transition w.runners s a r ∧ w' = w.advance key r := by
  obtain ⟨s, found, h⟩ := Option.bind_eq_some_iff.mp h
  obtain ⟨r, stepped, h⟩ := Option.bind_eq_some_iff.mp h
  exact ⟨s, r, found, Session.transition_of_step stepped, (Option.some.inj h).symm⟩

theorem act_of_step {a : Session.Act ε} {r : Session.Result ε (Note ε)}
    (found : w.session? key = some s) (h : s.step w.runners a = some r) :
    w.step (.act key a) = some (w.advance key r) := by
  simp [step, found, h]

/-- A step leaves a session and its history alone, or takes the session through
one of its transitions. -/
theorem session?_of_step {action : Action ε} (found : w.session? key = some s)
    (made : w.step action = some w') :
    (w'.session? key = some s ∧ w'.history key = w.history key) ∨
      ∃ a r, action = .act key a ∧ Transition w.runners s a r ∧
        w'.session? key = some r.session ∧ w'.history key = w.history key ++ r.seen := by
  have hlt := lt_length_of_session? found
  cases action with
  | create plan agent lifecycle =>
      cases made
      refine Or.inl ⟨?_, by rw [history_attempt, if_neg (Nat.ne_of_lt hlt)]⟩
      rw [session?_eq_some_iff, sessions_attempt, List.getElem?_append_left hlt]
      exact session?_eq_some_iff.mp found
  | act k a =>
      obtain ⟨s₀, r, found₀, trans, rfl⟩ := act_cases made
      rw [session?_advance found₀, history_advance]
      by_cases hk : key = k
      · subst hk
        cases found.symm.trans found₀
        simp only [if_true]
        exact Or.inr ⟨a, r, rfl, trans, rfl, rfl⟩
      · simp only [if_neg hk]
        exact Or.inl ⟨found, trivial⟩

/-- What every transition keeps, a run keeps. -/
theorem session?_of_run {P : Session ε → List (Event (Note ε)) → Prop}
    (kept : ∀ {runners s a r h}, Transition runners s a r → P s h → P r.session (h ++ r.seen))
    {as : List (Action ε)} (found : w.session? key = some s) (holds : P s (w.history key))
    (ran : run as w = some w') :
    ∃ s', w'.session? key = some s' ∧ P s' (w'.history key) := by
  induction as generalizing w s with
  | nil =>
      cases ran
      exact ⟨s, found, holds⟩
  | cons a as ih =>
      obtain ⟨v, made, ran⟩ := Option.bind_eq_some_iff.mp ran
      rcases session?_of_step found made with ⟨found', hist⟩ | ⟨a, r, -, trans, found', hist⟩
      · exact ih found' (hist ▸ holds) ran
      · exact ih found' (hist ▸ kept trans holds) ran

/-! ## What all steps preserve -/

namespace Reachable

variable {configs : List RunnerConfig}

theorem of_run {as : List (Action ε)} (reach : Reachable configs w)
    (h : run as w = some w') : Reachable configs w' := by
  induction as generalizing w with
  | nil => cases h; exact reach
  | cons a as ih =>
      obtain ⟨v, made, h⟩ := Option.bind_eq_some_iff.mp h
      exact ih (.step a reach made) h

theorem key_lt (reach : Reachable configs w) :
    ∀ entry ∈ w.trace, entry.1 < w.sessions.length := by
  induction reach with
  | start => simp [new]
  | @step w w' action before made ih =>
      intro entry hmem
      cases action with
      | create plan agent lifecycle =>
          cases made
          rw [sessions_attempt, List.length_append, List.length_singleton]
          rcases List.mem_append.mp hmem with h | h
          · exact Nat.lt_succ_of_lt (ih entry h)
          · obtain ⟨e, -, rfl⟩ := List.mem_map.mp h
            exact Nat.lt_succ_self _
      | act key a =>
          obtain ⟨s, r, found, -, rfl⟩ := act_cases made
          rw [length_sessions_advance]
          rcases List.mem_append.mp hmem with h | h
          · exact ih entry h
          · obtain ⟨e, -, rfl⟩ := List.mem_map.mp h
            exact lt_length_of_session? found

theorem history_eq_nil (reach : Reachable configs w) (h : w.sessions.length ≤ key) :
    w.history key = [] := by
  apply List.filterMap_eq_nil_iff.mpr
  rintro ⟨k, e⟩ hmem
  have hlt := reach.key_lt _ hmem
  have hne : k ≠ key := fun hk => Nat.not_lt_of_le h (hk ▸ hlt)
  simp [hne]

/-- An attempt leaves every session alone, and adds what it makes as the last one. -/
theorem session_of_attempt {plan : Engine.Plan ε} {agent : String} {lifecycle : Lifecycle}
    {x : Option (Session ε)} (reach : Reachable configs w)
    (found : (w.attempt plan agent lifecycle).sessions[key]? = some x) :
    (w.sessions[key]? = some x ∧
        (w.attempt plan agent lifecycle).history key = w.history key) ∨
      (w.make plan agent lifecycle).1 = x ∧
        (w.attempt plan agent lifecycle).history key = (w.make plan agent lifecycle).2 := by
  rw [sessions_attempt] at found
  rw [history_attempt]
  -- The session that is new is the last one, and nothing has happened in it before.
  rcases Nat.lt_or_ge key w.sessions.length with hlt | hge
  · rw [List.getElem?_append_left hlt] at found
    exact Or.inl ⟨found, if_neg (Nat.ne_of_lt hlt)⟩
  · have hkey : key = w.sessions.length := by
      have hlast := (List.getElem?_eq_some_iff.mp found).1
      rw [List.length_append, List.length_singleton] at hlast
      omega
    subst hkey
    rw [List.getElem?_concat_length] at found
    rw [if_pos rfl, reach.history_eq_nil (Nat.le_refl _), List.nil_append]
    exact Or.inr ⟨Option.some.inj found, rfl⟩

/-- **Invariants of sessions.** What holds of a session as it is made, and is
kept by every transition, holds of every session of every reachable world
together with its history. -/
theorem session_invariant {P : Session ε → List (Event (Note ε)) → Prop}
    (made : ∀ plan agent lifecycle id engine happenings,
      Engine.make plan agent = (some engine, happenings) →
      P ⟨id, agent, engine, lifecycle, none, .held⟩ (happenings.map Happening.atCaller))
    (kept : ∀ {runners s a r h}, Transition runners s a r → P s h → P r.session (h ++ r.seen))
    (reach : Reachable configs w) (found : w.session? key = some s) :
    P s (w.history key) := by
  induction reach generalizing key s with
  | start => simp [session?, new] at found
  | @step w w' action before stepped ih =>
      cases action with
      | create plan agent lifecycle =>
          cases stepped
          rw [session?_eq_some_iff] at found
          rcases before.session_of_attempt found with ⟨found', hist⟩ | ⟨new, hist⟩
          · exact hist ▸ ih (session?_eq_some_iff.mpr found')
          · rw [hist]
            unfold make at new ⊢
            split at new
            · simp at new
            · rename_i engine happenings hmake
              cases new
              simpa only using made plan agent lifecycle _ _ _ hmake
      | act k a =>
          obtain ⟨s₀, r, found₀, trans, rfl⟩ := act_cases stepped
          rw [session?_advance found₀] at found
          rw [history_advance]
          by_cases hk : key = k
          · subst hk
            rw [if_pos rfl] at found ⊢
            cases found
            exact kept trans (ih found₀)
          · rw [if_neg hk] at found ⊢
            exact ih found

/-- Where no engine could be made, the context that was made for it came and
went, and nothing else ever happens. -/
theorem unmade (reach : Reachable configs w) (h : w.sessions[key]? = some none) :
    ∃ plan agent happenings, Engine.make (ε := ε) plan agent = (none, happenings) ∧
      w.history key = happenings.map Happening.atCaller ++ [.unbound] := by
  induction reach generalizing key with
  | start => simp [new] at h
  | @step w w' action before stepped ih =>
      cases action with
      | create plan agent lifecycle =>
          cases stepped
          rcases before.session_of_attempt h with ⟨h', hist⟩ | ⟨new, hist⟩
          · exact hist ▸ ih h'
          · rw [hist]
            unfold make at new ⊢
            split at new
            · rename_i happenings hmake
              exact ⟨plan, agent, happenings, hmake, rfl⟩
            · simp at new
      | act k a =>
          obtain ⟨s₀, r, found₀, -, rfl⟩ := act_cases stepped
          have hk : key ≠ k := by
            rintro rfl
            have hlt := lt_length_of_session? found₀
            simp [advance, hlt] at h
          rw [history_advance, if_neg hk]
          apply ih
          simpa [advance, List.getElem?_set, Ne.symm hk] using h

end Reachable
end TunnelControl.World
