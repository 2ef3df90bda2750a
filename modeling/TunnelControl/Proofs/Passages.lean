import TunnelControl.Proofs.Runs
import Mathlib.Data.List.Induction

/-!
# What was done to a session

The history of a session tells what was seen of it. Where it matters also what was done
to it, and in which state, a run is read as the row of its `Passage`s: the acts on this
one session, each with the session before it and its result.

`creation_invariant` is the principle that everything said about runs in this way rests
on. It knows what the session was made from, of each passage that it is a step of the session,
and that the runners are the ones the run began with, whatever has become of their slots.
`passages_invariant` is the same for sessions of which nothing else is known.
-/

namespace TunnelControl

open Engine (Note)
open Session (Transition)

/-- An act on a session and what it made of it. -/
structure Passage (ε : Type) [Engine ε] where
  before : Session ε
  act : Session.Act ε
  result : Session.Result ε (Note ε)

/-- An attempt to make a session. -/
structure Creation (ε : Type) [Engine ε] where
  plan : Engine.Plan ε
  userAgent : String
  lifecycle : Lifecycle

namespace World

variable {ε : Type} [Engine ε] {key : Nat} {w w' : World ε} {s : Session ε}

/-- The passage of one session that an action is, if it is one. -/
def passage? (key : Nat) (w : World ε) : Action ε → Option (Passage ε)
  | .create .. => none
  | .act k a =>
    if k = key then do
      let s ← w.session? k
      let r ← s.step w.runners a
      pure ⟨s, a, r⟩
    else none

/-- The passages of one session in a run. -/
def passages (key : Nat) : List (Action ε) → World ε → List (Passage ε)
  | [], _ => []
  | a :: as, w => (w.passage? key a).toList ++ (w.step a).toList.flatMap (passages key as)

theorem passages_append {as bs : List (Action ε)} (ran : run as w = some w') :
    passages key (as ++ bs) w = passages key as w ++ passages key bs w' := by
  induction as generalizing w with
  | nil =>
      cases ran
      rfl
  | cons a as ih =>
      obtain ⟨w₁, made, ran⟩ := Option.bind_eq_some_iff.mp ran
      simp [passages, made, ih ran]

theorem passages_of_create {plan : Engine.Plan ε} {agent : String} {lifecycle : Lifecycle} :
    passages key [.create plan agent lifecycle] w = [] := by
  simp [passages, passage?, step]

theorem passages_of_act {k : Nat} {a : Session.Act ε} {r : Session.Result ε (Note ε)}
    (found : w.session? k = some s) (stepped : s.step w.runners a = some r) :
    passages key [.act k a] w = if k = key then [⟨s, a, r⟩] else [] := by
  split
  · rename_i own
    simp [passages, passage?, own ▸ found, stepped, own]
  · rename_i other
    simp [passages, passage?, other]

theorem stepped_of_act {k : Nat} {a : Session.Act ε} (made : w.step (.act k a) = some w') :
    ∃ s r, w.session? k = some s ∧ s.step w.runners a = some r ∧ w' = w.advance k r := by
  obtain ⟨s, found, made⟩ := Option.bind_eq_some_iff.mp made
  obtain ⟨r, stepped, made⟩ := Option.bind_eq_some_iff.mp made
  exact ⟨s, r, found, stepped, (Option.some.inj made).symm⟩

/-- A run ends with its last action. -/
theorem run_snoc {as : List (Action ε)} {a : Action ε} (ran : run (as ++ [a]) w = some w') :
    ∃ w₁, run as w = some w₁ ∧ w₁.step a = some w' := by
  rw [run_append] at ran
  obtain ⟨w₁, ran, last⟩ := Option.bind_eq_some_iff.mp ran
  obtain ⟨w₂, made, last⟩ := Option.bind_eq_some_iff.mp last
  cases last
  exact ⟨w₁, ran, made⟩

/-! ## Runners -/

theorem config_useSlots (use : SlotUse) (r : Runner) : (useSlots use r).config = r.config := by
  cases use <;> rfl

theorem configs_of_step {action : Action ε} (made : w.step action = some w') :
    w'.runners.map Runner.config = w.runners.map Runner.config := by
  cases action with
  | create plan agent lifecycle =>
      cases made
      rfl
  | act k a =>
      obtain ⟨s, r, -, -, rfl⟩ := stepped_of_act made
      unfold advance
      cases r.session.runner with
      | none => rfl
      | some i =>
          refine List.ext_getElem? fun j => ?_
          simp only [List.getElem?_map, List.getElem?_modify]
          cases w.runners[j]? with
          | none => rfl
          | some runner => by_cases hj : i = j <;> simp [hj, config_useSlots]

theorem configs_of_run {configs : List RunnerConfig} {as : List (Action ε)}
    (ran : run as (new configs) = some w) : w.runners.map Runner.config = configs := by
  induction as using List.reverseRecOn generalizing w with
  | nil =>
      cases ran
      simp [new, Runner.new, Function.comp_def]
  | append_singleton as a ih =>
      obtain ⟨w₁, begun, made⟩ := run_snoc ran
      exact (configs_of_step made).trans (ih begun)

/-! ## Actions of one session -/

/-- The attempts of a run, each at the place of the session it is for. -/
def creations (as : List (Action ε)) : List (Creation ε) :=
  as.filterMap fun
    | .create plan userAgent lifecycle => some ⟨plan, userAgent, lifecycle⟩
    | .act .. => none

/-- What is done to a session in a run, in order. -/
def acts (key : Nat) (as : List (Action ε)) : List (Session.Act ε) :=
  as.filterMap fun
    | .create .. => none
    | .act k a => if k = key then some a else none

theorem creations_append (as bs : List (Action ε)) :
    creations (as ++ bs) = creations as ++ creations bs :=
  List.filterMap_append

theorem acts_append (as bs : List (Action ε)) : acts key (as ++ bs) = acts key as ++ acts key bs :=
  List.filterMap_append

theorem acts_of_act {k : Nat} {a : Session.Act ε} :
    acts key [.act k a] = if k = key then [a] else [] := by
  by_cases own : k = key <;> simp [acts, own]

theorem acts_map (as : List (Session.Act ε)) : acts key (as.map (.act key)) = as := by
  induction as with
  | nil => rfl
  | cons a as ih =>
      rw [List.map_cons, ← List.singleton_append, acts_append, acts_of_act, if_pos rfl, ih]
      rfl

theorem length_creations {configs : List RunnerConfig} {as : List (Action ε)}
    (ran : run as (new configs) = some w) : (creations as).length = w.sessions.length := by
  induction as using List.reverseRecOn generalizing w with
  | nil =>
      cases ran
      rfl
  | append_singleton as a ih =>
      obtain ⟨w₁, begun, made⟩ := run_snoc ran
      rw [creations_append, List.length_append, ih begun]
      cases a with
      | create plan agent lifecycle =>
          cases made
          rw [sessions_attempt, List.length_append]
          rfl
      | act k a =>
          obtain ⟨s, r, -, -, rfl⟩ := stepped_of_act made
          rw [length_sessions_advance]
          rfl

/-- The acts of a run that can be made are the ones in its passages. -/
theorem map_act_passages {as : List (Action ε)} (ran : run as w = some w') :
    (passages key as w).map Passage.act = acts key as := by
  induction as using List.reverseRecOn generalizing w' with
  | nil => rfl
  | append_singleton as a ih =>
      obtain ⟨w₁, begun, made⟩ := run_snoc ran
      rw [passages_append begun, List.map_append, ih begun, acts_append]
      cases a with
      | create plan agent lifecycle =>
          rw [passages_of_create]
          rfl
      | act k a =>
          obtain ⟨s, r, found, stepped, -⟩ := stepped_of_act made
          rw [passages_of_act found stepped, acts_of_act]
          by_cases own : k = key <;> simp [own]

/-! ## The principle -/

/-- Nothing was done to a session that was not made. -/
theorem passages_eq_nil {configs : List RunnerConfig} {as : List (Action ε)}
    (ran : run as (new configs) = some w) (absent : w.sessions.length ≤ key) :
    passages key as (new configs) = [] := by
  induction as using List.reverseRecOn generalizing w with
  | nil => rfl
  | append_singleton as a ih =>
      obtain ⟨w₁, begun, made⟩ := run_snoc ran
      rw [passages_append begun]
      cases a with
      | create plan agent lifecycle =>
          cases made
          rw [sessions_attempt, List.length_append] at absent
          rw [ih begun (Nat.le_of_add_right_le absent), passages_of_create]
          rfl
      | act k a =>
          obtain ⟨s, r, found, stepped, rfl⟩ := stepped_of_act made
          rw [length_sessions_advance] at absent
          have other : k ≠ key := fun own =>
            Nat.not_lt_of_le absent (own ▸ lt_length_of_session? found)
          rw [ih begun absent, passages_of_act found stepped, if_neg other]
          rfl

/-- **Runs, one session at a time.** What holds of what an attempt comes to, and is kept by all
that can be done to a session, holds in every run of what has become of the attempt, together
with its history and its passages. -/
theorem creation_invariant {configs : List RunnerConfig} {c : Creation ε}
    {P : Option (Session ε) → List (Event (Note ε)) → List (Passage ε) → Prop}
    (made : ∀ w : World ε, P (w.make c.plan c.userAgent c.lifecycle).1
      (w.make c.plan c.userAgent c.lifecycle).2 [])
    (kept : ∀ {runners s a r h ps}, runners.map Runner.config = configs →
      Session.step runners a s = some r → P (some s) h ps →
      P (some r.session) (h ++ r.seen) (ps ++ [⟨s, a, r⟩]))
    {as : List (Action ε)} (ran : run as (new configs) = some w)
    (created : (creations as)[key]? = some c) :
    ∃ x, w.sessions[key]? = some x ∧ P x (w.history key) (passages key as (new configs)) := by
  induction as using List.reverseRecOn generalizing w with
  | nil => simp [creations] at created
  | append_singleton as a ih =>
      obtain ⟨w₁, begun, last⟩ := run_snoc ran
      have count := length_creations begun
      rw [passages_append begun]
      rw [creations_append] at created
      cases a with
      | create plan agent lifecycle =>
          cases last
          have one : creations [Action.create plan agent lifecycle] = [⟨plan, agent, lifecycle⟩] :=
            rfl
          rw [one] at created
          rw [passages_of_create, List.append_nil, sessions_attempt, history_attempt]
          rcases Nat.lt_or_ge key w₁.sessions.length with old | new
          · rw [List.getElem?_append_left (count ▸ old)] at created
            rw [List.getElem?_append_left old, if_neg (Nat.ne_of_lt old)]
            exact ih begun created
          · obtain rfl : key = w₁.sessions.length := by
              have lt := (List.getElem?_eq_some_iff.mp created).1
              rw [List.length_append, List.length_singleton, count] at lt
              omega
            rw [← count, List.getElem?_concat_length] at created
            cases created
            refine ⟨_, List.getElem?_concat_length, ?_⟩
            rw [if_pos rfl, passages_eq_nil begun (Nat.le_refl _),
              (Reachable.of_run .start begun).history_eq_nil (Nat.le_refl _)]
            exact made w₁
      | act k a =>
          obtain ⟨s, r, found, stepped, rfl⟩ := stepped_of_act last
          have created : (creations as)[key]? = some c := by simpa [creations] using created
          obtain ⟨x, place, holds⟩ := ih begun created
          rw [history_advance, passages_of_act found stepped]
          by_cases own : key = k
          · subst own
            rw [session?_eq_some_iff.mp found] at place
            cases place
            rw [if_pos rfl, if_pos rfl]
            exact ⟨_, session?_eq_some_iff.mp (session?_advance_self found r),
              kept (configs_of_run begun) stepped holds⟩
          · rw [if_neg own, if_neg (Ne.symm own), List.append_nil]
            refine ⟨x, ?_, holds⟩
            rw [advance, List.getElem?_set_ne (Ne.symm own)]
            exact place

/-- Where an attempt makes a session, there is one to be found in every run. -/
theorem exists_of_creation {configs : List RunnerConfig} {c : Creation ε}
    {P : Session ε → List (Event (Note ε)) → List (Passage ε) → Prop}
    (made : ∀ w : World ε, ∃ s, (w.make c.plan c.userAgent c.lifecycle).1 = some s ∧
      P s (w.make c.plan c.userAgent c.lifecycle).2 [])
    (kept : ∀ {runners s a r h ps}, runners.map Runner.config = configs →
      Session.step runners a s = some r → P s h ps →
      P r.session (h ++ r.seen) (ps ++ [⟨s, a, r⟩]))
    {as : List (Action ε)} (ran : run as (new configs) = some w)
    (created : (creations as)[key]? = some c) :
    ∃ s, w.session? key = some s ∧ P s (w.history key) (passages key as (new configs)) := by
  let Q (x : Option (Session ε)) (h : List (Event (Note ε))) (ps : List (Passage ε)) : Prop :=
    ∃ s, x = some s ∧ P s h ps
  have kept' : ∀ {runners s a r h ps}, runners.map Runner.config = configs →
      Session.step runners a s = some r → Q (some s) h ps →
      Q (some r.session) (h ++ r.seen) (ps ++ [⟨s, a, r⟩]) := by
    rintro runners s a r h ps same stepped ⟨_, ⟨⟩, before⟩
    exact ⟨_, rfl, kept same stepped before⟩
  obtain ⟨x, place, s, rfl, holds⟩ := creation_invariant made kept' ran created
  exact ⟨s, session?_eq_some_iff.mpr place, holds⟩

/-- What holds of a session as it is made, and is kept by all that can be done to it, holds of
every session of every run together with its history and its passages. -/
theorem passages_invariant {configs : List RunnerConfig}
    {P : Session ε → List (Event (Note ε)) → List (Passage ε) → Prop}
    (made : ∀ plan agent lifecycle id engine happenings,
      Engine.make plan agent = (some engine, happenings) →
      P ⟨id, agent, engine, lifecycle, none, .held⟩ (happenings.map Happening.atCaller) [])
    (kept : ∀ {runners s a r h ps}, runners.map Runner.config = configs →
      Session.step runners a s = some r → P s h ps →
      P r.session (h ++ r.seen) (ps ++ [⟨s, a, r⟩]))
    {as : List (Action ε)} (ran : run as (new configs) = some w) (found : w.session? key = some s) :
    P s (w.history key) (passages key as (new configs)) := by
  have lt : key < (creations as).length := length_creations ran ▸ lt_length_of_session? found
  let Q (x : Option (Session ε)) (h : List (Event (Note ε))) (ps : List (Passage ε)) : Prop :=
    ∀ s, x = some s → P s h ps
  have made' : ∀ (c : Creation ε) (w : World ε), Q (w.make c.plan c.userAgent c.lifecycle).1
      (w.make c.plan c.userAgent c.lifecycle).2 [] := by
    intro c w s new
    unfold make at new ⊢
    split at new
    · cases new
    · rename_i engine happenings hmake
      cases new
      simpa only using made _ _ _ _ _ _ hmake
  have kept' : ∀ {runners s a r h ps}, runners.map Runner.config = configs →
      Session.step runners a s = some r → Q (some s) h ps →
      Q (some r.session) (h ++ r.seen) (ps ++ [⟨s, a, r⟩]) := by
    intro runners s a r h ps same stepped before s' new
    cases new
    exact kept same stepped (before s rfl)
  obtain ⟨x, place, holds⟩ :=
    creation_invariant (made' _) kept' ran (List.getElem?_eq_getElem lt)
  rw [session?_eq_some_iff.mp found] at place
  exact holds s (Option.some.inj place).symm

end World

/-! ## Paths -/

namespace Session

/-- A notice that goes into a channel leaves it a channel. -/
theorem usesChannel_of_forward {ε : Type} {s s' : Session ε} {notice : Notice}
    (told : s'.lifecycle = s.lifecycle.forward notice) : s'.usesChannel = s.usesChannel := by
  unfold usesChannel
  rw [told]
  cases s.lifecycle with
  | handler => rfl
  | channel isOpen waiting => cases isOpen <;> rfl

variable {ε : Type} [Engine ε]

/-- How a session gets from one state to another: by these passages, each of them at runners of
the given configurations. -/
inductive Path (configs : List RunnerConfig) : Session ε → List (Passage ε) → Session ε → Prop
  | refl (s : Session ε) : Path configs s [] s
  | cons {runners : List Runner} {s s' : Session ε} {a : Act ε} {r : Result ε (Note ε)}
      {ps : List (Passage ε)} (same : runners.map Runner.config = configs)
      (trans : Transition runners s a r) (later : Path configs r.session ps s') :
      Path configs s (⟨s, a, r⟩ :: ps) s'

theorem Path.snoc {configs : List RunnerConfig} {runners : List Runner} {s s' : Session ε}
    {a : Act ε} {r : Result ε (Note ε)} {ps : List (Passage ε)} (path : Path configs s ps s')
    (same : runners.map Runner.config = configs) (trans : Transition runners s' a r) :
    Path configs s (ps ++ [⟨s', a, r⟩]) r.session := by
  induction path with
  | refl s => exact .cons same trans (.refl _)
  | cons first before _ ih => exact .cons first before (ih trans)

end Session

/-- In every run, a session got to where it is by its passages, from where it was made. -/
theorem World.exists_path {ε : Type} [Engine ε] {configs : List RunnerConfig}
    {as : List (Action ε)} {w : World ε} {key : Nat} {s : Session ε}
    (ran : run as (new configs) = some w) (found : w.session? key = some s) :
    ∃ plan agent lifecycle id engine happenings,
      Engine.make plan agent = (some engine, happenings) ∧
      Session.Path configs ⟨id, agent, engine, lifecycle, none, .held⟩
        (passages key as (new configs)) s := by
  refine passages_invariant (P := fun s _ ps =>
    ∃ plan agent lifecycle id engine happenings,
      Engine.make plan agent = (some engine, happenings) ∧
      Session.Path configs ⟨id, agent, engine, lifecycle, none, .held⟩ ps s) ?_ ?_ ran found
  · intro plan agent lifecycle id engine happenings made
    exact ⟨plan, agent, lifecycle, id, engine, happenings, made, .refl _⟩
  · rintro runners s a r h ps same stepped ⟨plan, agent, lifecycle, id, e, happenings, made, path⟩
    exact ⟨plan, agent, lifecycle, id, e, happenings, made,
      path.snoc same (Session.transition_of_step stepped)⟩

end TunnelControl
