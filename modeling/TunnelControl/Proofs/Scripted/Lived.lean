import TunnelControl.Proofs.SharedController
import TunnelControl.Proofs.TerminalResult
import TunnelControl.Proofs.Scripted.Solo

/-!
# How a session came about

`Lived` is the way of one session from the moment at which it is made: its history, and the
cues that it was given by what was done to it. Every session of every run has such a way
(`lived_of_run`), and the other sessions do not occur in it.

`Lived.unique` says that the cues are all that matters. Two sessions with one `Origin` that are
given the same cues are alike, and the same has been seen of them, as long as no hook has a say
in it and the controller answers both as it answers one context. What is proved by the way is
that the controller cannot tell them apart either: before the terminal result no call has the
number of an engine in it.
-/

namespace TunnelControl.Scripted

open Session (Transition)

/-! ## How a session came about -/

/-- What is settled as a session is made. -/
@[ext] structure Origin where
  plan : Plan
  userAgent : String
  usesChannel : Bool

def origin (s : Session Engine) : Origin :=
  ⟨⟨s.engine.key, s.engine.script⟩, s.userAgent, s.usesChannel⟩

/-- A session as it is made. -/
def Origin.session (o : Origin) (id : EngineId) (lifecycle : Lifecycle) : Session Engine :=
  ⟨id, o.userAgent, ⟨o.plan.key, o.plan.script, .new, .ready⟩, lifecycle, none, .held⟩

/-- What a session is by itself as it is made. -/
def Origin.solo (o : Origin) : Solo := ⟨o.plan.script, .ready, [], o.usesChannel, none, .held⟩

theorem solo_session {o : Origin} {id : EngineId} {lifecycle : Lifecycle}
    (same : origin (o.session id lifecycle) = o) :
    Scripted.solo (o.session id lifecycle) = o.solo := by
  have channel : (o.session id lifecycle).usesChannel = o.usesChannel :=
    congrArg Origin.usesChannel same
  rw [Scripted.solo, channel]
  rfl

theorem plan_of_moved {e : Engine} {m : Move} {turn : Turn Engine Note}
    (moved : Engine.Moved e m turn) :
    (⟨turn.engine.key, turn.engine.script⟩ : Plan) = ⟨e.key, e.script⟩ := by
  rw [moved.key, moved.frame.1]

theorem origin_of_transition {runners : List Runner} {s : Session Engine}
    {a : Session.Act Engine} {r : Session.Result Engine Note} (trans : Transition runners s a r) :
    origin r.session = origin s := by
  cases trans with
  | @setup x engine happenings held set =>
      have kept : engine = s.engine := (Engine.setup_frame set).1
      subst kept
      rfl
  | access used =>
      obtain ⟨⟨queue, notes⟩, stepped, h⟩ := Option.map_eq_some_iff.mp used
      cases h
      rfl
  | move running moved | ask running moved =>
      exact Origin.ext (plan_of_moved (Engine.moved_of_move moved)) rfl rfl
  | forward running moved =>
      exact Origin.ext (plan_of_moved (Engine.moved_of_move moved)) rfl
        (Session.usesChannel_of_forward rfl)
  | post => exact Origin.ext rfl rfl (Session.usesChannel_of_forward rfl)
  | receive channel | hangUp channel => simp [origin, Session.usesChannel, channel]
  | _ => rfl

/-- The history of a session that came about from `o`, and the cues that it was given. -/
inductive Lived (configs : List RunnerConfig) (o : Origin) :
    Session Engine → List (Event Note) → List Cue → Prop
  | made (id : EngineId) (lifecycle : Lifecycle) (sound : o.plan.script.failsConstruction = false)
      (same : origin (o.session id lifecycle) = o) :
      Lived configs o (o.session id lifecycle) [.note (.journal (.userAgent o.userAgent))] []
  | step {runners s a r h cs} (before : Lived configs o s h cs)
      (same : runners.map Runner.config = configs) (trans : Transition runners s a r) :
      Lived configs o r.session (h ++ r.seen) (cs ++ (cue? s a).toList)

variable {configs : List RunnerConfig} {o : Origin} {s t : Session Engine}
  {h h' : List (Event Note)} {cs : List Cue}

theorem cues_append (ps ps' : List (Passage Engine)) : cues (ps ++ ps') = cues ps ++ cues ps' :=
  List.filterMap_append

/-- Every session of every run came about in this way. -/
theorem lived_of_run {as : List (Action Engine)} {w : World Engine} {key : Nat}
    (ran : World.run as (World.new configs) = some w) (found : w.session? key = some s) :
    Lived configs (origin s) s (w.history key)
      (cues (World.passages key as (World.new configs))) := by
  refine World.passages_invariant (P := fun s h ps => Lived configs (origin s) s h (cues ps))
    ?_ ?_ ran found
  · intro plan agent lifecycle id engine happenings hmake
    simp only [TunnelControl.Engine.make, Engine.make] at hmake
    split at hmake
    · simp at hmake
    · rename_i sound
      cases hmake
      exact .made id lifecycle (Bool.eq_false_iff.mpr sound) rfl
  · intro runners s a r h ps same stepped lived
    have trans := Session.transition_of_step stepped
    rw [origin_of_transition trans, cues_append]
    cases given : cue? s a with
    | none => simpa [cues, given] using lived.step same trans
    | some c => simpa [cues, given] using lived.step same trans

namespace Lived

theorem origin_eq (lived : Lived configs o s h cs) : origin s = o := by
  induction lived with
  | made id lifecycle sound same => exact same
  | step before same trans ih => exact (origin_of_transition trans).trans ih

theorem tells (lived : Lived configs o s h cs) : Tells s (beats h) := by
  induction lived with
  | made => exact ⟨⟨rfl, rfl, Nat.le_refl 0⟩, ⟨rfl, rfl, rfl, rfl⟩⟩
  | step before same trans ih => exact ih.step trans

theorem standing (lived : Lived configs o s h cs) : Standing s h := by
  induction lived with
  | made => exact ⟨by simp [Origin.session, isLetGo], rfl⟩
  | step before same trans ih => exact ih.step trans

theorem along (lived : Lived configs o s h cs) :
    Along 0 0 s.id s.status (marks (fun _ => false) h) := by
  induction lived with
  | made => exact .held
  | step before same trans ih => exact trans.along (.hidden Engine) ih

/-- While the loop runs, no call has had the number of the engine in it. -/
theorem plain {asked : Option Callback} (lived : Lived configs o s h cs)
    (running : s.status = .running asked) : (received h).map Callback.nameless = received h := by
  have along := lived.along
  rw [running] at along
  refine (List.map_congr_left fun call mem => ?_).trans (List.map_id _)
  cases call with
  | terminated result =>
      obtain ⟨e, he, called⟩ := List.mem_filterMap.mp mem
      have delivered : e.delivery? = some result := by
        cases e <;> cases called
        rfl
      have marked : .delivered result ∈ marks (fun _ => false) h :=
        List.mem_flatMap.mpr ⟨e, he, delivered_mem_marks_iff.mpr delivered⟩
      generalize marks (fun _ => false) h = ms at along marked
      cases along
      simp at marked
  | _ => rfl

/-- Without hooks in its script a loop never is in one. -/
theorem unhooked (lived : Lived configs o s h cs)
    (none : ∀ n, Step.invoke n ∉ o.plan.script.steps) :
    ∀ n rest, s.engine.point ≠ .hook n rest := by
  intro n rest point
  have script : s.engine.script = o.plan.script := congrArg (·.plan.script) lived.origin_eq
  rcases lived.tells.loop.cases with fresh | ⟨asked, going, -⟩
  · simp [fresh.point] at point
  · have inHook : Scripted.inHook (beats h) = true := by
      rw [going.inHook, point]
      rfl
    obtain ⟨m, mem⟩ := exists_invoke_of_inHook inHook
    exact none m (script ▸ going.begun.subset mem)

/-! ## One way to go on -/

/-- Before its first cue a session is as it was made. -/
theorem of_nil (lived : Lived configs o s h []) :
    solo s = o.solo ∧ traits h = [.note (.journal (.userAgent o.userAgent))] := by
  generalize none : ([] : List Cue) = cs at lived
  induction lived with
  | made id lifecycle sound same => exact ⟨solo_session same, rfl⟩
  | step before same trans ih =>
      obtain ⟨rfl, silent⟩ := List.append_eq_nil_iff.mp none.symm
      obtain ⟨made, seen⟩ := ih rfl
      obtain ⟨still, nothing⟩ := silent_of_cue trans (Option.toList_eq_nil_iff.mp silent)
      exact ⟨still.trans made, by rw [traits_append, nothing, List.append_nil, seen]⟩

/-- The step at the last cue of a session, from which on it has stayed as it was. -/
theorem of_snoc {c : Cue} (lived : Lived configs o s h (cs ++ [c])) :
    ∃ runners s₀ a r h₀, Lived configs o s₀ h₀ cs ∧ runners.map Runner.config = configs ∧
      Transition runners s₀ a r ∧ cue? s₀ a = some c ∧ h₀ ++ r.seen <+: h ∧
      Alike r.session s ∧ traits h = traits h₀ ++ traits r.seen := by
  generalize all : cs ++ [c] = cs' at lived
  induction lived with
  | made => simp at all
  | @step runners s a r h cs' before same trans ih =>
      cases cue : cue? s a with
      | none =>
          obtain ⟨still, nothing⟩ := silent_of_cue trans cue
          obtain ⟨runners₀, s₀, a₀, r₀, h₀, lived, same, trans, cue, begins, alike, seen⟩ :=
            ih (by simpa [cue] using all)
          refine ⟨runners₀, s₀, a₀, r₀, h₀, lived, same, trans, cue,
            begins.trans (List.prefix_append _ _), ?_, ?_⟩
          · exact alike_iff.mpr (still.trans (alike_iff.mp alike))
          · rw [traits_append, nothing, List.append_nil, seen]
      | some c' =>
          obtain ⟨rfl, rfl⟩ : cs = cs' ∧ c = c' := by simpa [cue] using all
          exact ⟨runners, s, a, r, h, before, same, trans, cue, List.prefix_rfl,
            alike_iff.mpr rfl, traits_append _ _⟩

end Lived

/-- What the controller makes of a call is read off the history. -/
theorem reply_of_running {C : Type} {controller : SharedController C} {context : C}
    {runners : List Runner} {r : Session.Result Engine Note} {call : Callback} {reply : Reply}
    (trans : Transition runners s (.reply reply) r) (running : s.status = .running (some call))
    (answers : controller.AnswersIn context (h ++ r.seen)) :
    reply = controller.answer context (received h).dropLast call := by
  cases trans with
  | reply running' =>
      cases running.symm.trans running'
      exact answers h call reply _ (by simp [Session.Result.seen, SlotUse.events]; rfl)
  | acknowledge reporting => simp [running] at reporting

theorem received_traits (h : List (Event Note)) :
    received (traits h) = (received h).map Callback.nameless := by
  rw [received, traits, List.filterMap_filterMap, received, List.map_filterMap]
  refine List.filterMap_congr fun event _ => ?_
  cases event with
  | note n => cases n <;> rfl
  | _ => rfl

section unique

variable {C : Type} {controller : SharedController C} {context : C}

/-- **One way to go on.** Sessions that came about from the same script and were given the same
cues cannot be told apart, if a controller answers both with the same context. -/
theorem Lived.unique (unlimited : ∀ config ∈ configs, config.maxActive = none)
    (hookless : ∀ n, Step.invoke n ∉ o.plan.script.steps) (first : Lived configs o s h cs)
    (second : Lived configs o t h' cs) (answers : controller.AnswersIn context h)
    (answers' : controller.AnswersIn context h') : Alike s t ∧ traits h' = traits h := by
  induction first generalizing t h' with
  | made id lifecycle sound same =>
      obtain ⟨made, seen⟩ := second.of_nil
      exact ⟨alike_iff.mpr (made.trans (solo_session same).symm), seen⟩
  | @step runners s a r h cs before same trans ih =>
      cases cue : cue? s a with
      | none =>
          rw [cue, Option.toList_none, List.append_nil] at second
          obtain ⟨alike, seen⟩ := ih second answers.of_append answers'
          obtain ⟨still, nothing⟩ := silent_of_cue trans cue
          refine ⟨alike_iff.mpr ((alike_iff.mp alike).trans still.symm), ?_⟩
          rw [traits_append, nothing, List.append_nil, seen]
      | some c =>
          rw [cue, Option.toList_some] at second
          obtain ⟨runners', t₀, a', r', h₀, before', same', trans', cue', ⟨rest, rfl⟩, last,
            seen'⟩ := second.of_snoc
          have answers' := answers'.of_append
          obtain ⟨alike, seen⟩ := ih before' answers.of_append answers'.of_append
          have free : ∀ x ∈ runners, x.config.maxActive = none := fun x hx =>
            unlimited _ (same ▸ List.mem_map_of_mem hx)
          have replies : ∀ call reply reply', s.status = .running (some call) →
              a = .reply reply → a' = .reply reply' → reply' = reply := by
            rintro call reply reply' running rfl rfl
            obtain running' : t₀.status = .running (some call) :=
              (running ▸ Status.resembles_of_nameless alike.status :)
            have calls : received h₀ = received h := by
              rw [← before.plain running, ← before'.plain running', ← received_traits,
                ← received_traits, seen]
            rw [reply_of_running trans running answers, reply_of_running trans' running' answers',
              calls]
          obtain ⟨next, shown⟩ := lockstep alike trans trans' (same'.trans same.symm) free cue cue'
            (before.unhooked hookless) before.tells.queued.within before'.tells.queued.within
            replies
          refine ⟨alike_iff.mpr ((alike_iff.mp last).trans (alike_iff.mp next)), ?_⟩
          rw [seen', shown, seen, traits_append]

end unique

end TunnelControl.Scripted
