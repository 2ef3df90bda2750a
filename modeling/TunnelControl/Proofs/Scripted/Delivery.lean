import TunnelControl.Proofs.Scripted.Deeds
import TunnelControl.Proofs.Scripted.Sends

/-!
# Commands are delivered in order

The loop takes commands ahead of its steps and while it idles. It records the first
ones of those that were accepted, none twice and none out of turn, and begins a step
only once every command that it could have found ahead of it is dealt with.
-/

namespace TunnelControl.Scripted

/-! ## What is done before a step begins -/

/-- The queue was found empty ahead of the step, which is the next one of `steps`, and
the loop has done nothing since. -/
def Cleared (steps : List Step) (s : Step) (rest : List Step) (h : List (Event Note)) : Prop :=
  ∃ pre mid, h = pre ++ .note (.foundEmpty (s :: rest)) :: mid ∧
    begun (beats pre) ++ s :: rest = steps ∧ ∀ y ∈ beats mid, y = .entered

/-- What has to come before an event: all commands that were accepted before the queue
was found empty, and a queue found empty before a step. -/
def InTurn (steps : List Step) (pre : List (Event Note)) : Event Note → Prop
  | .note (.foundEmpty _) =>
      (recorded pre).commands = accepted (sends pre) ∧ ∀ c ∈ accepted (sends pre), c = .stats
  | .note (.began s) => ∃ rest, Cleared steps s rest pre
  | _ => True

/-- A loop that is about to run a step has found the queue empty ahead of it. -/
def Poised (e : Engine) (h : List (Event Note)) : Prop :=
  e.point.business? = some .step →
    ∃ s rest, e.point = .step s rest ∧ Cleared e.script.steps s rest h

theorem Cleared.append {steps : List Step} {s : Step} {rest : List Step}
    {h new : List (Event Note)} (cleared : Cleared steps s rest h)
    (arrivals : ∀ y ∈ beats new, y = .entered) : Cleared steps s rest (h ++ new) := by
  obtain ⟨pre, mid, rfl, place, before⟩ := cleared
  refine ⟨pre, mid ++ new, by simp, place, ?_⟩
  intro y hy
  rw [beats_append, List.mem_append] at hy
  exact hy.elim (before y) (arrivals y)

theorem Poised.append {e e' : Engine} {h new : List (Event Note)} (poised : Poised e h)
    (script : e'.script = e.script) (point : e'.point = e.point)
    (arrivals : ∀ y ∈ beats new, y = .entered) : Poised e' (h ++ new) := by
  intro business
  rw [point] at business
  obtain ⟨s, rest, hpoint, cleared⟩ := poised business
  exact ⟨s, rest, point.trans hpoint, script ▸ cleared.append arrivals⟩

theorem Poised.of_ne {e : Engine} {h : List (Event Note)} (ne : e.point.business? ≠ some .step) :
    Poised e h := fun business => absurd business ne

/-- A loop that asks is not about to run a step, and neither is it once it has its
reply. -/
theorem ne_step_afterReply {p : Point} {call : Callback} (r : Reply)
    (stands : Stands p (some call)) : (Engine.afterReply r p).business? ≠ some .step := by
  intro h
  rcases business?_afterReply r p with same | none
  · rw [same] at h
    rcases stands.business?_of_asked with none | hook
    · simp [none] at h
    · simp [hook] at h
  · simp [none] at h

/-- **A queue that is found empty.** All that was accepted has been recorded, and none
of it ends the loop. -/
theorem commands_of_empty {e : Engine} {asked : Option Callback} {h : List (Event Note)}
    (going : Going e asked (beats h)) (queued : Queued e (beats h))
    (tracked : Tracked e.queue (sends h)) (taking : e.point.isTaking = true)
    (empty : e.queue.pop? = none) :
    (recorded h).commands = accepted (sends h) ∧ ∀ c ∈ accepted (sends h), c = .stats := by
  obtain ⟨calm, -, unrecorded, -⟩ := Stands.calm_of_isTaking taking
  have all : obeyed (beats h) = accepted (sends h) := by
    have taken := queued.taken
    rw [unrecorded, Option.toList_none, List.append_nil, ← tracked.entered] at taken
    have first : obeyed (beats h) <+: accepted (sends h) := taken ▸ List.take_prefix _ _
    refine first.eq_of_length ?_
    rw [queued.length_of_empty unrecorded empty, queued.entered, tracked.entered]
  refine ⟨(commands_recorded h).trans all, fun c hc => ?_⟩
  -- A command that ends the loop would have ended it.
  obtain ⟨x, hx, command⟩ := List.mem_filterMap.mp (all ▸ hc)
  obtain ⟨pre, post, split⟩ := List.mem_iff_append.mp hx
  have quiet := ending?_eq_none (going.endings_eq_nil calm) split
  cases x with
  | command c' =>
      cases command
      cases c <;> simp [Command.ending?] at quiet ⊢
  | _ => simp at command

section steps

variable {e e' : Engine} {h new : List (Event Note)} {m : Move} {turn : Turn Engine Note}

theorem Poised.move {asked : Option Callback} (poised : Poised e h)
    (going : Going e asked (beats h)) (stands : Stands e.point none)
    (moved : Engine.Moved e m turn) (silent : turn.call = none) :
    Poised turn.engine (h ++ turn.happenings.map Happening.inLoop) := by
  cases moved with
  | @advance s rest point empty =>
      intro _
      refine ⟨s, rest, rfl, h, [], rfl, ?_, by simp⟩
      exact going.left (s :: rest) (by simp [point])
  | @record n next point =>
      rw [point] at stands
      cases stands with
      | taken c taking => exact .of_ne (by simp)
      | recordCertificate raw next | recordForm raw next | recordSubmitted responses next
      | recordBrowser raw next =>
          -- A loop with a record to make is not about to run a step.
          refine .of_ne fun business => ?_
          obtain ⟨s, rest, hpoint, -⟩ := poised (by simpa [point] using business)
          simp [point] at hpoint
  | @mute c back point goesOn unheard => cases unheard
  | @beginAlone s rest point alone =>
      refine .of_ne ?_
      simp only [Engine.point_moveTo, Step.business?_underWay]
      split <;> simp
  | take | runOut | stop | beginMute | pass | hookMute | leave | quit | panic =>
      exact .of_ne (by simp)
  | report | begin | hookCall => simp at silent

/-- **One step of a session.** -/
theorem Poised.stepped (poised : Poised e h)
    (going : e.point ≠ .ready → ∃ asked, Going e asked (beats h)) (stepped : Stepped e e' new) :
    Poised e' (h ++ new) := by
  cases stepped with
  | rest script point entered loans quiet =>
      refine poised.append script point ?_
      simp [beats_of_quiet quiet]
  | send used =>
      refine poised.append rfl rfl ?_
      rcases beats_of_send used with none | entered
      · simp [none]
      · simp [entered]
  | enter point => exact .of_ne (by simp)
  | move stands moved silent =>
      obtain ⟨asked, going⟩ := going stands.ne_ready
      exact poised.move going stands moved silent
  | call stands moved calls waits brought =>
      refine .of_ne ?_
      cases brought with
      | asked =>
          rcases waits.business?_of_asked with none | hook
          · simp [none]
          · simp [hook]
      | told isNotice => exact ne_step_afterReply .done waits
  | reply stands fits => exact .of_ne (ne_step_afterReply _ stands)

theorem inTurn_of_isQuiet {steps : List Step} {pre : List (Event Note)} {x : Event Note}
    (quiet : isQuiet x = true) : InTurn steps pre x := by
  unfold InTurn
  split
  · simp [isQuiet] at quiet
  · simp [isQuiet] at quiet
  · trivial

theorem inTurn_move {asked : Option Callback} (poised : Poised e h)
    (going : Going e asked (beats h)) (queued : Queued e (beats h))
    (tracked : Tracked e.queue (sends h)) (moved : Engine.Moved e m turn) :
    Throughout (fun pre => InTurn e.script.steps (h ++ pre))
      (turn.happenings.map Happening.inLoop) := by
  have begins : ∀ {s rest}, e.point = .step s rest →
      InTurn e.script.steps (h ++ []) (.note (.began s)) := by
    intro s rest point
    obtain ⟨s', rest', hpoint, cleared⟩ := poised (by simp [point])
    rw [point] at hpoint
    cases hpoint
    rw [List.append_nil]
    exact ⟨rest, cleared⟩
  cases moved with
  | runOut point empty | advance point empty =>
      refine throughout_singleton ?_
      rw [List.append_nil]
      exact commands_of_empty going queued tracked (by simp [point]) empty
  | beginAlone point | beginMute point | begin point => exact throughout_singleton (begins point)
  | record | leave | quit | panic => exact throughout_singleton trivial
  | take | stop | mute | report | pass | hookMute | hookCall => exact throughout_nil

theorem inTurn_stepped (inTurn : Throughout (InTurn e.script.steps) h) (poised : Poised e h)
    (going : e.point ≠ .ready → ∃ asked, Going e asked (beats h)) (queued : Queued e (beats h))
    (tracked : Tracked e.queue (sends h)) (stepped : Stepped e e' new) :
    Throughout (InTurn e'.script.steps) (h ++ new) := by
  rw [stepped.script_eq]
  refine throughout_append inTurn ?_
  have moves : ∀ {m turn}, Stands e.point none → Engine.Moved e m turn →
      Throughout (fun pre => InTurn e.script.steps (h ++ pre))
        (turn.happenings.map Happening.inLoop) := by
    intro m turn stands moved
    obtain ⟨asked, going⟩ := going stands.ne_ready
    exact inTurn_move poised going queued tracked moved
  cases stepped with
  | rest script point entered loans quiet =>
      exact throughout_of_forall fun x hx _ => inTurn_of_isQuiet (quiet x hx)
  | send used =>
      refine throughout_of_forall fun x hx _ => ?_
      obtain ⟨n, -, rfl⟩ := List.mem_map.mp hx
      trivial
  | enter point => exact throughout_singleton trivial
  | move stands moved => exact moves stands moved
  | call stands moved calls waits brought =>
      refine throughout_append (moves stands moved) (throughout_of_forall fun x hx _ => ?_)
      cases brought with
      | asked | told =>
          rcases List.mem_append.mp hx with hx | hx
          · obtain ⟨entry, -, rfl⟩ := List.mem_map.mp hx
            trivial
          · cases List.mem_singleton.mp hx
            trivial
  | reply stands fits =>
      refine throughout_of_forall fun x hx _ => ?_
      rcases List.mem_cons.mp hx with rfl | hx
      · trivial
      · obtain ⟨entry, -, rfl⟩ := List.mem_map.mp hx
        trivial

end steps

/-- Nothing is obeyed after a command that ends the loop. -/
theorem obeyed_last {bs : List Beat} {pre post : List Command} {c : Command}
    (settled : Settled bs) (split : obeyed bs = pre ++ c :: post) (ends : c ≠ .stats) :
    post = [] := by
  obtain ⟨bs₁, bs₂, rfl, -, hc⟩ := List.filterMap_eq_append_iff.mp split
  obtain ⟨bs₃, x, bs₄, rfl, -, hx, rfl⟩ := List.filterMap_eq_cons_iff.mp hc
  cases x with
  | command c' =>
      cases hx
      have ended : ((Beat.command c).ending? (inHook (bs₁ ++ bs₃))).isSome = true := by
        cases c <;> first | rfl | exact absurd rfl ends
      refine List.filterMap_eq_nil_iff.mpr fun y hy => ?_
      have idle := settled (bs₁ ++ bs₃) _ bs₄ (by simp) ended y hy
      cases y <;> first | rfl | simp [Beat.isWork] at idle
  | _ => simp at hx

/-! ## Whole runs -/

/-- What a session tells of its commands, at any time. -/
structure Delivers (e : Engine) (h : List (Event Note)) : Prop where
  tracked : Tracked e.queue (sends h)
  ordered : Ordered e.point (beats h)
  poised : Poised e h
  inTurn : Throughout (InTurn e.script.steps) h

section runs

variable {configs : List RunnerConfig} {w : World Engine} {key : Nat} {s : Session Engine}

theorem delivers_of_reachable (reach : World.Reachable configs w)
    (found : w.session? key = some s) : Delivers s.engine (w.history key) := by
  refine engine_invariant ?_ ?_ reach found
  · intro plan agent
    exact {
      tracked := ⟨rfl, by simp [Queue.new]⟩
      ordered := ⟨rfl, nofun, nofun⟩
      poised := .of_ne (by simp)
      inTurn := throughout_singleton trivial }
  · intro s e' h new tells stepped delivers
    exact {
      tracked := delivers.tracked.stepped stepped
      ordered := delivers.ordered.stepped stepped
      poised := delivers.poised.stepped tells.going_of_entered stepped
      inTurn := inTurn_stepped delivers.inTurn delivers.poised tells.going_of_entered
        tells.queued delivers.tracked stepped }

/-- Commands of which a history tells, in the order in which they were to be obeyed. -/
structure InOrder (steps : List Step) (h : List (Event Note)) (commands : List Command) : Prop where
  /-- None is lost, repeated or overtaken. -/
  accepted : commands <+: accepted (sends h)
  /-- At most one of them ends the loop, and it is the last. -/
  last : ∀ pre c post, commands = pre ++ c :: post → c ≠ .stats → post = []
  /-- Each makes its calls before the next one is recorded; the call of the last one may
  be still to come. -/
  calls : deeds (beats h) = commands.flatMap deedsOf ∨
    deeds (beats h) ++ Command.stats.calls.map .called = commands.flatMap deedsOf
  /-- Wherever the queue was found empty, all that had been accepted was recorded, and
  none of it ended the loop. -/
  empty : ∀ pre rest post, h = pre ++ .note (.foundEmpty rest) :: post →
    (recorded pre).commands = Scripted.accepted (sends pre) ∧
      ∀ c ∈ Scripted.accepted (sends pre), c = .stats
  /-- Before a step begins the queue is found empty, and nothing is done in between. -/
  ahead : ∀ pre x post, h = pre ++ .note (.began x) :: post →
    ∃ before rest mid, pre = before ++ .note (.foundEmpty (x :: rest)) :: mid ∧
      begun (beats before) ++ x :: rest = steps ∧ ∀ y ∈ beats mid, y = .entered

/-- **Commands are delivered in order.** The commands in a journal are the first ones
of those that sends brought into the queue. Each request for statistics makes one call.
A command that ends the loop is the last, and a step begins only if no such command was
accepted before the queue was found empty ahead of it. -/
theorem commands_delivered_in_order (reach : World.Reachable configs w)
    (found : w.session? key = some s) (alone : WritesAlone w key) :
    InOrder s.engine.script.steps (w.history key) (journal s.engine.key w).commands := by
  have delivers := delivers_of_reachable reach found
  rw [journal_eq_recorded found alone, commands_recorded]
  have tells := tells_of_reachable reach found
  constructor
  · rw [delivers.tracked.entered]
    refine List.IsPrefix.trans ?_ (List.take_prefix s.engine.queue.taken _)
    rw [← tells.queued.taken]
    exact List.prefix_append _ _
  · exact fun pre c post split ends => obeyed_last tells.settled split ends
  · have paid := delivers.ordered.paid
    rcases s.engine.point.owed_cases with none | statistics
    · rw [none, List.map_nil, List.append_nil] at paid
      exact Or.inl paid
    · rw [statistics] at paid
      exact Or.inr paid
  · intro pre rest post split
    exact delivers.inTurn pre _ post split
  · intro pre x post split
    obtain ⟨rest, before, mid, cleared⟩ := delivers.inTurn pre _ post split
    exact ⟨before, rest, mid, cleared⟩

end runs

/-- The second of two sends that are under way comes first into the queue, from within
a call; the first one follows while the statistics are being asked for. -/
def overtaken : List (Action Engine) :=
  let create key : Action Engine :=
    .create (⟨key, ⟨[.reconnected, .idle], 9, false, none⟩⟩ : Plan) "agent" .handler
  let use (a : QueueAct) : Action Engine := .act 0 (.access a)
  let go : Action Engine := .act 0 (.move Move.go)
  [create 0, create 1, use (.borrow 1 .detach), .act 0 (.start 0), .act 0 .reserve,
    .act 0 (.spawn none), .act 0 .enter, go, go, use (.borrow 2 .stats), use (.enter 2),
    .act 0 (.reply .done), go, go, go, use (.enter 1), .act 0 (.reply .done), go, go]

theorem overtaken_commands_in_order :
    ∃ w s, World.run overtaken (World.new [.default]) = some w ∧ w.session? 0 = some s ∧
      WritesAlone w 0 ∧ (journal 0 w).commands = [.stats, .detach] ∧
      InOrder [.reconnected, .idle] (w.history 0) [.stats, .detach] := by
  obtain ⟨w, made⟩ : ∃ w, World.run overtaken (World.new [.default]) = some w := ⟨_, rfl⟩
  have reach : World.Reachable [.default] w := .of_run .start made
  have keys : w.sessions.map (Option.map (·.engine.key)) = [some 0, some 1] := by
    cases made
    rfl
  have alone : WritesAlone w 0 := by
    refine writesAlone_of_nodup ?_
    rw [keys]
    decide
  cases made
  exact ⟨_, _, rfl, rfl, alone, rfl, @commands_delivered_in_order _ _ 0 _ reach rfl alone⟩

end TunnelControl.Scripted
