import TunnelControl.Proofs.Configuration
import TunnelControl.Proofs.Passages
import TunnelControl.Proofs.Scripted.Steps
import TunnelControl.Proofs.Settings
import TunnelControl.Proofs.Slots

/-!
# How a configuration reaches the engine

An engine records the user agent it is made with, the settings that are made on it and the
limits that its loop is entered with; nothing that happens later adds to these records
(`Configured.step`). What was done to a session therefore tells what its engine has
been configured with, and a runner made from the same configuration has the limits and the
number of slots that the variables ask for.
-/

namespace TunnelControl.Scripted

open Session (Transition)
open World (Reachable)

/-! ## Records of a configuration -/

/-- Whether a record tells what the engine is configured with. -/
def JournalNote.isConfiguration : JournalNote → Bool
  | .userAgent _ | .setting _ | .limits _ => true
  | _ => false

/-- What the engine of a session was configured with, in order. -/
def configured (h : List (Event Note)) : Journal :=
  (recorded h).filter JournalNote.isConfiguration

/-- The configurations among acts. -/
def setups (acts : List (Session.Act Engine)) : List Options :=
  acts.filterMap fun | .setup options => some options | _ => none

/-- Whether the loop is entered among acts. -/
def entered (acts : List (Session.Act Engine)) : Bool :=
  acts.any fun | .enter => true | _ => false

@[simp] theorem configured_append (h h' : List (Event Note)) :
    configured (h ++ h') = configured h ++ configured h' := by
  simp [configured]

theorem configured_of_silent {h : List (Event Note)} (silent : recorded h = []) :
    configured h = [] := by
  rw [configured, silent]
  rfl

theorem setups_append (as bs : List (Session.Act Engine)) :
    setups (as ++ bs) = setups as ++ setups bs :=
  List.filterMap_append

theorem entered_append (as bs : List (Session.Act Engine)) :
    entered (as ++ bs) = (entered as || entered bs) :=
  List.any_append

/-! ## Making settings -/

theorem configure_of_accepting {e : Engine} (accepts : e.script.rejectsUrl = none)
    (options : Options) :
    e.configure options = ((e, settingNotes options.settings), .ok ()) := by
  have fine : ∀ x ∈ options.settings, e.script.fault? x = none := fun x _ =>
    Script.fault?_of_accepting accepts x
  obtain ⟨made, failed, order, left⟩ := e.configure_madeInOrder options
  obtain ⟨rfl, ok⟩ := order.all_of_fine fine
  exact Prod.ext left ok

theorem configured_settingNotes (settings : List Setting) :
    configured ((settingNotes settings).map Happening.atCaller) =
      settings.map JournalNote.setting := by
  induction settings with
  | nil => rfl
  | cons setting rest ih => exact congrArg (JournalNote.setting setting :: ·) ih

/-! ## One step -/

theorem Engine.Moved.configured {e : Engine} {m : Move} {turn : Turn Engine Note}
    (moved : Engine.Moved e m turn) :
    Scripted.configured (turn.happenings.map Happening.inLoop) = [] := by
  cases moved with
  | @record n next point => cases n <;> rfl
  | _ => rfl

/-- Whether the loop has not been entered yet. -/
def beforeLoop : Status → Bool
  | .held | .starting | .placed | .launched => true
  | _ => false

/-- The limits of the runner that a session was handed to, as they are recorded. -/
def limitsGiven (configs : List RunnerConfig) (s : Session Engine) : Journal :=
  ((s.runner.bind (configs[·]?)).map fun config => .limits config.limits).toList

/-- The records tell what was done to a session that was made with a user agent from a script. -/
structure Configured (configs : List RunnerConfig) (script : Script) (agent : String)
    (s : Session Engine) (h : List (Event Note)) (acts : List (Session.Act Engine)) : Prop where
  script : s.engine.script = script
  before : beforeLoop s.status = true → entered acts = false
  handed : entered acts = true → s.runner ≠ none
  runner : ∀ i, s.runner = some i → .start i ∈ acts
  records : configured h = .userAgent agent ::
    ((setups acts).flatMap Options.settings).map JournalNote.setting ++
      if entered acts then limitsGiven configs s else []

namespace Configured

variable {configs : List RunnerConfig} {script : Script} {agent : String} {s : Session Engine}
  {h : List (Event Note)} {acts : List (Session.Act Engine)} {runners : List Runner}
  {a : Session.Act Engine} {r : Session.Result Engine Note}

/-- A step that configures nothing. A session is handed to a runner before the loop. -/
theorem frame (known : Configured configs script agent s h acts)
    (same : r.session.engine.script = s.engine.script)
    (before : beforeLoop r.session.status = true → beforeLoop s.status = true)
    (runner : r.session.runner = s.runner ∨
      beforeLoop s.status = true ∧ ∃ i, a = .start i ∧ r.session.runner = some i)
    (others : setups [a] = [] ∧ entered [a] = false) (silent : configured r.seen = []) :
    Configured configs script agent r.session (h ++ r.seen) (acts ++ [a]) := by
  have entered_eq : entered (acts ++ [a]) = entered acts := by
    rw [entered_append, others.2, Bool.or_false]
  refine ⟨same.trans known.script, ?_, ?_, ?_, ?_⟩
  · intro early
    rw [entered_eq]
    exact known.before (before early)
  · intro inside
    rw [entered_eq] at inside
    rcases runner with kept | ⟨early, -⟩
    · rw [kept]
      exact known.handed inside
    · rw [known.before early] at inside
      cases inside
  · intro i given
    rw [List.mem_append]
    rcases runner with kept | ⟨-, j, rfl, given'⟩
    · exact Or.inl (known.runner i (kept ▸ given))
    · obtain rfl : i = j := Option.some.inj (given.symm.trans given')
      exact Or.inr List.mem_cons_self
  · rw [configured_append, silent, List.append_nil, known.records, setups_append, others.1,
      List.append_nil, entered_eq]
    rcases runner with kept | ⟨early, -⟩
    · rw [limitsGiven, limitsGiven, kept]
    · rw [known.before early]
      rfl

/-- The limits that are recorded are those of the runner. -/
theorem enter {i : Nat} {runner : Runner} (known : Configured configs script agent s h acts)
    (same : runners.map Runner.config = configs) (status : s.status = .launched)
    (given : s.runner = some i) (place : runners[i]? = some runner) {new : List (Event Note)}
    (seen : configured new = [.limits runner.config.limits]) {s' : Session Engine}
    (script' : s'.engine.script = s.engine.script) (runner' : s'.runner = s.runner)
    (status' : beforeLoop s'.status = false) :
    Configured configs script agent s' (h ++ new) (acts ++ [.enter]) := by
  have outside : entered acts = false := known.before (by rw [status]; rfl)
  have inside : entered (acts ++ [.enter]) = true := by
    rw [entered_append, outside]
    rfl
  have limits : limitsGiven configs s' = [.limits runner.config.limits] := by
    rw [limitsGiven, runner', given, ← same]
    simp [place]
  refine ⟨script'.trans known.script, ?_, ?_, ?_, ?_⟩
  · intro early
    rw [status'] at early
    cases early
  · rw [runner', given]
    exact fun _ => nofun
  · intro j given'
    exact List.mem_append_left _ (known.runner j (runner' ▸ given'))
  · rw [configured_append, known.records, outside, seen, inside, limits, setups_append]
    simp [setups]

/-- **One step of a session.** -/
theorem step (known : Configured configs script agent s h acts)
    (accepts : script.rejectsUrl = none) (same : runners.map Runner.config = configs)
    (trans : Transition runners s a r) :
    Configured configs script agent r.session (h ++ r.seen) (acts ++ [a]) := by
  have accepts : s.engine.script.rejectsUrl = none := known.script ▸ accepts
  cases trans with
  | @setup options engine happenings status set =>
      have made : some (s.engine, settingNotes options.settings) = some (engine, happenings) := by
        rw [← set]
        simp [TunnelControl.Engine.setup, configure_of_accepting accepts]
      cases made
      have outside : entered acts = false := known.before (by rw [status]; rfl)
      have still : entered (acts ++ [.setup options]) = false := by
        rw [entered_append, outside]
        rfl
      refine ⟨known.script, fun _ => still, ?_, ?_, ?_⟩
      · rw [still]
        nofun
      · intro i given
        exact List.mem_append_left _ (known.runner i given)
      · rw [configured_append, known.records, outside, still, setups_append,
          Session.Result.seen_unchanged, configured_settingNotes]
        simp [setups]
  | enter status given place =>
      exact known.enter same status given place rfl rfl rfl rfl
  | @access act engine happenings used =>
      obtain ⟨⟨queue, notes⟩, -, made⟩ := Option.map_eq_some_iff.mp used
      cases made
      refine known.frame rfl id (Or.inl rfl) ⟨rfl, rfl⟩ (configured_of_silent ?_)
      rw [Session.Result.seen_unchanged, List.map_map]
      exact recorded_notes notes
  | move status moved silent =>
      have moved := Engine.moved_of_move moved
      refine known.frame moved.frame.1 (by simp [status, beforeLoop]) (Or.inl rfl) ⟨rfl, rfl⟩ ?_
      rw [Session.Result.seen_unchanged]
      exact moved.configured
  | @ask m turn call status moved asked untold plain =>
      have moved := Engine.moved_of_move moved
      have brought : Brought call turn.engine turn.engine _ := .asked
      refine known.frame moved.frame.1 (by simp [beforeLoop]) (Or.inl rfl) ⟨rfl, rfl⟩ ?_
      rw [Session.Result.seen_unchanged, configured_append, moved.configured]
      exact configured_of_silent brought.frame.2.2.2
  | @forward m turn call notice status moved asked channel told plain =>
      have moved := Engine.moved_of_move moved
      have brought : Brought call turn.engine _ _ := .told told
      refine known.frame moved.frame.1 (by simp [beforeLoop]) (Or.inl rfl) ⟨rfl, rfl⟩ ?_
      rw [Session.Result.seen_unchanged, configured_append, moved.configured]
      exact (List.append_nil _).symm ▸ configured_of_silent brought.frame.2.2.2
  | @reply reply call status fits =>
      refine known.frame rfl (by simp [beforeLoop]) (Or.inl rfl) ⟨rfl, rfl⟩ ?_
      rw [Session.Result.seen_unchanged, configured_append, configured_append,
        configured_of_silent (recorded_logs _)]
      rfl
  | accept status place name | misname status place nul =>
      refine known.frame rfl (fun _ => by rw [status]; rfl)
        (Or.inr ⟨by rw [status]; rfl, _, rfl, rfl⟩) ⟨rfl, rfl⟩ rfl
  | findFull status given place full | takeSlot status given place free | launch status
  | failSpawn status =>
      exact known.frame rfl (fun _ => by rw [status]; rfl) (Or.inl rfl) ⟨rfl, rfl⟩ rfl
  | acknowledge status fits logged | report status finished handled logged
  | post status finished channel logged =>
      subst logged
      refine known.frame rfl (by simp [beforeLoop, Session.afterReport]) (Or.inl rfl) ⟨rfl, rfl⟩ ?_
      rw [Session.Result.seen_unchanged]
      split <;> rfl
  | @failStart fault logs status logged =>
      subst logged
      refine known.frame rfl (by simp [beforeLoop]) (Or.inl rfl) ⟨rfl, rfl⟩ ?_
      rw [Session.Result.seen_unchanged]
      cases fault <;> rfl
  | log status | logLast status | receive channel | hangUp channel =>
      exact known.frame rfl id (Or.inl rfl) ⟨rfl, rfl⟩ rfl
  | drop status | retire status | free status | unbind status | close status
  | returnSlot status =>
      exact known.frame rfl (by simp [beforeLoop]) (Or.inl rfl) ⟨rfl, rfl⟩ rfl

end Configured

/-! ## Runs -/

section runs

variable {configs : List RunnerConfig} {w : World Engine} {key i : Nat}

/-- A script that does not refuse makes a session, and what was done to it tells how it is
configured. -/
theorem configured_of_run {as : List (Action Engine)} {c : Creation Engine}
    (ran : World.run as (World.new configs) = some w)
    (created : (World.creations as)[key]? = some c)
    (sound : c.plan.script.failsConstruction = false)
    (accepts : c.plan.script.rejectsUrl = none) :
    ∃ s, w.session? key = some s ∧
      Configured configs c.plan.script c.userAgent s (w.history key) (World.acts key as) := by
  let P (s : Session Engine) (h : List (Event Note)) (ps : List (Passage Engine)) : Prop :=
    Configured configs c.plan.script c.userAgent s h (ps.map Passage.act)
  have made : ∀ w : World Engine, ∃ s, (w.make c.plan c.userAgent c.lifecycle).1 = some s ∧
      P s (w.make c.plan c.userAgent c.lifecycle).2 [] := by
    intro w
    rw [make_eq, if_neg (by simp [sound])]
    exact ⟨_, rfl, rfl, fun _ => rfl, nofun, nofun, rfl⟩
  have kept : ∀ {runners s a r h ps}, runners.map Runner.config = configs →
      Session.step runners a s = some r → P s h ps →
      P r.session (h ++ r.seen) (ps ++ [⟨s, a, r⟩]) := by
    intro runners s a r h ps same stepped known
    show Configured configs c.plan.script c.userAgent _ _ (List.map Passage.act (ps ++ [_]))
    rw [List.map_append]
    exact known.step accepts same (Session.transition_of_step stepped)
  obtain ⟨s, found, known⟩ := World.exists_of_creation made kept ran created
  refine ⟨s, found, ?_⟩
  rwa [← World.map_act_passages ran]

/-- One act, and what becomes of a runner. -/
theorem exists_advance {s : Session Engine} {a : Session.Act Engine}
    {r : Session.Result Engine Note} {config : RunnerConfig} {n : Nat}
    (found : w.session? key = some s) (place : w.runners[i]? = some ⟨config, n⟩)
    (trans : Transition w.runners s a r) :
    ∃ w' : World Engine, (∀ as, World.run (.act key a :: as) w = World.run as w') ∧
      w'.session? key = some r.session ∧ w'.history key = w.history key ++ r.seen ∧
      w'.runners[i]? =
        some ⟨config, if r.session.runner = some i then r.slots.count n else n⟩ := by
  refine ⟨w.advance key r, ?_, World.session?_advance_self found r, ?_,
    World.runners_advance r place⟩
  · exact World.run_act found (Session.step_of_transition trans)
  · rw [World.history_advance, if_pos rfl]

/-- The acts by which a session is configured and brought into its loop. -/
def bringingUp (key : Nat) (options : Options) (i : Nat) : List (Action Engine) :=
  [.act key (.setup options), .act key (.start i), .act key .reserve, .act key (.spawn none),
    .act key .enter]

/-- **A session can be brought up.** Where the runner has a free slot, nothing is in the way of
a session that is configured and started. -/
theorem leadsTo_running {s : Session Engine} {config : RunnerConfig} {n : Nat}
    (found : w.session? key = some s) (held : s.status = .held)
    (accepts : s.engine.script.rejectsUrl = none) (place : w.runners[i]? = some ⟨config, n⟩)
    (free : (⟨config, n⟩ : Runner).exhausted? = none) (name : '\x00' ∉ config.threadStem.toList)
    (options : Options) :
    ∃ s' new, w.LeadsTo key (bringingUp key options i) s' new ∧ s'.status = .running none ∧
      configured new = options.settings.map JournalNote.setting ++ [.limits config.limits] := by
  have set : TunnelControl.Engine.setup options s.engine =
      some (s.engine, settingNotes options.settings) := by
    simp [TunnelControl.Engine.setup, configure_of_accepting accepts]
  have proper : '\x00' ∉ (config.threadName s.id).toList := by
    rwa [zero_mem_threadName_iff]
  obtain ⟨w₁, ran₁, found₁, hist₁, place₁⟩ := exists_advance found place (.setup held set)
  simp only [SlotUse.count, ite_self] at place₁
  obtain ⟨w₂, ran₂, found₂, hist₂, place₂⟩ :=
    exists_advance found₁ place₁ (.accept held place₁ proper)
  simp only [SlotUse.count, ite_self] at place₂
  obtain ⟨w₃, ran₃, found₃, hist₃, place₃⟩ :=
    exists_advance found₂ place₂ (.takeSlot rfl rfl place₂ free)
  obtain ⟨w₄, ran₄, found₄, hist₄, place₄⟩ := exists_advance found₃ place₃ (.launch rfl)
  obtain ⟨w₅, ran₅, found₅, hist₅, -⟩ := exists_advance found₄ place₄ (.enter rfl rfl place₄)
  refine ⟨_, (settingNotes options.settings).map Happening.atCaller ++
    [.slotTaken, .started s.id, .note (.journal (.limits config.limits))],
    ⟨w₅, ?_, found₅, ?_⟩, rfl, ?_⟩
  · rw [bringingUp, ran₁, ran₂, ran₃, ran₄, ran₅]
    rfl
  · rw [hist₅, hist₄, hist₃, hist₂, hist₁]
    simp [Session.Result.seen, SlotUse.events, TunnelControl.Engine.enter, Engine.enter,
      Engine.noted, Happening.inLoop]
  · rw [configured_append, configured_settingNotes]
    rfl

end runs

/-! ## Configurations -/

/-- The records that a configuration leaves before the loop is entered. -/
def recordsOf (lookup : String → Option String) (c : Configuration) : Journal :=
  [.setting (.logLevel c.logLevel)] ++
    (c.protocol.map fun p => .setting (.protocol p)).toList ++
    ((Configuration.value? lookup .server).map fun url => .setting (.url url)).toList

section configuration

variable {lookup : String → Option String} {c : Configuration}

theorem map_setting_eq (read : c.ReadFrom lookup) :
    c.options.settings.map JournalNote.setting = recordsOf lookup c := by
  rw [read.settings_eq, recordsOf]
  cases c.protocol <;> cases Configuration.value? lookup .server <;> rfl

theorem exhausted?_eq_none {n : Nat}
    (below : ∀ limit, c.maxSessions = some limit → n < limit.toNat) :
    (⟨c.runnerConfig, n⟩ : Runner).exhausted? = none := by
  cases limited : c.maxSessions with
  | none => simp [Runner.exhausted?, Configuration.runnerConfig, limited]
  | some limit =>
      have lt := below limit limited
      simpa [Runner.exhausted?, Configuration.runnerConfig, limited] using lt

/-- **A configuration reaches the engine intact.** Let the variables be accepted, and let a
session be made with the user agent of the configuration, be configured with its options and be
started on a runner of its own. The user agent is the explicit one, else the customary one of the
protocol, else our own, and not blank. All that the engine is configured with are this user
agent, the log level, the protocol if there is one, the server if there is one, and, as its loop
is entered, the limits of the configuration, which are in bounds. Whatever else is started on the
runner, no more slots are taken than the configuration allows, and as long as one is free another
session can be brought up. -/
theorem configuration_reaches_engine (accepted : Configuration.ofLookup lookup = .ok c) :
    c.ReadFrom lookup ∧
    c.effectiveUserAgent =
      (match Configuration.value? lookup .userAgent,
          c.protocol.bind Protocol.customaryUserAgent? with
        | some explicit, _ => explicit
        | none, some customary => customary
        | none, none => Configuration.defaultUserAgent) ∧
    Text.trim c.effectiveUserAgent ≠ "" ∧
    10 ≤ c.limits.reconnectInterval ∧ 0 ≤ c.limits.reconnectTimeout ∧
    ∀ (configs : List RunnerConfig) (i : Nat), configs[i]? = some c.runnerConfig →
      (∀ (as : List (Action Engine)) (w : World Engine) (key : Nat) (made : Creation Engine),
        World.run as (World.new configs) = some w → (World.creations as)[key]? = some made →
        made.userAgent = c.effectiveUserAgent → made.plan.script.failsConstruction = false →
        made.plan.script.rejectsUrl = none → setups (World.acts key as) = [c.options] →
        (∀ j, .start j ∈ World.acts key as → j = i) →
        (∃ s, w.session? key = some s) ∧
        configured (w.history key) = .userAgent c.effectiveUserAgent :: recordsOf lookup c ++
          if entered (World.acts key as) then [.limits c.limits] else []) ∧
      ∀ w : World Engine, Reachable configs w →
        (∀ limit, c.maxSessions = some limit → w.holders i ≤ limit.toNat) ∧
        ∀ key s, w.session? key = some s → s.status = .held →
          s.engine.script.rejectsUrl = none →
          (∀ limit, c.maxSessions = some limit → w.holders i < limit.toNat) →
          ∃ s' new, w.LeadsTo key (bringingUp key c.options i) s' new ∧
            s'.status = .running none ∧
            configured new = recordsOf lookup c ++ [.limits c.limits] := by
  have read := Configuration.readFrom_of_ofLookup accepted
  refine ⟨read, ?_, read.userAgent_visible, read.interval_ge, read.timeout_nonneg, ?_⟩
  · rw [Configuration.effectiveUserAgent, read.userAgent]
    cases Configuration.value? lookup .userAgent with
    | some explicit => rfl
    | none => cases c.protocol.bind Protocol.customaryUserAgent? <;> rfl
  intro configs i given
  constructor
  · intro as w key made ran created agent sound accepts setUp own
    obtain ⟨s, found, known⟩ := configured_of_run ran created sound accepts
    refine ⟨⟨s, found⟩, ?_⟩
    rw [known.records, setUp, agent, List.flatMap_singleton, map_setting_eq read]
    cases inside : entered (World.acts key as) with
    | false => rfl
    | true =>
        obtain ⟨j, handed⟩ := Option.ne_none_iff_exists'.mp (known.handed inside)
        obtain rfl := own j (known.runner j handed)
        rw [limitsGiven, handed, Option.bind_some, given]
        rfl
  · intro w reach
    obtain ⟨place, within⟩ := reach.runners_eq given
    have stem : '\x00' ∉ RunnerConfig.default.threadStem.toList := by decide
    rw [reach.holders_eq_occupants]
    constructor
    · intro limit limited
      exact within limit.toNat (by simp [Configuration.runnerConfig, limited])
    · intro key s found held accepts below
      obtain ⟨s', new, leads, running, records⟩ := leadsTo_running found held accepts place
        (exhausted?_eq_none below) stem c.options
      rw [map_setting_eq read] at records
      exact ⟨s', new, leads, running, records⟩

end configuration

/-- A blank user agent is none. -/
def officeVariables : String → Option String := fun name =>
  [("OC_BRIDGE_USER_AGENT", "  "), ("OC_BRIDGE_PROTOCOL", "gp"),
    ("OC_BRIDGE_SERVER", " https://vpn.example.com "), ("OC_BRIDGE_LOG_LEVEL", "debug"),
    ("OC_BRIDGE_RECONNECT_TIMEOUT", "60"), ("OC_BRIDGE_RECONNECT_INTERVAL", "15"),
    ("OC_BRIDGE_MAX_SESSIONS", "1")].lookup name

def office : Configuration :=
  ⟨none, some .globalProtect, some "https://vpn.example.com", .debug, ⟨60, 15⟩, some 1, "info"⟩

/-- Two sessions are started, and there is a slot for one of them. -/
def twoStarts : List (Action Engine) :=
  let plan : Plan := ⟨0, ⟨[], 0, false, none⟩⟩
  [.create plan "Global Protect" .handler, .create plan "Global Protect" .handler] ++
    bringingUp 0 office.options 0 ++ [.act 1 (.start 0), .act 1 .reserve]

theorem office_reaches_engine :
    ∃ w, World.run twoStarts (World.new [office.runnerConfig]) = some w ∧
      configured (w.history 0) =
        [.userAgent "Global Protect", .setting (.logLevel .debug),
          .setting (.protocol .globalProtect), .setting (.url "https://vpn.example.com"),
          .limits ⟨60, 15⟩] ∧
      w.holders 0 ≤ 1 := by
  have accepted : Configuration.ofLookup officeVariables = .ok office := by rfl
  obtain ⟨-, -, -, -, -, runs⟩ := configuration_reaches_engine accepted
  obtain ⟨sessions, worlds⟩ := runs [office.runnerConfig] 0 rfl
  obtain ⟨w, ran⟩ : ∃ w, World.run twoStarts (World.new [office.runnerConfig]) = some w := ⟨_, rfl⟩
  refine ⟨w, ran, ?_, ?_⟩
  · have own : ∀ j, .start j ∈ World.acts 0 twoStarts → j = 0 := by
      have done : World.acts 0 twoStarts =
          [.setup office.options, .start 0, .reserve, .spawn none, .enter] := rfl
      rw [done]
      simp
    obtain ⟨-, records⟩ := sessions twoStarts w 0 _ ran rfl rfl rfl rfl rfl own
    exact records
  · exact (worlds w (.of_run .start ran)).1 1 rfl

end TunnelControl.Scripted
