import TunnelControl.Proofs.SharedController
import TunnelControl.Proofs.Scripted.Values

/-!
# All that is written to the log

The events of a trace have the records that a host is shown. Beside those there are records for
debugging: of calls that were answered, commands that were sent, sessions that were made,
configured and started, and of loops that ended before the end of their script. `Detail` is what
each of them says, `written` is all that a step writes, and none of it depends on what has been
entered into a form (`written_veiled`).
-/

namespace TunnelControl.Scripted

/-- A record for debugging. -/
inductive Detail
  /-- The script refused to be made into an engine. -/
  | constructionRefused
  | sessionCreated (id : EngineId) (userAgent : String)
  | sessionConfigured (id : EngineId) (options : Options)
  | commandSent (c : Command)
  | loopStarted (id : EngineId) (limits : LoopLimits)
  | certificateChecked (decision : CertDecision)
  /-- The verdict on a form, and how many options the controller left in it. -/
  | formProcessed (result : FormResult) (options : Nat)
  | lineDropped (level : Int32)
  /-- The loop ended at this step. -/
  | endedEarly (s : Step) (code : Int32)
  /-- Nobody receives the terminal result. -/
  | receiverGone (id : EngineId)

/-- A record of either kind. -/
inductive Record
  | entry (e : Log.Entry)
  | detail (d : Detail)

/-! ## Where a loop ends -/

/-- The step at which a loop ends that ends here: the one that it would have gone on with if it
takes a command between two steps, otherwise the one that it began last. -/
def Point.lastStep? (begun : Option Step) : Point → Option Step
  | .poll rest | .obey _ (.poll rest) => rest.head?
  | .obey _ (.idle _) => some .idle
  | _ => begun

/-- What is written if the move ends the loop with a code before its script does. -/
def Engine.earlyEnd? (begun : Option Step) (m : Move) (e : Engine) : Option Detail :=
  match (e.move m).bind fun turn => turn.engine.outcome? with
  | some (.returned code) => (e.point.lastStep? begun).map (.endedEarly · code)
  | _ => none

theorem Point.lastStep?_valueless (begun : Option Step) (p : Point) :
    p.valueless.lastStep? begun = p.lastStep? begun := by
  cases p with
  | obey c back => cases back <;> rfl
  | _ => rfl

theorem Engine.earlyEnd?_valueless (begun : Option Step) (m : Move) (e : Engine) :
    e.valueless.earlyEnd? begun m = e.earlyEnd? begun m := by
  have outcome (turn : Turn Engine Note) :
      (values.turn turn).engine.outcome? = turn.engine.outcome? :=
    values_unseen.outcome turn.engine
  have point : e.valueless.point.lastStep? begun = e.point.lastStep? begun :=
    e.point.lastStep?_valueless begun
  simp only [earlyEnd?, move_valueless, Option.bind_map, Function.comp_def, outcome, point]
  rfl

/-! ## What a step writes -/

/-- What an act writes for debugging, apart from what it leaves in the trace. -/
def detail? (runners : List Runner) (begun : Option Step) (s : Session Engine) :
    Session.Act Engine → Option Detail
  | .setup options =>
    match (Engine.configure options s.engine).2 with
    | .ok () => some (.sessionConfigured s.id options)
    | .error _ => none
  | .access (.borrow _ c) => some (.commandSent c)
  | .spawn none =>
    (s.runner.bind (runners[·]?)).map fun r => .loopStarted s.id r.config.limits
  | .move (.call (.progress level first second)) =>
    if (Progress.render first second).isNone then some (.lineDropped level) else none
  | .move m => s.engine.earlyEnd? begun m
  | .reply (.certificate decision) => some (.certificateChecked decision)
  | .reply (.form f result) => some (.formProcessed result f.options.length)
  | .finish =>
    match s.lifecycle with
    | .channel false _ => some (.receiverGone s.id)
    | _ => none
  | _ => none

/-- The step that a session's loop began last. -/
def begun? (key : Nat) (w : World Engine) : Option Step :=
  ((w.history key).filterMap fun | .note (.began s) => some s | _ => none).getLast?

/-- What an action writes for debugging, with the session that it is about. -/
def details (w : World Engine) : Action Engine → List (Nat × Detail)
  | .create plan userAgent _ =>
    let detail :=
      if plan.script.failsConstruction then .constructionRefused
      else .sessionCreated w.nextId userAgent
    [(w.sessions.length, detail)]
  | .act key a =>
    ((w.session? key).bind fun s => detail? w.runners (begun? key w) s a).toList.map (key, ·)

/-- The entry that an event writes to the log. -/
def entry? : Event Note → Option Log.Entry
  | .log entry | .callerLog entry => some entry
  | _ => none

/-- What a view makes of the events of a trace, each with its session. -/
def seenAs {α : Type} (look : Event Note → Option α) (trace : List (Nat × Event Note)) :
    List (Nat × α) :=
  trace.filterMap fun (key, event) => (look event).map (key, ·)

/-- All that the step from `w` to `w'` writes to the log. -/
def written (w : World Engine) (a : Action Engine) (w' : World Engine) : List (Nat × Record) :=
  (seenAs entry? (w'.trace.drop w.trace.length)).map (Prod.map id .entry) ++
    (details w a).map (Prod.map id .detail)

/-! ## None of it depends on values -/

theorem seenAs_veiled {α : Type} {look look' : Event Note → Option α}
    (same : ∀ e, look (values.event e) = look' e) (trace : List (Nat × Event Note)) :
    seenAs look (trace.map values.entry) = seenAs look' trace := by
  simp only [seenAs, List.filterMap_map]
  congr 1
  funext x
  exact congrArg (Option.map _) (same x.2)

theorem history_veiled (w : World Engine) (key : Nat) :
    (values.world w).history key = (w.history key).map values.event := by
  simp only [World.history, Veil.world, List.filterMap_map, List.map_filterMap]
  congr 1
  funext x
  by_cases own : x.1 = key <;> simp [Veil.entry, own]

theorem begun?_veiled (key : Nat) (w : World Engine) :
    begun? key (values.world w) = begun? key w := by
  simp only [begun?, history_veiled, List.filterMap_map]
  congr 2
  funext event
  cases event with
  | note n => cases n <;> rfl
  | _ => rfl

theorem detail?_veiled (runners : List Runner) (begun : Option Step) (s : Session Engine)
    (a : Session.Act Engine) :
    detail? runners begun (values.session s) (values.act a) = detail? runners begun s a := by
  cases a with
  | setup options =>
      have configured : (Engine.configure options (values.session s).engine).2 =
          (Engine.configure options s.engine).2 := by
        rw [show (values.session s).engine = s.engine.valueless from rfl,
          Engine.configure_valueless]
      simp only [detail?, Veil.act, configured]
      rfl
  | access act => cases act <;> rfl
  | spawn failure => cases failure <;> rfl
  | move m =>
      cases m with
      | call u =>
          cases u with
          | progress => rfl
          | _ => exact s.engine.earlyEnd?_valueless begun _
      | _ => exact s.engine.earlyEnd?_valueless begun _
  | reply r =>
      cases r with
      | form f result => simp [detail?, Veil.act, values, Reply.valueless, Form.valueless]
      | _ => rfl
  | _ => rfl

theorem details_veiled (w : World Engine) (a : Action Engine) :
    details (values.world w) (values.action a) = details w a := by
  cases a with
  | create plan userAgent lifecycle =>
      have count : (values.world w).sessions.length = w.sessions.length := List.length_map _
      simp only [details, Veil.action, count]
      rfl
  | act key a =>
      simp only [details, Veil.action, Veil.session?_world, begun?_veiled]
      cases w.session? key with
      | none => rfl
      | some s =>
          have same := detail?_veiled w.runners (begun? key w) s a
          exact congrArg (fun d : Option Detail => d.toList.map (key, ·)) same

theorem written_veiled (w w' : World Engine) (a : Action Engine) :
    written (values.world w) (values.action a) (values.world w') = written w a w' := by
  have fresh : (values.world w').trace.drop (values.world w).trace.length =
      (w'.trace.drop w.trace.length).map values.entry := by
    simp [Veil.world, List.map_drop]
  have entries (e : Event Note) : entry? (values.event e) = entry? e := by
    cases e <;> rfl
  rw [written, written, fresh, seenAs_veiled entries, details_veiled]

end TunnelControl.Scripted
