import TunnelControl.Native.Engine
import TunnelControl.Proofs.Passages

/-!
# The stages of the native main loop

The native main loop is written as a machine, since the library may call in while one of its own
calls is under way. Here it is read as the program that it is. `course` says, for everything
that the loop may be told, which library calls it makes in which order, what it logs, whether the
controller is told the addressing, and which code is reported in the end.

`Point.left` is what is left of the program at each point of the machine. Every move of the engine
takes its events off the front of that (`Engine.follows_of_move`), and so does the controller's
reply (`Engine.follows_of_resume`), whatever the library calls in with in between.
-/

namespace TunnelControl.Native

open World (passages)

/-! ## What is seen of a loop -/

/-- What is seen of the stages of a main loop, and of the answers that they get. -/
inductive StageEvent
  | made (c : Call)
  | returned (rc : Int32)
  | informed (rc : Int32) (info : Option IpInfo)
  | warned (entry : Log.Entry)
  | told (info : Addressing)
  /-- The controller panicked as it was told. -/
  | panicked
  /-- The terminal result was delivered. -/
  | reported (code : Int32)

/-- Whether the call is one of the main loop's own. -/
def Call.isOfStage : Call → Bool
  | .obtainCookie | .connect | .setupTunScript _ | .addressing | .mainLoop _ => true
  | _ => false

/-- Whether the record tells that a stage failed. -/
def isStageWarning : Log.Entry → Bool
  | .cookieFailed _ | .connectionFailed _ | .tunScriptFailed _ | .addressingUnavailable _ => true
  | _ => false

namespace StageEvent

def ofEvent? : Event Note → Option StageEvent
  | .note (.call c) => if c.isOfStage then some (.made c) else none
  | .log entry => if isStageWarning entry then some (.warned entry) else none
  | .called (.connected info) | .forwarded (.connected info) => some (.told info)
  | .replied (.connected _) .panic => some .panicked
  | .called (.terminated result) | .forwarded (.terminated result) => some (.reported result.code)
  | _ => none

/-- The answer to a library call that is under way. -/
def ofAnswer? (point : Point) : Session.Act Engine → Option StageEvent
  | .move (.returns rc) => match point with
    | .inside _ => some (.returned rc)
    | _ => none
  | .move (.informs rc info) => some (.informed rc info)
  | _ => none

/-- What a history shows of the stages. -/
def shown (h : List (Event Note)) : List StageEvent := h.filterMap ofEvent?

/-- What is seen of an act. What the controller writes to the log does not belong to the loop. -/
def ofPassage (p : Passage Engine) : List StageEvent :=
  match p.act with
  | .log _ => []
  | a => (ofAnswer? p.before.engine.point a).toList ++ shown p.result.seen

@[simp] theorem shown_append (h h' : List (Event Note)) : shown (h ++ h') = shown h ++ shown h' :=
  List.filterMap_append

@[simp] theorem shown_cons (e : Event Note) (h : List (Event Note)) :
    shown (e :: h) = (ofEvent? e).toList ++ shown h := by
  cases shows : ofEvent? e <;> simp [shown, shows]

@[simp] theorem shown_nil : shown [] = [] := rfl

@[simp] theorem shown_announcement (call : Callback) : shown (call.announcement.map .log) = [] := by
  cases call <;> rfl

@[simp] theorem shown_remark (call : Callback) (r : Reply) :
    shown ((r.remark call).map .log) = [] := by
  unfold Reply.remark
  split <;> rfl

section shown

variable (happenings after : List (Happening Note)) {call : Callback}

theorem shown_ask (call : Callback) :
    shown (happenings.map Happening.inLoop ++ (call.announcement.map .log ++ [.called call])) =
      shown (happenings.map Happening.inLoop) ++ (ofEvent? (.called call)).toList := by
  simp

/-- It makes no difference to the loop whether a notice goes to the controller or into its
channel. -/
theorem shown_forward {notice : Notice} (told : call.notice? = some notice) :
    shown (happenings.map Happening.inLoop ++
      (call.announcement.map .log ++ [.forwarded notice] ++ after.map Happening.inLoop)) =
      shown (happenings.map Happening.inLoop) ++ (ofEvent? (.called call)).toList ++
        shown (after.map Happening.inLoop) := by
  have same : ofEvent? (.forwarded notice) = ofEvent? (.called call) := by
    cases call <;> cases told <;> rfl
  simp [same]

theorem shown_reply (call : Callback) (r : Reply) :
    shown ([.replied call r] ++ (r.remark call).map .log ++ after.map Happening.inLoop) =
      (ofEvent? (.replied call r)).toList ++ shown (after.map Happening.inLoop) := by
  simp

/-- What the runner logs is not about the stages. -/
@[simp] theorem shown_ite (c : Prop) [Decidable c] {entry : Log.Entry}
    (other : isStageWarning entry = false) : shown (if c then [.log entry] else []) = [] := by
  split
  · simp [ofEvent?, other]
  · rfl

end shown

end StageEvent

open StageEvent

/-- What is seen of the loop of one session in a run. -/
def stageEvents (key : Nat) (as : List (Action Engine)) (w : World Engine) : List StageEvent :=
  (passages key as w).flatMap ofPassage

/-! ## The program -/

/-- What a main loop is told, as far as it gets. -/
structure Surroundings where
  cookie : Int32
  connection : Int32
  tunScript : Int32
  addressing : Int32
  info : Option IpInfo
  /-- Whether the controller panics as it is told the addressing. -/
  panics : Bool
  mainLoop : Int32
  deriving Inhabited

section course

variable (script : Option CText) (limits : LoopLimits) (x : Surroundings)

/-- A stage returns a code, and unless it is zero the loop returns it. -/
def unlessFailed (rc : Int32) (warning : Int32 → Log.Entry) (next : List StageEvent) :
    List StageEvent :=
  .returned rc :: if rc = 0 then next else [.warned (warning rc), .reported rc]

def libraryLoop : List StageEvent :=
  [.made (.mainLoop limits), .returned x.mainLoop, .reported x.mainLoop]

/-- The controller has been told the addressing. -/
def afterTold : List StageEvent :=
  if x.panics then [.panicked, .reported panicCode] else libraryLoop limits x

/-- Addressing that is missing is only logged. -/
def afterInformed : List StageEvent :=
  match (if x.addressing = 0 then x.info else none) with
  | some info => .told info.read :: afterTold limits x
  | none => .warned (.addressingUnavailable x.addressing) :: libraryLoop limits x

def fromAddressing : List StageEvent :=
  .made .addressing :: .informed x.addressing x.info :: afterInformed limits x

/-- The script for the tunnel is set up if there is one. -/
def fromTunScript : List StageEvent :=
  match script with
  | some script =>
    .made (.setupTunScript script) ::
      unlessFailed x.tunScript .tunScriptFailed (fromAddressing limits x)
  | none => fromAddressing limits x

def fromConnection : List StageEvent :=
  .made .connect :: unlessFailed x.connection .connectionFailed (fromTunScript script limits x)

/-- All of a main loop that has a script for the tunnel or none, up to the delivery of its code. -/
def course : List StageEvent :=
  .made .obtainCookie :: unlessFailed x.cookie .cookieFailed (fromConnection script limits x)

/-- What is left of the course once the call of a stage has been made. -/
def afterCall : Stage → List StageEvent
  | .cookie => unlessFailed x.cookie .cookieFailed (fromConnection script limits x)
  | .connection => unlessFailed x.connection .connectionFailed (fromTunScript script limits x)
  | .tunScript _ => unlessFailed x.tunScript .tunScriptFailed (fromAddressing limits x)
  | .addressing => .informed x.addressing x.info :: afterInformed limits x
  | .mainLoop => [.returned x.mainLoop, .reported x.mainLoop]

/-- What is left of the course at a point. -/
def Point.left : Point → List StageEvent
  | .ready => []
  | .calling .cookie => course script limits x
  | .calling .connection => fromConnection script limits x
  | .calling (.tunScript script) => fromTunScript (some script) limits x
  | .calling .addressing => fromAddressing limits x
  | .calling .mainLoop => libraryLoop limits x
  | .inside stage | .asking stage _ | .writing stage .. | .written stage .. =>
    afterCall script limits x stage
  | .informing => afterTold limits x
  | .done outcome => [.reported outcome.code]

end course

section surroundings

variable (x : Surroundings)

/-- The surroundings in which a stage returns the code. -/
def Surroundings.returning (rc : Int32) : Stage → Surroundings
  | .cookie => { x with cookie := rc }
  | .connection => { x with connection := rc }
  | .tunScript _ => { x with tunScript := rc }
  | .addressing => x
  | .mainLoop => { x with mainLoop := rc }

/-- The surroundings in which the loop is told what the move tells it. -/
def Surroundings.heard (point : Point) : Move → Surroundings
  | .returns rc => match point with
    | .inside stage => x.returning rc stage
    | _ => x
  | .informs rc info => { x with addressing := rc, info }
  | _ => x

/-- The surroundings in which the controller replies in this way. -/
def Surroundings.replied (point : Point) (r : Reply) : Surroundings :=
  match point with
  | .informing => { x with panics := r = .panic }
  | _ => x

end surroundings

/-! ## The engine -/

namespace Engine

variable {e : Engine}

/-- What is left of the engine's course. -/
def left (e : Engine) (x : Surroundings) : List StageEvent :=
  e.point.left e.tunScript e.limits x

/-- What is seen of a move. -/
def stageEvents (e : Engine) (m : Move) (turn : Turn Engine Note) : List StageEvent :=
  (ofAnswer? e.point (.move m)).toList ++
    (shown (turn.happenings.map Happening.inLoop) ++
      (turn.call.bind fun call => ofEvent? (.called call)).toList)

/-- The events are the next part of the engine's course, in the surroundings that tell it what it
hears. -/
structure Follows (e e' : Engine) (events : List StageEvent)
    (hear : Surroundings → Surroundings) : Prop where
  tunScript : e'.tunScript = e.tunScript
  limits : e'.limits = e.limits
  left : ∀ x, events ++ e'.left x = e.left (hear x)

theorem Follows.trans {e₁ e₂ : Engine} {events events' : List StageEvent}
    {hear hear' : Surroundings → Surroundings} (first : e.Follows e₁ events hear)
    (second : e₁.Follows e₂ events' hear') : e.Follows e₂ (events ++ events') (hear ∘ hear') := by
  refine ⟨second.tunScript.trans first.tunScript, second.limits.trans first.limits, fun x => ?_⟩
  rw [List.append_assoc, second.left, first.left]
  rfl

theorem left_eq {point : Point} (at_ : e.point = point) (x : Surroundings) :
    e.left x = point.left e.tunScript e.limits x := by
  rw [left, at_]

/-! ### While the library calls in -/

/-- With the call of a stage under way, the course is where it was, and nothing is seen. -/
structure Aside (stage : Stage) (e : Engine) (s : Engine × Happenings) : Prop where
  tunScript : s.1.tunScript = e.tunScript
  limits : s.1.limits = e.limits
  left : ∀ x, s.1.left x = afterCall e.tunScript e.limits x stage
  silent : shown (s.2.map Happening.inLoop) = []

theorem aside_goBack (e : Engine) (stage : Stage) (entry : Entry) (rc : Option Int32)
    {log : List Log.Entry} (others : ∀ entry ∈ log, isStageWarning entry = false) :
    Aside stage e (e.goBack stage entry rc log) := by
  refine ⟨rfl, rfl, fun _ => rfl, ?_⟩
  simp only [goBack, shown, List.map_append, List.filterMap_append, List.append_eq_nil_iff,
    List.filterMap_eq_nil_iff, List.forall_mem_map]
  refine ⟨fun entry mem => ?_, fun rc _ => rfl⟩
  simp [Happening.inLoop, ofEvent?, others entry mem]

/-- What an entry point logs is not about the stages. -/
theorem log_ofReply {entry : Entry} {r : Reply} {rc : Option Int32} {log : List Log.Entry}
    (answer : Verdict.ofReply entry r = .answer rc log) :
    ∀ entry ∈ log, isStageWarning entry = false := by
  unfold Verdict.ofReply Verdict.ofForm at answer
  repeat' split at answer
  all_goals cases answer
  all_goals simp [isStageWarning]

theorem aside_follow (e : Engine) (stage : Stage) (entry : Entry) {verdict : Verdict}
    (others : ∀ rc log, verdict = .answer rc log → ∀ entry ∈ log, isStageWarning entry = false) :
    Aside stage e (e.follow stage entry verdict) := by
  unfold follow
  split
  · exact aside_goBack e stage entry _ (others _ _ rfl)
  · exact aside_goBack e stage entry _ (by simp)
  · exact ⟨rfl, rfl, fun _ => rfl, rfl⟩

/-- An entry point never tells the controller the addressing. -/
theorem ofEvent?_callback {entry : Entry} {call : Callback} (known : entry.callback? = some call) :
    ofEvent? (.called call) = none := by
  cases entry with
  | certificate | reconnected =>
      cases known
      rfl
  | browser a | progress _ a | line _ a | form a =>
      obtain ⟨_, _, rfl⟩ := Option.map_eq_some_iff.mp known
      rfl

theorem aside_callIn (e : Engine) (stage : Stage) (entry : Entry) (bound : Bool) :
    Aside stage e ((e.callIn stage entry bound).engine, (e.callIn stage entry bound).happenings) ∧
      (e.callIn stage entry bound).call.bind (fun call => ofEvent? (.called call)) = none := by
  unfold callIn
  split
  · exact ⟨aside_goBack e stage entry _ (by simp), rfl⟩
  · rename_i call reached
    have known : entry.callback? = some call := by
      cases bound <;> simp_all
    exact ⟨⟨rfl, rfl, fun _ => rfl, rfl⟩, ofEvent?_callback known⟩

theorem Aside.follows {stage : Stage} {m : Move} {turn : Turn Engine Note}
    (aside : Aside stage e (turn.engine, turn.happenings))
    (left : ∀ x, e.left x = afterCall e.tunScript e.limits x stage)
    (unanswered : ofAnswer? e.point (.move m) = none)
    (unheard : ∀ x : Surroundings, x.heard e.point m = x)
    (untold : turn.call.bind (fun call => ofEvent? (.called call)) = none) :
    e.Follows turn.engine (e.stageEvents m turn) (·.heard e.point m) := by
  refine ⟨aside.tunScript, aside.limits, fun x => ?_⟩
  have same : turn.engine.left x = e.left x := (aside.left x).trans (left x).symm
  rw [stageEvents, unanswered, aside.silent, untold, unheard, same]
  rfl

/-! ### Stage by stage -/

/-- A stage whose code decides whether the loop goes on. -/
theorem follows_of_checked {rc : Int32} {stage next : Stage} {warning : Int32 → Log.Entry}
    {turn : Turn Engine Note} (point : e.point = .inside stage)
    (ofStage : isStageWarning (warning rc) = true)
    (moved : turn = if rc = 0 then ⟨e.moveTo (.calling next), [], none⟩
      else e.endWith rc [warning rc])
    (answered : ∀ x : Surroundings, afterCall e.tunScript e.limits (x.returning rc stage) stage =
      unlessFailed rc warning (Point.left e.tunScript e.limits x (.calling next))) :
    e.Follows turn.engine (e.stageEvents (.returns rc) turn) (·.heard e.point (.returns rc)) := by
  have left_eq (x : Surroundings) : e.left (x.heard e.point (.returns rc)) =
      unlessFailed rc warning (Point.left e.tunScript e.limits x (.calling next)) := by
    rw [left_eq point, point]
    exact answered x
  by_cases zero : rc = 0
  · subst zero
    rw [if_pos rfl] at moved
    subst moved
    refine ⟨rfl, rfl, fun x => ?_⟩
    rw [left_eq, stageEvents, point]
    rfl
  · rw [if_neg zero] at moved
    subst moved
    refine ⟨rfl, rfl, fun x => ?_⟩
    rw [left_eq, unlessFailed, if_neg zero]
    simp [stageEvents, point, ofAnswer?, endWith, ofEvent?, Happening.inLoop, ofStage, left,
      Point.left, moveTo, Outcome.code]

theorem follows_of_returns {rc : Int32} {stage : Stage} {turn : Turn Engine Note}
    (point : e.point = .inside stage) (moved : e.afterStage? stage rc = some turn) :
    e.Follows turn.engine (e.stageEvents (.returns rc) turn) (·.heard e.point (.returns rc)) := by
  cases stage with
  | cookie | tunScript =>
      exact follows_of_checked point rfl (Option.some.inj moved).symm fun _ => rfl
  | connection =>
      refine follows_of_checked point rfl (Option.some.inj moved).symm fun x => ?_
      cases stored : e.tunScript <;> rfl
  | mainLoop =>
      cases moved
      refine ⟨rfl, rfl, fun x => ?_⟩
      rw [left_eq point, stageEvents, point]
      rfl
  | addressing => cases moved

/-- **One move.** Whatever the engine does, and whatever it is told, it goes along its course. -/
theorem follows_of_move {m : Move} {turn : Turn Engine Note} (moved : e.move m = some turn) :
    e.Follows turn.engine (e.stageEvents m turn) (·.heard e.point m) := by
  unfold move at moved
  split at moved
  · rename_i stage point
    cases moved
    refine ⟨rfl, rfl, fun x => ?_⟩
    rw [left_eq point]
    cases stage <;> rfl
  · rename_i rc stage point
    exact follows_of_returns point moved
  · rename_i rc info point
    split at moved
    · rename_i info' given
      cases moved
      refine ⟨rfl, rfl, fun x => ?_⟩
      simp only [left_eq point, Point.left, afterCall, afterInformed, Surroundings.heard, given]
      rfl
    · rename_i missing
      cases moved
      refine ⟨rfl, rfl, fun x => ?_⟩
      simp only [left_eq point, Point.left, afterCall, afterInformed, Surroundings.heard, missing]
      rfl
  · rename_i entry bound stage point
    cases moved
    obtain ⟨aside, untold⟩ := aside_callIn e stage entry bound
    exact aside.follows (left_eq point) rfl (fun _ => rfl) untold
  · rename_i stage entry code a rest point
    cases moved
    refine ⟨rfl, rfl, fun x => ?_⟩
    rw [left_eq point]
    rfl
  · rename_i rc stage entry code current rest point
    have unanswered : ofAnswer? e.point (.move (.returns rc)) = none := by
      rw [point]
      rfl
    have unheard (x : Surroundings) : x.heard e.point (.returns rc) = x := by
      rw [point]
      rfl
    split at moved
    · cases moved
      have aside : Aside stage e (e.follow stage entry (.write code rest)) :=
        aside_follow e stage entry (by simp)
      exact aside.follows (left_eq point) unanswered unheard rfl
    · cases moved
      have aside : Aside stage e (e.goBack stage entry (some FormResult.failed.raw)
          [.writeBackFailed (.rejected current.option)]) :=
        aside_goBack e stage entry _ (by simp [isStageWarning])
      exact aside.follows (left_eq point) unanswered unheard rfl
  · cases moved

theorem resume_of_informing (informing : e.point = .informing) (r : Reply) :
    e.resume r =
      (e.moveTo (if r = .panic then .done .panicked else .calling .mainLoop), []) := by
  simp only [resume, informing]
  split <;> rfl

theorem resume_of_asking {stage : Stage} {entry : Entry} (asking : e.point = .asking stage entry)
    (r : Reply) : e.resume r = e.follow stage entry (.ofReply entry r) := by
  simp only [resume, asking]

theorem ofEvent?_replied {call : Callback} {r : Reply}
    (other : r ≠ .panic ∨ ¬ ∃ info, call = .connected info) :
    ofEvent? (.replied call r) = none := by
  unfold ofEvent?
  split <;> simp_all

/-- The one reply that the course depends on is that to being told the addressing. -/
theorem follows_of_resume {call : Callback} (r : Reply)
    (asked : e.point = .informing ↔ ∃ info, call = .connected info) :
    e.Follows (e.resume r).1 ((ofEvent? (.replied call r)).toList ++
      shown ((e.resume r).2.map Happening.inLoop)) (·.replied e.point r) := by
  by_cases informing : e.point = .informing
  · rw [resume_of_informing informing, informing]
    obtain ⟨info, rfl⟩ := asked.mp informing
    by_cases panics : r = .panic
    · subst panics
      refine ⟨rfl, rfl, fun x => ?_⟩
      rw [left_eq informing]
      rfl
    · rw [if_neg panics, ofEvent?_replied (.inl panics)]
      refine ⟨rfl, rfl, fun x => ?_⟩
      have taken : x.replied .informing r = { x with panics := false } := by
        simp [Surroundings.replied, panics]
      rw [left_eq informing, taken]
      rfl
  · rw [ofEvent?_replied (.inr (mt asked.mpr informing))]
    have unheard (x : Surroundings) : x.replied e.point r = x := by
      unfold Surroundings.replied
      split
      · exact absurd ‹_› informing
      · rfl
    by_cases asking : ∃ stage entry, e.point = .asking stage entry
    · obtain ⟨stage, entry, asking⟩ := asking
      rw [resume_of_asking asking]
      have aside : Aside stage e (e.follow stage entry (.ofReply entry r)) :=
        aside_follow e stage entry fun _ _ => log_ofReply
      refine ⟨aside.tunScript, aside.limits, fun x => ?_⟩
      rw [unheard, aside.silent, aside.left, left_eq asking]
      rfl
    · have still : e.resume r = (e, []) := by
        unfold resume
        split <;> simp_all
      rw [still]
      exact ⟨rfl, rfl, fun x => by rw [unheard]; rfl⟩

/-- A move that calls somebody tells the addressing, or passes on a call of the library. -/
theorem call_of_move {m : Move} {turn : Turn Engine Note} {call : Callback}
    (moved : e.move m = some turn) (asked : turn.call = some call) :
    (turn.engine.point = .informing ∧ ∃ info, call = .connected info) ∨
      ∃ stage entry, turn.engine.point = .asking stage entry ∧ entry.callback? = some call := by
  unfold move at moved
  split at moved
  · cases moved
    cases asked
  · rename_i stage _
    cases stage <;> simp only [afterStage?, Option.some.injEq, reduceCtorEq] at moved
    all_goals subst moved
    all_goals repeat' split at asked
    all_goals cases asked
  · split at moved
    · cases moved
      cases asked
      exact .inl ⟨rfl, _, rfl⟩
    · cases moved
      cases asked
  · rename_i entry bound stage _
    cases moved
    unfold callIn at asked ⊢
    split at asked
    · cases asked
    · rename_i known reached
      cases asked
      cases bound with
      | false => cases reached
      | true => exact .inr ⟨stage, entry, by simp_all [moveTo], reached⟩
  · cases moved
    cases asked
  · split at moved <;> cases moved <;> cases asked
  · cases moved

theorem informing_iff_of_move {m : Move} {turn : Turn Engine Note} {call : Callback}
    (moved : e.move m = some turn) (asked : turn.call = some call) :
    turn.engine.point = .informing ↔ ∃ info, call = .connected info := by
  rcases call_of_move moved asked with ⟨informing, connected⟩ | ⟨stage, entry, asking, known⟩
  · exact ⟨fun _ => connected, fun _ => informing⟩
  · have other : ¬ ∃ info, call = .connected info := by
      rintro ⟨info, rfl⟩
      cases ofEvent?_callback known
    simp [asking, other]

end Engine

end TunnelControl.Native
