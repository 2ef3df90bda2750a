import TunnelControl.Session

/-!
# Sessions and runners together

A world holds runners, the sessions made so far and the trace of everything that
happened in them. `World.step` is one act on one session, or the making of a
new one; any order of acts, by any number of threads, is a list of steps.

A session is known by its place in the list of sessions, a runner by its place
in the list of runners. Neither is ever removed, and an attempt for which no
engine could be made has a place as well.
-/

namespace TunnelControl

structure World (ε : Type) [Engine ε] where
  runners : List Runner
  /-- The sessions in the order of the attempts to make them, with none where
  no engine could be made. -/
  sessions : List (Option (Session ε))
  /-- The number that the next engine gets. -/
  nextId : EngineId
  /-- Every event with the session it belongs to, oldest first. -/
  trace : List (Nat × Event (Engine.Note ε))

/-- One thing done in a world. -/
inductive Action (ε : Type) [Engine ε]
  | create (plan : Engine.Plan ε) (userAgent : String) (lifecycle : Lifecycle)
  | act (session : Nat) (a : Session.Act ε)

namespace World

variable {ε : Type} [Engine ε]

def new (runners : List RunnerConfig) : World ε := ⟨runners.map Runner.new, [], EngineId.first, []⟩

def session? (w : World ε) (key : Nat) : Option (Session ε) := w.sessions[key]?.join

/-- What the slots of a runner come to. -/
def useSlots (use : SlotUse) (r : Runner) : Runner :=
  match use with
  | .unchanged => r
  | .taken => { r with active := r.active + 1 }
  | .returned => r.release

/-- Makes an engine with a user agent; none if none can be made. -/
def make (plan : Engine.Plan ε) (userAgent : String) (lifecycle : Lifecycle) (w : World ε) :
    Option (Session ε) × List (Event (Engine.Note ε)) :=
  match Engine.make plan userAgent with
  | (none, happenings) => (none, happenings.map Happening.atCaller ++ [.unbound])
  | (some engine, happenings) =>
    (some ⟨w.nextId, userAgent, engine, lifecycle, none, .held⟩,
      happenings.map Happening.atCaller)

/-- The world with one more attempt to make a session. Where no engine can be
made, all that happens is that the context that was made for it comes and goes. -/
def attempt (plan : Engine.Plan ε) (userAgent : String) (lifecycle : Lifecycle) (w : World ε) :
    World ε :=
  let (session, events) := w.make plan userAgent lifecycle
  { w with
    sessions := w.sessions ++ [session]
    nextId := if session.isSome then w.nextId.next else w.nextId
    trace := w.trace ++ events.map (w.sessions.length, ·) }

/-- The world once an act on a session has had its result. -/
def advance (key : Nat) (result : Session.Result ε (Engine.Note ε)) (w : World ε) : World ε :=
  { w with
    sessions := w.sessions.set key (some result.session)
    runners := match result.session.runner with
      | none => w.runners
      | some r => w.runners.modify r (useSlots result.slots)
    trace := w.trace ++ result.seen.map (key, ·) }

/-- One step of the world; none if the session is unknown or cannot be acted on
in this way now. -/
def step (action : Action ε) (w : World ε) : Option (World ε) :=
  match action with
  | .create plan userAgent lifecycle => some (w.attempt plan userAgent lifecycle)
  | .act key a => do
    let session ← w.session? key
    let result ← session.step w.runners a
    pure (w.advance key result)

/-- Any number of steps in order; none if one of them cannot be made. -/
def run : List (Action ε) → World ε → Option (World ε)
  | [], w => some w
  | a :: as, w => (w.step a).bind (run as)

/-- The worlds that can come about from runners of the given configurations. -/
inductive Reachable (configs : List RunnerConfig) : World ε → Prop
  | start : Reachable configs (new configs)
  | step {w w' : World ε} (action : Action ε) (before : Reachable configs w)
      (made : w.step action = some w') : Reachable configs w'

/-- What happened in one session. -/
def history (w : World ε) (key : Nat) : List (Event (Engine.Note ε)) :=
  w.trace.filterMap fun (k, event) => if k = key then some event else none

end World
end TunnelControl
