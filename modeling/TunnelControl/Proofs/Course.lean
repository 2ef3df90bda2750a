import TunnelControl.Proofs.History
import TunnelControl.Proofs.Order

/-!
# The course of a session

The events of a session leave marks: what was taken, delivered, let go. Whatever
the order of acts in the world, the marks of one session are the beginning of a
`Course.complete`, and a session that is gone has run its whole course. There
are five courses: the handle was dropped, the start failed in one of three ways,
or the loop ran. What is claimed of terminal results, slots and releases is read
off these five.

Each engine has a note of its own by which it shows that it was let go. It is a
parameter here (`ReleaseSign`), since the engines show it in different halves.
-/

namespace TunnelControl

open Engine (Note)

inductive Mark
  | slotTaken
  | slotReturned
  | started (id : EngineId)
  /-- A call of the controller, or a notice, other than the terminal result. -/
  | called
  | ended (outcome : Outcome)
  | delivered (result : TerminalResult)
  /-- The terminal result is off the loop's hands. -/
  | acknowledged
  /-- The engine's own sign that it was let go. -/
  | letGo
  | released
  | unbound
  | refused (fault : StartFault)
  deriving DecidableEq

namespace Event

variable {ν : Type}

/-- The marks that an event leaves. A channel takes the terminal result at once. -/
def marks (shows : ν → Bool) : Event ν → List Mark
  | .note n => if shows n then [.letGo] else []
  | .called (.terminated result) => [.delivered result]
  | .called _ => [.called]
  | .replied (.terminated _) _ => [.acknowledged]
  | .forwarded (.terminated result) => [.delivered result, .acknowledged]
  | .forwarded _ => [.called]
  | .started id => [.started id]
  | .refused fault => [.refused fault]
  | .ended outcome => [.ended outcome]
  | .released => [.released]
  | .unbound => [.unbound]
  | .slotTaken => [.slotTaken]
  | .slotReturned => [.slotReturned]
  | .log _ | .callerLog _ | .replied .. | .received .. => []

variable {shows : ν → Bool}

theorem marks_called {call : Callback} (plain : ∀ result, call ≠ .terminated result) :
    (Event.called call : Event ν).marks shows = [.called] := by
  cases call with
  | terminated result => exact absurd rfl (plain result)
  | _ => rfl

theorem marks_forwarded {call : Callback} {notice : Notice} (told : call.notice? = some notice)
    (plain : ∀ result, call ≠ .terminated result) :
    (Event.forwarded notice : Event ν).marks shows = [.called] := by
  cases call with
  | terminated result => exact absurd rfl (plain result)
  | connected info => cases told; rfl
  | reconnected => cases told; rfl
  | _ => simp [Callback.notice?] at told

theorem marks_replied {call : Callback} (plain : ∀ result, call ≠ .terminated result)
    (r : Reply) : (Event.replied call r : Event ν).marks shows = [] := by
  cases call with
  | terminated result => exact absurd rfl (plain result)
  | _ => rfl

end Event

/-- The marks of a history. -/
def marks {ν : Type} (shows : ν → Bool) (h : List (Event ν)) : List Mark :=
  h.flatMap (Event.marks shows)

section marks

variable {ν : Type} {shows : ν → Bool}

@[simp] theorem marks_nil : marks shows ([] : List (Event ν)) = [] := rfl

@[simp] theorem marks_append (h h' : List (Event ν)) :
    marks shows (h ++ h') = marks shows h ++ marks shows h' := List.flatMap_append

@[simp] theorem marks_cons (e : Event ν) (h : List (Event ν)) :
    marks shows (e :: h) = e.marks shows ++ marks shows h := rfl

@[simp] theorem marks_logs (entries : List Log.Entry) :
    marks shows (entries.map (Event.log : Log.Entry → Event ν)) = [] := by
  induction entries with
  | nil => rfl
  | cons entry entries ih => exact ih

@[simp] theorem marks_ite_log (c : Prop) [Decidable c] (entry : Log.Entry) :
    marks shows (if c then [.log entry] else []) = [] := by
  split <;> rfl

/-- How often an engine shows in what it leaves behind that it was let go. -/
def signs (shows : ν → Bool) (happenings : List (Happening ν)) : Nat :=
  happenings.countP fun
    | .note n => shows n
    | .log _ => false

/-- Happenings leave the same marks wherever they happen: log entries leave none. -/
theorem marks_map {f : Happening ν → Event ν} (notes : ∀ n, f (.note n) = .note n)
    (entries : ∀ entry, (f (.log entry)).marks shows = []) (happenings : List (Happening ν)) :
    marks shows (happenings.map f) = List.replicate (signs shows happenings) .letGo := by
  induction happenings with
  | nil => rfl
  | cons x happenings ih =>
      rw [List.map_cons, marks_cons, ih]
      cases x with
      | log entry =>
          rw [entries, List.nil_append]
          rfl
      | note n =>
          rw [notes]
          cases hn : shows n <;> simp [signs, Event.marks, hn, List.replicate_succ]

theorem marks_inLoop (happenings : List (Happening ν)) :
    marks shows (happenings.map Happening.inLoop) =
      List.replicate (signs shows happenings) .letGo :=
  marks_map (fun _ => rfl) (fun _ => rfl) happenings

theorem marks_atCaller (happenings : List (Happening ν)) :
    marks shows (happenings.map Happening.atCaller) =
      List.replicate (signs shows happenings) .letGo :=
  marks_map (fun _ => rfl) (fun _ => rfl) happenings

/-- The event of which a mark is the only sign, for marks that one kind of event
leaves and nothing else does. -/
def Mark.event? : Mark → Option (Event ν)
  | .slotTaken => some .slotTaken
  | .slotReturned => some .slotReturned
  | .started id => some (.started id)
  | .ended outcome => some (.ended outcome)
  | .released => some .released
  | .unbound => some .unbound
  | .refused fault => some (.refused fault)
  | _ => none

theorem Mark.marks_event? {m : Mark} {e : Event ν} (h : m.event? = some e) :
    e.marks shows = [m] := by
  cases m <;> cases h <;> rfl

theorem Mark.event?_of_mem {m : Mark} {e e' : Event ν} (h : m.event? = some e)
    (hm : m ∈ e'.marks shows) : e' = e := by
  cases e' with
  | note n => cases hn : shows n <;> simp [Event.marks, hn] at hm; subst hm; cases h
  | called call => cases call <;> simp [Event.marks] at hm <;> subst hm <;> cases h
  | replied call r => cases call <;> simp [Event.marks] at hm; subst hm; cases h
  | forwarded notice =>
      cases notice <;> simp [Event.marks] at hm
      case terminated => rcases hm with rfl | rfl <;> cases h
      all_goals subst hm; cases h
  | log | callerLog | received => simp [Event.marks] at hm
  | _ =>
      obtain rfl := List.mem_singleton.mp hm
      exact Option.some.inj h

theorem Mark.mem_event_iff {m : Mark} {e e' : Event ν} (h : m.event? = some e) :
    m ∈ e'.marks shows ↔ e' = e := by
  constructor
  · exact m.event?_of_mem h
  · rintro rfl
    simp [m.marks_event? h]

theorem mem_marks_iff {m : Mark} {e : Event ν} {h : List (Event ν)} (he : m.event? = some e) :
    m ∈ marks shows h ↔ e ∈ h := by
  rw [marks, List.mem_flatMap]
  constructor
  · rintro ⟨e', hmem, hm⟩
    exact m.event?_of_mem he hm ▸ hmem
  · intro hmem
    exact ⟨e, hmem, by simp [m.marks_event? he]⟩

/-- A view of a history that shows in the marks, event by event, is a view of the
marks. -/
theorem filterMap_marks {β : Type} {f : Mark → Option β} {g : Event ν → Option β}
    (agree : ∀ e, (e.marks shows).filterMap f = (g e).toList) (h : List (Event ν)) :
    (marks shows h).filterMap f = h.filterMap g := by
  induction h with
  | nil => rfl
  | cons e h ih =>
      rw [marks_cons, List.filterMap_append, agree, ih]
      cases he : g e <;> simp [he]

theorem Event.nodup_marks (e : Event ν) : (e.marks shows).Nodup := by
  cases e with
  | note n => cases hn : shows n <;> simp [Event.marks, hn]
  | called call => cases call <;> simp [Event.marks]
  | forwarded notice => cases notice <;> simp [Event.marks]
  | replied call r => cases call <;> simp [Event.marks]
  | _ => simp [Event.marks]

/-- There are as many marks of a kind as there are events that leave one. -/
theorem count_marks {m : Mark} {q : Event ν → Bool}
    (leaves : ∀ e, m ∈ e.marks shows ↔ q e = true) (h : List (Event ν)) :
    (marks shows h).count m = h.countP q := by
  induction h with
  | nil => rfl
  | cons e h ih =>
      rw [marks_cons, List.count_append, ih, List.countP_cons, Nat.add_comm,
        e.nodup_marks.count]
      simp [leaves]

/-- What precedes what among the marks does so among the events. -/
theorem preceded_of_marks {m m' : Mark} {p q : Event ν → Prop} {h : List (Event ν)}
    (preceded : Preceded (· = m) (· = m') (marks shows h))
    (hp : ∀ e : Event ν, m ∈ e.marks shows → p e) (hq : ∀ e, q e → e.marks shows = [m']) :
    Preceded p q h := by
  refine preceded.of_flatMap ?_ ?_
  · rintro e _ hm rfl
    exact hp e hm
  · intro e he
    exact ⟨m', hq e he, rfl⟩

end marks

/-- A note by which an engine shows that it was let go: how often it does so in
each half, and that it never does otherwise. -/
structure ReleaseSign (ε : Type) [Engine ε] where
  shows : Note ε → Bool
  early : Nat
  late : Nat
  make : ∀ plan agent, signs shows (Engine.make (ε := ε) plan agent).2 = 0
  setup : ∀ {x e result}, Engine.setup x e = some result → signs shows result.2 = 0
  access : ∀ {x e result}, Engine.access x e = some result → signs shows result.2 = 0
  enter : ∀ limits e, signs shows (Engine.enter (ε := ε) limits e).2 = 0
  move : ∀ {m e turn}, Engine.move m e = some turn → signs shows turn.happenings = 0
  resume : ∀ call r e, signs shows (Engine.resume (ε := ε) call r e).2 = 0
  retire : ∀ e, signs shows (Engine.retire (ε := ε) e).2 = early
  free : ∀ e, signs shows (Engine.free (ε := ε) e).2 = late

theorem signs_hidden {ν : Type} (happenings : List (Happening ν)) :
    signs (fun _ => false) happenings = 0 := by
  rw [signs, List.countP_eq_zero]
  rintro (entry | n) _ <;> simp

/-- The sign that nobody ever sees. -/
def ReleaseSign.hidden (ε : Type) [Engine ε] : ReleaseSign ε where
  shows _ := false
  early := 0
  late := 0
  make _ _ := signs_hidden _
  setup _ := signs_hidden _
  access _ := signs_hidden _
  enter _ _ := signs_hidden _
  move _ := signs_hidden _
  resume _ _ _ := signs_hidden _
  retire _ := signs_hidden _
  free _ := signs_hidden _

/-- The mark of what follows once engine and context are gone. -/
def Aftermath.marks : Aftermath → List Mark
  | .nothing => []
  | .refusal fault => [.refused fault]
  | .slot => [.slotReturned]

/-- The courses of a session up to the point where its engine is to be let go. -/
inductive Course (id : EngineId) : Aftermath → List Mark → Prop
  | dropped : Course id .nothing []
  | misnamed (name : String) : Course id (.refusal (.threadName name)) []
  | noSlot (limit : Nat) : Course id (.refusal (.capacity limit)) []
  | notSpawned (errno : Int32) :
      Course id (.refusal (.spawn errno)) [.slotTaken, .slotReturned]
  | finished (calls : Nat) (outcome : Outcome) :
      Course id .slot (.slotTaken :: .started id :: (List.replicate calls .called ++
        [.ended outcome, .delivered ⟨id, outcome.code⟩, .acknowledged]))

/-- A course to its very end. -/
def Course.complete (n : Nat) (before : List Mark) (aftermath : Aftermath) : List Mark :=
  before ++ (List.replicate n .letGo ++ ([.released, .unbound] ++ aftermath.marks))

/-- How far a session has come along its course, by the state it is in. -/
inductive Along (early late : Nat) (id : EngineId) : Status → List Mark → Prop
  | held : Along early late id .held []
  | starting : Along early late id .starting []
  | placed : Along early late id .placed [.slotTaken]
  | launched : Along early late id .launched [.slotTaken, .started id]
  | running {asked} (calls : Nat) (plain : ∀ result, asked ≠ some (.terminated result)) :
      Along early late id (.running asked)
        (.slotTaken :: .started id :: List.replicate calls .called)
  | reporting (calls : Nat) (outcome : Outcome) :
      Along early late id (.reporting ⟨id, outcome.code⟩)
        (.slotTaken :: .started id :: (List.replicate calls .called ++
          [.ended outcome, .delivered ⟨id, outcome.code⟩]))
  | retiring {aftermath ms} (course : Course id aftermath ms) :
      Along early late id (.retiring aftermath) ms
  | freeing {aftermath ms} (course : Course id aftermath ms) :
      Along early late id (.freeing aftermath) (ms ++ List.replicate early .letGo)
  | unbinding {aftermath ms} (course : Course id aftermath ms) :
      Along early late id (.unbinding aftermath)
        (ms ++ (List.replicate (early + late) .letGo ++ [.released]))
  | closing {aftermath ms} (course : Course id aftermath ms) :
      Along early late id (.closing aftermath)
        (ms ++ (List.replicate (early + late) .letGo ++ [.released, .unbound]))
  | gone {aftermath ms} (course : Course id aftermath ms) :
      Along early late id .gone (Course.complete (early + late) ms aftermath)

namespace Session

variable {ε : Type} [Engine ε]

/-- **One step along the course.** Every transition takes a session to the next
point of its course, or leaves it where it is. -/
theorem Transition.along (sign : ReleaseSign ε) {runners : List Runner} {s : Session ε}
    {a : Act ε} {r : Result ε (Note ε)} {h : List (Event (Note ε))}
    (trans : Transition runners s a r)
    (along : Along sign.early sign.late s.id s.status (marks sign.shows h)) :
    Along sign.early sign.late r.session.id r.session.status
      (marks sign.shows (h ++ r.seen)) := by
  rw [marks_append]
  generalize marks sign.shows h = ms at along ⊢
  -- Acts that leave no mark leave the state as it is, too.
  have stays : ∀ {new : List Mark}, new = [] →
      Along sign.early sign.late s.id s.status (ms ++ new) := by
    rintro _ rfl
    rw [List.append_nil]
    exact along
  have runs : ∀ calls, Along sign.early sign.late s.id (.running none)
      (.slotTaken :: .started s.id :: List.replicate calls .called) :=
    fun calls => .running calls (by simp)
  cases trans with
  | setup status set =>
      exact stays (by simp [Result.seen, SlotUse.events, marks_atCaller, sign.setup set])
  | access used =>
      exact stays (by simp [Result.seen, SlotUse.events, marks_atCaller, sign.access used])
  | move status moved silent =>
      exact stays (by simp [Result.seen, SlotUse.events, marks_inLoop, sign.move moved])
  | log status => exact stays rfl
  | logLast status => exact stays rfl
  | receive channel => exact stays rfl
  | hangUp channel => exact stays rfl
  | drop status =>
      rw [status] at along
      cases along
      exact .retiring .dropped
  | misname status place nul =>
      rw [status] at along
      cases along
      exact .retiring (.misnamed _)
  | accept status place name =>
      rw [status] at along
      cases along
      exact .starting
  | findFull status given place full =>
      rw [status] at along
      cases along
      exact .retiring (.noSlot _)
  | takeSlot status given place free =>
      rw [status] at along
      cases along
      exact .placed
  | launch status =>
      rw [status] at along
      cases along
      exact .launched
  | failSpawn status =>
      rw [status] at along
      cases along
      exact .retiring (.notSpawned _)
  | enter status given place =>
      rw [status] at along
      cases along
      simpa [Result.seen, SlotUse.events, marks_inLoop, sign.enter] using
        runs 0
  | ask status moved asked untold plain =>
      rw [status] at along
      cases along with
      | running calls =>
      simpa [Result.seen, SlotUse.events, marks_inLoop, sign.move moved,
        Event.marks_called plain, List.replicate_succ'] using
        Along.running (calls + 1) (by simpa using plain)
  | forward status moved asked channel told plain =>
      rw [status] at along
      cases along with
      | running calls =>
      simpa [Result.seen, SlotUse.events, marks_inLoop, sign.move moved, sign.resume,
        Event.marks_forwarded told plain, List.replicate_succ'] using
        runs (calls + 1)
  | reply status fits =>
      rw [status] at along
      cases along with
      | running calls plain =>
      simpa [Result.seen, SlotUse.events, marks_inLoop, sign.resume,
        Event.marks_replied (by simpa using plain)] using
        runs calls
  | report status finished handled logged =>
      rw [status] at along
      subst logged
      cases along with
      | running calls =>
      simpa [Result.seen, SlotUse.events, Event.marks] using Along.reporting calls _
  | post status finished channel logged =>
      rw [status] at along
      subst logged
      cases along with
      | running calls =>
      simpa [Result.seen, SlotUse.events, Event.marks] using
        Along.retiring (.finished calls _)
  | acknowledge status fits logged =>
      rw [status] at along
      subst logged
      cases along with
      | reporting calls outcome =>
      simpa [Result.seen, SlotUse.events, Event.marks, afterReport] using
        Along.retiring (.finished calls _)
  | retire status =>
      rw [status] at along
      cases along with
      | retiring course =>
      simpa [Result.seen, SlotUse.events, marks_inLoop, sign.retire] using Along.freeing course
  | free status =>
      rw [status] at along
      cases along with
      | freeing course =>
      simpa [Result.seen, SlotUse.events, marks_inLoop, sign.free, Event.marks,
        ← List.replicate_append_replicate] using Along.unbinding course
  | unbind status =>
      rw [status] at along
      cases along with
      | unbinding course =>
      simpa [Result.seen, SlotUse.events, Event.marks] using Along.closing course
  | close status =>
      rw [status] at along
      cases along with
      | closing course =>
      simpa [Result.seen, SlotUse.events, Course.complete, Aftermath.marks] using
        Along.gone course
  | returnSlot status =>
      rw [status] at along
      cases along with
      | closing course =>
      simpa [Result.seen, SlotUse.events, Course.complete, Aftermath.marks, Event.marks] using
        Along.gone course
  | @failStart fault logs status logged =>
      rw [status] at along
      subst logged
      cases along with
      | closing course =>
      cases fault with
      | threadName name | capacity limit | spawn errno =>
          simpa [Result.seen, SlotUse.events, Course.complete, Aftermath.marks, Event.marks]
            using Along.gone course

end Session

namespace Along

variable {early late : Nat} {id : EngineId} {status : Status} {ms : List Mark}

/-- A session that was just made stands at the beginning. -/
theorem of_make {ε : Type} [Engine ε] (sign : ReleaseSign ε) {plan : Engine.Plan ε}
    {agent : String} {engine : Option ε} {happenings : List (Happening (Note ε))}
    (made : Engine.make plan agent = (engine, happenings)) :
    Along early late id .held (marks sign.shows (happenings.map Happening.atCaller)) := by
  have hsigns := sign.make plan agent
  rw [made] at hsigns
  rw [marks_atCaller, hsigns]
  exact .held

/-- What has been marked so far is the beginning of a course, and of a session
that is gone it is all of it. -/
theorem isPrefix (along : Along early late id status ms) :
    ∃ aftermath before, Course id aftermath before ∧
      ms <+: Course.complete (early + late) before aftermath ∧
      (status = .gone → ms = Course.complete (early + late) before aftermath) := by
  cases along with
  | held => exact ⟨_, _, .dropped, List.nil_prefix, by simp⟩
  | starting => exact ⟨_, _, .dropped, List.nil_prefix, by simp⟩
  | placed => exact ⟨_, _, .notSpawned 0, ⟨_, rfl⟩, by simp⟩
  | launched => exact ⟨_, _, .finished 0 .panicked, ⟨_, rfl⟩, by simp⟩
  | running calls =>
      refine ⟨_, _, .finished calls .panicked, ?_, by simp⟩
      simp [Course.complete]
  | reporting calls outcome =>
      refine ⟨_, _, .finished calls outcome, ?_, by simp⟩
      simp [Course.complete]
  | retiring course => exact ⟨_, _, course, List.prefix_append _ _, by simp⟩
  | freeing course =>
      refine ⟨_, _, course, ?_, by simp⟩
      simp [Course.complete, ← List.replicate_append_replicate]
  | unbinding course =>
      refine ⟨_, _, course, ?_, by simp⟩
      simp [Course.complete]
  | closing course =>
      refine ⟨_, _, course, ?_, by simp⟩
      simp [Course.complete]
  | gone course => exact ⟨_, _, course, List.prefix_refl _, fun _ => rfl⟩

theorem eq_nil_of_held (along : Along early late id .held ms) : ms = [] := by
  cases along
  rfl

/-- Only a session whose start has failed is marked as refused, and that is the
end of it. -/
theorem of_refused {fault : StartFault} (along : Along early late id status ms)
    (h : .refused fault ∈ ms) :
    ∃ before, Course id (.refusal fault) before ∧
      ms = Course.complete (early + late) before (.refusal fault) := by
  cases along with
  | @gone aftermath before course =>
      have haftermath : aftermath = .refusal fault := by
        cases course <;> simp_all [Course.complete, Aftermath.marks]
      subst haftermath
      exact ⟨before, course, rfl⟩
  | retiring course | freeing course | unbinding course | closing course =>
      cases course <;> simp at h
  | _ => simp at h

/-- By then its context is gone, and its loop never ran. -/
theorem not_started_of_refused {fault : StartFault} (along : Along early late id status ms)
    (h : .refused fault ∈ ms) : .unbound ∈ ms ∧ ∀ id', .started id' ∉ ms := by
  obtain ⟨before, course, rfl⟩ := along.of_refused h
  cases course <;> simp [Course.complete, Aftermath.marks]

/-- Only a session whose loop ran is marked as started. -/
theorem of_started {id' : EngineId} (along : Along early late id status ms)
    (h : .started id' ∈ ms) :
    id' = id ∧ ∃ before, Course id .slot before ∧
      ms <+: Course.complete (early + late) before .slot ∧
      (status = .gone → ms = Course.complete (early + late) before .slot) := by
  obtain ⟨aftermath, before, course, hbegin, hgone⟩ := along.isPrefix
  have hmem := hbegin.subset h
  cases course with
  | finished calls outcome =>
      refine ⟨?_, _, .finished calls outcome, hbegin, hgone⟩
      simpa [Course.complete, Aftermath.marks] using hmem
  | _ => simp [Course.complete, Aftermath.marks] at hmem

/-- The callback context is there until only the aftermath is left. -/
theorem unbound_mem_iff {ε : Type} {s : Session ε} (along : Along early late id s.status ms) :
    .unbound ∈ ms ↔ s.isBound = false := by
  rw [Session.isBound]
  generalize s.status = status at along
  cases along with
  | retiring course | freeing course | unbinding course => cases course <;> simp
  | closing course => simp
  | gone course => simp [Course.complete]
  | _ => simp

/-- Only of a loop that was started there are calls and notices. -/
theorem started_of_called (along : Along early late id status ms) (called : .called ∈ ms) :
    .started id ∈ ms := by
  cases along with
  | running calls | reporting calls => simp
  | retiring course | freeing course | unbinding course | closing course =>
      cases course <;> simp_all
  | gone course => cases course <;> simp_all [Course.complete, Aftermath.marks]
  | _ => simp at called

end Along

namespace World.Reachable

variable {ε : Type} [Engine ε] {configs : List RunnerConfig} {w : World ε} {key : Nat}
  {s : Session ε}

/-- **Every session is on its course**, in every reachable world. -/
theorem along (sign : ReleaseSign ε) (reach : Reachable configs w)
    (found : w.session? key = some s) :
    Along sign.early sign.late s.id s.status (marks sign.shows (w.history key)) := by
  refine reach.session_invariant
    (P := fun s h => Along sign.early sign.late s.id s.status (marks sign.shows h)) ?_ ?_ found
  · intro plan agent lifecycle id engine happenings hmake
    exact .of_make sign hmake
  · intro runners s a r h trans along
    exact trans.along sign along

end World.Reachable
end TunnelControl
