import TunnelControl.Proofs.History
import TunnelControl.Proofs.Order

/-!
# One controller for many sessions

Every session has a callback context of its own, and the controller is handed it with each
call. A `SharedController` is one that minds nothing else: what it answers depends on the
context, the call, and the calls that came with that context before, however many sessions
there are and whatever their threads do meanwhile.

In the trace of a world the calls of all sessions are mixed. `answersIn_history` says what a
single session sees of a shared controller, as long as no other session has its context.
-/

namespace TunnelControl

open Engine (Note)

/-- A controller that tells its sessions apart by their contexts. -/
structure SharedController (C : Type) where
  /-- The answer to a call that comes with a context, after the calls that came with it before. -/
  answer : C → List Callback → Callback → Reply
  fits : ∀ context earlier call, (answer context earlier call).fits call = true

section traces

variable {ν : Type}

def Event.call? : Event ν → Option Callback
  | .called call => some call
  | _ => none

def Event.reply? : Event ν → Option (Callback × Reply)
  | .replied call r => some (call, r)
  | _ => none

/-- The calls that the controller received, in order. -/
def received (h : List (Event ν)) : List Callback := h.filterMap Event.call?

/-- The replies of the controller, in order, with the calls that they are replies to. -/
def replies (h : List (Event ν)) : List (Callback × Reply) := h.filterMap Event.reply?

section replies

variable (h h' : List (Event ν)) (happenings : List (Happening ν))

@[simp] theorem replies_nil : replies ([] : List (Event ν)) = [] := rfl

@[simp] theorem replies_cons (e : Event ν) : replies (e :: h) = e.reply?.toList ++ replies h := by
  cases e <;> rfl

@[simp] theorem replies_append : replies (h ++ h') = replies h ++ replies h' :=
  List.filterMap_append

@[simp] theorem replies_logs (entries : List Log.Entry) :
    replies (entries.map (Event.log (ν := ν))) = [] := by
  simp [replies, Event.reply?, List.filterMap_map, Function.comp_def]

@[simp] theorem replies_inLoop : replies (happenings.map Happening.inLoop) = [] := by
  rw [replies, List.filterMap_eq_nil_iff]
  exact forall_inLoop (fun _ => rfl) (fun _ => rfl)

@[simp] theorem replies_atCaller : replies (happenings.map Happening.atCaller) = [] := by
  rw [replies, List.filterMap_eq_nil_iff]
  exact forall_atCaller (fun _ => rfl) (fun _ => rfl)

end replies

/-- What a trace has of one session. -/
def eventsOf (key : Nat) (trace : List (Nat × Event ν)) : List (Event ν) :=
  trace.filterMap fun (k, event) => if k = key then some event else none

/-- Where an event stands in the history of a session, it stands in the trace. -/
theorem exists_split {key : Nat} {trace : List (Nat × Event ν)} {before after : List (Event ν)}
    {x : Event ν} (split : eventsOf key trace = before ++ x :: after) :
    ∃ pre post, trace = pre ++ (key, x) :: post ∧ eventsOf key pre = before := by
  obtain ⟨l, l', rfl, first, rest⟩ := List.filterMap_eq_append_iff.mp split
  obtain ⟨gap, ⟨k, event⟩, post, rfl, silent, own, -⟩ := List.filterMap_eq_cons_iff.mp rest
  obtain ⟨rfl, rfl⟩ : k = key ∧ event = x := by simpa using own
  refine ⟨l ++ gap, post, by simp, ?_⟩
  rw [eventsOf, List.filterMap_append, first, List.filterMap_eq_nil_iff.mpr silent, List.append_nil]

theorem eventsOf_split {key : Nat} {pre post : List (Nat × Event ν)} {x : Event ν} :
    eventsOf key (pre ++ (key, x) :: post) = eventsOf key pre ++ x :: eventsOf key post := by
  simp [eventsOf]

/-! ## What it answers -/

namespace SharedController

variable {C : Type} (controller : SharedController C)

/-- All replies in the history of a session with this context are the controller's. -/
def AnswersIn (context : C) (h : List (Event ν)) : Prop :=
  ∀ before call r after, h = before ++ .replied call r :: after →
    r = controller.answer context (received before).dropLast call

variable {controller} {context : C} {h new : List (Event ν)}

theorem AnswersIn.of_append (answers : controller.AnswersIn context (h ++ new)) :
    controller.AnswersIn context h := by
  rintro before call r after rfl
  exact answers before call r (after ++ new) (by simp)

theorem AnswersIn.append_silent (answers : controller.AnswersIn context h)
    (silent : replies new = []) : controller.AnswersIn context (h ++ new) := by
  intro before call r after split
  rcases split_append split with ⟨mid, rfl, -⟩ | ⟨mid, -, rfl⟩
  · exact answers before call r mid rfl
  · simp [replies, Event.reply?] at silent

theorem AnswersIn.append_reply {call : Callback} {r : Reply}
    (answers : controller.AnswersIn context h)
    (own : r = controller.answer context (received h).dropLast call)
    (silent : replies new = []) :
    controller.AnswersIn context (h ++ .replied call r :: new) := by
  rw [List.append_cons]
  refine AnswersIn.append_silent ?_ silent
  intro before call' r' after split
  rcases split_append split with ⟨mid, rfl, -⟩ | ⟨mid, rfl, last⟩
  · exact answers before call' r' mid rfl
  · cases mid with
    | nil =>
        cases last
        rwa [List.append_nil]
    | cons y mid => simp at last

end SharedController

/-! ## Contexts -/

variable {C : Type} [DecidableEq C]

/-- The calls that came with a context, of whichever session. -/
def callsWith (contexts : Nat → C) (context : C) (trace : List (Nat × Event ν)) : List Callback :=
  trace.filterMap fun (k, event) => if contexts k = context then event.call? else none

/-- If no other session has its context, these are the calls of one session. -/
theorem callsWith_eq {contexts : Nat → C} {key : Nat} {trace : List (Nat × Event ν)}
    (own : ∀ k call, (k, .called call) ∈ trace → contexts k = contexts key → k = key) :
    callsWith contexts (contexts key) trace = received (eventsOf key trace) := by
  rw [received, eventsOf, List.filterMap_filterMap, callsWith]
  apply List.filterMap_congr
  rintro ⟨k, event⟩ mem
  by_cases hk : k = key
  · simp [hk]
  · cases event with
    | called call =>
        have other : contexts k ≠ contexts key := fun same => hk (own k call mem same)
        simp [hk, other]
    | _ => simp [hk, Event.call?]

/-- The last call with the context is the one that is answered, and the ones before it are all
that the answer depends on. -/
def SharedController.Justifies (controller : SharedController C) (contexts : Nat → C)
    (before : List (Nat × Event ν)) : Nat × Event ν → Prop
  | (k, .replied call r) =>
    r = controller.answer (contexts k) (callsWith contexts (contexts k) before).dropLast call
  | _ => True

/-- All replies in a trace are the controller's, where `contexts` tells with which context each
of the sessions was made. -/
def SharedController.Answers (controller : SharedController C) (contexts : Nat → C)
    (trace : List (Nat × Event ν)) : Prop :=
  Throughout (controller.Justifies contexts) trace

instance (controller : SharedController C) (contexts : Nat → C)
    (before : List (Nat × Event ν)) : ∀ x, Decidable (controller.Justifies contexts before x)
  | (_, .replied ..) => inferInstanceAs (Decidable (_ = _))
  | (_, .note _) | (_, .log _) | (_, .callerLog _) | (_, .called _) | (_, .forwarded _)
  | (_, .received ..) | (_, .started _) | (_, .refused _) | (_, .ended _) | (_, .released)
  | (_, .unbound) | (_, .slotTaken) | (_, .slotReturned) => isTrue trivial

instance (controller : SharedController C) (contexts : Nat → C)
    (trace : List (Nat × Event ν)) : Decidable (controller.Answers contexts trace) :=
  decidableThroughout _ trace

end traces

/-! ## In a world -/

section worlds

variable {ε : Type} [Engine ε] {configs : List RunnerConfig} {w : World ε} {key : Nat}
  {C : Type} [DecidableEq C] {contexts : Nat → C} {controller : SharedController C}

theorem history_eq (w : World ε) (key : Nat) : w.history key = eventsOf key w.trace := rfl

/-- A transition replies to nothing, or to what the session waits for. -/
theorem Session.Transition.reply_cases {runners : List Runner} {s : Session ε}
    {a : Session.Act ε} {r : Session.Result ε (Note ε)}
    (trans : Session.Transition runners s a r) :
    replies r.seen = [] ∨ ∃ call reply rest, a = .reply reply ∧
      (s.status = .running (some call) ∨
        ∃ result, s.status = .reporting result ∧ call = .terminated result) ∧
      r.seen = .replied call reply :: rest ∧ replies rest = [] := by
  cases trans with
  | @reply reply call status =>
      refine Or.inr ⟨call, reply, (reply.remark call).map .log ++
        (Engine.resume call reply s.engine).2.map Happening.inLoop, rfl, Or.inl status, ?_, ?_⟩
      · simp [Session.Result.seen, SlotUse.events]
      · simp
  | acknowledge status fits logged =>
      subst logged
      refine Or.inr ⟨_, _, _, rfl, Or.inr ⟨_, status, rfl⟩, rfl, ?_⟩
      split <;> rfl
  | @failStart fault logs status logged =>
      subst logged
      cases fault <;> exact Or.inl rfl
  | report status finished handled logged | post status finished channel logged =>
      subst logged
      refine Or.inl ?_
      split <;> rfl
  | _ => exact Or.inl (by simp [Session.Result.seen, SlotUse.events, Event.reply?])

/-- Only sessions call. -/
theorem World.Reachable.session_of_called {call : Callback} (reach : Reachable configs w)
    (mem : (key, .called call) ∈ w.trace) : ∃ s, w.session? key = some s := by
  have hlt : key < w.sessions.length := reach.key_lt _ mem
  cases place : w.sessions[key] with
  | some s => exact ⟨s, session?_eq_some_iff.mpr (List.getElem?_eq_some_iff.mpr ⟨hlt, place⟩)⟩
  | none =>
      obtain ⟨_, _, happenings, -, history⟩ :=
        reach.unmade (List.getElem?_eq_some_iff.mpr ⟨hlt, place⟩)
      have mem' : Event.called call ∈ w.history key :=
        List.mem_filterMap.mpr ⟨_, mem, by simp⟩
      rw [history] at mem'
      rcases List.mem_append.mp mem' with caller | last
      · obtain ⟨x, -, same⟩ := List.mem_map.mp caller
        cases x <;> cases same
      · simp at last

/-- No other session has the context of this one. -/
def OwnContext (contexts : Nat → C) (w : World ε) (key : Nat) : Prop :=
  ∀ k s, w.session? k = some s → contexts k = contexts key → k = key

variable (reach : World.Reachable configs w) (own : OwnContext contexts w key)
include reach own

/-- **Each call comes with the context of its session.** -/
theorem callsWith_eq_received :
    callsWith contexts (contexts key) w.trace = received (w.history key) := by
  refine callsWith_eq fun k call mem same => ?_
  obtain ⟨s, found⟩ := reach.session_of_called mem
  exact own k s found same

/-- **What a session sees of a shared controller.** -/
theorem answersIn_history (answers : controller.Answers contexts w.trace) :
    controller.AnswersIn (contexts key) (w.history key) := by
  intro before call r after split
  obtain ⟨pre, post, trace, rfl⟩ := exists_split split
  have justified : r = _ := answers pre (key, .replied call r) post trace
  rw [justified, callsWith_eq]
  intro k call' mem same
  obtain ⟨s, found⟩ := reach.session_of_called (trace ▸ List.mem_append_left _ mem)
  exact own k s found same

end worlds

/-- A session that is alone in its world sees all that the controller does. -/
theorem answers_of_alone {ε : Type} [Engine ε] {configs : List RunnerConfig} {w : World ε}
    {s : Session ε} {C : Type} [DecidableEq C] {context : C} {controller : SharedController C}
    (reach : World.Reachable configs w) (only : w.sessions = [some s])
    (answers : controller.AnswersIn context (w.history 0)) :
    controller.Answers (fun _ => context) w.trace := by
  rintro pre ⟨k, event⟩ post split
  cases event with
  | replied call r =>
      have first : ∀ entry ∈ w.trace, entry.1 = 0 := by
        intro entry mem
        have hlt := reach.key_lt entry mem
        rw [only] at hlt
        exact Nat.lt_one_iff.mp hlt
      obtain rfl : k = 0 := first (k, .replied call r) (by simp [split])
      have justified := answers (eventsOf 0 pre) call r (eventsOf 0 post)
        (by rw [history_eq, split, eventsOf_split])
      have same : callsWith (fun _ => context) context pre = received (eventsOf 0 pre) := by
        refine callsWith_eq ?_
        intro k' call' mem _
        exact first (k', .called call') (split ▸ List.mem_append_left _ mem)
      rw [SharedController.Justifies, same]
      exact justified
  | _ => trivial

end TunnelControl
