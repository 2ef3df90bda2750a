import Mathlib.Data.List.Basic
import Mathlib.Data.List.Induction
import TunnelControl.Scripted.Engine

/-!
# The beats of a scripted loop

Of everything in the history of a scripted session, the beats are what its main
loop does and what is done to it: steps begin, commands arrive and are obeyed, the
controller is called and replies, hooks end. How a loop has to come to its end is
said about beats alone.
-/

namespace TunnelControl

/-- The outcome that a command ends a scripted loop with, if it does. -/
def Command.ending? : Command → Option Outcome
  | .cancel => some (.returned Scripted.cancelledCode)
  | .detach => some (.returned Scripted.detachedCode)
  | .pause => some (.returned Scripted.pausedCode)
  | .stats => none

/-- The outcome that a reply ends a scripted loop with, unless a hook gets it. -/
def Reply.ending? : Reply → Option Outcome
  | .certificate .reject => some (.returned Scripted.certRejected)
  | .form _ .cancelled => some (.returned Scripted.formCancelled)
  | .form _ .failed => some (.returned Scripted.formFailed)
  | .browser (some _) => some (.returned Scripted.formFailed)
  | .panic => some .panicked
  | _ => none

namespace Scripted

inductive Beat
  /-- A command entered the queue. -/
  | entered
  /-- The queue was found empty ahead of these steps. -/
  | foundEmpty (rest : List Step)
  | began (s : Step)
  /-- A command was taken from the queue and recorded. -/
  | command (c : Command)
  | called (call : Callback)
  /-- A notice went into a channel instead of a call. -/
  | told (notice : Notice)
  | replied (call : Callback) (r : Reply)
  | hookReturned (code : Option Int32)
  | hookPanicked
  deriving DecidableEq

/-- Whether the step runs a hook. -/
@[simp] def Step.isHook : Step → Bool
  | .invoke _ => true
  | _ => false

/-- The beat that an event is. The terminal result is none of the loop's. -/
def beat? : Event Note → Option Beat
  | .note (.send (.entered _)) => some .entered
  | .note (.foundEmpty rest) => some (.foundEmpty rest)
  | .note (.began s) => some (.began s)
  | .note (.journal (.command c)) => some (.command c)
  | .note (.hookReturned code) => some (.hookReturned code)
  | .note .hookPanicked => some .hookPanicked
  | .called (.terminated _) | .replied (.terminated _) _ | .forwarded (.terminated _) => none
  | .called call => some (.called call)
  | .replied call r => some (.replied call r)
  | .forwarded notice => some (.told notice)
  | _ => none

/-- The beats of a history. -/
def beats (h : List (Event Note)) : List Beat := h.filterMap beat?

@[simp] theorem beats_nil : beats [] = [] := rfl

@[simp] theorem beats_append (h h' : List (Event Note)) : beats (h ++ h') = beats h ++ beats h' :=
  List.filterMap_append

theorem beats_cons (e : Event Note) (h : List (Event Note)) :
    beats (e :: h) = (beat? e).toList ++ beats h := by
  cases he : beat? e <;> simp [beats, he]

@[simp] theorem beats_logs (entries : List Log.Entry) : beats (entries.map .log) = [] := by
  induction entries with
  | nil => rfl
  | cons entry entries ih => exact ih

namespace Beat

/-- Whether a step begins, a command is obeyed or the controller is called. -/
def isWork : Beat → Bool
  | .began _ | .command _ | .called _ | .told _ => true
  | _ => false

/-- Whether the controller hears of something with the beat. -/
def isCall : Beat → Bool
  | .called _ | .told _ => true
  | _ => false

def began? : Beat → Option Step
  | .began s => some s
  | _ => none

def command? : Beat → Option Command
  | .command c => some c
  | _ => none

def isEntered : Beat → Bool
  | .entered => true
  | _ => false

/-- Whether a hook is under way after the beat, if it was before. -/
def leavesHook (inHook : Bool) : Beat → Bool
  | .began s => s.isHook || inHook
  | .hookReturned _ | .hookPanicked => false
  | .entered | .foundEmpty _ | .command _ | .called _ | .told _ | .replied .. => inHook

/-- The outcome that the loop has to end with from this beat on. Replies to calls
that a hook makes are the hook's. -/
def ending? (inHook : Bool) : Beat → Option Outcome
  | .command c => c.ending?
  | .hookReturned code => code.map .returned
  | .hookPanicked => some .panicked
  | .replied _ r => if inHook then none else r.ending?
  | .entered | .foundEmpty _ | .began _ | .called _ | .told _ => none

end Beat

/-- The steps that began, in order. -/
def begun (bs : List Beat) : List Step := bs.filterMap Beat.began?

/-- The commands that were obeyed, in order. -/
def obeyed (bs : List Beat) : List Command := bs.filterMap Beat.command?

/-- Whether a hook is under way after these beats. -/
def inHook (bs : List Beat) : Bool := bs.foldl Beat.leavesHook false

/-- The outcomes that the beats ask for, where `b` tells whether a hook is under
way before them. -/
def endingsFrom (b : Bool) : List Beat → List Outcome
  | [] => []
  | x :: bs => (x.ending? b).toList ++ endingsFrom (x.leavesHook b) bs

/-- The outcomes that the beats ask for, in order. -/
def endings (bs : List Beat) : List Outcome := endingsFrom false bs

/-- Whether nothing is done after the beats that end the loop. -/
def Settled (bs : List Beat) : Prop :=
  ∀ pre x post, bs = pre ++ x :: post → (x.ending? (inHook pre)).isSome = true →
    ∀ y ∈ post, y.isWork = false

/-- Whether every step has begun and the queue was found empty after the last of
them: by then every command that had entered the queue was obeyed. -/
def Exhausted (steps : List Step) (bs : List Beat) : Prop :=
  ∃ pre post, bs = pre ++ .foundEmpty [] :: post ∧ begun pre = steps ∧
    (obeyed pre).length = pre.countP Beat.isEntered ∧ ∀ y ∈ post, y.isWork = false

/-! ## One more beat -/

theorem begun_snoc (bs : List Beat) (x : Beat) :
    begun (bs ++ [x]) = begun bs ++ x.began?.toList := by
  rw [begun, List.filterMap_append, List.filterMap_cons]
  cases x.began? <;> rfl

theorem obeyed_snoc (bs : List Beat) (x : Beat) :
    obeyed (bs ++ [x]) = obeyed bs ++ x.command?.toList := by
  rw [obeyed, List.filterMap_append, List.filterMap_cons]
  cases x.command? <;> rfl

theorem inHook_snoc (bs : List Beat) (x : Beat) :
    inHook (bs ++ [x]) = x.leavesHook (inHook bs) := by
  rw [inHook, List.foldl_append]
  rfl

/-- A hook that is under way has begun. -/
theorem exists_invoke_of_inHook {bs : List Beat} (here : inHook bs = true) :
    ∃ n, Step.invoke n ∈ begun bs := by
  induction bs using List.reverseRecOn with
  | nil => cases here
  | append_singleton bs x ih =>
      rw [inHook_snoc] at here
      rw [begun_snoc]
      have before : inHook bs = true → ∃ n, Step.invoke n ∈ begun bs ++ x.began?.toList := by
        intro before
        obtain ⟨n, mem⟩ := ih before
        exact ⟨n, List.mem_append_left _ mem⟩
      cases x with
      | began s =>
          cases s with
          | invoke n => exact ⟨n, by simp [Beat.began?]⟩
          | _ => exact before (by simpa [Beat.leavesHook] using here)
      | hookReturned | hookPanicked => cases here
      | _ => exact before here

theorem endingsFrom_append (b : Bool) (bs bs' : List Beat) :
    endingsFrom b (bs ++ bs') =
      endingsFrom b bs ++ endingsFrom (bs.foldl Beat.leavesHook b) bs' := by
  induction bs generalizing b with
  | nil => rfl
  | cons x bs ih => simp [endingsFrom, ih]

theorem endings_snoc (bs : List Beat) (x : Beat) :
    endings (bs ++ [x]) = endings bs ++ (x.ending? (inHook bs)).toList := by
  rw [endings, endingsFrom_append]
  simp [endingsFrom, endings, inHook]

theorem ending?_eq_none {bs pre post : List Beat} {x : Beat} (h : endings bs = [])
    (split : bs = pre ++ x :: post) : x.ending? (inHook pre) = none := by
  subst split
  rw [endings, endingsFrom_append, List.append_eq_nil_iff, endingsFrom] at h
  have hx := (List.append_eq_nil_iff.mp h.2).1
  change (x.ending? (inHook pre)).toList = [] at hx
  cases ended : x.ending? (inHook pre) with
  | none => rfl
  | some outcome => simp [ended] at hx

theorem settled_of_endings {bs : List Beat} (h : endings bs = []) : Settled bs := by
  intro pre x post split ended
  rw [ending?_eq_none h split] at ended
  simp at ended

/-- More may be done as long as nothing has ended the loop; after that, nothing. -/
theorem Settled.snoc {bs : List Beat} {x : Beat} (settled : Settled bs)
    (quiet : endings bs = [] ∨ x.isWork = false) : Settled (bs ++ [x]) := by
  intro pre y post split ended z hz
  -- The beat that is new either ends the loop itself or comes after one that did.
  rcases List.eq_nil_or_concat post with rfl | ⟨post', last, rfl⟩
  · simp at hz
  · have hsplit : bs ++ [x] = (pre ++ y :: post') ++ [last] := by
      rw [split]
      simp
    obtain ⟨hbs, hx⟩ := List.append_inj' hsplit rfl
    cases hx
    have hquiet : x.isWork = false := by
      rcases quiet with none | hx
      · have hnone := ending?_eq_none none hbs
        simp [hnone] at ended
      · exact hx
    rw [List.concat_eq_append, List.mem_append, List.mem_singleton] at hz
    rcases hz with hz | rfl
    · exact settled pre y post' hbs ended z hz
    · exact hquiet

theorem Exhausted.snoc {steps : List Step} {bs : List Beat} {x : Beat}
    (exhausted : Exhausted steps bs) (quiet : x.isWork = false) :
    Exhausted steps (bs ++ [x]) := by
  obtain ⟨pre, post, rfl, all, empty, after⟩ := exhausted
  refine ⟨pre, post ++ [x], by simp, all, empty, ?_⟩
  intro y hy
  rcases List.mem_append.mp hy with hy | hy
  · exact after y hy
  · exact List.mem_singleton.mp hy ▸ quiet

end Scripted
end TunnelControl
