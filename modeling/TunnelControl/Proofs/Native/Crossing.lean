import TunnelControl.Proofs.Native.WriteBack
import TunnelControl.Proofs.Passages

/-!
# Crossings of the library's boundary

The library calls in at its entry points as long as its own calls last, with whatever
arguments. A run is read here as the row of its `Crossing`s: each of these calls with all
that came of it, up to the moment in which the library has control back.

`Crossing.code?` is what the library may be told. It is read off what the controller made of
this one crossing, and off the codes of the library for what was written back. `FailsClosed`
says that the library was told just this, and that nothing else is left of the crossing.
`verdict_cases` is the part of the engine in it: one reply, one code, unless values of a form
are to be written first.
-/

namespace TunnelControl

/-- The call of the controller that a notice stands for. -/
def Notice.call : Notice → Callback
  | .connected info => .connected info
  | .reconnected => .reconnected
  | .terminated result => .terminated result

theorem Notice.call_eq {call : Callback} {notice : Notice} (told : call.notice? = some notice) :
    notice.call = call := by
  cases call <;> cases told <;> rfl

namespace Native

open World (run passages LeadsTo)

/-! ## Crossings -/

/-- A call of the library at an entry point. -/
structure Crossing where
  entry : Entry
  /-- Whether it came with a reference to the callback context. -/
  bound : Bool
  /-- The engine as the library called in. -/
  before : Engine
  /-- What reached the controller, or went into its channel as a notice. -/
  told : List Callback
  replies : List Reply
  /-- The library's codes for the values that were written back. -/
  codes : List Int32
  /-- The codes with which the library was answered. -/
  answers : List Int32
  /-- The engine as the library had control back. -/
  after : Option Engine

/-- What the controller was told. -/
def callsTold (h : List (Event Note)) : List Callback :=
  h.filterMap fun
    | .called call => some call
    | .forwarded notice => some notice.call
    | _ => none

def repliesGiven (h : List (Event Note)) : List Reply :=
  h.filterMap fun | .replied _ r => some r | _ => none

section views

variable (h h' : List (Event Note)) (happenings : List (Happening Note)) (entries : List Log.Entry)

@[simp] theorem callsTold_append : callsTold (h ++ h') = callsTold h ++ callsTold h' :=
  List.filterMap_append

@[simp] theorem repliesGiven_append : repliesGiven (h ++ h') = repliesGiven h ++ repliesGiven h' :=
  List.filterMap_append

/-- An engine calls nobody by itself. -/
@[simp] theorem callsTold_inLoop : callsTold (happenings.map Happening.inLoop) = [] := by
  simp only [callsTold, List.filterMap_map, List.filterMap_eq_nil_iff]
  rintro (n | entry) _ <;> rfl

@[simp] theorem repliesGiven_inLoop : repliesGiven (happenings.map Happening.inLoop) = [] := by
  simp only [repliesGiven, List.filterMap_map, List.filterMap_eq_nil_iff]
  rintro (n | entry) _ <;> rfl

@[simp] theorem callsTold_logs : callsTold (entries.map .log) = [] := by
  simp [callsTold, List.filterMap_map]

@[simp] theorem repliesGiven_logs : repliesGiven (entries.map .log) = [] := by
  simp [repliesGiven, List.filterMap_map]

@[simp] theorem codesAnswered_logs : codesAnswered (entries.map .log) = [] := by
  simp [codesAnswered, List.filterMap_map]

end views

/-- The code that the library returns with an act. -/
def codeReturned? : Session.Act Engine → Option Int32
  | .move (.returns rc) => some rc
  | _ => none

/-- Whether the library is at work. -/
def inLibrary (s : Session Engine) : Bool :=
  match s.status, s.engine.point with
  | .running none, .inside _ => true
  | _, _ => false

/-- What a passage adds to a crossing that is not over. -/
def Crossing.follow (p : Passage Engine) (x : Crossing) : Crossing :=
  if x.after.isSome then x else
    { x with
      told := x.told ++ callsTold p.result.seen
      replies := x.replies ++ repliesGiven p.result.seen
      codes := x.codes ++ (codeReturned? p.act).toList
      answers := x.answers ++ codesAnswered p.result.seen
      after := if inLibrary p.result.session then some p.result.session.engine else none }

/-- The crossings of a run, the last one first, after one more passage. -/
def cross (xs : List Crossing) (p : Passage Engine) : List Crossing :=
  match p.act with
  | .move (.enters entry bound) =>
    (Crossing.mk entry bound p.before.engine [] [] [] [] none).follow p :: xs
  | _ =>
    match xs with
    | [] => []
    | x :: xs => x.follow p :: xs

def crossings (ps : List (Passage Engine)) : List Crossing := ps.foldl cross []

/-! ## What the library may be told -/

/-- What the controller is called with, if there is one to call and something to call it
with. -/
def Entry.reach? (entry : Entry) (bound : Bool) : Option Callback :=
  if bound then entry.callback? else none

theorem Entry.reach?_eq_some_iff {entry : Entry} {bound : Bool} {call : Callback} :
    entry.reach? bound = some call ↔ bound = true ∧ entry.callback? = some call := by
  cases bound <;> simp [reach?]

namespace Crossing

/-- The values of the form can all be passed to the library, and the library took every one
of them. -/
def Took (x : Crossing) (g : Form) : Prop :=
  (∀ a ∈ carried (pairUp g x.entry.slots), '\x00' ∉ a.2.toList) ∧
    x.codes = List.replicate (carried (pairUp g x.entry.slots)).length 0

instance (x : Crossing) (g : Form) : Decidable (x.Took g) := inferInstanceAs (Decidable (_ ∧ _))

/-- The code for the library. A certificate is accepted and a browser was opened only if the
controller said so just now; a form is accepted only if its values were, too. -/
def code? (x : Crossing) : Option Int32 :=
  match x.entry with
  | .certificate _ => some (if x.replies = [.certificate .accept] then 0 else 1)
  | .browser _ => some (if x.replies = [.browser none] then 0 else 1)
  | .form _ => some <|
    match x.replies with
    | [.form g .ok] => if x.Took g then 0 else -1
    | [.form g .newGroup] => if x.Took g then 2 else -1
    | [.form _ .cancelled] => 1
    | _ => -1
  | _ => none

end Crossing

/-- A crossing that is over has failed closed, if it has not succeeded. -/
structure FailsClosed (x : Crossing) : Prop where
  /-- The controller is called once for this crossing, or not at all. -/
  told : x.told = (x.entry.reach? x.bound).toList
  /-- It replied at most once, to this call. -/
  replied : ∀ r ∈ x.replies, x.replies = [r] ∧ ∃ call, x.told = [call] ∧ r.fits call = true
  /-- The library is answered once, where it asks for a code. -/
  answered : x.answers = x.code?.toList
  /-- Whatever the controller did, a panic included, has left no trace in the engine. -/
  restored : x.after = some x.before

/-! ## What becomes of a reply -/

theorem took_iff {x : Crossing} {g : Form} {answers : List Answer}
    (encoded : encode g x.entry.slots = .ok answers) :
    x.Took g ↔ x.codes = List.replicate answers.length 0 := by
  rcases encodePairs_cases (pairUp g x.entry.slots) with ⟨answers', encoded', clean, same⟩ |
    ⟨⟨fault, failed⟩, -⟩
  · cases encoded.symm.trans encoded'
    have count : answers.length = (carried (pairUp g x.entry.slots)).length := by
      simpa using congrArg List.length same
    rw [count]
    exact ⟨And.right, fun codes => ⟨clean, codes⟩⟩
  · cases encoded.symm.trans failed

theorem not_took {x : Crossing} {g : Form} {fault : FormFault}
    (failed : encode g x.entry.slots = .error fault) : ¬ x.Took g := by
  rcases encodePairs_cases (pairUp g x.entry.slots) with ⟨answers, encoded, -, -⟩ | ⟨-, a, ha, nul⟩
  · cases failed.symm.trans encoded
  · exact fun took => took.1 a ha nul

/-- The code for a form that the controller accepted. -/
theorem code?_of_accepted {x : Crossing} {f : Option AuthForm} {g : Form} {result : FormResult}
    (entry : x.entry = .form f) (replies : x.replies = [.form g result])
    (accepted : result = .ok ∨ result = .newGroup) :
    x.code? = some (if x.Took g then result.raw else FormResult.failed.raw) := by
  rcases accepted with rfl | rfl <;> simp only [Crossing.code?, entry, replies] <;> rfl

/-- Without a reply, or with a panic, the library gets the fallback. -/
theorem code?_of_failed {x : Crossing} (failed : x.replies = [] ∨ x.replies = [.panic]) :
    x.code? = x.entry.fallback? := by
  rcases failed with replies | replies <;> cases entry : x.entry <;>
    simp [Crossing.code?, Entry.fallback?, FormResult.raw, entry, replies]

/-- What the controller makes of a form. -/
theorem verdict_of_form {x : Crossing} {f : Option AuthForm} {g : Form} {result : FormResult}
    (entry : x.entry = .form f) (replies : x.replies = [.form g result]) :
    (∃ log, Verdict.ofForm x.entry g result = .answer x.code? log) ∨
      (result = .ok ∨ result = .newGroup) ∧ ∃ answers, encode g x.entry.slots = .ok answers ∧
        Verdict.ofForm x.entry g result = .write result.raw answers := by
  have accepts : ∀ accepted : result = .ok ∨ result = .newGroup,
      (∃ log, Verdict.ofForm x.entry g result = .answer x.code? log) ∨
        ∃ answers, encode g x.entry.slots = .ok answers ∧
          Verdict.ofForm x.entry g result = .write result.raw answers := by
    intro accepted
    cases encoded : encode g x.entry.slots with
    | ok answers =>
        refine Or.inr ⟨answers, rfl, ?_⟩
        rcases accepted with rfl | rfl <;> simp only [Verdict.ofForm, encoded]
    | error fault =>
        refine Or.inl ⟨[.writeBackFailed fault], ?_⟩
        rw [code?_of_accepted entry replies accepted, if_neg (not_took encoded)]
        rcases accepted with rfl | rfl <;> simp only [Verdict.ofForm, encoded]
  cases result with
  | ok => exact (accepts (Or.inl rfl)).imp id fun write => ⟨Or.inl rfl, write⟩
  | newGroup => exact (accepts (Or.inr rfl)).imp id fun write => ⟨Or.inr rfl, write⟩
  | cancelled | failed =>
      exact Or.inl ⟨[], by simp [Verdict.ofForm, Crossing.code?, FormResult.raw, entry, replies]⟩

/-- A reply that fits the call of an entry point is one for this entry point. -/
theorem entry_of_fits {entry : Entry} {call : Callback} {r : Reply}
    (reached : entry.callback? = some call) (fits : r.fits call = true) :
    match r with
    | .certificate _ => ∃ reason, entry = .certificate reason
    | .form .. => ∃ f, entry = .form f
    | .browser _ => ∃ uri, entry = .browser uri
    | .done => entry.fallback? = none
    | .panic => True := by
  cases entry <;> simp only [Entry.callback?, Option.map_eq_some_iff, Option.some.injEq] at reached
  case certificate | reconnected =>
    subst reached
    cases r <;> first | exact ⟨_, rfl⟩ | exact rfl | trivial
  all_goals
    obtain ⟨_, -, rfl⟩ := reached
    cases r <;> first | exact ⟨_, rfl⟩ | exact rfl | trivial

/-- **One reply.** The entry point answers the library with the code for it, or writes the
answers of a form first. -/
theorem verdict_cases {x : Crossing} {call : Callback} {r : Reply}
    (reached : x.entry.callback? = some call) (fits : r.fits call = true)
    (replies : x.replies = [r]) :
    (∃ log, Verdict.ofReply x.entry r = .answer x.code? log) ∨
      ∃ g result answers, r = .form g result ∧ (result = .ok ∨ result = .newGroup) ∧
        encode g x.entry.slots = .ok answers ∧
        Verdict.ofReply x.entry r = .write result.raw answers := by
  have own := entry_of_fits reached fits
  cases r with
  | panic =>
      rw [code?_of_failed (Or.inr replies)]
      exact Or.inl ⟨_, rfl⟩
  | form g result =>
      obtain ⟨f, entry⟩ := own
      rcases verdict_of_form entry replies with answer | ⟨accepted, answers, encoded, write⟩
      · exact Or.inl answer
      · exact Or.inr ⟨g, result, answers, rfl, accepted, encoded, write⟩
  | certificate decision =>
      obtain ⟨reason, entry⟩ := own
      refine Or.inl ⟨[], ?_⟩
      cases decision <;>
        simp [Verdict.ofReply, Reply.raw?, CertDecision.raw, Crossing.code?, entry, replies]
  | browser fault =>
      obtain ⟨uri, entry⟩ := own
      refine Or.inl ⟨[], ?_⟩
      cases fault <;> simp [Verdict.ofReply, Reply.raw?, Crossing.code?, entry, replies]
  | done =>
      have silent : x.code? = none := by
        cases entry : x.entry <;> simp_all [Entry.fallback?, Crossing.code?]
      exact Or.inl ⟨[], by rw [silent]; rfl⟩

end Native
end TunnelControl
