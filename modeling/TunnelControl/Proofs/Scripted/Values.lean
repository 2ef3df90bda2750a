import TunnelControl.Proofs.Credentials
import TunnelControl.Proofs.Scripted.Moves
import TunnelControl.Proofs.Veil

/-!
# The values of forms

What the controller has entered into a form is looked at in one place: the main loop reads the
responses and writes them into the journal. `values` is the veil that blanks them there and on
the way, and a scripted engine does not look behind it (`values_unseen`).
-/

namespace TunnelControl

/-- What every single setting commutes with, all of them commute with. -/
theorem applyAll_comm {σ : Type} {apply : σ → Setting → σ × Except EngineFault Unit} {g : σ → σ}
    (comm : ∀ setting s, apply (g s) setting = (g (apply s setting).1, (apply s setting).2)) (s : σ)
    (settings : List Setting) :
    applyAll apply (g s) settings =
      (g (applyAll apply s settings).1, (applyAll apply s settings).2) := by
  induction settings generalizing s with
  | nil => rfl
  | cons setting rest ih =>
      rw [applyAll, applyAll, comm]
      cases apply s setting with
      | mk s' made =>
          cases made with
          | ok => exact ih s'
          | error fault => rfl

namespace Scripted

def JournalNote.valueless : JournalNote → JournalNote
  | .submitted responses => .submitted (withoutValues responses)
  | n => n

def LoopNote.valueless : LoopNote → LoopNote
  | .submitted responses => .submitted (withoutValues responses)
  | n => n

def Note.valueless : Note → Note
  | .journal n => .journal n.valueless
  | n => n

/-- What the loop is about to write into the journal is blanked, too. -/
def Point.valueless : Point → Point
  | .record n next => .record n.valueless next.valueless
  | .obey c back => .obey c back.valueless
  | .asking back => .asking back.valueless
  | p => p

def Engine.valueless (e : Engine) : Engine := { e with point := e.point.valueless }

/-- Blanks the values of the forms that the controller has answered. -/
def values : Veil Engine where
  engine := Engine.valueless
  note := Note.valueless
  reply := Reply.valueless

namespace Engine

variable (e : Engine)

theorem note_valueless (n : LoopNote) : n.valueless.note = n.note.valueless := by cases n <;> rfl

theorem moveTo_valueless (p : Point) :
    e.valueless.moveTo p.valueless = (e.moveTo p).valueless := rfl

theorem callUp_valueless (u : Upcall) (back waiting : Point) (happenings : Happenings) :
    e.valueless.callUp u back.valueless waiting.valueless (happenings.map values.happening) =
      values.turn (e.callUp u back waiting happenings) := by
  unfold callUp
  cases u.callback? <;> rfl

theorem underWay_valueless (s : Step) (rest : List Step) :
    (s.underWay rest).valueless = s.underWay rest := by
  cases s <;> rfl

theorem begin_valueless (s : Step) (rest : List Step) :
    e.valueless.begin s rest = values.turn (e.begin s rest) := by
  rw [begin_eq, begin_eq]
  cases s.upcall? with
  | none =>
      have moved := e.moveTo_valueless (s.underWay rest)
      rw [underWay_valueless] at moved
      simp only [moved]
      rfl
  | some u =>
      have called := e.callUp_valueless u (.poll rest) (s.underWay rest) [.note (.began s)]
      rwa [underWay_valueless] at called

theorem obey_valueless (c : Command) (back : Point) :
    e.valueless.obey c back.valueless = values.turn (e.obey c back) := by
  cases c with
  | stats =>
      have called := e.callUp_valueless statistics back (.asking back) []
      unfold statistics at called
      exact called
  | _ => rfl

theorem take?_valueless (back : Point) :
    e.valueless.take? back.valueless = (e.take? back).map values.turn := by
  simp only [take?, Option.map_map]
  rfl

theorem move_valueless (m : Move) : e.valueless.move m = (e.move m).map values.turn := by
  obtain ⟨key, script, queue, point⟩ := e
  cases m with
  | go =>
      cases point with
      | poll rest =>
          have idle : (⟨key, script, queue, .poll rest⟩ : Engine).valueless =
            ⟨key, script, queue, .poll rest⟩ := rfl
          rw [idle]
          cases popped : queue.pop? with
          | none => cases rest <;> simp [move, take?, popped] <;> rfl
          | some taken => simp [move, take?, popped]; rfl
      | record n next =>
          have moved : (⟨key, script, queue, .record n next⟩ : Engine).valueless.move .go =
            some ⟨⟨key, script, queue, next.valueless⟩, Engine.noted n.valueless.note, none⟩ := rfl
          rw [moved, note_valueless]
          rfl
      | obey c back => exact congrArg some (obey_valueless _ c back)
      | step s rest => exact congrArg some (begin_valueless _ s rest)
      | idle rest => exact take?_valueless _ (.idle rest)
      | _ => rfl
  | pass => cases point <;> rfl
  | call u =>
      cases point with
      | hook h rest =>
          exact congrArg some (callUp_valueless _ u (.hook h rest) (.asking (.hook h rest)) [])
      | _ => rfl
  | leave code => cases point <;> cases code <;> rfl
  | panic => cases point <;> rfl

theorem afterForm_valueless (f : Form) (result : FormResult) (rest : List Step) :
    afterForm f.valueless result rest = (afterForm f result rest).valueless := by
  cases result with
  | ok => simp only [afterForm, Form.responses_valueless]; rfl
  | _ => rfl

theorem afterReply_valueless (r : Reply) (p : Point) :
    afterReply r.valueless p.valueless = (afterReply r p).valueless := by
  cases p with
  | asking back => cases back <;> cases r <;> rfl
  | askingForm rest =>
      cases r with
      | form f result =>
          exact congrArg (Point.record _) (afterForm_valueless f (FormResult.ofRaw result.raw) rest)
      | _ => rfl
  | askingCertificate rest =>
      cases r with
      | certificate decision => cases decision <;> rfl
      | _ => rfl
  | askingBrowser rest =>
      cases r with
      | browser fault => cases fault <;> rfl
      | _ => rfl
  | _ => cases r <;> rfl

theorem apply_valueless (setting : Setting) (x : Engine × Happenings) :
    apply (values.after x) setting =
      (values.after (apply x setting).1, (apply x setting).2) := by
  have script : (values.after x).1.script = x.1.script := rfl
  unfold apply
  rw [script]
  split
  · rfl
  · simp [Veil.after, noted, values, Veil.happening, Note.valueless, JournalNote.valueless]

theorem configure_valueless (options : Options) :
    configure options e.valueless =
      (values.after (configure options e).1, (configure options e).2) :=
  applyAll_comm apply_valueless (e, []) options.settings

end Engine

/-- **A scripted engine does not look at values.** -/
theorem values_unseen : values.Unseen where
  make plan agent := by
    simp only [TunnelControl.Engine.make, Engine.make]
    split <;> rfl
  setup options e := congrArg (fun x => some x.1) (e.configure_valueless options)
  access act e := by
    simp only [TunnelControl.Engine.access, Option.map_map]
    refine congrArg (Option.map · _) (funext fun x => ?_)
    simp [Veil.after, values, Veil.happening, Note.valueless, Function.comp_def]
    rfl
  enter limits e := rfl
  move m e := e.move_valueless m
  resume call r e :=
    congrArg (fun p => (e.moveTo p, [])) (Engine.afterReply_valueless r e.point)
  outcome e := by
    obtain ⟨key, script, queue, point⟩ := e
    cases point <;> rfl
  retire e := rfl
  free e := rfl
  taken := rfl
  panic := Reply.valueless_eq_panic_iff
  fits := Reply.fits_valueless
  remark := Reply.remark_valueless

end Scripted
end TunnelControl
