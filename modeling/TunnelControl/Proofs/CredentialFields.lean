import TunnelControl.Proofs.Credentials
import TunnelControl.Proofs.FormEdits
import TunnelControl.Proofs.Text.Letters

/-!
# Where credentials go

Credentials fill the password into the password options and the user name into the text options
named for the user, and leave everything else as it was: `FilledWith` says so of one option. What
the options held before makes no difference to what they hold afterwards, so filling in again, or
after other credentials, changes nothing more.
-/

namespace TunnelControl

/-- Whether the option asks for the name of the user. -/
def FormOption.AsksUser (o : FormOption) : Prop :=
  o.kind = .text ∧ Text.StartsWithLetters "user" o.name

/-- What becomes of an option that is filled in with credentials. -/
structure Credentials.FilledWith (c : Credentials) (o o' : FormOption) : Prop where
  prompt : o'.name = o.name ∧ o'.label = o.label ∧ o'.kind = o.kind ∧ o'.choices = o.choices
  password : o.kind = .password → o'.value = some c.password
  username : o.AsksUser → o'.value = some c.username
  other : o.kind ≠ .password → ¬ o.AsksUser → o'.value = o.value

theorem FormOption.clearValue_eq_iff {o o' : FormOption} :
    o'.clearValue = o.clearValue ↔
      o'.name = o.name ∧ o'.label = o.label ∧ o'.kind = o.kind ∧ o'.choices = o.choices := by
  simp [clearValue]

namespace Credentials

variable {c : Credentials} {o : FormOption}

/-! ## The options that are meant -/

theorem isSmall_user : ∀ letter ∈ "user".toList, Text.IsSmall letter := by
  have letters : "user".toList = ['u', 's', 'e', 'r'] := rfl
  simp only [letters, List.forall_mem_cons]
  exact ⟨by decide, by decide, by decide, by decide, List.forall_mem_nil _⟩

theorem valueFor?_of_password (kind : o.kind = .password) : c.valueFor? o = some c.password := by
  simp only [valueFor?, kind]

theorem valueFor?_of_user (asks : o.AsksUser) : c.valueFor? o = some c.username := by
  have named : Text.startsIgnoringCase "user" o.name = true :=
    (Text.startsIgnoringCase_iff isSmall_user).mpr asks.2
  simp only [valueFor?, asks.1, named, if_true]

/-- Credentials are meant for nothing else. -/
theorem valueFor?_of_other (kind : o.kind ≠ .password) (asks : ¬ o.AsksUser) :
    c.valueFor? o = none := by
  cases same : o.kind with
  | text =>
      have unnamed : Text.startsIgnoringCase "user" o.name = false := by
        rw [Bool.eq_false_iff, Ne, Text.startsIgnoringCase_iff isSmall_user]
        exact fun letters => asks ⟨same, letters⟩
      simp [valueFor?, same, unnamed]
  | password => exact absurd same kind
  | _ => simp only [valueFor?, same]

/-! ## One option -/

theorem clearValue_filled (c : Credentials) (o : FormOption) :
    (c.filled o).clearValue = o.clearValue := by
  unfold filled
  cases c.valueFor? o <;> rfl

theorem filledWith_filled (c : Credentials) (o : FormOption) : c.FilledWith o (c.filled o) where
  prompt := FormOption.clearValue_eq_iff.mp (c.clearValue_filled o)
  password kind := by rw [filled, valueFor?_of_password kind]
  username asks := by rw [filled, valueFor?_of_user asks]
  other kind asks := by rw [filled, valueFor?_of_other kind asks]

/-- Which options credentials are meant for is a matter of kind and name. -/
theorem valueFor?_congr {o' : FormOption} (same : o'.clearValue = o.clearValue) :
    c.valueFor? o' = c.valueFor? o := by
  obtain ⟨name, -, kind, -⟩ := FormOption.clearValue_eq_iff.mp same
  simp only [valueFor?, kind, name]

/-- The options that one user's credentials are meant for, another's are meant for, too. -/
theorem valueFor?_eq_none_iff (c c' : Credentials) (o : FormOption) :
    c.valueFor? o = none ↔ c'.valueFor? o = none := by
  unfold valueFor?
  cases o.kind <;> simp

/-- What an option was filled with before makes no difference. -/
theorem filled_filled (c c' : Credentials) (o : FormOption) :
    c.filled (c'.filled o) = c.filled o := by
  have meant : c.valueFor? (c'.filled o) = c.valueFor? o :=
    valueFor?_congr (c'.clearValue_filled o)
  unfold filled at meant ⊢
  cases other : c'.valueFor? o with
  | none => rfl
  | some value =>
      rw [other] at meant
      rw [meant]
      cases own : c.valueFor? o with
      | none =>
          rw [(c.valueFor?_eq_none_iff c' o).mp own] at other
          cases other
      | some value' => rfl

end Credentials

/-- **Credentials fill exactly their options.** They are never refused. The password goes to
every password option and to no other, the user name to every text option named for the user;
all else about the form is as it was. Filling in again, or after other credentials, gives what
filling in once gives. -/
theorem credentials_fill_their_options (c : Credentials) (f : Form) :
    (c.fill f).2 = .ok ∧
    List.Forall₂ c.FilledWith f.options (c.fill f).1.options ∧
    (c.fill f).1 = { f with options := (c.fill f).1.options } ∧
    ∀ c' : Credentials, c.fill (c'.fill f).1 = c.fill f := by
  simp only [Credentials.fill_eq]
  refine ⟨trivial, ?_, trivial, fun c' => ?_⟩
  · rw [List.forall₂_map_right_iff, List.forall₂_same]
    exact fun o _ => c.filledWith_filled o
  · have same : (f.options.map c'.filled).map c.filled = f.options.map c.filled := by
      rw [List.map_map]
      exact List.map_congr_left fun o _ => c.filled_filled c' o
    rw [same]

/-- The group, a hidden twin of the password and a selection named for the user are left alone. -/
example :
    let select : FormOption := .selection "user_group" "" [⟨"corp", ""⟩]
    let form : Form :=
      ⟨none, none, none, some (.blank "username" "" .text),
        [.blank "UserID" "" .text, .blank "password" "" .hidden, select,
          .blank "password" "" .password]⟩
    ((Credentials.mk "kim" "key").fill form).1.responses =
      [("UserID", "kim"), ("password", "key")] := by decide

end TunnelControl
