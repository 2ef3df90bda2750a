import TunnelControl.Native.CText
import TunnelControl.Proofs.Extract
import TunnelControl.Proofs.Text.Replacement

/-!
# Texts that may be missing

The library may have a text or not. What a missing one is read as depends on where it is missing:
a text that stands alone is none then, one that belongs to something is empty, and an entry of a
list is passed over.
-/

namespace TunnelControl.Native

/-- The bytes are read as the text. -/
def CText.ReadsAs (c : CText) (s : String) : Prop := Text.ReadsAs c.bytes s.toList

/-- The text, which is empty if it is missing. -/
def ReadsOrEmpty (c : Option CText) (s : String) : Prop :=
  c = none ∧ s = "" ∨ ∃ t, c = some t ∧ t.ReadsAs s

theorem CText.text_eq_iff {c : CText} {s : String} : c.text = s ↔ c.ReadsAs s :=
  Text.decodeUtf8_eq_iff

theorem CText.ReadsAs.unique {c : CText} {s s' : String} (reads : c.ReadsAs s)
    (reads' : c.ReadsAs s') : s = s' :=
  (text_eq_iff.mpr reads).symm.trans (text_eq_iff.mpr reads')

theorem CText.readsAs_text (c : CText) : c.ReadsAs c.text := text_eq_iff.mp rfl

theorem textOrEmpty_eq_iff {c : Option CText} {s : String} :
    textOrEmpty c = s ↔ ReadsOrEmpty c s := by
  cases c with
  | none =>
      show "" = s ↔ _
      constructor
      · rintro rfl
        exact Or.inl ⟨rfl, rfl⟩
      · rintro (⟨-, rfl⟩ | ⟨t, missing, -⟩)
        · rfl
        · cases missing
  | some t =>
      show t.text = s ↔ _
      rw [CText.text_eq_iff]
      constructor
      · intro reads
        exact Or.inr ⟨t, rfl, reads⟩
      · rintro (⟨missing, -⟩ | ⟨t', same, reads⟩)
        · cases missing
        · rwa [Option.some.inj same]

section options

variable {α β : Type} {r : α → β → Prop} {a : Option α} {b b' : Option β}

/-- Both are missing or neither is. -/
theorem eq_none_iff_of_rel (rel : Option.Rel r a b) : b = none ↔ a = none := by
  cases rel with
  | none => exact ⟨fun _ => rfl, fun _ => rfl⟩
  | some _ => simp only [reduceCtorEq]

theorem eq_of_rel (one : ∀ a b b', r a b → r a b' → b = b') (rel : Option.Rel r a b)
    (rel' : Option.Rel r a b') : b = b' := by
  cases rel with
  | none =>
      cases rel'
      rfl
  | some made =>
      cases rel' with
      | some made' => exact congrArg some (one _ _ _ made made')

end options

theorem map_text_eq_iff {c : Option CText} {s : Option String} :
    c.map CText.text = s ↔ Option.Rel CText.ReadsAs c s := by
  constructor
  · rintro rfl
    cases c with
    | none => exact .none
    | some t => exact .some t.readsAs_text
  · intro reads
    cases reads with
    | none => rfl
    | some reads => exact congrArg some (CText.text_eq_iff.mpr reads)

end TunnelControl.Native
