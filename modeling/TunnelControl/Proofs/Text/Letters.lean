import Mathlib.Data.List.Forall2
import TunnelControl.Text.Ascii

/-!
# The letters A–Z in either case

A small letter is what lower case makes of itself and of its capital, and of nothing else. That a
text starts with a word, or that two texts are the same, but for the case of letters is therefore
said of the letters (`StartsWithLetters`, `SameButForCase`), without lower case.
-/

namespace TunnelControl.Text

/-- Whether the character is one of a–z. -/
def IsSmall (c : Char) : Prop := 'a' ≤ c ∧ c ≤ 'z'

instance : DecidablePred IsSmall := fun c => inferInstanceAs (Decidable ('a' ≤ c ∧ c ≤ 'z'))

/-- The text starts with the letters of the word, each small or capital. -/
def StartsWithLetters (word s : String) : Prop :=
  ∃ start, start <+: s.toList ∧
    List.Forall₂ (fun c letter => c = letter ∨ c = letter.toUpper) start word.toList

/-- The characters are the same, or one letter in either case. -/
def SameButForCase (a b : Char) : Prop :=
  a = b ∨ ∃ letter, IsSmall letter ∧ (a = letter ∨ a = letter.toUpper) ∧
    (b = letter ∨ b = letter.toUpper)

theorem IsSmall.toNat_toUpper {c : Char} (small : IsSmall c) :
    c.toUpper.toNat = c.toNat - 32 := by
  have first : 97 ≤ c.toNat := UInt32.le_iff_toNat_le.mp small.1
  have last : c.toNat ≤ 122 := UInt32.le_iff_toNat_le.mp small.2
  unfold Char.toUpper
  rw [dif_pos ⟨small.1, small.2⟩]
  change (c.val + 4294967264).toNat = _
  rw [UInt32.toNat_add]
  change (c.toNat + 4294967264) % 4294967296 = _
  omega

theorem toLower_eq_iff {c letter : Char} (small : IsSmall letter) :
    c.toLower = letter ↔ c = letter ∨ c = letter.toUpper := by
  have first : 97 ≤ letter.toNat := UInt32.le_iff_toNat_le.mp small.1
  have last : letter.toNat ≤ 122 := UInt32.le_iff_toNat_le.mp small.2
  rw [← Char.toNat_inj, ← Char.toNat_inj, ← Char.toNat_inj, small.toNat_toUpper]
  unfold Char.toLower
  split
  · rename_i capital
    have lowest : 65 ≤ c.toNat := UInt32.le_iff_toNat_le.mp capital.1
    have highest : c.toNat ≤ 90 := UInt32.le_iff_toNat_le.mp capital.2
    change (c.val + 32).toNat = _ ↔ _
    rw [UInt32.toNat_add]
    change (c.toNat + 32) % 4294967296 = _ ↔ _
    omega
  · rename_i other
    have other : ¬ (65 ≤ c.toNat ∧ c.toNat ≤ 90) := fun capital =>
      other ⟨UInt32.le_iff_toNat_le.mpr capital.1, UInt32.le_iff_toNat_le.mpr capital.2⟩
    omega

theorem map_toLower_eq_iff {start word : List Char} (small : ∀ letter ∈ word, IsSmall letter) :
    start.map Char.toLower = word ↔
      List.Forall₂ (fun c letter => c = letter ∨ c = letter.toUpper) start word := by
  induction word generalizing start with
  | nil => simp
  | cons letter word ih =>
      obtain ⟨here, rest⟩ := List.forall_mem_cons.mp small
      cases start with
      | nil => simp
      | cons c start =>
          rw [List.map_cons, List.cons.injEq, List.forall₂_cons, toLower_eq_iff here, ih rest]

/-- **The case of letters.** For a word in small letters, the comparison in lower case is one of
letters in either case. -/
theorem startsIgnoringCase_iff {word s : String} (small : ∀ letter ∈ word.toList, IsSmall letter) :
    startsIgnoringCase word s = true ↔ StartsWithLetters word s := by
  have own : word.toList.map Char.toLower = word.toList := by
    refine (List.map_congr_left fun letter mem => ?_).trans (List.map_id _)
    exact (toLower_eq_iff (small letter mem)).mpr (Or.inl rfl)
  rw [startsIgnoringCase, List.isPrefixOf_iff_prefix, asciiLower, asciiLower, String.toList_ofList,
    String.toList_ofList, own]
  constructor
  · rintro ⟨rest, split⟩
    obtain ⟨start, rest', chars, same, -⟩ := List.map_eq_append_iff.mp split.symm
    exact ⟨start, ⟨rest', chars.symm⟩, (map_toLower_eq_iff small).mp same⟩
  · rintro ⟨start, ⟨rest, chars⟩, letters⟩
    refine ⟨rest.map Char.toLower, ?_⟩
    rw [← (map_toLower_eq_iff small).mpr letters, ← List.map_append, chars]

/-- What lower case changes becomes a small letter. -/
theorem toLower_of_not_isSmall {c : Char} (other : ¬ IsSmall c.toLower) : c.toLower = c := by
  unfold Char.toLower at other ⊢
  split
  · rename_i capital
    rw [dif_pos capital] at other
    apply absurd _ other
    have lowest : 65 ≤ c.toNat := UInt32.le_iff_toNat_le.mp capital.1
    have highest : c.toNat ≤ 90 := UInt32.le_iff_toNat_le.mp capital.2
    have number : (c.val + 32).toNat = c.toNat + 32 := by
      rw [UInt32.toNat_add]
      change (c.toNat + 32) % 4294967296 = _
      omega
    constructor
    · show (97 : UInt32) ≤ c.val + 32
      rw [UInt32.le_iff_toNat_le, number]
      change 97 ≤ c.toNat + 32
      omega
    · show c.val + 32 ≤ (122 : UInt32)
      rw [UInt32.le_iff_toNat_le, number]
      change c.toNat + 32 ≤ 122
      omega
  · rfl

theorem toLower_eq_toLower_iff {a b : Char} : a.toLower = b.toLower ↔ SameButForCase a b := by
  constructor
  · intro same
    by_cases small : IsSmall a.toLower
    · right
      exact ⟨a.toLower, small, (toLower_eq_iff small).mp rfl, (toLower_eq_iff small).mp same.symm⟩
    · left
      have other : ¬ IsSmall b.toLower := same ▸ small
      rw [← toLower_of_not_isSmall small, same, toLower_of_not_isSmall other]
  · rintro (rfl | ⟨letter, small, first, second⟩)
    · rfl
    · rw [(toLower_eq_iff small).mpr first, (toLower_eq_iff small).mpr second]

/-- The comparison in lower case is one of letters in either case. -/
theorem sameIgnoringCase_iff {s t : String} :
    sameIgnoringCase s t = true ↔ List.Forall₂ SameButForCase s.toList t.toList := by
  have chars : sameIgnoringCase s t = true ↔
      s.toList.map Char.toLower = t.toList.map Char.toLower := by
    rw [sameIgnoringCase, beq_iff_eq, asciiLower, asciiLower, String.ofList_inj]
  rw [chars, ← List.forall₂_eq_eq_eq, List.forall₂_map_left_iff, List.forall₂_map_right_iff]
  simp only [toLower_eq_toLower_iff]

end TunnelControl.Text
