import Mathlib.Data.List.DropRight
import TunnelControl.Text.Ascii
import TunnelControl.Text.Blank

/-!
# What is left of a text without white space around it

A text is bare if there is something in it and no white space at either end. Trimming leaves a
bare text or nothing (`bare_trim`), and it finds a bare text again whatever white space stands
around it (`trim_of_padded`): white space inside is kept.
-/

namespace TunnelControl.Text

/-! ## Trimming -/

/-- What begins with something else than white space keeps it when white space at the end is
dropped. -/
theorem dropBlankEnd_cons {c : Char} (visible : isBlank c = false) (cs : List Char) :
    dropBlankEnd (c :: cs) = c :: dropBlankEnd cs := by
  rw [dropBlankEnd, List.reverse_cons, List.dropWhile_append]
  cases rest : cs.reverse.dropWhile isBlank with
  | nil => simp [dropBlankEnd, rest, visible]
  | cons d ds => simp [dropBlankEnd, rest]

theorem dropBlanks_dropBlanks (cs : List Char) : dropBlanks (dropBlanks cs) = dropBlanks cs := by
  rw [dropBlanks, dropBlanks]
  cases start : cs.dropWhile isBlank with
  | nil => rfl
  | cons c rest =>
      have visible : isBlank c = false := by
        have head := List.head?_dropWhile_not isBlank cs
        rwa [start] at head
      have ended : dropBlankEnd (dropBlankEnd rest) = dropBlankEnd rest :=
        List.rdropWhile_idempotent isBlank rest
      rw [dropBlankEnd_cons visible, List.dropWhile_cons_of_neg (by simp [visible]),
        dropBlankEnd_cons visible, ended]

theorem trim_trim (s : String) : trim (trim s) = trim s := by
  rw [trim, trim, String.toList_ofList, dropBlanks_dropBlanks]

/-- White space alone leaves nothing. -/
theorem trim_of_blank {s : String} (blank : ∀ c ∈ s.toList, isBlank c = true) : trim s = "" := by
  rw [trim, dropBlanks, List.dropWhile_eq_nil_iff.mpr blank]
  rfl

/-! ## Bare texts -/

/-- There is something in the text, and no white space at either end of it. -/
structure Bare (s : String) : Prop where
  nonempty : s ≠ ""
  starts : ∀ c ∈ s.toList.head?, isBlank c = false
  ends : ∀ c ∈ s.toList.getLast?, isBlank c = false

/-- The second text is the first one with any white space around it. -/
def Padded (s t : String) : Prop :=
  ∃ before after : List Char, (∀ c ∈ before, isBlank c = true) ∧
    (∀ c ∈ after, isBlank c = true) ∧ t.toList = before ++ s.toList ++ after

theorem Padded.refl (s : String) : Padded s s := ⟨[], [], by simp, by simp, by simp⟩

theorem dropBlankEnd_append {cs after : List Char} (ends : ∀ c ∈ cs.getLast?, isBlank c = false)
    (blank : ∀ c ∈ after, isBlank c = true) : dropBlankEnd (cs ++ after) = cs := by
  have kept : cs.reverse.dropWhile isBlank = cs.reverse := by
    rw [List.dropWhile_eq_self_iff]
    intro some_left
    rw [Bool.not_eq_true]
    apply ends
    rw [← List.head?_reverse, List.head?_eq_getElem?]
    exact List.getElem?_eq_getElem some_left
  rw [dropBlankEnd, List.reverse_append,
    List.dropWhile_append_of_pos fun c mem => blank c (List.mem_reverse.mp mem), kept,
    List.reverse_reverse]

theorem trim_of_padded {s t : String} (bare : Bare s) (padded : Padded s t) : trim t = s := by
  obtain ⟨before, after, early, late, same⟩ := padded
  have kept : (s.toList ++ after).dropWhile isBlank = s.toList ++ after := by
    cases chars : s.toList with
    | nil => exact absurd (String.toList_eq_nil_iff.mp chars) bare.nonempty
    | cons c cs =>
        have visible : isBlank c = false := bare.starts c (by simp [chars])
        exact List.dropWhile_cons_of_neg (by simp [visible])
  rw [trim, same, List.append_assoc, dropBlanks, List.dropWhile_append_of_pos early, kept,
    dropBlankEnd_append bare.ends late, String.ofList_toList]

/-- Trimming takes white space away and nothing else. -/
theorem padded_trim (s : String) : Padded (trim s) s := by
  have front : s.toList.takeWhile isBlank ++ s.toList.dropWhile isBlank = s.toList :=
    List.takeWhile_append_dropWhile
  have back : dropBlankEnd (s.toList.dropWhile isBlank) ++
      ((s.toList.dropWhile isBlank).reverse.takeWhile isBlank).reverse =
        s.toList.dropWhile isBlank := by
    rw [dropBlankEnd, ← List.reverse_append, List.takeWhile_append_dropWhile, List.reverse_reverse]
  refine ⟨s.toList.takeWhile isBlank,
    ((s.toList.dropWhile isBlank).reverse.takeWhile isBlank).reverse, ?_, ?_, ?_⟩
  · intro c mem
    exact List.mem_takeWhile_imp mem
  · intro c mem
    exact List.mem_takeWhile_imp (List.mem_reverse.mp mem)
  · rw [trim, String.toList_ofList, dropBlanks, List.append_assoc, back, front]

/-- Nothing is left only of white space. -/
theorem trim_eq_empty_iff {s : String} : trim s = "" ↔ ∀ c ∈ s.toList, isBlank c = true := by
  refine ⟨?_, trim_of_blank⟩
  intro nothing c mem
  obtain ⟨before, after, early, late, same⟩ := padded_trim s
  rw [nothing, String.toList_empty, List.append_nil] at same
  rw [same] at mem
  rcases List.mem_append.mp mem with mem | mem
  · exact early c mem
  · exact late c mem

/-- What trimming leaves is bare, unless it is nothing. -/
theorem bare_trim {s : String} (nonempty : trim s ≠ "") : Bare (trim s) := by
  have chars : (trim s).toList = dropBlanks s.toList := String.toList_ofList
  refine ⟨nonempty, ?_, ?_⟩
  · intro c mem
    rw [chars, dropBlanks] at mem
    have head := List.head?_dropWhile_not isBlank s.toList
    cases start : s.toList.dropWhile isBlank with
    | nil =>
        rw [start] at mem
        cases mem
    | cons d ds =>
        rw [start] at head mem
        rw [dropBlankEnd_cons head] at mem
        cases mem
        exact head
  · intro c mem
    rw [chars, dropBlanks, dropBlankEnd, List.getLast?_reverse] at mem
    have last := List.head?_dropWhile_not isBlank (s.toList.dropWhile isBlank).reverse
    rwa [Option.mem_def.mp mem] at last

theorem padded_iff {s t : String} (bare : Bare s) : Padded s t ↔ trim t = s := by
  refine ⟨trim_of_padded bare, ?_⟩
  rintro rfl
  exact padded_trim t

theorem bare_iff {s : String} : Bare s ↔ s ≠ "" ∧ trim s = s := by
  constructor
  · intro bare
    exact ⟨bare.nonempty, trim_of_padded bare (.refl s)⟩
  · rintro ⟨nonempty, trimmed⟩
    rw [← trimmed] at nonempty ⊢
    exact bare_trim nonempty

instance (s : String) : Decidable (Bare s) := decidable_of_iff _ bare_iff.symm

/-- Nothing in the text is white space. -/
theorem bare_of_forall {s : String} (nonempty : s ≠ "")
    (visible : ∀ c ∈ s.toList, isBlank c = false) : Bare s :=
  ⟨nonempty, fun c mem => visible c (List.mem_of_mem_head? mem),
    fun c mem => visible c (List.mem_of_mem_getLast? mem)⟩

/-! ## Visible characters -/

/-- Above the space, the first character that is white space is U+0085. -/
theorem isBlank_of_ascii {c : Char} (lower : 0x20 < c.toNat) (upper : c.toNat < 0x85) :
    isBlank c = false := by
  simp [isBlank]
  omega

/-- White space has no letter case. -/
theorem isBlank_toLower (c : Char) : isBlank c.toLower = isBlank c := by
  unfold Char.toLower
  split
  · rename_i upper
    have first : 65 ≤ c.toNat := UInt32.le_iff_toNat_le.mp upper.1
    have last : c.toNat ≤ 90 := UInt32.le_iff_toNat_le.mp upper.2
    have moved : (c.val + 32).toNat = c.toNat + 32 := by
      rw [UInt32.toNat_add]
      change (c.toNat + 32) % 4294967296 = c.toNat + 32
      omega
    rw [isBlank_of_ascii (c := c) (by omega) (by omega)]
    apply isBlank_of_ascii
    · change 0x20 < (c.val + 32).toNat
      omega
    · change (c.val + 32).toNat < 0x85
      omega
  · rfl

/-- The case of letters makes no white space and takes none away. -/
theorem bare_of_asciiLower {s : String} (bare : Bare (asciiLower s)) : Bare s := by
  have chars : (asciiLower s).toList = s.toList.map Char.toLower := String.toList_ofList
  refine ⟨?_, ?_, ?_⟩
  · rintro rfl
    exact bare.nonempty rfl
  · intro c mem
    rw [← isBlank_toLower]
    apply bare.starts
    rw [chars, List.head?_map, Option.mem_def.mp mem]
    rfl
  · intro c mem
    rw [← isBlank_toLower]
    apply bare.ends
    rw [chars, List.getLast?_map, Option.mem_def.mp mem]
    rfl

end TunnelControl.Text
