import Mathlib.Data.List.Forall2
import Mathlib.Data.List.Induction
import Mathlib.Data.List.Sort

/-!
# What is taken from a list

A list of the library is gone through from its first entry to its last, and something is made of
some of the entries. `Extract` says what comes of it without going through the list: the places
that something is taken from go up and are all the places where there is something to take, so
nothing is left out, taken twice or moved. A list has one extract if one thing at most is made of an
entry (`Extract.unique`).
-/

namespace TunnelControl

variable {α β : Type} {R : Nat → α → β → Prop}

/-- What is taken is what `R` makes, at these places, of the entries of the list. It depends on
the entry and on its place. -/
structure Extract (R : Nat → α → β → Prop) (entries : List α) (places : List Nat)
    (taken : List β) : Prop where
  increasing : places.Pairwise (· < ·)
  mem_iff : ∀ i, i ∈ places ↔ ∃ a b, entries[i]? = some a ∧ R i a b
  each : List.Forall₂ (fun i b => ∃ a, entries[i]? = some a ∧ R i a b) places taken

namespace Extract

variable {entries : List α} {places : List Nat} {taken : List β}

theorem length_eq (e : Extract R entries places taken) : places.length = taken.length :=
  e.each.length_eq

theorem lt_length (e : Extract R entries places taken) {i : Nat} (mem : i ∈ places) :
    i < entries.length := by
  obtain ⟨a, b, found, -⟩ := (e.mem_iff i).mp mem
  exact (List.getElem?_eq_some_iff.mp found).1

/-- Each thing that is taken is made of the entry at its place. -/
theorem made_at (e : Extract R entries places taken) {n : Nat} {b : β}
    (found : taken[n]? = some b) :
    ∃ i a, places[n]? = some i ∧ entries[i]? = some a ∧ R i a b := by
  obtain ⟨inTaken, rfl⟩ := List.getElem?_eq_some_iff.mp found
  have inPlaces : n < places.length := by
    rw [e.length_eq]
    exact inTaken
  obtain ⟨a, entry, made⟩ := e.each.get inPlaces inTaken
  exact ⟨_, a, List.getElem?_eq_getElem inPlaces, entry, made⟩

/-! ## One entry more -/

theorem nil : Extract R [] [] [] where
  increasing := .nil
  mem_iff i := by simp
  each := .nil

theorem getElem?_snoc {a b : α} {i : Nat} :
    (entries ++ [a])[i]? = some b ↔ entries[i]? = some b ∨ i = entries.length ∧ a = b := by
  rcases Nat.lt_trichotomy i entries.length with below | rfl | above
  · rw [List.getElem?_append_left below]
    constructor
    · exact Or.inl
    · rintro (found | ⟨rfl, -⟩)
      · exact found
      · exact absurd below (Nat.lt_irrefl _)
  · rw [List.getElem?_concat_length, List.getElem?_eq_none (Nat.le_refl _)]
    simp
  · have outside : (entries ++ [a]).length ≤ i := by
      rw [List.length_append]
      exact above
    rw [List.getElem?_eq_none outside, List.getElem?_eq_none (Nat.le_of_lt above)]
    simp only [reduceCtorEq, false_or, false_iff, not_and]
    rintro rfl
    exact absurd above (Nat.lt_irrefl _)

/-- What has been taken from the places so far stays taken from them. -/
theorem each_snoc (e : Extract R entries places taken) (a : α) :
    List.Forall₂ (fun i b => ∃ a', (entries ++ [a])[i]? = some a' ∧ R i a' b) places taken := by
  refine e.each.imp ?_
  rintro i b ⟨a', found, made⟩
  exact ⟨a', getElem?_snoc.mpr (Or.inl found), made⟩

/-- An entry that nothing is made of is passed over. -/
theorem skip (e : Extract R entries places taken) {a : α}
    (nothing : ∀ b, ¬ R entries.length a b) : Extract R (entries ++ [a]) places taken where
  increasing := e.increasing
  mem_iff i := by
    rw [e.mem_iff]
    constructor
    · rintro ⟨a', b, found, made⟩
      exact ⟨a', b, getElem?_snoc.mpr (Or.inl found), made⟩
    · rintro ⟨a', b, found, made⟩
      rcases getElem?_snoc.mp found with found | ⟨rfl, rfl⟩
      · exact ⟨a', b, found, made⟩
      · exact absurd made (nothing b)
  each := e.each_snoc a

/-- An entry that something is made of is the last that has been taken. -/
theorem keep (e : Extract R entries places taken) {a : α} {b : β}
    (made : R entries.length a b) :
    Extract R (entries ++ [a]) (places ++ [entries.length]) (taken ++ [b]) where
  increasing := by
    rw [List.pairwise_append]
    refine ⟨e.increasing, List.pairwise_singleton _ _, ?_⟩
    intro i mem j last
    rw [List.mem_singleton.mp last]
    exact e.lt_length mem
  mem_iff i := by
    rw [List.mem_append, List.mem_singleton, e.mem_iff]
    constructor
    · rintro (⟨a', b', found, made'⟩ | rfl)
      · exact ⟨a', b', getElem?_snoc.mpr (Or.inl found), made'⟩
      · exact ⟨a, b, getElem?_snoc.mpr (Or.inr ⟨rfl, rfl⟩), made⟩
    · rintro ⟨a', b', found, made'⟩
      rcases getElem?_snoc.mp found with found | ⟨rfl, -⟩
      · exact Or.inl ⟨a', b', found, made'⟩
      · exact Or.inr rfl
  each := by
    refine List.rel_append (e.each_snoc a) (.cons ?_ .nil)
    exact ⟨a, getElem?_snoc.mpr (Or.inr ⟨rfl, rfl⟩), made⟩

/-! ## Going through a list -/

/-- A list that is filtered and mapped in one is an extract. -/
theorem exists_filterMap {f : α → Option β} (makes : ∀ i a b, R i a b ↔ f a = some b)
    (entries : List α) : ∃ places, Extract R entries places (entries.filterMap f) := by
  induction entries using List.reverseRecOn with
  | nil => exact ⟨[], nil⟩
  | append_singleton entries a ih =>
      obtain ⟨places, e⟩ := ih
      rw [List.filterMap_append]
      cases made : f a with
      | none =>
          rw [List.filterMap_cons_none made, List.filterMap_nil, List.append_nil]
          refine ⟨places, e.skip ?_⟩
          intro b other
          rw [makes, made] at other
          cases other
      | some b =>
          rw [List.filterMap_cons_some made, List.filterMap_nil]
          exact ⟨_, e.keep ((makes _ a b).mpr made)⟩

/-- So is one that is filtered and then mapped, with the places of its entries at hand. -/
theorem of_zipIdx {kept : α → Bool} {make : α → Nat → β}
    (makes : ∀ i a b, R i a b ↔ kept a = true ∧ make a i = b) (entries : List α) :
    Extract R entries ((entries.zipIdx.filter fun p => kept p.1).map Prod.snd)
      ((entries.zipIdx.filter fun p => kept p.1).map fun p => make p.1 p.2) := by
  induction entries using List.reverseRecOn with
  | nil => exact nil
  | append_singleton entries a ih =>
      rw [List.zipIdx_append, List.filter_append, List.map_append, List.map_append]
      show Extract R _ (_ ++ ([(a, 0 + entries.length)].filter _).map _)
        (_ ++ ([(a, 0 + entries.length)].filter _).map _)
      rw [Nat.zero_add]
      cases keeps : kept a with
      | false =>
          rw [List.filter_cons_of_neg (by simp [keeps]), List.filter_nil, List.map_nil,
            List.map_nil, List.append_nil, List.append_nil]
          refine ih.skip ?_
          intro b other
          rw [makes, keeps] at other
          cases other.1
      | true =>
          rw [List.filter_cons_of_pos (by simp [keeps]), List.filter_nil]
          exact ih.keep ((makes _ a _).mpr ⟨keeps, rfl⟩)

/-- What is taken depends on what is made at each place alone. -/
theorem congr {R' : Nat → α → β → Prop} {entries' : List α}
    (alike : ∀ i b, (∃ a, entries[i]? = some a ∧ R i a b) ↔
      ∃ a, entries'[i]? = some a ∧ R' i a b)
    (e : Extract R entries places taken) : Extract R' entries' places taken where
  increasing := e.increasing
  mem_iff i := by
    rw [e.mem_iff, exists_comm]
    exact (exists_congr (alike i)).trans exists_comm
  each := e.each.imp fun i b => (alike i b).mp

/-- What is taken from the first entries is what is taken from the list at their places. -/
theorem take_iff {n : Nat} : Extract R (entries.take n) places taken ↔
    Extract (fun i a b => i < n ∧ R i a b) entries places taken := by
  have alike : ∀ i b, (∃ a, (entries.take n)[i]? = some a ∧ R i a b) ↔
      ∃ a, entries[i]? = some a ∧ i < n ∧ R i a b := by
    intro i b
    by_cases below : i < n
    · simp only [List.getElem?_take_of_lt below, below, true_and]
    · simp only [List.getElem?_take, below, if_false, reduceCtorEq, false_and, and_false]
  constructor
  · exact congr alike
  · exact congr fun i b => (alike i b).symm

/-! ## One extract -/

theorem places_eq {places' : List Nat} {taken' : List β} (e : Extract R entries places taken)
    (e' : Extract R entries places' taken') : places = places' := by
  apply e.increasing.eq_of_mem_iff e'.increasing
  intro i
  rw [e.mem_iff, e'.mem_iff]

/-- **One extract.** If only one thing is made of an entry, only one list is taken. -/
theorem unique (one : ∀ i a b b', R i a b → R i a b' → b = b') {places' : List Nat}
    {taken' : List β} (e : Extract R entries places taken)
    (e' : Extract R entries places' taken') : places = places' ∧ taken = taken' := by
  obtain rfl := e.places_eq e'
  refine ⟨rfl, ?_⟩
  have right : Relator.RightUnique fun i b => ∃ a, entries[i]? = some a ∧ R i a b := by
    rintro i b b' ⟨a, found, made⟩ ⟨a', found', made'⟩
    obtain rfl := Option.some.inj (found.symm.trans found')
    exact one i a b b' made made'
  exact right.forall₂ e.each e'.each

theorem filterMap_eq_iff {f : α → Option β} (makes : ∀ i a b, R i a b ↔ f a = some b) :
    entries.filterMap f = taken ↔ ∃ places, Extract R entries places taken := by
  obtain ⟨places, e⟩ := exists_filterMap makes entries
  constructor
  · rintro rfl
    exact ⟨places, e⟩
  · rintro ⟨places', e'⟩
    refine (e.unique ?_ e').2
    intro i a b b' made made'
    exact Option.some.inj (((makes i a b).mp made).symm.trans ((makes i a b').mp made'))

end Extract

end TunnelControl
