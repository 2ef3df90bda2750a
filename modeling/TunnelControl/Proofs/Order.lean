import Mathlib.Data.List.Basic

/-!
# Order in histories

`Preceded p q l` says of a list of events that each one of kind `q` comes after
one of kind `p`. It is read off the front of a list, event by event, and it
holds of every earlier part of a history of which it holds.

`Throughout p l` says of every event of a list that it and what came before it are
as `p` asks. It is extended at the end of a list, as histories are.

`emitted` reads a list where what an event stands for depends on the ones before it.
-/

namespace TunnelControl

variable {α β : Type} {p q : α → Prop}

/-- By the time of any element with `q` there has been one with `p`. -/
def Preceded (p q : α → Prop) (l : List α) : Prop :=
  ∀ pre x post, l = pre ++ x :: post → q x → ∃ y ∈ pre, p y

theorem preceded_nil : Preceded p q [] := by
  intro pre x post h
  simp at h

theorem preceded_cons (x : α) (l : List α) :
    Preceded p q (x :: l) ↔ ¬ q x ∧ (p x ∨ Preceded p q l) := by
  constructor
  · intro h
    refine ⟨fun hx => by simpa using h [] x l rfl hx, ?_⟩
    by_cases hp : p x
    · exact Or.inl hp
    · refine Or.inr fun pre y post hl hy => ?_
      obtain ⟨z, hz, hpz⟩ := h (x :: pre) y post (by rw [hl]; rfl) hy
      rcases List.mem_cons.mp hz with rfl | hz
      · exact absurd hpz hp
      · exact ⟨z, hz, hpz⟩
  · rintro ⟨hx, h⟩ pre y post hl hy
    cases pre with
    | nil => cases hl; exact absurd hy hx
    | cons z pre =>
        cases hl
        rcases h with h | h
        · exact ⟨x, List.mem_cons_self, h⟩
        · obtain ⟨z, hz, hpz⟩ := h pre y post rfl hy
          exact ⟨z, List.mem_cons_of_mem _ hz, hpz⟩

theorem preceded_replicate_append {n : Nat} {x : α} {l : List α} (hp : ¬ p x) (hq : ¬ q x) :
    Preceded p q (List.replicate n x ++ l) ↔ Preceded p q l := by
  induction n with
  | zero => rfl
  | succ n ih =>
      rw [List.replicate_succ, List.cons_append, preceded_cons, ih]
      simp [hp, hq]

theorem Preceded.of_isPrefix {l l' : List α} (h : Preceded p q l') (hl : l <+: l') :
    Preceded p q l := by
  obtain ⟨rest, rfl⟩ := hl
  intro pre x post hsplit hx
  exact h pre x (post ++ rest) (by rw [hsplit]; simp) hx

theorem Preceded.trans {r : α → Prop} {l : List α} (first : Preceded p q l)
    (second : Preceded q r l) : Preceded p r l := by
  rintro pre x post rfl hx
  obtain ⟨y, hy, hqy⟩ := second pre x post rfl hx
  obtain ⟨before, after, rfl⟩ := List.append_of_mem hy
  obtain ⟨z, hz, hpz⟩ := first before y (after ++ x :: post) (by simp) hqy
  exact ⟨z, List.mem_append_left _ hz, hpz⟩

/-- What holds of the marks that events leave holds of the events: here an event
of kind `q'` leaves one mark, of kind `q`. -/
theorem Preceded.of_flatMap {f : β → List α} {p' q' : β → Prop} {l : List β}
    (h : Preceded p q (l.flatMap f)) (hp : ∀ y, ∀ m ∈ f y, p m → p' y)
    (hq : ∀ x, q' x → ∃ m, f x = [m] ∧ q m) : Preceded p' q' l := by
  rintro pre x post rfl hx
  obtain ⟨m, hm, hqm⟩ := hq x hx
  obtain ⟨m', hmem, hpm⟩ := h (pre.flatMap f) m (post.flatMap f) (by simp [hm]) hqm
  obtain ⟨y, hy, hmy⟩ := List.mem_flatMap.mp hmem
  exact ⟨y, hy, hp y m' hmy hpm⟩

/-- Every element of the list, with all that comes before it, satisfies `p`. -/
def Throughout (p : List α → α → Prop) (l : List α) : Prop :=
  ∀ pre x post, l = pre ++ x :: post → p pre x

theorem throughout_nil {p : List α → α → Prop} : Throughout p [] := by
  intro pre x post h
  simp at h

theorem throughout_append {p : List α → α → Prop} {l l' : List α} (h : Throughout p l)
    (h' : Throughout (fun pre => p (l ++ pre)) l') : Throughout p (l ++ l') := by
  intro pre x post split
  -- The element stands in one of the two parts.
  rcases List.append_eq_append_iff.mp split with ⟨mid, rfl, rest⟩ | ⟨mid, rfl, rest⟩
  · exact h' mid x post rest
  · cases mid with
    | nil =>
        have first := h' [] x post rest.symm
        rwa [List.append_nil, List.append_nil] at first
    | cons y mid =>
        obtain ⟨rfl, rfl⟩ := List.cons.inj rest
        exact h pre x mid rfl

theorem throughout_singleton {p : List α → α → Prop} {x : α} (h : p [] x) :
    Throughout p [x] := by
  intro pre y post split
  cases pre with
  | nil =>
      obtain ⟨rfl, -⟩ := List.cons.inj split
      exact h
  | cons z pre => simp at split

theorem throughout_cons {p : List α → α → Prop} {x : α} {l : List α} :
    Throughout p (x :: l) ↔ p [] x ∧ Throughout (fun pre => p (x :: pre)) l := by
  constructor
  · intro all
    exact ⟨all [] x l rfl, fun pre y post split => all (x :: pre) y post (by rw [split]; rfl)⟩
  · rintro ⟨first, rest⟩
    exact throughout_append (throughout_singleton first) rest

instance decidableThroughout (p : List α → α → Prop) [∀ pre x, Decidable (p pre x)] :
    ∀ l, Decidable (Throughout p l)
  | [] => isTrue throughout_nil
  | x :: l =>
    have := decidableThroughout (fun pre => p (x :: pre)) l
    decidable_of_iff (p [] x ∧ Throughout (fun pre => p (x :: pre)) l) throughout_cons.symm

theorem throughout_of_forall {p : List α → α → Prop} {l : List α} (h : ∀ x ∈ l, ∀ pre, p pre x) :
    Throughout p l := by
  rintro pre x post rfl
  exact h x (by simp) pre

/-- An element of a list put together from two stands in one of them. -/
theorem split_append {l l' pre post : List α} {x : α} (h : l ++ l' = pre ++ x :: post) :
    (∃ mid, l = pre ++ x :: mid ∧ post = mid ++ l') ∨
      ∃ mid, pre = l ++ mid ∧ l' = mid ++ x :: post := by
  rcases List.append_eq_append_iff.mp h with ⟨mid, rfl, rest⟩ | ⟨mid, rfl, rest⟩
  · exact Or.inr ⟨mid, rfl, rest⟩
  · cases mid with
    | nil => exact Or.inr ⟨[], by simp, rest.symm⟩
    | cons y mid =>
        obtain ⟨rfl, rfl⟩ := List.cons.inj rest
        exact Or.inl ⟨mid, rfl, rfl⟩

/-- What is new comes after what came before. -/
theorem Preceded.append {l l' : List α} (h : Preceded p q l)
    (next : ∀ x ∈ l', q x → ∃ y ∈ l, p y) : Preceded p q (l ++ l') := by
  intro pre x post hsplit hx
  rcases split_append hsplit with ⟨mid, hl, -⟩ | ⟨mid, rfl, hl'⟩
  · exact h pre x mid hl hx
  · obtain ⟨y, hy, hpy⟩ := next x (by simp [hl']) hx
    exact ⟨y, List.mem_append_left _ hy, hpy⟩

/-- What the elements of a list stand for, one after the other. `next` keeps what is
needed of those that were read already. -/
def emitted {σ : Type} (next : σ → α → σ) (out : σ → α → List β) (s : σ) : List α → List β
  | [] => []
  | x :: l => out s x ++ emitted next out (next s x) l

section emitted

variable {σ : Type} {next : σ → α → σ} {out : σ → α → List β} {s : σ} {l : List α}

theorem emitted_append (l' : List α) :
    emitted next out s (l ++ l') =
      emitted next out s l ++ emitted next out (l.foldl next s) l' := by
  induction l generalizing s with
  | nil => rfl
  | cons x l ih => simp [emitted, ih]

theorem emitted_snoc (x : α) :
    emitted next out s (l ++ [x]) = emitted next out s l ++ out (l.foldl next s) x := by
  rw [emitted_append, emitted, emitted, List.append_nil]

theorem emitted_eq_nil (silent : ∀ x ∈ l, ∀ s, out s x = []) : emitted next out s l = [] := by
  induction l generalizing s with
  | nil => rfl
  | cons x l ih =>
      rw [emitted, silent x List.mem_cons_self, List.nil_append]
      exact ih fun y hy => silent y (List.mem_cons_of_mem _ hy)

end emitted

end TunnelControl
