import Mathlib.Data.List.Basic
import TunnelControl.Native.Form

/-!
# Encoding answers

`encodePairs` goes through prompts and the slots they are paired with, and stops at the first
value that cannot be passed to the library. `given` is the same without the encoding: the
responses among the prompts, each with its slot.
-/

namespace TunnelControl.Native

/-- The responses among paired prompts, with the slots they are for. -/
def given (pairs : List (FormOption × Slot)) : List ((String × String) × Slot) :=
  pairs.filterMap fun (o, slot) => o.response?.map (·, slot)

/-- Whether the value of a response can be passed to the library. -/
def Passable (r : (String × String) × Slot) : Prop := '\x00' ∉ r.1.2.toList

/-- A response as it is passed to the library. -/
def encoded (r : (String × String) × Slot) : String × Slot × List UInt8 :=
  (r.1.1, r.2, Text.encodeUtf8 r.1.2)

/-- An answer by the name, the slot and the bytes it consists of. -/
def Answer.parts (a : Answer) : String × Slot × List UInt8 := (a.option, a.slot, a.value.bytes)

theorem given_cons (o : FormOption) (slot : Slot) (pairs : List (FormOption × Slot)) :
    given ((o, slot) :: pairs) =
      (o.value.map fun value => ((o.name, value), slot)).toList ++ given pairs := by
  cases value : o.value <;> simp [given, FormOption.response?, value]

/-- **The first value that cannot be passed on decides.** Without one, all responses are
encoded in order; with one, the error has the name it is given for. -/
theorem encodePairs_eq (pairs : List (FormOption × Slot)) :
    (∃ answers, encodePairs pairs = .ok answers ∧ (∀ r ∈ given pairs, Passable r) ∧
      answers.map Answer.parts = (given pairs).map encoded) ∨
    ∃ before name value slot after, given pairs = before ++ ((name, value), slot) :: after ∧
      (∀ r ∈ before, Passable r) ∧ '\x00' ∈ value.toList ∧
      encodePairs pairs = .error (.rejected name) := by
  induction pairs with
  | nil => exact Or.inl ⟨[], rfl, by simp [given], rfl⟩
  | cons p pairs ih =>
      obtain ⟨o, slot⟩ := p
      rw [given_cons]
      cases answer : o.value with
      | none =>
          rw [Option.map_none, Option.toList_none, List.nil_append]
          simpa only [encodePairs, answer] using ih
      | some value =>
          rw [Option.map_some, Option.toList_some, List.singleton_append]
          cases text : CText.ofText? value with
          | none =>
              refine Or.inr ⟨[], o.name, value, slot, _, rfl, by simp, ?_, ?_⟩
              · exact CText.ofText?_eq_none_iff.mp text
              · simp only [encodePairs, answer, text]
          | some c =>
              have passable : Passable ((o.name, value), slot) := by
                rw [Passable, ← CText.ofText?_eq_none_iff, text]
                simp
              rcases ih with ⟨answers, made, others, same⟩ |
                ⟨before, name, value', slot', after, split, others, nul, failed⟩
              · refine Or.inl ⟨⟨o.name, slot, c⟩ :: answers, ?_, ?_, ?_⟩
                · simp only [encodePairs, answer, text, made, Except.map]
                · exact List.forall_mem_cons.mpr ⟨passable, others⟩
                · rw [List.map_cons, List.map_cons, same]
                  simp only [Answer.parts, encoded, CText.bytes_of_ofText? text]
              · refine Or.inr ⟨((o.name, value), slot) :: before, name, value', slot', after,
                  ?_, ?_, nul, ?_⟩
                · rw [split, List.cons_append]
                · exact List.forall_mem_cons.mpr ⟨passable, others⟩
                · simp only [encodePairs, answer, text, failed, Except.map]

end TunnelControl.Native
