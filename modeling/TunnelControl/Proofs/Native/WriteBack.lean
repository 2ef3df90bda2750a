import Mathlib.Logic.Function.Basic
import TunnelControl.Proofs.FormEdits
import TunnelControl.Proofs.Native.Encoding
import TunnelControl.Proofs.Native.Exchange

/-!
# Answers find their way back

A form of the library is read into prompts, and what the controller answers is written
back to the nodes that the prompts were read from. A controller that only sets and
clears values has its answers written to the nodes that they were given for
(`form_round_trip`), and nothing else is written.

Prompts and nodes are paired by position, not by name. Of a controller that puts other
prompts in their places, `written_by_position` says where its answers go.
-/

namespace TunnelControl

/-! ## Controllers that only answer -/

namespace Native

/-- What is answered: for the group selector, and for options by their place in the
list. -/
structure Values where
  group : Option String
  option : Nat → Option String

/-- The option that is shown for a node, with a value. -/
def Node.filled (n : Node) (value : Option String) : FormOption := { n.read with value }

namespace AuthForm

/-- The options that are shown, with their places in the list. -/
def shown (f : AuthForm) : List (Node × Nat) :=
  f.options.zipIdx.filter fun p => !p.1.isIgnored

/-- What is to be written: the answer for the group, then those for the options that are
shown, each to the node it was given for. -/
def answers (f : AuthForm) (values : Values) : List (Slot × String) :=
  (f.groupSlot?.toList.filterMap fun slot => values.group.map (slot, ·)) ++
    f.shown.filterMap fun (node, index) =>
      (values.option index).map (⟨.listed index, node⟩, ·)

end AuthForm

/-- The form is the one that was read, with these values. -/
structure Filled (f : AuthForm) (values : Values) (g : Form) : Prop where
  group : g.authGroup = f.groupSlot?.map fun slot => slot.node.filled values.group
  options : g.options = f.shown.map fun (node, index) => node.filled (values.option index)

theorem slots_options (f : AuthForm) :
    f.slots.options = f.shown.map fun (node, index) => ⟨.listed index, node⟩ := by
  simp [AuthForm.slots, AuthForm.listedSlots, AuthForm.shown, List.filter_map, Function.comp_def]

theorem clearValue_read (n : Node) : n.read.clearValue = n.read := rfl

theorem nodup_shown (f : AuthForm) : (f.shown.map Prod.snd).Nodup := by
  refine (List.filter_sublist.map Prod.snd).nodup ?_
  rw [List.zipIdx_map_snd]
  exact List.nodup_range'

/-- An option is the one that was read, with the value it has. -/
theorem eq_filled_of_clearValue {o : FormOption} {n : Node} (same : o.clearValue = n.read) :
    o = n.filled o.value := by
  rw [Node.filled, ← same]
  rfl

theorem exists_values {l : List (Node × Nat)} {os : List FormOption}
    (nodup : (l.map Prod.snd).Nodup)
    (same : os.map FormOption.clearValue = l.map fun p => p.1.read) :
    ∃ values : Nat → Option String, os = l.map fun p => p.1.filled (values p.2) := by
  induction l generalizing os with
  | nil => exact ⟨fun _ => none, List.map_eq_nil_iff.mp same⟩
  | cons p l ih =>
      obtain ⟨o, os, rfl, first, rest⟩ := List.map_eq_cons_iff.mp same
      obtain ⟨fresh, nodup⟩ := List.nodup_cons.mp nodup
      obtain ⟨values, rfl⟩ := ih nodup rest
      refine ⟨Function.update values p.2 o.value, ?_⟩
      rw [List.map_cons, Function.update_self, ← eq_filled_of_clearValue first]
      congr 1
      refine List.map_congr_left fun p' hmem => ?_
      have other : p'.2 ≠ p.2 := fun h => fresh (h ▸ List.mem_map_of_mem hmem)
      rw [Function.update_of_ne other]

/-- A controller that only sets and clears values gives an answer, or none, for every
prompt. -/
theorem exists_filled {f : AuthForm} {g : Form} (kept : f.read.1.SamePrompts g) :
    ∃ values, Filled f values g := by
  have options : g.options.map FormOption.clearValue = f.shown.map fun p => p.1.read := by
    rw [← kept.options]
    simp [AuthForm.read, slots_options, Function.comp_def, clearValue_read]
  obtain ⟨values, filled⟩ := exists_values (nodup_shown f) options
  refine ⟨⟨g.authGroup.bind FormOption.value, values⟩, ?_, filled⟩
  have group : (f.groupSlot?.map fun slot => slot.node.read) =
      g.authGroup.map FormOption.clearValue := by
    rw [← kept.group]
    simp [AuthForm.read, AuthForm.slots, Function.comp_def, clearValue_read]
  cases slot : f.groupSlot? with
  | none =>
      rw [slot] at group
      exact Option.map_eq_none_iff.mp group.symm
  | some slot' =>
      rw [slot] at group
      obtain ⟨o, own, same⟩ := Option.map_eq_some_iff.mp group.symm
      rw [own]
      exact congrArg some (eq_filled_of_clearValue same)

/-! ## Encoding -/

/-- The values among paired prompts, with the nodes they are for. -/
def carried (pairs : List (FormOption × Slot)) : List (Slot × String) :=
  pairs.filterMap fun (o, slot) => o.value.map (slot, ·)

/-- A value as it is passed to the library. -/
def passed (a : Slot × String) : Slot × List UInt8 := (a.1, Text.encodeUtf8 a.2)

/-- What is carried are the values of the responses. -/
theorem carried_eq (pairs : List (FormOption × Slot)) :
    carried pairs = (given pairs).map fun r => (r.2, r.1.2) := by
  rw [carried, given, List.map_filterMap]
  simp [FormOption.response?, Function.comp_def]

/-- Values are passed on as they are, unless one of them has a NUL. -/
theorem encodePairs_cases (pairs : List (FormOption × Slot)) :
    (∃ answers, encodePairs pairs = .ok answers ∧
      (∀ a ∈ carried pairs, '\x00' ∉ a.2.toList) ∧
      answers.map Answer.written = (carried pairs).map passed) ∨
    (∃ fault, encodePairs pairs = .error fault) ∧ ∃ a ∈ carried pairs, '\x00' ∈ a.2.toList := by
  rw [carried_eq]
  rcases encodePairs_eq pairs with ⟨answers, made, clean, same⟩ |
    ⟨before, name, value, slot, after, split, -, nul, failed⟩
  · refine Or.inl ⟨answers, made, List.forall_mem_map.mpr clean, ?_⟩
    have written := congrArg (List.map Prod.snd) same
    rw [List.map_map, List.map_map] at written
    rw [List.map_map]
    exact written
  · refine Or.inr ⟨⟨.rejected name, failed⟩, (slot, value), ?_, nul⟩
    rw [split]
    simp

/-- The prompts of a form that is filled in carry its answers. -/
theorem carried_pairUp {f : AuthForm} {values : Values} {g : Form} (filled : Filled f values g) :
    carried (pairUp g f.slots) = f.answers values := by
  have group : f.slots.group = f.groupSlot? := rfl
  rw [pairUp, filled.group, filled.options, slots_options, group, List.zip_map', carried,
    List.filterMap_append, List.filterMap_map, AuthForm.answers]
  congr 1
  cases f.groupSlot? <;> rfl

/-! ## Forms that are answered -/

section exchanges

variable {w : World Engine} {key : Nat} {s : Session Engine} {stage : Stage} {f : AuthForm}
  {g : Form} {result : FormResult}

/-- What is written of a form that the controller has answered, whatever it has made of
it: the values that the paired prompts carry, up to the first one that is refused; or
nothing if one of them has a NUL. -/
theorem exchange_of_accepted (found : w.session? key = some s) (status : s.status = .running none)
    (inside : s.engine.point = .inside stage) (accepted : result = .ok ∨ result = .newGroup) :
    ((∀ a ∈ carried (pairUp g f.slots), '\x00' ∉ a.2.toList) →
      ∀ codes : List Int32, codes.length = (carried (pairUp g f.slots)).length →
        Exchange w key s f (.form g result) (codes.take (taken codes + 1))
          (((carried (pairUp g f.slots)).take (taken codes + 1)).map passed)
          (if taken codes = codes.length then result.raw else FormResult.failed.raw)) ∧
    ((∃ a ∈ carried (pairUp g f.slots), '\x00' ∈ a.2.toList) →
      Exchange w key s f (.form g result) [] [] FormResult.failed.raw) := by
  rcases encodePairs_cases (pairUp g f.slots) with ⟨answers, encoded, clean, same⟩ |
    ⟨⟨fault, failed⟩, nul⟩
  · have verdict : Verdict.ofReply (.form (some f)) (.form g result) =
        .write result.raw answers := by
      have encoded : encode g (Entry.form (some f)).slots = .ok answers := encoded
      rcases accepted with rfl | rfl <;> simp only [Verdict.ofReply, Verdict.ofForm, encoded]
    have count : answers.length = (carried (pairUp g f.slots)).length := by
      simpa using congrArg List.length same
    refine ⟨fun _ codes length => ?_, fun ⟨a, ha, bad⟩ => absurd bad (clean a ha)⟩
    have exchange := exchange_of_write found status inside rfl verdict (length.trans count.symm)
    rwa [List.map_take, same, ← List.map_take] at exchange
  · have verdict : Verdict.ofReply (.form (some f)) (.form g result) =
        .answer (some FormResult.failed.raw) [.writeBackFailed fault] := by
      have failed : encode g (Entry.form (some f)).slots = .error fault := failed
      rcases accepted with rfl | rfl <;> simp only [Verdict.ofReply, Verdict.ofForm, failed]
    obtain ⟨a, ha, bad⟩ := nul
    exact ⟨fun clean => absurd bad (clean a ha), fun _ =>
      exchange_of_answer found status inside rfl verdict⟩

/-- **The round trip of a form.** A controller that leaves the prompts of a form as they
are, but for their values, has its answers written to the nodes that it was asked for:
first the one for the group, then those for the options that are shown, in order, up to
the first one that the library refuses. Nothing is written if an answer has a NUL, or if
the controller does not accept the form. -/
theorem form_round_trip (found : w.session? key = some s) (status : s.status = .running none)
    (inside : s.engine.point = .inside stage) (kept : f.read.1.SamePrompts g) :
    ∃ values, Filled f values g ∧
      (∀ result, result = .ok ∨ result = .newGroup →
        ((∀ a ∈ f.answers values, '\x00' ∉ a.2.toList) →
          ∀ codes : List Int32, codes.length = (f.answers values).length →
            Exchange w key s f (.form g result) (codes.take (taken codes + 1))
              (((f.answers values).take (taken codes + 1)).map passed)
              (if taken codes = codes.length then result.raw else -1)) ∧
        ((∃ a ∈ f.answers values, '\x00' ∈ a.2.toList) →
          Exchange w key s f (.form g result) [] [] (-1))) ∧
      Exchange w key s f (.form g .failed) [] [] (-1) ∧
      Exchange w key s f (.form g .cancelled) [] [] 1 ∧
      Exchange w key s f .panic [] [] (-1) := by
  obtain ⟨values, filled⟩ := exists_filled kept
  refine ⟨values, filled, ?_, ?_, ?_, ?_⟩
  · intro result accepted
    rw [← carried_pairUp filled]
    exact exchange_of_accepted found status inside accepted
  · exact exchange_of_answer found status inside rfl rfl
  · exact exchange_of_answer found status inside rfl rfl
  · exact exchange_of_answer found status inside rfl rfl

end exchanges

/-- A node without a label. -/
def plainNode (kind : Int32) (name : String) (flags : UInt32) : Node :=
  ⟨kind, some (.ofBytes (Text.encodeUtf8 name)), none, none, flags, none, 0⟩

def groupNode : Node :=
  let corporate : ChoiceNode := ⟨some (.ofBytes (Text.encodeUtf8 "corp")), none⟩
  { plainNode 3 "group" 0 with choices := some [some corporate], choiceCount := 1 }

/-- A form with a group selector apart from the list, and an option that is not shown. -/
def loginForm : AuthForm :=
  ⟨none, none, none, [plainNode 1 "user" 0, plainNode 4 "csrf" 1, plainNode 2 "password" 0],
    .own groupNode⟩

/-- The form with a group and a password, but without a user. -/
def loginAnswered : Form :=
  { loginForm.read.1 with
    authGroup := some (groupNode.filled (some "corp"))
    options :=
      [(plainNode 1 "user" 0).filled none, (plainNode 2 "password" 0).filled (some "key")] }

/-- The library is at work for a cookie. -/
def atWork : List (Action Engine) :=
  [.create (⟨false⟩ : Plan) "agent" .handler, .act 0 (.start 0), .act 0 .reserve,
    .act 0 (.spawn none), .act 0 .enter, .act 0 (.move Move.go)]

theorem run_atWork :
    ∃ w s, World.run atWork (World.new [.default]) = some w ∧ w.session? 0 = some s ∧
      s.status = .running none ∧ s.engine.point = .inside .cookie :=
  ⟨_, _, rfl, rfl, rfl, rfl⟩

theorem login_form_round_trip :
    ∃ w s, World.run atWork (World.new [.default]) = some w ∧ w.session? 0 = some s ∧
      Exchange w 0 s loginForm (.form loginAnswered .ok) [0, 0]
        [(⟨.selector, groupNode⟩, Text.encodeUtf8 "corp"),
          (⟨.listed 2, plainNode 2 "password" 0⟩, Text.encodeUtf8 "key")] 0 ∧
      Exchange w 0 s loginForm (.form loginAnswered .ok) [22]
        [(⟨.selector, groupNode⟩, Text.encodeUtf8 "corp")] (-1) := by
  obtain ⟨w, s, made, found, status, inside⟩ := run_atWork
  obtain ⟨values, filled, answered, -⟩ :=
    form_round_trip (f := loginForm) (g := loginAnswered) found status inside ⟨rfl, rfl⟩
  have given : loginForm.answers values =
      [(⟨.selector, groupNode⟩, "corp"), (⟨.listed 2, plainNode 2 "password" 0⟩, "key")] :=
    (carried_pairUp filled).symm
  obtain ⟨written, -⟩ := answered .ok (Or.inl rfl)
  rw [given] at written
  have clean := written (by decide)
  exact ⟨w, s, made, found, clean [0, 0] rfl, clean [22, 0] rfl⟩

/-! ## Controllers that move prompts -/

/-- The prompt stands in the form where the node was read to: it is the group, or it is
at the same place among the options. -/
def StandsFor (g : Form) (slots : Slots) (o : FormOption) (slot : Slot) : Prop :=
  (g.authGroup = some o ∧ slots.group = some slot) ∨
    ∃ i : Nat, g.options[i]? = some o ∧ slots.options[i]? = some slot

/-- Every value is one that the form carries for the name of the node. -/
def ByName (g : Form) (values : List (Slot × List UInt8)) : Prop :=
  ∀ a ∈ values, ∃ o ∈ g.prompts, o.name = a.1.node.read.name ∧
    o.value.map Text.encodeUtf8 = some a.2

theorem standsFor_of_mem_pairUp {g : Form} {slots : Slots} {o : FormOption} {slot : Slot}
    (mem : (o, slot) ∈ pairUp g slots) : StandsFor g slots o slot := by
  rcases List.mem_append.mp mem with mem | mem
  · refine Or.inl ?_
    cases group : g.authGroup <;> cases own : slots.group <;> simp [group, own] at mem
    obtain ⟨rfl, rfl⟩ := mem
    exact ⟨rfl, rfl⟩
  · obtain ⟨i, paired⟩ := List.mem_iff_getElem?.mp mem
    exact Or.inr ⟨i, List.getElem?_zip_eq_some.mp paired⟩

/-- What paired prompts carry are values of prompts in the places of the nodes. -/
theorem standsFor_of_passed {g : Form} {slots : Slots} {a : Slot × List UInt8}
    (mem : a ∈ (carried (pairUp g slots)).map passed) :
    ∃ o v, StandsFor g slots o a.1 ∧ o.value = some v ∧ a.2 = Text.encodeUtf8 v := by
  obtain ⟨a', ha', rfl⟩ := List.mem_map.mp mem
  obtain ⟨⟨o, slot⟩, paired, given⟩ := List.mem_filterMap.mp ha'
  obtain ⟨v, value, rfl⟩ := Option.map_eq_some_iff.mp given
  exact ⟨o, v, standsFor_of_mem_pairUp paired, value, rfl⟩

theorem StandsFor.mem_prompts {g : Form} {slots : Slots} {o : FormOption} {slot : Slot}
    (stands : StandsFor g slots o slot) : o ∈ g.prompts := by
  rcases stands with ⟨group, -⟩ | ⟨i, option, -⟩
  · exact List.mem_append_left _ (by simp [group])
  · exact List.mem_append_right _ (List.mem_of_getElem? option)

/-- A controller that only sets and clears values leaves the prompts where they were. -/
theorem StandsFor.eq_filled {f : AuthForm} {values : Values} {g : Form} {o : FormOption}
    {slot : Slot} (stands : StandsFor g f.slots o slot) (filled : Filled f values g) :
    o = slot.node.filled o.value := by
  rcases stands with ⟨group, own⟩ | ⟨i, option, own⟩
  · have own : f.groupSlot? = some slot := own
    rw [filled.group, own] at group
    cases group
    rfl
  · rw [filled.options, List.getElem?_map] at option
    rw [slots_options, List.getElem?_map] at own
    cases shown : f.shown[i]? with
    | none => simp [shown] at own
    | some p =>
        rw [shown] at option own
        cases option
        cases own
        rfl

theorem StandsFor.name_of_filled {f : AuthForm} {values : Values} {g : Form} {o : FormOption}
    {slot : Slot} (stands : StandsFor g f.slots o slot) (filled : Filled f values g) :
    o.name = slot.node.read.name := by
  rw [stands.eq_filled filled]
  rfl

section positions

variable {w : World Engine} {key : Nat} {s : Session Engine} {stage : Stage} {f : AuthForm}
  {g : Form} {result : FormResult}

/-- Whatever the library returns, an exchange comes to its end, and what is written are the
first of the values that the paired prompts carry. -/
theorem exists_exchange_prefix (found : w.session? key = some s)
    (status : s.status = .running none) (inside : s.engine.point = .inside stage)
    (accepted : result = .ok ∨ result = .newGroup) (rc : Nat → Int32) :
    ∃ n values code, Exchange w key s f (.form g result) ((List.range n).map rc) values code ∧
      values <+: (carried (pairUp g f.slots)).map passed := by
  obtain ⟨written, nothing⟩ :=
    exchange_of_accepted (f := f) (g := g) found status inside accepted
  by_cases clean : ∀ a ∈ carried (pairUp g f.slots), '\x00' ∉ a.2.toList
  · let codes := (List.range (carried (pairUp g f.slots)).length).map rc
    have exchange := written clean codes (by simp [codes])
    rw [← List.map_take, List.take_range] at exchange
    exact ⟨_, _, _, exchange, (List.take_prefix _ _).map passed⟩
  · have nul : ∃ a ∈ carried (pairUp g f.slots), '\x00' ∈ a.2.toList := by
      simpa using clean
    exact ⟨0, [], _, nothing nul, List.nil_prefix⟩

/-- They are values of prompts in the places of the nodes. -/
theorem exists_exchange (found : w.session? key = some s) (status : s.status = .running none)
    (inside : s.engine.point = .inside stage) (accepted : result = .ok ∨ result = .newGroup)
    (rc : Nat → Int32) :
    ∃ n values code, Exchange w key s f (.form g result) ((List.range n).map rc) values code ∧
      ∀ a ∈ values, ∃ o v, StandsFor g f.slots o a.1 ∧ o.value = some v ∧
        a.2 = Text.encodeUtf8 v := by
  obtain ⟨n, values, code, exchange, first⟩ :=
    exists_exchange_prefix (f := f) (g := g) found status inside accepted rc
  exact ⟨n, values, code, exchange, fun a ha => standsFor_of_passed (first.subset ha)⟩

/-- Of a list of codes and the first codes of a pattern that begins with them, one is
the beginning of the other. -/
theorem codes_agree (codes : List Int32) (n : Nat) :
    (List.range n).map (codes.getD · 0) <+: codes ∨
      codes <+: (List.range n).map (codes.getD · 0) := by
  rcases Nat.le_total n codes.length with short | long
  · refine Or.inl (List.prefix_iff_getElem?.mpr fun i hi => ?_)
    have lt : i < codes.length := by
      rw [List.length_map, List.length_range] at hi
      omega
    simp [lt]
  · refine Or.inr (List.prefix_iff_getElem?.mpr fun i hi => ?_)
    have lt : i < n := by omega
    simp [lt, hi]

/-- Whatever the outcome is that the controller gives, what is written are the first of the
values that the paired prompts carry. -/
theorem prefix_of_exchange {codes : List Int32} {values : List (Slot × List UInt8)} {code : Int32}
    (found : w.session? key = some s) (status : s.status = .running none)
    (inside : s.engine.point = .inside stage)
    (exchange : Exchange w key s f (.form g result) codes values code) :
    values <+: (carried (pairUp g f.slots)).map passed := by
  by_cases accepted : result = .ok ∨ result = .newGroup
  · obtain ⟨n, values', code', exchange', first⟩ :=
      exists_exchange_prefix found status inside accepted (codes.getD · 0)
    -- There is only one exchange for the codes.
    obtain rfl : values' = values := by
      rcases codes_agree codes n with agree | agree
      · exact (exchange'.unique exchange status inside agree).1.symm
      · exact (exchange.unique exchange' status inside agree).1
    exact first
  · have nothing : Exchange w key s f (.form g result) [] [] result.raw := by
      cases result with
      | failed => exact exchange_of_answer found status inside rfl rfl
      | cancelled => exact exchange_of_answer found status inside rfl rfl
      | ok => exact absurd (Or.inl rfl) accepted
      | newGroup => exact absurd (Or.inr rfl) accepted
    obtain rfl := (nothing.unique exchange status inside List.nil_prefix).1
    exact List.nil_prefix

/-- **Answers go by position.** Whatever a controller has made of a form that it accepts,
and whatever the library returns, each value that is written is the one of the prompt
that stands where the node was read to. It is an answer for the name of the node if the
prompts with a value have the names that were there before. -/
theorem written_by_position (found : w.session? key = some s) (status : s.status = .running none)
    (inside : s.engine.point = .inside stage) (accepted : result = .ok ∨ result = .newGroup) :
    (∀ rc : Nat → Int32, ∃ n values code,
      Exchange w key s f (.form g result) ((List.range n).map rc) values code) ∧
    ∀ codes values code, Exchange w key s f (.form g result) codes values code →
      (∀ a ∈ values, ∃ o v, StandsFor g f.slots o a.1 ∧ o.value = some v ∧
        a.2 = Text.encodeUtf8 v) ∧
      ((∀ o slot, StandsFor g f.slots o slot → o.value ≠ none → o.name = slot.node.read.name) →
        ByName g values) := by
  have exists_exchange := exists_exchange (f := f) (g := g) found status inside accepted
  refine ⟨fun rc => ?_, fun codes values code exchange => ?_⟩
  · obtain ⟨n, values, code, exchange, -⟩ := exists_exchange rc
    exact ⟨n, values, code, exchange⟩
  · obtain ⟨n, values', code', exchange', places⟩ := exists_exchange (codes.getD · 0)
    -- There is only one exchange for the codes.
    obtain rfl : values' = values := by
      rcases codes_agree codes n with agree | agree
      · exact (exchange'.unique exchange status inside agree).1.symm
      · exact (exchange.unique exchange' status inside agree).1
    refine ⟨places, fun names a ha => ?_⟩
    obtain ⟨o, v, stands, value, same⟩ := places a ha
    refine ⟨o, stands.mem_prompts, names o a.1 stands (by simp [value]), ?_⟩
    rw [value, same]
    rfl

end positions

theorem login_written_by_position :
    ∃ w s, World.run atWork (World.new [.default]) = some w ∧ w.session? 0 = some s ∧
      Exchange w 0 s loginForm (.form loginAnswered .ok) [0, 0]
        [(⟨.selector, groupNode⟩, Text.encodeUtf8 "corp"),
          (⟨.listed 2, plainNode 2 "password" 0⟩, Text.encodeUtf8 "key")] 0 ∧
      ByName loginAnswered [(⟨.selector, groupNode⟩, Text.encodeUtf8 "corp"),
        (⟨.listed 2, plainNode 2 "password" 0⟩, Text.encodeUtf8 "key")] := by
  obtain ⟨w, s, made, found, status, inside⟩ := run_atWork
  obtain ⟨written, -⟩ := exchange_of_accepted (f := loginForm) (g := loginAnswered) found status
    inside (Or.inl rfl)
  have exchange := written (by decide) [0, 0] rfl
  obtain ⟨-, named⟩ := (written_by_position (f := loginForm) (g := loginAnswered) found status
    inside (Or.inl rfl)).2 _ _ _ exchange
  obtain ⟨values, filled⟩ := exists_filled (f := loginForm) (g := loginAnswered) ⟨rfl, rfl⟩
  exact ⟨w, s, made, found, exchange,
    named fun o slot stands _ => stands.name_of_filled filled⟩

/-- The login form without the option for the user. -/
def loginShortened : Form :=
  { loginForm.read.1 with options := [(plainNode 2 "password" 0).filled (some "key")] }

/-- The password is written to the node for the user. -/
theorem password_written_for_user :
    ((groupNode :: loginForm.options).map fun n => n.read.name).Nodup ∧
    ∃ w s, World.run atWork (World.new [.default]) = some w ∧ w.session? 0 = some s ∧
      Exchange w 0 s loginForm (.form loginShortened .ok) [0]
        [(⟨.listed 0, plainNode 1 "user" 0⟩, Text.encodeUtf8 "key")] 0 ∧
      ¬ ByName loginShortened [(⟨.listed 0, plainNode 1 "user" 0⟩, Text.encodeUtf8 "key")] := by
  refine ⟨by decide, ?_⟩
  obtain ⟨w, s, made, found, status, inside⟩ := run_atWork
  obtain ⟨written, -⟩ := exchange_of_accepted (f := loginForm) (g := loginShortened) found status
    inside (Or.inl rfl)
  refine ⟨w, s, made, found, written (by decide) [0] rfl, ?_⟩
  intro named
  obtain ⟨o, prompt, name, -⟩ := named _ List.mem_cons_self
  revert o
  decide

end Native
end TunnelControl
