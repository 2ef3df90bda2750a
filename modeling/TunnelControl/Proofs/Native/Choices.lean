import TunnelControl.Proofs.Native.Responses

/-!
# No invented choice

A selection of the library offers the choices that are there among as many of the first as it
says. They are what the controller may choose from, and the name it has chosen goes back in the
same bytes: the invariant of forms that are edited (`Form.Chosen`) meets what is written back by
position.
-/

namespace TunnelControl
namespace Native

/-- The text is well-formed. -/
def CText.IsUtf8 (c : CText) : Prop := ∃ s, c.bytes = Text.encodeUtf8 s

/-- The bytes of the name of a choice; a missing name has none. -/
def ChoiceNode.nameBytes (c : ChoiceNode) : List UInt8 := (c.name.map CText.bytes).getD []

/-- The names of the choices that the form offers are well-formed. -/
def AuthForm.NamesUtf8 (f : AuthForm) : Prop :=
  ∀ slot ∈ f.slots.all, ∀ c ∈ slot.node.countedChoices, ∀ name ∈ c.name, name.IsUtf8

theorem CText.IsUtf8.encodeUtf8_text {c : CText} (valid : c.IsUtf8) :
    Text.encodeUtf8 c.text = c.bytes := by
  obtain ⟨s, bytes⟩ := valid
  rw [text, bytes, Text.decodeUtf8_encodeUtf8]

theorem ChoiceNode.encodeUtf8_name {c : ChoiceNode} (valid : ∀ name ∈ c.name, name.IsUtf8) :
    Text.encodeUtf8 (textOrEmpty c.name) = c.nameBytes := by
  rw [nameBytes]
  cases name : c.name with
  | none => rfl
  | some t => exact (valid t name).encodeUtf8_text

/-- The form that is read has no values. -/
theorem chosen_read (f : AuthForm) : f.read.1.Chosen := by
  intro o ho _
  left
  rcases List.mem_append.mp ho with group | option
  · obtain ⟨slot, -, rfl⟩ := Option.map_eq_some_iff.mp (Option.mem_toList.mp group)
    rfl
  · obtain ⟨slot, -, rfl⟩ := List.mem_map.mp option
    rfl

theorem StandsFor.slot_mem {g : Form} {slots : Slots} {o : FormOption} {slot : Slot}
    (stands : StandsFor g slots o slot) : slot ∈ slots.all := by
  rcases stands with ⟨-, group⟩ | ⟨i, -, option⟩
  · exact List.mem_append_left _ (Option.mem_toList.mpr group)
  · exact List.mem_append_right _ (List.mem_of_getElem? option)

section exchanges

variable {w : World Engine} {key : Nat} {s : Session Engine} {stage : Stage} {f : AuthForm}
  {g : Form} {codes : List Int32} {values : List (Slot × List UInt8)} {code : Int32}

/-- Whatever the outcome is that the controller gives, what is written are values of prompts in
the places of the nodes. -/
theorem stands_of_exchange (found : w.session? key = some s) (status : s.status = .running none)
    (inside : s.engine.point = .inside stage) {result : FormResult}
    (exchange : Exchange w key s f (.form g result) codes values code) :
    ∀ a ∈ values, ∃ o v, StandsFor g f.slots o a.1 ∧ o.value = some v ∧
      a.2 = Text.encodeUtf8 v := by
  intro a ha
  exact standsFor_of_passed ((prefix_of_exchange found status inside exchange).subset ha)

/-- A value that stands at a selection of the library is the name of a choice it offers. -/
theorem name_of_chosen {filling : Values} {o : FormOption} {slot : Slot} {v : String}
    (filled : Filled f filling g) (chosen : g.Chosen) (valid : f.NamesUtf8)
    (stands : StandsFor g f.slots o slot) (value : o.value = some v)
    (selection : slot.node.kind = 3) :
    ∃ c ∈ slot.node.countedChoices, Text.encodeUtf8 v = c.nameBytes := by
  have own : o = slot.node.filled o.value := stands.eq_filled filled
  have kind : OptionKind.ofRaw slot.node.kind = .select := by rw [selection]; rfl
  rcases chosen o stands.mem_prompts (by rw [own]; exact kind) with none | ⟨c, mem, name⟩
  · rw [none] at value
    cases value
  · have choices : o.choices =
        slot.node.countedChoices.map fun c => ⟨textOrEmpty c.name, textOrEmpty c.label⟩ := by
      rw [own]
      exact if_pos kind
    rw [choices] at mem
    obtain ⟨c', mem', rfl⟩ := List.mem_map.mp mem
    obtain rfl : v = textOrEmpty c'.name := Option.some.inj (value.symm.trans name)
    exact ⟨c', mem', ChoiceNode.encodeUtf8_name (valid slot stands.slot_mem c' mem')⟩

/-- What is written to a selection of the library is the name of one of its choices. -/
theorem named_of_exchange (found : w.session? key = some s) (status : s.status = .running none)
    (inside : s.engine.point = .inside stage) (valid : f.NamesUtf8) (es : List Edit)
    {result : FormResult}
    (exchange : Exchange w key s f (.form (f.read.1.editAll es) result) codes values code) :
    ∀ a ∈ values, a.1 ∈ f.slots.all ∧
      (a.1.node.kind = 3 → ∃ c ∈ a.1.node.countedChoices, a.2 = c.nameBytes) := by
  obtain ⟨filling, filled⟩ := exists_filled (Form.samePrompts_editAll f.read.1 es)
  intro a ha
  obtain ⟨o, v, stands, value, same⟩ := stands_of_exchange found status inside exchange a ha
  refine ⟨stands.slot_mem, fun selection => ?_⟩
  rw [same]
  exact name_of_chosen filled (Form.chosen_editAll (chosen_read f) es) valid stands value selection

end exchanges

/-- **No invented choice reaches the library.** However a controller goes about setting and
clearing values of a form, its selections keep to their choices, what it sets is refused as a
whole or takes the place of what was there, and what is written to a selection of the library is
byte for byte the name of a choice that this selection offers. -/
theorem writes_no_invented_choice (f : AuthForm) :
    (∀ (es : List Edit) (g : Form), g = f.read.1.editAll es →
      (∀ o ∈ g.prompts, o.kind = .select →
        o.value = none ∨ ∃ c ∈ o.choices, o.value = some c.name) ∧
      ∀ target o value, g.prompt? target = some o →
        (∀ fault, (g.edit ⟨target, .set value⟩).2 = some fault →
          fault = .invalidChoice o.name value ∧ (g.edit ⟨target, .set value⟩).1 = g) ∧
        ((g.edit ⟨target, .set value⟩).2 = none →
          (g.edit ⟨target, .set value⟩).1.prompt? target = some { o with value := some value } ∧
          ∃ before after, g.prompts = before ++ o :: after ∧
            (g.edit ⟨target, .set value⟩).1.prompts =
              before ++ { o with value := some value } :: after)) ∧
    (f.NamesUtf8 → ∀ (w : World Engine) (key : Nat) (s : Session Engine) (stage : Stage),
      w.session? key = some s → s.status = .running none → s.engine.point = .inside stage →
      ∀ r codes values code,
        (r = .panic ∨ ∃ es result, r = .form (f.read.1.editAll es) result) →
        Exchange w key s f r codes values code →
        ∀ a ∈ values, a.1 ∈ f.slots.all ∧
          (a.1.node.kind = 3 → ∃ c ∈ a.1.node.countedChoices, a.2 = c.nameBytes)) := by
  constructor
  · rintro es g rfl
    refine ⟨Form.chosen_editAll (chosen_read f) es, fun target o value found => ⟨?_, ?_⟩⟩
    · intro fault refused
      obtain ⟨same, kept, -⟩ := Form.set_refused found refused
      exact ⟨same, kept⟩
    · exact Form.set_accepted found
  · intro valid w key s stage found status inside r codes values code reply exchange
    rcases reply with rfl | ⟨es, result, rfl⟩
    · have nothing : Exchange w key s f .panic [] [] FormResult.failed.raw :=
        exchange_of_answer found status inside rfl rfl
      obtain rfl := (nothing.unique exchange status inside List.nil_prefix).1
      nofun
    · exact named_of_exchange found status inside valid es exchange

/-- A selection whose second choice is missing and whose third one has no name. The last one does
not count. -/
def regionNode : Node :=
  let named (name : String) : ChoiceNode := ⟨some (.ofBytes (Text.encodeUtf8 name)), none⟩
  { plainNode 3 "region" 0 with
    choices := some [some (named "eu"), none, some ⟨none, none⟩, some (named "us")]
    choiceCount := 3 }

def regionForm : AuthForm :=
  ⟨none, none, none, [plainNode 1 "user" 0, regionNode], .own groupNode⟩

/-- The third and the last edit are refused. -/
def regionEdits : List Edit :=
  [⟨.group, .set "corp"⟩, ⟨.named "region", .set "eu"⟩, ⟨.option 1, .set "us"⟩,
    ⟨.option 0, .set "kim"⟩, ⟨.named "region", .set ""⟩, ⟨.option 0, .clear⟩, ⟨.group, .set "lab"⟩]

theorem region_writes_no_invented_choice :
    (regionForm.read.1.editAll regionEdits).responses = [("group", "corp"), ("region", "")] ∧
    (((regionForm.read.1.editAll (regionEdits.take 2)).edit ⟨.option 1, .set "us"⟩).1 =
      regionForm.read.1.editAll (regionEdits.take 2)) ∧
    ∃ w s values, World.run atWork (World.new [.default]) = some w ∧ w.session? 0 = some s ∧
      values = [(⟨.selector, groupNode⟩, Text.encodeUtf8 "corp"), (⟨.listed 1, regionNode⟩, [])] ∧
      Exchange w 0 s regionForm (.form (regionForm.read.1.editAll regionEdits) .ok) [0, 0]
        values 0 ∧
      ∀ a ∈ values, a.1.node.kind = 3 → ∃ c ∈ a.1.node.countedChoices, a.2 = c.nameBytes := by
  obtain ⟨kept, named⟩ := writes_no_invented_choice regionForm
  refine ⟨by decide, ?_, ?_⟩
  · obtain ⟨-, sets⟩ := kept (regionEdits.take 2) _ rfl
    exact ((sets (.option 1) _ "us" rfl).1 (.invalidChoice "region" "us") (by decide)).2
  · obtain ⟨w, s, made, found, status, inside⟩ := run_atWork
    obtain ⟨written, -⟩ := exchange_of_accepted (f := regionForm)
      (g := regionForm.read.1.editAll regionEdits) found status inside (Or.inl rfl)
    have exchange := written (by decide) [0, 0] rfl
    have valid : regionForm.NamesUtf8 := by
      intro slot hs c hc name hn
      have names : (regionForm.slots.all.flatMap fun slot =>
          slot.node.countedChoices.filterMap ChoiceNode.name).map CText.bytes =
          ["corp", "eu"].map Text.encodeUtf8 := rfl
      have offered : name ∈ regionForm.slots.all.flatMap fun slot =>
          slot.node.countedChoices.filterMap ChoiceNode.name :=
        List.mem_flatMap.mpr ⟨slot, hs, List.mem_filterMap.mpr ⟨c, hc, hn⟩⟩
      have mem := List.mem_map_of_mem (f := CText.bytes) offered
      rw [names] at mem
      obtain ⟨t, -, bytes⟩ := List.mem_map.mp mem
      exact ⟨t, bytes.symm⟩
    refine ⟨w, s, _, made, found, rfl, exchange, fun a ha => ?_⟩
    exact (named valid w 0 s .cookie found status inside _ _ _ _
      (Or.inr ⟨regionEdits, .ok, rfl⟩) exchange a ha).2

end Native
end TunnelControl
