import TunnelControl.Proofs.Native.WriteBack
import TunnelControl.Proofs.Scripted.Steps
import TunnelControl.Proofs.Text.Utf8

/-!
# Both engines submit the same answers

The scripted engine writes the responses of an answered form into its journal, the native one
pairs prompts with slots and encodes what it finds. Where the slots fit the form, nothing is
left over on either side of the pairs, and what is encoded are the responses.
-/

namespace TunnelControl

/-! ## Slots that fit a form -/

namespace Native

/-- The slots in the order of the prompts they are for. -/
def Slots.all (slots : Slots) : List Slot := slots.group.toList ++ slots.options

/-- There is a slot for every prompt of the form, and no other one. -/
structure Slots.Fit (slots : Slots) (f : Form) : Prop where
  group : slots.group.isSome = f.authGroup.isSome
  options : slots.options.length = f.options.length

section fit

variable {f : Form} {slots : Slots}

theorem Slots.Fit.length_group (fit : slots.Fit f) :
    f.authGroup.toList.length = slots.group.toList.length := by
  rw [Option.length_toList, Option.length_toList, fit.group]

theorem Slots.Fit.length_all (fit : slots.Fit f) : f.prompts.length = slots.all.length := by
  rw [Form.prompts, Slots.all, List.length_append, List.length_append, fit.length_group,
    fit.options]

theorem pairUp_of_fit (fit : slots.Fit f) : pairUp f slots = f.prompts.zip slots.all :=
  (List.zip_append fit.length_group).symm

/-- The prompts without a slot are none, so all responses of the form are among the pairs. -/
theorem map_fst_given (fit : slots.Fit f) :
    (given (f.prompts.zip slots.all)).map Prod.fst = f.responses := by
  calc (given (f.prompts.zip slots.all)).map Prod.fst
      = (f.prompts.zip slots.all).filterMap (FormOption.response? ∘ Prod.fst) := by
        rw [given, List.map_filterMap]
        simp [Function.comp_def]
    _ = ((f.prompts.zip slots.all).map Prod.fst).filterMap FormOption.response? :=
        List.filterMap_map.symm
    _ = f.responses := by
        rw [List.map_fst_zip (Nat.le_of_eq fit.length_all)]
        rfl

end fit

/-! ## What is encoded -/

/-- An answer by its name and the text that the library reads in its bytes. -/
def Answer.response (a : Answer) : String × String := (a.option, a.value.text)

/-- What is encoded can be read back. -/
theorem map_response_of_parts {answers : List Answer} {rs : List ((String × String) × Slot)}
    (same : answers.map Answer.parts = rs.map encoded) :
    answers.map Answer.response = rs.map Prod.fst := by
  let unpack (p : String × Slot × List UInt8) : String × String := (p.1, Text.decodeUtf8 p.2.2)
  have inverse : unpack ∘ encoded = Prod.fst := by
    funext r
    simp [unpack, encoded, Text.decodeUtf8_encodeUtf8]
  have unpacked := congrArg (List.map unpack) same
  rw [List.map_map, List.map_map, inverse] at unpacked
  exact unpacked

/-- The first response of the form that cannot be passed on decides. -/
theorem encode_of_fit {f : Form} {slots : Slots} (fit : slots.Fit f) :
    (∃ answers, encode f slots = .ok answers ∧ (∀ r ∈ f.responses, '\x00' ∉ r.2.toList) ∧
      answers.map Answer.parts = (given (f.prompts.zip slots.all)).map encoded) ∨
    ∃ before name value after, f.responses = before ++ (name, value) :: after ∧
      (∀ r ∈ before, '\x00' ∉ r.2.toList) ∧ '\x00' ∈ value.toList ∧
      encode f slots = .error (.rejected name) := by
  rw [encode, pairUp_of_fit fit, ← map_fst_given fit]
  rcases encodePairs_eq (f.prompts.zip slots.all) with ⟨answers, made, clean, same⟩ |
    ⟨before, name, value, slot, after, split, clean, nul, failed⟩
  · exact Or.inl ⟨answers, made, List.forall_mem_map.mpr clean, same⟩
  · refine Or.inr ⟨before.map Prod.fst, name, value, after.map Prod.fst, ?_,
      List.forall_mem_map.mpr clean, nul, failed⟩
    rw [split, List.map_append, List.map_cons]

end Native

/-! ## What is journalled -/

namespace Scripted

/-- The engine goes on with a form that the controller has accepted, and what it journals as
submitted are the responses of the form. -/
theorem leadsTo_submitted {w : World Engine} {key : Nat} {s : Session Engine} {asked : Form}
    {rest : List Step} (found : w.session? key = some s)
    (status : s.status = .running (some (.form asked))) (point : s.engine.point = .askingForm rest)
    (f : Form) :
    ∃ s' new, w.LeadsTo key [.act key (.reply (.form f .ok)), .act key (.move Move.go),
        .act key (.move Move.go)] s' new ∧
      (recorded new).submitted = [f.responses] := by
  let back : Point := .record (.form 0) (.record (.submitted f.responses) (.poll rest))
  have replied : s.step w.runners (.reply (.form f .ok)) =
      some ⟨{ s with engine := s.engine.moveTo back, status := .running none },
        [.replied (.form asked) (.form f .ok)], .unchanged⟩ := by
    have resumed : TunnelControl.Engine.resume (.form asked) (.form f .ok) s.engine =
        (s.engine.moveTo back, []) := by
      simp [TunnelControl.Engine.resume, point, Engine.afterReply, Engine.afterForm, back,
        FormResult.raw, FormResult.ofRaw]
    simp [Session.step, status, Reply.fits, resumed, Reply.remark]
  have first := World.leadsTo_of_step found replied
  have both := first.trans fun w' found' =>
    World.leadsTo_of_move (m := Move.go) found' rfl rfl rfl
  have all := both.trans fun w' found' =>
    World.leadsTo_of_move (m := Move.go) found' rfl rfl rfl
  exact ⟨_, _, all, rfl⟩

end Scripted

/-! ## Both engines -/

namespace Native

/-- **Both engines submit the same answers.** Where the slots fit the form, it is encoded unless
one of its responses has a NUL. What is encoded are then the responses, in order, each with the
slot at the place of its prompt, and the scripted engine journals the same list. Otherwise the
error names the first response with a NUL. -/
theorem engines_submit_alike (f : Form) (slots : Slots) (fit : slots.Fit f) :
    ((∃ answers, encode f slots = .ok answers) ↔ ∀ r ∈ f.responses, '\x00' ∉ r.2.toList) ∧
    (∀ answers, encode f slots = .ok answers →
      answers.map Answer.response = f.responses ∧
      answers.map Answer.parts = (given (f.prompts.zip slots.all)).map encoded ∧
      ∀ (w : World Scripted.Engine) (key : Nat) (s : Session Scripted.Engine) (asked : Form)
          (rest : List Scripted.Step), w.session? key = some s →
        s.status = .running (some (.form asked)) → s.engine.point = .askingForm rest →
        ∃ s' new, w.LeadsTo key [.act key (.reply (.form f .ok)),
            .act key (.move Scripted.Move.go), .act key (.move Scripted.Move.go)] s' new ∧
          (Scripted.recorded new).submitted = [answers.map Answer.response]) ∧
    ∀ fault, encode f slots = .error fault →
      ∃ before name value after, f.responses = before ++ (name, value) :: after ∧
        (∀ r ∈ before, '\x00' ∉ r.2.toList) ∧ '\x00' ∈ value.toList ∧
        fault = .rejected name := by
  rcases encode_of_fit fit with ⟨answers, made, clean, parts⟩ |
    ⟨before, name, value, after, split, clean, nul, failed⟩
  · refine ⟨⟨fun _ => clean, fun _ => ⟨answers, made⟩⟩, ?_, ?_⟩
    · intro answers' made'
      obtain rfl : answers = answers' := Except.ok.inj (made.symm.trans made')
      have responses : answers.map Answer.response = f.responses := by
        rw [map_response_of_parts parts, map_fst_given fit]
      refine ⟨responses, parts, ?_⟩
      intro w key s asked rest found status point
      rw [responses]
      exact Scripted.leadsTo_submitted found status point f
    · intro fault failed
      rw [made] at failed
      cases failed
  · have refused : ¬ ∀ r ∈ f.responses, '\x00' ∉ r.2.toList := by
      intro all
      refine all (name, value) ?_ nul
      rw [split]
      exact List.mem_append_right _ List.mem_cons_self
    refine ⟨⟨?_, fun all => absurd all refused⟩, ?_, ?_⟩
    · rintro ⟨answers, made⟩
      rw [failed] at made
      cases made
    · intro answers made
      rw [failed] at made
      cases made
    · intro fault failed'
      obtain rfl : .rejected name = fault := Except.error.inj (failed.symm.trans failed')
      exact ⟨before, name, value, after, split, clean, nul, rfl⟩

/-- A form that asks for the same code twice. -/
def tokenForm : AuthForm :=
  ⟨none, none, none, [plainNode 1 "user" 0, plainNode 1 "code" 0, plainNode 4 "csrf" 1,
    plainNode 1 "code" 0, plainNode 2 "pin" 0], .own groupNode⟩

/-- The form without a user. -/
def tokenFilled (pin : String) : Form :=
  { tokenForm.read.1 with
    authGroup := some (groupNode.filled (some "corp"))
    options := [(plainNode 1 "user" 0).filled none, (plainNode 1 "code" 0).filled (some "1"),
      (plainNode 1 "code" 0).filled (some "1"), (plainNode 2 "pin" 0).filled (some pin)] }

/-- The scripted engine asks for the form. -/
def askingForTokens : List (Action Scripted.Engine) :=
  [.create (⟨0, ⟨[.authForm tokenForm.read.1], 0, false, none⟩⟩ : Scripted.Plan) "agent" .handler,
    .act 0 (.start 0), .act 0 .reserve, .act 0 (.spawn none), .act 0 .enter,
    .act 0 (.move Scripted.Move.go), .act 0 (.move Scripted.Move.go)]

theorem tokens_submitted_alike :
    (∃ answers w s s' new,
      encode (tokenFilled "7") tokenForm.slots = .ok answers ∧
      answers.map (fun a => (a.option, a.slot.place, a.value.bytes)) =
        [("group", .selector, [99, 111, 114, 112]), ("code", .listed 1, [49]),
          ("code", .listed 3, [49]), ("pin", .listed 4, [55])] ∧
      World.run askingForTokens (World.new [.default]) = some w ∧ w.session? 0 = some s ∧
      w.LeadsTo 0 [.act 0 (.reply (.form (tokenFilled "7") .ok)),
        .act 0 (.move Scripted.Move.go), .act 0 (.move Scripted.Move.go)] s' new ∧
      (Scripted.recorded new).submitted = [answers.map Answer.response]) ∧
    encode (tokenFilled "7\x00") tokenForm.slots = .error (.rejected "pin") ∧
    ∃ before value after, (tokenFilled "7\x00").responses = before ++ ("pin", value) :: after ∧
      (∀ r ∈ before, '\x00' ∉ r.2.toList) ∧ '\x00' ∈ value.toList := by
  constructor
  · obtain ⟨encodes, same, -⟩ := engines_submit_alike (tokenFilled "7") tokenForm.slots ⟨rfl, rfl⟩
    obtain ⟨answers, made⟩ := encodes.mpr (by decide)
    obtain ⟨-, parts, journalled⟩ := same answers made
    obtain ⟨w, s, made', found, status, point⟩ : ∃ w s,
        World.run askingForTokens (World.new [.default]) = some w ∧ w.session? 0 = some s ∧
        s.status = .running (some (.form tokenForm.read.1)) ∧ s.engine.point = .askingForm [] :=
      ⟨_, _, rfl, rfl, rfl, rfl⟩
    obtain ⟨s', new, leads, submitted⟩ := journalled w 0 s _ [] found status point
    refine ⟨answers, w, s, s', new, made, ?_, made', found, leads, submitted⟩
    have places := congrArg (List.map fun p => (p.1, p.2.1.place, p.2.2)) parts
    rw [List.map_map] at places
    exact places.trans (by decide)
  · obtain ⟨-, -, named⟩ :=
      engines_submit_alike (tokenFilled "7\x00") tokenForm.slots ⟨rfl, rfl⟩
    have failed : encode (tokenFilled "7\x00") tokenForm.slots = .error (.rejected "pin") := rfl
    obtain ⟨before, name, value, after, split, clean, nul, same⟩ := named _ failed
    cases same
    exact ⟨failed, before, value, after, split, clean, nul⟩

end Native
end TunnelControl
