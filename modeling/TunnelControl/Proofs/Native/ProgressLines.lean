import TunnelControl.Native.Engine
import TunnelControl.Proofs.Progress
import TunnelControl.Proofs.SharedController
import TunnelControl.Proofs.Text.Utf8
import Mathlib.Data.List.TakeWhile

/-!
# Progress lines of the two engines

A line that the native library leaves to be formatted goes through two passes, as a line of a
scripted engine does: one measures, the other writes into a buffer of that size. The scripted
engine refuses the second pass a byte more. The native one is stopped at the end of its buffer and
goes on as if it had written all, so a second pass that is longer is cut and not dropped.

`lines_agree_unless_longer` says that this is the only difference, and what gets through then.
-/

namespace TunnelControl

/-! ## Bytes of a pass -/

theorem Progress.length_encodeUtf8 (s : String) : (Text.encodeUtf8 s).length = size s := by
  have bytes : s.toByteArray = s.toList.utf8Encode := by
    rw [← String.toByteArray_ofList, String.ofList_toList]
  rw [size, String.utf8ByteSize, bytes, List.utf8Encode, List.size_toByteArray, Text.encodeUtf8]

/-- The bytes that a pass writes, unless it fails. -/
def Progress.bytes? (p : Pass) : Option (List UInt8) := (text? p).map Text.encodeUtf8

/-- If the pass succeeds, the library can hold its text and count its bytes. -/
def Progress.IsNativeText (p : Pass) : Prop :=
  ∀ t, text? p = some t → '\x00' ∉ t.toList ∧ size t < 0x7FFFFFFF

namespace Native

open Progress (Pass text? size bytes? IsNativeText)

theorem CText.bytes_ofBytes {bs : List UInt8} (noNul : 0 ∉ bs) : (CText.ofBytes bs).bytes = bs := by
  refine List.takeWhile_eq_self_iff.mpr fun b mem => ?_
  simpa using fun zero : b = 0 => noNul (zero ▸ mem)

section callback

variable {level : Int32} {first second : Pass} {t₁ t₂ : String}

/-- A pass that fails gives no line, in either engine. -/
theorem callback?_progress_of_failed (level : Int32)
    (failed : text? first = none ∨ text? second = none) :
    (Entry.progress level (bytes? first) (bytes? second)).callback? = none ∧
      (Upcall.progress level first second).callback? = none := by
  have render : Progress.render first second = none := by
    rw [Progress.render_eq, Progress.measure_eq]
    rcases failed with failed | failed <;> simp [failed]
  constructor
  · rcases failed with failed | failed <;> simp [Entry.callback?, deliver, bytes?, failed]
  · simp [Upcall.callback?, render]

/-- The native engine passes on as much of the second text as the first one is long. -/
theorem callback?_progress_of_texts (text₁ : text? first = some t₁) (text₂ : text? second = some t₂)
    (holds : IsNativeText second) :
    (Entry.progress level (bytes? first) (bytes? second)).callback? =
      some (.progress (Level.ofRaw level)
        (Text.decodeUtf8 ((Text.encodeUtf8 t₂).take (size t₁)))) := by
  -- The controller's side reads up to the first NUL: here that is all that was written.
  have noNul : (0 : UInt8) ∉ (Text.encodeUtf8 t₂).take (size t₁) := fun mem =>
    (holds t₂ text₂).1 (Text.zero_mem_encodeUtf8.mp (List.mem_of_mem_take mem))
  simp [Entry.callback?, deliver, bytes?, text₁, text₂, Progress.length_encodeUtf8, CText.text,
    CText.bytes_ofBytes noNul]

/-- The scripted engine passes on the second text, if it is no longer than the first one. -/
theorem callback?_upcall_of_texts (text₁ : text? first = some t₁) (text₂ : text? second = some t₂)
    (holds : IsNativeText first) :
    (Upcall.progress level first second).callback? =
      if size t₂ ≤ size t₁ then some (.progress (Level.ofRaw level) t₂) else none := by
  have countable : size t₁ ≤ Progress.maxSize := by
    have := (holds t₁ text₁).2
    unfold Progress.maxSize
    omega
  have measured : Progress.measure first = some (size t₁) :=
    Progress.measure_eq_some_iff.mpr ⟨t₁, text₁, rfl, countable⟩
  rw [Upcall.callback?, Progress.render_eq, measured, text₂]
  rcases Nat.lt_or_ge (size t₁) (size t₂) with longer | fits
  · simp [Nat.not_le_of_lt longer, Option.filter]
  · simp [fits, Option.filter]

/-- Both engines make the same of a line, unless its second text is longer than the first. -/
theorem callback?_progress_eq_iff (holds₁ : IsNativeText first) (holds₂ : IsNativeText second) :
    (Entry.progress level (bytes? first) (bytes? second)).callback? =
        (Upcall.progress level first second).callback? ↔
      ∀ t₁ t₂, text? first = some t₁ → text? second = some t₂ → size t₂ ≤ size t₁ := by
  cases text₁ : text? first with
  | none =>
      have failed : text? first = none ∨ text? second = none := .inl text₁
      obtain ⟨native, scripted⟩ := callback?_progress_of_failed level failed
      simp [native, scripted]
  | some t₁ =>
      cases text₂ : text? second with
      | none =>
          have failed : text? first = none ∨ text? second = none := .inr text₂
          obtain ⟨native, scripted⟩ := callback?_progress_of_failed level failed
          simp [native, scripted]
      | some t₂ =>
          rw [callback?_progress_of_texts text₁ text₂ holds₂,
            callback?_upcall_of_texts text₁ text₂ holds₁]
          by_cases fits : size t₂ ≤ size t₁
          · have whole : (Text.encodeUtf8 t₂).take (size t₁) = Text.encodeUtf8 t₂ :=
              List.take_of_length_le (by rwa [Progress.length_encodeUtf8])
            simp [fits, whole, Text.decodeUtf8_encodeUtf8]
          · simp [fits]

end callback

/-! ## What the controller receives -/

theorem received_step_enters (runners : List Runner) {s : Session Engine} {stage : Stage}
    (level : Int32) (first second : Option (List UInt8)) (status : s.status = .running none)
    (inside : s.engine.point = .inside stage) :
    ∃ r, s.step runners (.move (Move.enters (.progress level first second) true)) = some r ∧
      received r.seen = (Entry.progress level first second).callback?.toList := by
  have moved : s.engine.move (.enters (.progress level first second) true) =
      some (s.engine.callIn stage (.progress level first second) true) := by
    simp only [Engine.move, inside]
  cases call : (Entry.progress level first second).callback? with
  | none =>
      have turn : s.engine.callIn stage (.progress level first second) true =
          ⟨s.engine.moveTo (.inside stage), [], none⟩ := by
        simp [Engine.callIn, call, Engine.goBack, Entry.fallback?]
      rw [turn] at moved
      exact ⟨_, Session.step_of_transition (.move status moved rfl), rfl⟩
  | some call' =>
      have turn : s.engine.callIn stage (.progress level first second) true =
          ⟨s.engine.moveTo (.asking stage (.progress level first second)), [], some call'⟩ := by
        simp [Engine.callIn, call]
      obtain ⟨bytes, -, rfl⟩ := Option.map_eq_some_iff.mp call
      rw [turn] at moved
      exact ⟨_, Session.step_of_transition (.ask status moved rfl (fun _ => rfl) (by simp)), rfl⟩

theorem received_step_call (runners : List Runner) {s : Session Scripted.Engine} {h : Nat}
    {rest : List Scripted.Step} (level : Int32) (first second : Pass)
    (status : s.status = .running none) (point : s.engine.point = .hook h rest) :
    ∃ r, s.step runners (.move (Scripted.Move.call (.progress level first second))) = some r ∧
      received r.seen = (Upcall.progress level first second).callback?.toList := by
  rw [Upcall.callback?]
  cases rendered : Progress.render first second with
  | none =>
      exact ⟨_, Scripted.step_call_of_unformatted level runners status point rendered, rfl⟩
  | some line =>
      obtain ⟨r, stepped, seen, -⟩ :=
        Scripted.step_call_of_formatted level runners status point rendered
      exact ⟨r, stepped, by rw [seen]; rfl⟩

/-- **Lines agree, unless they grow.** The controller receives the same of a line that the native
library leaves to be formatted as of one that a scripted engine formats by the same passes, which
is the finished line or, if a pass fails, nothing. Only a second pass that is longer than the first
one tells them apart: of that, the scripted engine passes on nothing and the native one passes on as
much as the first pass was long. -/
theorem lines_agree_unless_longer (level : Int32) {first second : Pass}
    (holds₁ : IsNativeText first) (holds₂ : IsNativeText second) (runners : List Runner)
    {s : Session Engine} {stage : Stage} (status : s.status = .running none)
    (inside : s.engine.point = .inside stage) {s' : Session Scripted.Engine} {h : Nat}
    {rest : List Scripted.Step} (status' : s'.status = .running none)
    (point : s'.engine.point = .hook h rest) :
    ∃ r r',
      s.step runners (.move (Move.enters (.progress level (bytes? first) (bytes? second)) true)) =
        some r ∧
      s'.step runners (.move (Scripted.Move.call (.progress level first second))) = some r' ∧
      (received r.seen = received r'.seen ↔
        ∀ t₁ t₂, text? first = some t₁ → text? second = some t₂ → size t₂ ≤ size t₁) ∧
      ∀ t₁ t₂, text? first = some t₁ → text? second = some t₂ → size t₁ < size t₂ →
        received r'.seen = [] ∧
        received r.seen = [.progress (Level.ofRaw level)
          (Text.decodeUtf8 ((Text.encodeUtf8 t₂).take (size t₁)))] := by
  obtain ⟨r, stepped, native⟩ :=
    received_step_enters runners level (bytes? first) (bytes? second) status inside
  obtain ⟨r', stepped', scripted⟩ :=
    received_step_call runners level first second status' point
  refine ⟨r, r', stepped, stepped', ?_, fun t₁ t₂ text₁ text₂ longer => ⟨?_, ?_⟩⟩
  · have listed : ∀ a b : Option Callback, a.toList = b.toList ↔ a = b := by
      rintro (_ | a) (_ | b) <;> simp
    rw [native, scripted, listed]
    exact callback?_progress_eq_iff holds₁ holds₂
  · rw [scripted, callback?_upcall_of_texts text₁ text₂ holds₁, if_neg (Nat.not_le_of_lt longer)]
    rfl
  · rw [native, callback?_progress_of_texts text₁ text₂ holds₂]
    rfl

/-- A session whose library is in its main loop. -/
def loopingSession : Session Engine where
  id := ⟨1⟩
  userAgent := "agent"
  engine := ⟨none, none, none, LoopLimits.default, .inside .mainLoop⟩
  lifecycle := .handler
  runner := none
  status := .running none

/-- A line of two bytes that takes three the next time is cut in the middle of a character. -/
theorem growing_line_received_in_part :
    ∃ r r',
      loopingSession.step [] (.move (Move.enters
        (.progress 1 (bytes? [some "ab"]) (bytes? [some "a", some "é"])) true)) = some r ∧
      Scripted.hookedSession.step []
        (.move (Scripted.Move.call (.progress 1 [some "ab"] [some "a", some "é"]))) = some r' ∧
      received r'.seen = [] ∧ received r.seen = [.progress .info "a\uFFFD"] := by
  have holds₁ : IsNativeText [some "ab"] := by
    rintro t ⟨⟩
    decide +kernel
  have holds₂ : IsNativeText [some "a", some "é"] := by
    rintro t ⟨⟩
    decide +kernel
  have status : loopingSession.status = .running none := rfl
  have inside : loopingSession.engine.point = .inside .mainLoop := rfl
  have status' : Scripted.hookedSession.status = .running none := rfl
  have point : Scripted.hookedSession.engine.point = .hook 0 [] := rfl
  obtain ⟨r, r', stepped, stepped', -, longer⟩ :=
    lines_agree_unless_longer 1 holds₁ holds₂ [] status inside status' point
  obtain ⟨scripted, native⟩ :=
    longer "ab" "aé" (by decide +kernel) (by decide +kernel) (by decide +kernel)
  refine ⟨r, r', stepped, stepped', scripted, native.trans ?_⟩
  decide +kernel

/-- A format string by which the second text is longer: its first pass leaves a letter in the
argument that it shows. The engines do not make the same of its passes. -/
theorem growing_format_is_cut :
    let blanks n := String.ofList (List.replicate n ' ')
    let first : Pass := [some (blanks 65)]
    let second : Pass := [some "A", some (blanks 64), some "A"]
    Entry.formatted 1 (Text.encodeUtf8 "%1$s%1$65s%1$n") [.text (some [])] =
        .progress 1 (bytes? first) (bytes? second) ∧
      IsNativeText first ∧ IsNativeText second ∧
      (Entry.progress 1 (bytes? first) (bytes? second)).callback? =
        some (.progress .info ("A" ++ blanks 64)) ∧
      (Upcall.progress 1 first second).callback? = none := by
  intro blanks first second
  refine ⟨?_, ?_, ?_, by decide +kernel, by decide +kernel⟩
  · have measured : (Text.format (Text.encodeUtf8 "%1$s%1$65s%1$n") [.text (some [])]) =
        (bytes? first, [.text (some [65])]) := by decide +kernel
    have written : (Text.format (Text.encodeUtf8 "%1$s%1$65s%1$n")
        [.text (some [65])]).1 = bytes? second := by decide +kernel
    simp only [Entry.formatted, measured, written]
  · rintro t ⟨⟩
    decide +kernel
  · rintro t ⟨⟩
    decide +kernel

end Native
end TunnelControl
