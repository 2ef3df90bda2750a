import Mathlib.Algebra.Group.Nat.Defs
import Mathlib.Data.List.Basic
import TunnelControl.Native.Engine
import TunnelControl.Scripted.Engine

/-!
# Settings are made in order

Options ask for some of seven settings (`Options.Asks`), and `Options.settings` lists these, and
no others, in one fixed order. Engines make them one after the other. `MadeInOrder` is what can
come of that: all of them are made, or the ones ahead of the first that fails.

Which settings fail, and what the ones that were made leave behind, is for each kind of engine to
say (`fault?`). `exists_madeInOrder` is the part that both have in common.
-/

namespace TunnelControl

open scoped List

/-! ## What options ask for -/

/-- Whether the options ask for the setting. -/
def Options.Asks (o : Options) : Setting → Prop
  | .logLevel level => level = o.logLevel
  | .protocol p => o.protocol = some p
  | .url url => o.server = some url ∧ url ≠ ""
  | .dpd seconds => o.forceDpd = some seconds ∧ 0 < seconds
  | .insecureCrypto allowed => allowed = true ∧ o.allowInsecureCrypto = true
  | .tunScript script => o.tunScript = some script
  | .csd csd => o.csd = some csd ∧ csd.wrapper ≠ ""

/-- The place of a setting in the order in which they are made. -/
def Setting.rank : Setting → Nat
  | .logLevel _ => 0
  | .protocol _ => 1
  | .url _ => 2
  | .dpd _ => 3
  | .insecureCrypto _ => 4
  | .tunScript _ => 5
  | .csd _ => 6

namespace Options

theorem mem_settings_iff (o : Options) (x : Setting) : x ∈ o.settings ↔ o.Asks x := by
  cases x <;> simp [settings, Asks, Option.filter_eq_some_iff, and_comm]

/-- At most one setting of a kind is asked for. -/
theorem map_rank_toList {α : Type} (kind : α → Setting) {n : Nat} (ranked : ∀ a, (kind a).rank = n)
    (asked : Option α) : (asked.map kind).toList.map Setting.rank <+ [n] := by
  cases asked with
  | none => exact List.nil_sublist _
  | some a => simp [ranked]

theorem pairwise_rank_settings (o : Options) :
    o.settings.Pairwise fun x y => x.rank < y.rank := by
  have ranks : o.settings.map Setting.rank <+ [0] ++ [1] ++ [2] ++ [3] ++ [4] ++ [5] ++ [6] := by
    simp only [settings, List.map_append]
    refine (((((List.Sublist.append (.refl _) ?_).append ?_).append ?_).append ?_).append ?_).append
      ?_
    · exact map_rank_toList .protocol (fun _ => rfl) _
    · exact map_rank_toList .url (fun _ => rfl) _
    · exact map_rank_toList .dpd (fun _ => rfl) _
    · cases o.allowInsecureCrypto <;> decide
    · exact map_rank_toList .tunScript (fun _ => rfl) _
    · exact map_rank_toList .csd (fun _ => rfl) _
  exact List.pairwise_map.mp (List.Pairwise.sublist ranks (by decide))

end Options

/-! ## Up to the first that fails -/

/-- What can come of making settings in order, if `fault?` tells which of them fail: the ones
that are made, the one that fails, if any, and the result. -/
inductive MadeInOrder (fault? : Setting → Option EngineFault) :
    List Setting → List Setting → Option Setting → Except EngineFault Unit → Prop
  | all {made : List Setting} (fine : ∀ x ∈ made, fault? x = none) :
      MadeInOrder fault? made made none (.ok ())
  | upTo {made rest : List Setting} {x : Setting} {fault : EngineFault}
      (fine : ∀ x ∈ made, fault? x = none) (fails : fault? x = some fault) :
      MadeInOrder fault? (made ++ x :: rest) made (some x) (.error fault)

namespace MadeInOrder

variable {fault? : Setting → Option EngineFault} {settings made : List Setting}
  {failed : Option Setting} {result : Except EngineFault Unit}

theorem cons {x : Setting} (fine : fault? x = none)
    (order : MadeInOrder fault? settings made failed result) :
    MadeInOrder fault? (x :: settings) (x :: made) failed result := by
  cases order with
  | all others => exact .all (List.forall_mem_cons.mpr ⟨fine, others⟩)
  | upTo others fails =>
      rw [← List.cons_append]
      exact .upTo (List.forall_mem_cons.mpr ⟨fine, others⟩) fails

theorem fine (order : MadeInOrder fault? settings made failed result) :
    ∀ x ∈ made, fault? x = none := by
  cases order with
  | all fine | upTo fine => exact fine

theorem fails (order : MadeInOrder fault? settings made failed result) :
    ∀ x ∈ failed, ∃ fault, fault? x = some fault := by
  cases order with
  | all => simp
  | @upTo made rest y fault fine fails =>
      intro x mem
      cases mem
      exact ⟨fault, fails⟩

theorem all_of_fine (order : MadeInOrder fault? settings made failed result)
    (fine : ∀ x ∈ settings, fault? x = none) : made = settings ∧ result = .ok () := by
  cases order with
  | all => exact ⟨rfl, rfl⟩
  | @upTo made rest x fault others fails =>
      rw [fine x (by simp)] at fails
      cases fails

theorem of_ok (order : MadeInOrder fault? settings made failed (.ok ())) :
    made = settings ∧ failed = none := by
  cases order
  exact ⟨rfl, rfl⟩

theorem ok_iff (order : MadeInOrder fault? settings made failed result) :
    result = .ok () ↔ ∀ x ∈ settings, fault? x = none := by
  refine ⟨fun ok => ?_, fun fine => (order.all_of_fine fine).2⟩
  cases order with
  | all fine => exact fine
  | upTo => cases ok

end MadeInOrder

section applyAll

variable {ε ν : Type} {P : ε → Prop} {fault? : Setting → Option EngineFault}
  {apply : ε × List ν → Setting → (ε × List ν) × Except EngineFault Unit}
  {store : ε → Setting → ε} {traces : Setting → List ν}

/-- On an engine of which `P` holds let every setting be made or fail by itself, whatever was made
before. Then settings are made up to the first that fails. Each that is tried leaves its traces,
and each that is made is stored. -/
theorem exists_madeInOrder
    (makes : ∀ e l x, P e → fault? x = none →
      P (store e x) ∧ apply (e, l) x = ((store e x, l ++ traces x), .ok ()))
    (fails : ∀ e l x fault, P e → fault? x = some fault →
      apply (e, l) x = ((e, l ++ traces x), .error fault))
    {e : ε} (holds : P e) (l : List ν) (settings : List Setting) :
    ∃ made failed, MadeInOrder fault? settings made failed (applyAll apply (e, l) settings).2 ∧
      (applyAll apply (e, l) settings).1 =
        (made.foldl store e, l ++ (made ++ failed.toList).flatMap traces) := by
  induction settings generalizing e l with
  | nil => exact ⟨[], none, .all (by simp), by simp [applyAll]⟩
  | cons x settings ih =>
      cases result : fault? x with
      | some fault =>
          have order : MadeInOrder fault? ([] ++ x :: settings) [] (some x) (.error fault) :=
            .upTo (by simp) result
          rw [applyAll, fails e l x fault holds result]
          exact ⟨[], some x, order, by simp⟩
      | none =>
          obtain ⟨kept, made⟩ := makes e l x holds result
          rw [applyAll, made]
          obtain ⟨made, failed, order, left⟩ := ih kept (l ++ traces x)
          exact ⟨x :: made, failed, order.cons result, by simpa using left⟩

end applyAll

/-! ## On a scripted engine -/

namespace Scripted

/-- Server addresses fail where the script rejects them; nothing else does. -/
def Script.fault? (script : Script) : Setting → Option EngineFault
  | .url url => script.rejectsUrl.map fun code => ⟨(Setting.url url).context, code⟩
  | _ => none

theorem Script.fault?_of_accepting {script : Script} (accepts : script.rejectsUrl = none)
    (x : Setting) : script.fault? x = none := by
  cases x <;> simp [fault?, accepts]

/-- The records of settings, as the engine makes them. -/
def settingNotes (settings : List Setting) : Engine.Happenings :=
  settings.map fun x => .note (.journal (.setting x))

namespace Engine

theorem apply_eq (e : Engine) (l : Happenings) (x : Setting) :
    apply (e, l) x = match e.script.fault? x with
      | none => ((e, l ++ settingNotes [x]), .ok ())
      | some fault => ((e, l), .error fault) := by
  cases rejects : e.script.rejectsUrl <;> cases x <;>
    simp [apply, Script.fault?, rejects, noted, settingNotes]

/-- A scripted engine records the settings that are made on it, and stays as it is. -/
theorem configure_madeInOrder (o : Options) (e : Engine) :
    ∃ made failed, MadeInOrder e.script.fault? o.settings made failed (e.configure o).2 ∧
      (e.configure o).1 = (e, settingNotes made) := by
  -- The one that fails leaves no trace.
  let traces (x : Setting) : Happenings :=
    if (e.script.fault? x).isNone then settingNotes [x] else []
  let store (e : Engine) (_ : Setting) : Engine := e
  have makes : ∀ e' l x, e' = e → e.script.fault? x = none →
      store e' x = e ∧ apply (e', l) x = ((store e' x, l ++ traces x), .ok ()) := by
    rintro _ l x rfl fine
    simp [apply_eq, fine, traces, store]
  have fails : ∀ e' l x fault, e' = e → e.script.fault? x = some fault →
      apply (e', l) x = ((e', l ++ traces x), .error fault) := by
    rintro _ l x fault rfl fails
    simp [apply_eq, fails, traces]
  obtain ⟨made, failed, order, left⟩ := exists_madeInOrder makes fails rfl [] o.settings
  refine ⟨made, failed, order, left.trans ?_⟩
  have recorded : made.flatMap traces = settingNotes made := by
    rw [settingNotes, List.map_eq_flatMap]
    exact List.flatMap_congr fun x mem => by simp [traces, order.fine x mem, settingNotes]
  have silent : failed.toList.flatMap traces = [] := by
    rw [List.flatMap_eq_nil_iff]
    intro x mem
    obtain ⟨fault, fails⟩ := order.fails x (Option.mem_toList.mp mem)
    simp [traces, fails]
  rw [List.foldl_fixed, List.flatMap_append, recorded, silent, List.append_nil]
  rfl

end Engine
end Scripted

/-! ## On a native engine -/

namespace Native

/-- Whether a text of our own that the setting passes to the library holds a NUL. -/
def holdsNul : Setting → Prop
  | .url text | .tunScript text => '\x00' ∈ text.toList
  | .csd csd => '\x00' ∈ csd.wrapper.toList
  | _ => False

instance : ∀ x, Decidable (holdsNul x)
  | .url _ | .tunScript _ | .csd _ => inferInstanceAs (Decidable (_ ∈ _))
  | .logLevel _ | .protocol _ | .dpd _ | .insecureCrypto _ => isFalse not_false

/-- The library call that makes a setting. There is none if its text holds a NUL, and the script
for the tunnel is only stored. -/
def libraryCall? : Setting → Option Call
  | .logLevel level => some (.setLogLevel level.raw)
  | .protocol p => (CText.ofText? p.name).map .setProtocol
  | .url url => (CText.ofText? url).map .parseUrl
  | .dpd seconds => some (.setDpd (Int32.ofNat (min seconds.toNat 0x7FFFFFFF)))
  | .insecureCrypto allowed => some (.allowInsecureCrypto allowed)
  | .tunScript _ => none
  | .csd csd => (CText.ofText? csd.wrapper).map (.setupCsd csd.uid csd.silent)

/-- Whether the library returns a code from the call that makes the setting. -/
def isChecked : Setting → Bool
  | .protocol _ | .url _ | .insecureCrypto _ | .csd _ => true
  | .logLevel _ | .dpd _ | .tunScript _ => false

/-- The code with which a setting fails, where the library returns the codes `rc`: -22 for a
text with a NUL, and otherwise what the library returns, unless it is zero. -/
def code? (rc : Call → Int32) (x : Setting) : Option Int32 :=
  if holdsNul x then some (-22)
  else if isChecked x then ((libraryCall? x).map rc).filter (· ≠ 0)
  else none

def fault? (rc : Call → Int32) (x : Setting) : Option EngineFault :=
  (code? rc x).map fun code => ⟨x.context, code⟩

/-- What a setting that was made leaves on the engine. -/
def store (e : Engine) : Setting → Engine
  | .tunScript script => { e with tunScript := CText.ofText? script }
  | .csd csd => { e with csdWrapper := CText.ofText? csd.wrapper }
  | _ => e

def callNotes (x : Setting) : Engine.Happenings :=
  (libraryCall? x).toList.map fun c => .note (.call c)

section fault

variable {rc : Call → Int32} {x : Setting}

theorem fault?_of_nul (nul : holdsNul x) : fault? rc x = some ⟨x.context, -22⟩ := by
  rw [fault?, code?, if_pos nul]
  rfl

theorem fault?_of_unchecked (plain : ¬ holdsNul x) (unchecked : isChecked x = false) :
    fault? rc x = none := by
  simp [fault?, code?, plain, unchecked]

theorem fault?_of_checked {c : Call} (plain : ¬ holdsNul x) (checked : isChecked x = true)
    (call : libraryCall? x = some c) :
    fault? rc x = if rc c = 0 then none else some ⟨x.context, rc c⟩ := by
  rw [fault?, code?, if_neg plain, if_pos checked, call]
  split <;> simp_all [Option.filter]

end fault

theorem callNotes_of_nul {x : Setting} (nul : holdsNul x) : callNotes x = [] := by
  cases x with
  | url | csd => simp [callNotes, libraryCall?, CText.ofText?_eq_none_iff.mpr nul]
  | tunScript => rfl
  | _ => exact nul.elim

theorem exists_ofText? {s : String} (plain : '\x00' ∉ s.toList) :
    ∃ c, CText.ofText? s = some c := by
  rwa [← Option.isSome_iff_exists, ← Option.ne_none_iff_isSome, ne_eq, CText.ofText?_eq_none_iff]

namespace Engine

variable {rc : Call → Int32} {x : Setting} {e : Engine} {l : Happenings}

/-- A text with a NUL does not get as far as the library. -/
theorem withText_of_nul {s : Engine × Happenings} {text : String} {go : CText → Applied}
    (nul : '\x00' ∈ text.toList) : withText s x text go = (s, .error ⟨x.context, -22⟩) := by
  rw [withText, CText.ofText?_eq_none_iff.mpr nul]
  rfl

/-- What a setting comes to for which the library has returned a code. -/
theorem checked_eq {c : Call} (plain : ¬ holdsNul x) (isChecked : isChecked x = true)
    (call : libraryCall? x = some c) :
    checked (e, l) x rc c = match fault? rc x with
      | none => ((e, l ++ callNotes x), .ok ())
      | some fault => ((e, l ++ callNotes x), .error fault) := by
  rw [fault?_of_checked plain isChecked call, checked, callNotes, call, EngineFault.check]
  split <;> rfl

theorem apply_of_nul (nul : holdsNul x) :
    apply rc (e, l) x = ((e, l ++ callNotes x), .error ⟨x.context, -22⟩) := by
  rw [callNotes_of_nul nul, List.append_nil]
  cases x with
  | url | tunScript | csd => exact withText_of_nul nul
  | _ => exact nul.elim

theorem apply_eq (rc : Call → Int32) (e : Engine) (l : Happenings) (x : Setting) :
    apply rc (e, l) x = match fault? rc x with
      | none => ((store e x, l ++ callNotes x), .ok ())
      | some fault => ((e, l ++ callNotes x), .error fault) := by
  by_cases plain : holdsNul x
  · rw [fault?_of_nul plain, apply_of_nul plain]
  cases x with
  | logLevel | dpd => rw [fault?_of_unchecked plain rfl]; rfl
  | insecureCrypto allowed => exact checked_eq plain rfl rfl
  | protocol p =>
      obtain ⟨name, passed⟩ := exists_ofText? (s := p.name) (by cases p <;> decide)
      simp only [apply, withText, passed]
      exact checked_eq plain rfl (by simp [libraryCall?, passed])
  | url url =>
      obtain ⟨url, passed⟩ := exists_ofText? plain
      simp only [apply, withText, passed]
      exact checked_eq plain rfl (by simp [libraryCall?, passed])
  | tunScript script =>
      obtain ⟨script, passed⟩ := exists_ofText? plain
      simp [fault?_of_unchecked plain rfl, apply, withText, passed, store, callNotes, libraryCall?]
  | csd csd =>
      obtain ⟨wrapper, passed⟩ := exists_ofText? plain
      have call : libraryCall? (.csd csd) = some (.setupCsd csd.uid csd.silent wrapper) := by
        simp [libraryCall?, passed]
      simp only [apply, withText, passed, checked_eq plain rfl call]
      cases fault? rc (.csd csd) <;> simp [store, passed]

/-- A native engine makes a library call for each setting that is tried, and keeps what belongs to
the ones that were made. -/
theorem configure_madeInOrder (o : Options) (rc : Call → Int32) (e : Engine) :
    ∃ made failed, MadeInOrder (fault? rc) o.settings made failed (e.configure o rc).2 ∧
      (e.configure o rc).1 = (made.foldl store e, (made ++ failed.toList).flatMap callNotes) := by
  refine exists_madeInOrder (P := fun _ => True) ?_ ?_ trivial [] o.settings
  · intro e l x _ fine
    simp [apply_eq, fine]
  · intro e l x fault _ fails
    simp [apply_eq, fails]

end Engine
end Native

/-! ## Configuring -/

/-- **Configuring makes a prefix.** Options ask for settings in one order, and an engine makes them
one by one up to the first that fails, which is reported with its own context and code. A scripted
engine records exactly the settings that were made. A native engine makes the library calls of
these and of the one that failed, where there is such a call, and keeps what belongs to the ones
that were made. -/
theorem configure_makes_prefix (o : Options) :
    (∀ x, x ∈ o.settings ↔ o.Asks x) ∧ (o.settings.Pairwise fun x y => x.rank < y.rank) ∧
    (∀ e : Scripted.Engine,
      (∃ made failed,
        MadeInOrder e.script.fault? o.settings made failed (e.configure o).2 ∧
        (e.configure o).1 = (e, Scripted.settingNotes made)) ∧
      ((e.configure o).2 = .ok () ↔ ∀ x ∈ o.settings, e.script.fault? x = none)) ∧
    (∀ (rc : Native.Call → Int32) (e : Native.Engine),
      (∃ made failed,
        MadeInOrder (Native.fault? rc) o.settings made failed (e.configure o rc).2 ∧
        (e.configure o rc).1 =
          (made.foldl Native.store e, (made ++ failed.toList).flatMap Native.callNotes)) ∧
      ((e.configure o rc).2 = .ok () ↔ ∀ x ∈ o.settings, Native.fault? rc x = none)) ∧
    ∀ n : UInt32, ∃ seconds, Native.libraryCall? (.dpd n) = some (.setDpd seconds) ∧
      seconds.toInt = min n.toNat (2 ^ 31 - 1) := by
  refine ⟨o.mem_settings_iff, o.pairwise_rank_settings, fun e => ?_, fun rc e => ?_, fun n => ?_⟩
  · obtain ⟨made, failed, order, left⟩ := e.configure_madeInOrder o
    exact ⟨⟨made, failed, order, left⟩, order.ok_iff⟩
  · obtain ⟨made, failed, order, left⟩ := e.configure_madeInOrder o rc
    exact ⟨⟨made, failed, order, left⟩, order.ok_iff⟩
  · exact ⟨_, rfl, Int32.toInt_ofNat_of_lt (by omega)⟩

end TunnelControl
