import TunnelControl.Proofs.Native.Stored
import TunnelControl.Proofs.Scripted.Moves
import TunnelControl.Proofs.Settings

/-!
# Insecure cryptography stays allowed

Options ask for insecure cryptography to be allowed, or they do not mention it: there is no setting
that forbids it. A session that is configured more than once is therefore as lenient as the most
lenient options that it was configured with, in whatever order they came.

`permits_iff` reads this off the notes of an engine: each configure call allows what its options ask
for, and nothing else says anything about it.
-/

namespace TunnelControl

open Engine (Note)
open World (run passages)

/-! ## Permissions -/

/-- Whether the setting allows insecure cryptography, if it is about that. -/
def Setting.permission? : Setting → Option Bool
  | .insecureCrypto allowed => some allowed
  | _ => none

/-- What the options say about insecure cryptography when their settings are made. -/
def Options.permissions (o : Options) : List Bool := if o.allowInsecureCrypto then [true] else []

theorem Options.filterMap_permission? (o : Options) :
    o.settings.filterMap Setting.permission? = o.permissions := by
  have silent : ∀ {α : Type} (kind : α → Setting) (asked : Option α),
      (∀ a, (kind a).permission? = none) →
      (asked.map kind).toList.filterMap Setting.permission? = [] := by
    intro α kind asked none
    cases asked <;> simp [none]
  simp only [settings, List.filterMap_append, permissions]
  rw [silent .protocol _ fun _ => rfl, silent .url _ fun _ => rfl, silent .dpd _ fun _ => rfl,
    silent .tunScript _ fun _ => rfl, silent .csd _ fun _ => rfl]
  cases o.allowInsecureCrypto <;> rfl

/-- The last permission counts, and without any nothing is permitted. -/
def permits (permissions : List Bool) : Bool := permissions.getLast?.getD false

theorem permits_flatMap_permissions {α : Type} (calls : List (Options × α)) :
    permits (calls.flatMap fun c => c.1.permissions) = true ↔
      ∃ c ∈ calls, c.1.allowInsecureCrypto = true := by
  induction calls using List.reverseRecOn with
  | nil => simp [permits]
  | append_singleton calls c ih =>
      rw [List.flatMap_append]
      cases asked : c.1.allowInsecureCrypto with
      | true => simp [permits, Options.permissions, asked]
      | false => simp [← ih, Options.permissions, asked]

/-- Let `call?` tell which setups are configure calls, and what came of them. If one that succeeds
allows what its options ask for, and nothing else allows or forbids anything, then after calls that
have all succeeded one of them is enough. -/
theorem permits_iff {ε : Type} [Engine ε] (permission? : Note ε → Option Bool)
    (call? : ε × Engine.Setup ε → Option (Options × Except EngineFault Unit))
    (made : ∀ plan agent e happenings, Engine.make plan agent = (some e, happenings) →
      (notesOf happenings).filterMap permission? = [])
    (set : ∀ x e e' happenings, Engine.setup x e = some (e', happenings) →
      (∀ c ∈ call? (e, x), c.2 = .ok ()) →
      (notesOf happenings).filterMap permission? =
        (call? (e, x)).toList.flatMap fun c => c.1.permissions)
    (kept : ∀ e e' ns, Engine.Handled e e' ns → ns.filterMap permission? = [])
    {configs : List RunnerConfig} {as : List (Action ε)} {w : World ε} {key : Nat} {s : Session ε}
    (ran : run as (World.new configs) = some w) (found : w.session? key = some s)
    (fine : ∀ c ∈ (setupsIn (passages key as (World.new configs))).filterMap call?, c.2 = .ok ()) :
    permits ((notes (w.history key)).filterMap permission?) = true ↔
      ∃ c ∈ (setupsIn (passages key as (World.new configs))).filterMap call?,
        c.1.allowInsecureCrypto = true := by
  -- Through the run goes what the notes are; whether they permit anything is read off at its end.
  have eq := World.setup_invariant (P := fun _ ns done =>
    (∀ c ∈ done.filterMap call?, c.2 = .ok ()) →
      ns.filterMap permission? = (done.filterMap call?).flatMap fun c => c.1.permissions)
    ?_ ?_ ?_ ran found fine
  · rw [eq, permits_flatMap_permissions]
  · intro plan agent e happenings new _
    rw [made plan agent e happenings new]
    rfl
  · intro x e e' happenings ns done happened before fine
    have last : [(e, x)].filterMap call? = (call? (e, x)).toList := by
      cases h : call? (e, x) <;> simp [h]
    rw [List.filterMap_append, last, List.forall_mem_append] at fine
    rw [List.filterMap_append, List.filterMap_append, last, List.flatMap_append, before fine.1,
      set x e e' happenings happened fun c mem => fine.2 c (Option.mem_toList.mpr mem)]
  · intro e e' ns ns' done handled before fine
    rw [List.filterMap_append, kept e e' ns' handled, List.append_nil, before fine]

/-! ## Scripted engines -/

namespace Scripted

/-- What the note says about insecure cryptography, if anything. -/
def Note.permission? : Note → Option Bool
  | .journal (.setting x) => x.permission?
  | _ => none

/-- The configure call that a setup is, and what came of it. -/
def call? : Engine × Options → Option (Options × Except EngineFault Unit)
  | (e, options) => some (options, (e.configure options).2)

/-- The configure calls on a session, and what came of them. -/
def configures (ps : List (Passage Engine)) : List (Options × Except EngineFault Unit) :=
  (setupsIn ps).filterMap call?

/-- Whether the engine of a session permits insecure cryptography, by its latest record. -/
def permitsInsecureCrypto (h : List (Event Note)) : Bool :=
  permits ((notes h).filterMap Note.permission?)

theorem filterMap_settingNotes (settings : List Setting) :
    (notesOf (settingNotes settings)).filterMap Note.permission? =
      settings.filterMap Setting.permission? := by
  simp [settingNotes, notesOf, Happening.note?, Note.permission?, Function.comp_def]

/-- Once it is configured a scripted engine records nothing about settings any more. -/
theorem filterMap_handled {e e' : Engine} {ns : List Note}
    (handled : TunnelControl.Engine.Handled e e' ns) : ns.filterMap Note.permission? = [] := by
  induction handled with
  | access used =>
      obtain ⟨⟨queue, sent⟩, -, same⟩ := Option.map_eq_some_iff.mp used
      cases same
      simp [notesOf, Happening.note?, Note.permission?, Function.comp_def]
  | move moved =>
      cases Engine.moved_of_move moved with
      | @record n next point => cases n <;> rfl
      | _ => rfl
  | next _ _ first after => rw [List.filterMap_append, first, after, List.append_nil]
  | _ => rfl

theorem filterMap_make {plan : Plan} {agent : String} {e : Engine}
    {happenings : Engine.Happenings} (made : Engine.make plan agent = (some e, happenings)) :
    (notesOf happenings).filterMap Note.permission? = [] := by
  have happened : (Engine.make plan agent).2 = happenings := congrArg Prod.snd made
  rw [← happened, Engine.make]
  split <;> rfl

theorem filterMap_setup {o : Options} {e e' : Engine} {happenings : Engine.Happenings}
    (happened : TunnelControl.Engine.setup o e = some (e', happenings))
    (fine : ∀ c ∈ call? (e, o), c.2 = .ok ()) :
    (notesOf happenings).filterMap Note.permission? =
      (call? (e, o)).toList.flatMap fun c => c.1.permissions := by
  obtain ⟨made, failed, order, left⟩ := e.configure_madeInOrder o
  have fine : (e.configure o).2 = .ok () := fine _ rfl
  rw [fine] at order
  obtain ⟨rfl, -⟩ := order.of_ok
  cases left.symm.trans (Option.some.inj happened)
  rw [filterMap_settingNotes]
  simpa [call?] using o.filterMap_permission?

end Scripted

/-! ## Native engines -/

namespace Native

/-- What the note says about insecure cryptography, if anything. -/
def Note.permission? : Note → Option Bool
  | .call (.allowInsecureCrypto allowed) => some allowed
  | _ => none

/-- The configure call that a setup is, if it is one, and what came of it. -/
def call? : Engine × Setup → Option (Options × Except EngineFault Unit)
  | (e, .configure options rc) => some (options, (e.configure options rc).2)
  | (_, .openPipe _) => none

/-- The configure calls on a session, and what came of them. -/
def configures (ps : List (Passage Engine)) : List (Options × Except EngineFault Unit) :=
  (setupsIn ps).filterMap call?

/-- Whether the engine of a session permits insecure cryptography, by the latest library call. -/
def permitsInsecureCrypto (h : List (Event Note)) : Bool :=
  permits ((notes h).filterMap Note.permission?)

theorem filterMap_callNotes (settings : List Setting) :
    (notesOf (settings.flatMap callNotes)).filterMap Note.permission? =
      settings.filterMap Setting.permission? := by
  have one : ∀ x, (notesOf (callNotes x)).filterMap Note.permission? = x.permission?.toList := by
    intro x
    cases x with
    | logLevel | dpd | insecureCrypto | tunScript => rfl
    | protocol | url | csd =>
        rw [callNotes, libraryCall?]
        cases CText.ofText? _ <;> rfl
  rw [notesOf_flatMap, List.filterMap_flatMap, List.filterMap_eq_flatMap_toList]
  exact List.flatMap_congr fun x _ => one x

theorem filterMap_of_unset {ns : List Note} (unset : Unset ns) :
    ns.filterMap Note.permission? = [] := by
  rw [List.filterMap_eq_nil_iff]
  intro n mem
  unfold Note.permission?
  split
  · cases unset _ mem
  · rfl

theorem filterMap_make {plan : Plan} {agent : String} {e : Engine}
    {happenings : Engine.Happenings} (made : Engine.make plan agent = (some e, happenings)) :
    (notesOf happenings).filterMap Note.permission? = [] := by
  have happened : (Engine.make plan agent).2 = happenings := congrArg Prod.snd made
  rw [← happened, Engine.make]
  repeat' split
  all_goals rfl

theorem filterMap_setup {x : Setup} {e e' : Engine} {happenings : Engine.Happenings}
    (happened : TunnelControl.Engine.setup x e = some (e', happenings))
    (fine : ∀ c ∈ call? (e, x), c.2 = .ok ()) :
    (notesOf happenings).filterMap Note.permission? =
      (call? (e, x)).toList.flatMap fun c => c.1.permissions := by
  have happened : e.setup x = (e', happenings) := Option.some.inj happened
  cases x with
  | configure o rc =>
      obtain ⟨made, failed, order, left⟩ := e.configure_madeInOrder o rc
      have fine : (e.configure o rc).2 = .ok () := fine _ rfl
      rw [fine] at order
      obtain ⟨rfl, rfl⟩ := order.of_ok
      cases left.symm.trans happened
      rw [filterMap_callNotes]
      simpa [call?] using o.filterMap_permission?
  | openPipe rc =>
      have same : (e.openPipe rc).1.2 = happenings := congrArg Prod.snd happened
      rw [← same]
      exact filterMap_of_unset (e.keeps_openPipe rc).unset

end Native

/-! ## Configuring more than once -/

/-- **Insecure cryptography stays allowed.** After configure calls that have all succeeded, an
engine of either kind permits insecure cryptography if and only if the options of one of them allow
it: options that do not allow it leave standing what was allowed before. -/
theorem insecure_crypto_stays_allowed :
    (∀ (configs : List RunnerConfig) (as : List (Action Scripted.Engine))
      (w : World Scripted.Engine) (key : Nat) (s : Session Scripted.Engine),
      run as (World.new configs) = some w → w.session? key = some s →
      (∀ c ∈ Scripted.configures (passages key as (World.new configs)), c.2 = .ok ()) →
      (Scripted.permitsInsecureCrypto (w.history key) = true ↔
        ∃ c ∈ Scripted.configures (passages key as (World.new configs)),
          c.1.allowInsecureCrypto = true)) ∧
    ∀ (configs : List RunnerConfig) (as : List (Action Native.Engine))
      (w : World Native.Engine) (key : Nat) (s : Session Native.Engine),
      run as (World.new configs) = some w → w.session? key = some s →
      (∀ c ∈ Native.configures (passages key as (World.new configs)), c.2 = .ok ()) →
      (Native.permitsInsecureCrypto (w.history key) = true ↔
        ∃ c ∈ Native.configures (passages key as (World.new configs)),
          c.1.allowInsecureCrypto = true) := by
  constructor
  · intro configs as w key s ran found fine
    exact permits_iff Scripted.Note.permission? Scripted.call?
      (fun _ _ _ _ => Scripted.filterMap_make) (fun _ _ _ _ => Scripted.filterMap_setup)
      (fun _ _ _ => Scripted.filterMap_handled) ran found fine
  · intro configs as w key s ran found fine
    exact permits_iff Native.Note.permission? Native.call?
      (fun _ _ _ _ => Native.filterMap_make) (fun _ _ _ _ => Native.filterMap_setup)
      (fun _ _ _ handled =>
        Native.filterMap_of_unset (Native.Engine.keeps_of_handled handled).unset)
      ran found fine

/-- Options that allow insecure cryptography and ask for nothing else. -/
def lenient : Options := { Options.default with allowInsecureCrypto := true }

/-- Strict options come after lenient ones. -/
def Scripted.tightened : List (Action Engine) :=
  [.create (Plan.mk 0 ⟨[], 0, false, none⟩) "agent" .handler, .act 0 (.setup lenient),
    .act 0 (.setup Options.default)]

@[inherit_doc Scripted.tightened]
def Native.tightened : List (Action Engine) :=
  [.create (Plan.mk false) "agent" .handler, .act 0 (.setup (.configure lenient fun _ => 0)),
    .act 0 (.setup (.configure Options.default fun _ => 0))]

theorem tightened_stays_allowed :
    (∃ w, run Scripted.tightened (World.new []) = some w ∧
      Scripted.permitsInsecureCrypto (w.history 0) = true) ∧
    ∃ w, run Native.tightened (World.new []) = some w ∧
      Native.permitsInsecureCrypto (w.history 0) = true := by
  constructor
  · obtain ⟨w, s, ran, found⟩ : ∃ w s, run Scripted.tightened (World.new []) = some w ∧
        w.session? 0 = some s := ⟨_, _, rfl, rfl⟩
    have calls : Scripted.configures (passages 0 Scripted.tightened (World.new [])) =
        [(lenient, .ok ()), (Options.default, .ok ())] := rfl
    refine ⟨w, ran, (insecure_crypto_stays_allowed.1 [] _ w 0 s ran found ?_).mpr ?_⟩
    · simp [calls]
    · simp [calls, lenient]
  · obtain ⟨w, s, ran, found⟩ : ∃ w s, run Native.tightened (World.new []) = some w ∧
        w.session? 0 = some s := ⟨_, _, rfl, rfl⟩
    have calls : Native.configures (passages 0 Native.tightened (World.new [])) =
        [(lenient, .ok ()), (Options.default, .ok ())] := rfl
    refine ⟨w, ran, (insecure_crypto_stays_allowed.2 [] _ w 0 s ran found ?_).mpr ?_⟩
    · simp [calls]
    · simp [calls, lenient]

/-- The last options alone do not tell what is permitted, on either engine. -/
theorem last_options_do_not_decide :
    (∃ w last, run Scripted.tightened (World.new []) = some w ∧
      Scripted.configures (passages 0 Scripted.tightened (World.new [])) =
        [(lenient, .ok ()), (last, .ok ())] ∧
      ¬ (Scripted.permitsInsecureCrypto (w.history 0) = true ↔
        last.allowInsecureCrypto = true)) ∧
    ∃ w last, run Native.tightened (World.new []) = some w ∧
      Native.configures (passages 0 Native.tightened (World.new [])) =
        [(lenient, .ok ()), (last, .ok ())] ∧
      ¬ (Native.permitsInsecureCrypto (w.history 0) = true ↔ last.allowInsecureCrypto = true) := by
  refine ⟨⟨_, _, rfl, rfl, ?_⟩, ⟨_, _, rfl, rfl, ?_⟩⟩
  all_goals
    rintro ⟨asked, -⟩
    cases asked rfl

end TunnelControl
