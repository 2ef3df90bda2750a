import TunnelControl.Proofs.Native.StageRuns
import TunnelControl.Proofs.Native.Stored

/-!
# Settings that are read later

The script for the tunnel is handed to the library by the main loop, on another thread and long
after it was given; the wrapper for the host scan is kept for as long as the engine. In between a
session may be configured any number of times, and each time may fail at any setting.

`stored_settings_survive` says which script and which wrapper that leaves: the ones of the last
configure call that got so far, whatever failed before or after.
-/

namespace TunnelControl

/-! ## How far settings get -/

/-- The settings that a configure call gets to: nothing ahead of them fails. -/
def Options.reached (fault? : Setting → Option EngineFault) (o : Options) : List Setting :=
  o.settings.filter fun x => ∀ y ∈ o.settings, y.rank < x.rank → fault? y = none

namespace MadeInOrder

variable {fault? : Setting → Option EngineFault} {settings made : List Setting}
  {failed : Option Setting} {result : Except EngineFault Unit}

/-- Nothing failed up to a setting that is made. -/
theorem fine_upTo (order : MadeInOrder fault? settings made failed result)
    (sorted : settings.Pairwise fun x y => x.rank < y.rank) {x y : Setting} (mem : x ∈ made)
    (asked : y ∈ settings) (ahead : y.rank ≤ x.rank) : fault? y = none := by
  cases order with
  | all fine => exact fine y asked
  | @upTo _ rest z fault fine fails =>
      rcases List.mem_append.mp asked with before | after
      · exact fine y before
      · have later := (List.pairwise_append.mp sorted).2.2 x mem y after
        omega

/-- The settings that a call gets to are the ones that are made and the one that fails. -/
theorem reached_eq {o : Options} (order : MadeInOrder fault? o.settings made failed result) :
    o.reached fault? = made ++ failed.toList := by
  have sorted := o.pairwise_rank_settings
  unfold Options.reached
  generalize o.settings = settings at order sorted
  cases order with
  | all fine =>
      rw [List.filter_eq_self.mpr]
      · simp
      · intro x _
        simpa using fun y mem _ => fine y mem
  | @upTo _ rest x fault fine fails =>
      rw [List.append_cons] at sorted ⊢
      obtain ⟨inner, -, across⟩ := List.pairwise_append.mp sorted
      -- Ahead of these there are only settings that are made.
      have gotTo : ∀ y ∈ made ++ [x], ∀ z ∈ made ++ [x] ++ rest, z.rank < y.rank →
          fault? z = none := by
        intro y memY z memZ ahead
        rcases List.mem_append.mp memZ with memZ | after
        · rcases List.mem_append.mp memZ with before | same
          · exact fine z before
          · obtain rfl := List.mem_singleton.mp same
            rcases List.mem_append.mp memY with before | same'
            · have := (List.pairwise_append.mp inner).2.2 y before z (List.mem_singleton_self _)
              omega
            · obtain rfl := List.mem_singleton.mp same'
              omega
        · have := across y memY z after
          omega
      have stopped : ∀ y ∈ rest, ¬ ∀ z ∈ made ++ [x] ++ rest, z.rank < y.rank →
          fault? z = none := by
        intro y mem all
        have := all x (by simp) (across x (by simp) y mem)
        simp [fails] at this
      rw [List.filter_append, List.filter_eq_self.mpr (by simpa using gotTo),
        List.filter_eq_nil_iff.mpr (by simpa using stopped)]
      simp

end MadeInOrder

namespace Native

open Session (Transition)
open World (run passages)
open StageEvent

/-! ## What a configure call stores -/

/-- The script that the setting gives the tunnel, as it is passed to the library. -/
def script? : Setting → Option CText
  | .tunScript script => CText.ofText? script
  | _ => none

/-- The wrapper that the setting gives the host scan, as it is passed to the library. -/
def wrapper? : Setting → Option CText
  | .csd csd => CText.ofText? csd.wrapper
  | _ => none

/-- Of what settings write, the last remains. -/
theorem foldl_store {β : Type} {field : Engine → Option β} {write? : Setting → Option β}
    {made : List Setting}
    (stores : ∀ e, ∀ x ∈ made, field (store e x) = (write? x).or (field e)) (e : Engine) :
    field (made.foldl store e) = ((made.filterMap write?).getLast?).or (field e) := by
  induction made using List.reverseRecOn with
  | nil => rfl
  | append_singleton made x ih =>
      rw [List.foldl_concat, stores _ x (by simp),
        ih fun e y mem => stores e y (List.mem_append_left _ mem), List.filterMap_append,
        List.getLast?_append, ← Option.or_assoc]
      cases h : write? x <;> simp [h]

section call

variable {o : Options} {rc : Call → Int32} {made : List Setting} {failed : Option Setting}
  {result : Except EngineFault Unit}

theorem not_holdsNul_of_fine {x : Setting} (fine : fault? rc x = none) : ¬ holdsNul x := by
  intro nul
  rw [fault?_of_nul nul] at fine
  cases fine

theorem tunScript_foldl_store (fine : ∀ x ∈ made, fault? rc x = none) (e : Engine) :
    (made.foldl store e).tunScript = ((made.filterMap script?).getLast?).or e.tunScript := by
  refine foldl_store (fun e x mem => ?_) e
  cases x with
  | tunScript script =>
      obtain ⟨c, passed⟩ := exists_ofText? (not_holdsNul_of_fine (fine _ mem))
      simp [store, script?, passed]
  | _ => simp [store, script?]

theorem csdWrapper_foldl_store (fine : ∀ x ∈ made, fault? rc x = none) (e : Engine) :
    (made.foldl store e).csdWrapper = ((made.filterMap wrapper?).getLast?).or e.csdWrapper := by
  refine foldl_store (fun e x mem => ?_) e
  cases x with
  | csd csd =>
      obtain ⟨c, passed⟩ := exists_ofText? (not_holdsNul_of_fine (fine _ mem))
      simp [store, wrapper?, passed]
  | _ => simp [store, wrapper?]

/-- The wrapper that the library takes with a call, if the call sets up the host scan. -/
def taken? (rc : Call → Int32) : Note → Option CText
  | .call (.setupCsd uid silent wrapper) =>
    if rc (.setupCsd uid silent wrapper) = 0 then some wrapper else none
  | _ => none

/-- A script that fails holds a NUL. -/
theorem script?_of_fails {x : Setting} {fault : EngineFault} (fails : fault? rc x = some fault) :
    script? x = none := by
  cases x with
  | tunScript script =>
      by_cases plain : holdsNul (.tunScript script)
      · exact CText.ofText?_eq_none_iff.mpr plain
      · rw [fault?_of_unchecked plain rfl] at fails
        cases fails
  | _ => rfl

/-- The library call for a setting other than the host scan sets up none. -/
theorem filterMap_taken?_of_other {x : Setting} (other : ∀ csd, x ≠ .csd csd) :
    (notesOf (callNotes x)).filterMap (taken? rc) = [] := by
  cases x with
  | csd csd => exact absurd rfl (other csd)
  | logLevel | dpd | insecureCrypto | tunScript => rfl
  | protocol | url =>
      rw [callNotes, libraryCall?]
      cases CText.ofText? _ <;> rfl

theorem filterMap_taken?_of_fine {x : Setting} (fine : fault? rc x = none) :
    (notesOf (callNotes x)).filterMap (taken? rc) = (wrapper? x).toList := by
  cases x with
  | csd csd =>
      have plain := not_holdsNul_of_fine fine
      obtain ⟨wrapper, passed⟩ := exists_ofText? plain
      have call : libraryCall? (.csd csd) = some (.setupCsd csd.uid csd.silent wrapper) := by
        simp [libraryCall?, passed]
      have accepted : rc (.setupCsd csd.uid csd.silent wrapper) = 0 := by
        simpa [fault?_of_checked plain rfl call] using fine
      simp [callNotes, call, notesOf, Happening.note?, taken?, accepted, wrapper?, passed]
  | _ => exact filterMap_taken?_of_other (by simp)

theorem filterMap_taken?_of_fails {x : Setting} {fault : EngineFault}
    (fails : fault? rc x = some fault) : (notesOf (callNotes x)).filterMap (taken? rc) = [] := by
  cases x with
  | csd csd =>
      by_cases plain : holdsNul (.csd csd)
      · rw [callNotes_of_nul plain]
        rfl
      · obtain ⟨wrapper, passed⟩ := exists_ofText? plain
        have call : libraryCall? (.csd csd) = some (.setupCsd csd.uid csd.silent wrapper) := by
          simp [libraryCall?, passed]
        have refused : rc (.setupCsd csd.uid csd.silent wrapper) ≠ 0 := by
          intro accepted
          simp [fault?_of_checked plain rfl call, accepted] at fails
        simp [callNotes, call, notesOf, Happening.note?, taken?, refused]
  | _ => exact filterMap_taken?_of_other (by simp)

/-- What failed leaves no trace in what is seen of the settings. -/
theorem flatMap_failed {β : Type} {f : Setting → List β}
    (order : MadeInOrder (fault? rc) o.settings made failed result)
    (silent : ∀ x fault, fault? rc x = some fault → f x = []) :
    (made ++ failed.toList).flatMap f = made.flatMap f := by
  have none : failed.toList.flatMap f = [] := by
    rw [List.flatMap_eq_nil_iff]
    intro x mem
    obtain ⟨fault, fails⟩ := order.fails x (Option.mem_toList.mp mem)
    exact silent x fault fails
  rw [List.flatMap_append, none, List.append_nil]

/-- **The stored script** is that of a call which gets to it, if it can be passed to the library. -/
theorem Engine.tunScript_configure (o : Options) (rc : Call → Int32) (e : Engine) :
    (e.configure o rc).1.1.tunScript =
      (((o.reached (fault? rc)).filterMap script?).getLast?).or e.tunScript := by
  obtain ⟨made, failed, order, left⟩ := e.configure_madeInOrder o rc
  rw [left, tunScript_foldl_store order.fine, order.reached_eq, List.filterMap_eq_flatMap_toList,
    List.filterMap_eq_flatMap_toList,
    flatMap_failed order fun x fault fails => by rw [script?_of_fails fails]; rfl]

/-- **The stored wrapper** is the one that the library takes. -/
theorem Engine.csdWrapper_configure (o : Options) (rc : Call → Int32) (e : Engine) :
    (e.configure o rc).1.1.csdWrapper =
      (((notesOf (e.configure o rc).1.2).filterMap (taken? rc)).getLast?).or e.csdWrapper := by
  obtain ⟨made, failed, order, left⟩ := e.configure_madeInOrder o rc
  rw [left, csdWrapper_foldl_store order.fine]
  congr 2
  rw [notesOf_flatMap, List.filterMap_flatMap,
    flatMap_failed order fun x fault => filterMap_taken?_of_fails, List.filterMap_eq_flatMap_toList]
  exact List.flatMap_congr fun x mem => (filterMap_taken?_of_fine (order.fine x mem)).symm

/-- Settings of one place in the order write nothing if the call fails there or before. -/
theorem filterMap_made_eq_nil {β : Type} {write? : Setting → Option β} {n : Nat}
    (order : MadeInOrder (fault? rc) o.settings made failed result)
    (placed : ∀ x b, write? x = some b → x.rank = n)
    (fails : ∃ x ∈ o.settings, x.rank ≤ n ∧ fault? rc x ≠ none) : made.filterMap write? = [] := by
  rw [List.filterMap_eq_nil_iff]
  intro x mem
  obtain ⟨y, asked, upTo, fails⟩ := fails
  cases written : write? x with
  | none => rfl
  | some b =>
      have ahead : y.rank ≤ x.rank := by rwa [placed x b written]
      exact absurd (order.fine_upTo o.pairwise_rank_settings mem asked ahead) fails

theorem Engine.tunScript_configure_of_fails (e : Engine)
    (fails : ∃ x ∈ o.settings, x.rank ≤ (Setting.tunScript "").rank ∧ fault? rc x ≠ none) :
    (e.configure o rc).1.1.tunScript = e.tunScript := by
  obtain ⟨made, failed, order, left⟩ := e.configure_madeInOrder o rc
  have placed : ∀ x c, script? x = some c → x.rank = (Setting.tunScript "").rank := by
    intro x c given
    cases x <;> first | rfl | cases given
  rw [left, tunScript_foldl_store order.fine, filterMap_made_eq_nil order placed fails]
  rfl

/-- Nothing comes after the host scan, so a call that fails at all fails there or before. -/
theorem Engine.csdWrapper_configure_of_fails (e : Engine) (fails : (e.configure o rc).2 ≠ .ok ()) :
    (e.configure o rc).1.1.csdWrapper = e.csdWrapper := by
  obtain ⟨made, failed, order, left⟩ := e.configure_madeInOrder o rc
  -- The host scan has the last place in the order.
  have placed : ∀ x c, wrapper? x = some c → x.rank = 6 := by
    intro x c given
    cases x <;> first | rfl | cases given
  have failing : ∃ x ∈ o.settings, x.rank ≤ 6 ∧ fault? rc x ≠ none := by
    by_contra fine
    refine fails (order.ok_iff.mpr fun x mem => ?_)
    by_contra fails
    exact fine ⟨x, mem, by cases x <;> simp [Setting.rank], fails⟩
  rw [left, csdWrapper_foldl_store order.fine, filterMap_made_eq_nil order placed failing]
  rfl

end call

/-! ## What the main loop reads -/

theorem made_of_mem_unlessFailed {c : Call} {rc : Int32} {warning : Int32 → Log.Entry}
    {next : List StageEvent} (mem : .made c ∈ unlessFailed rc warning next) : .made c ∈ next := by
  unfold unlessFailed at mem
  split at mem <;> simp_all

/-- No script is set up from the addressing on. -/
theorem setupTunScript_not_mem_fromAddressing {c : CText} {limits : LoopLimits}
    {x : Surroundings} : StageEvent.made (.setupTunScript c) ∉ fromAddressing limits x := by
  simp only [fromAddressing, afterInformed, afterTold, libraryLoop]
  split <;> try split
  all_goals simp

/-- A loop sets up the script that is stored. -/
theorem eq_of_setupTunScript_mem_course {script : Option CText} {c : CText} {limits : LoopLimits}
    {x : Surroundings} (mem : .made (.setupTunScript c) ∈ course script limits x) :
    script = some c := by
  have connection : .made (.setupTunScript c) ∈ fromConnection script limits x :=
    made_of_mem_unlessFailed (by simpa [course] using mem)
  have connected : .made (.setupTunScript c) ∈ fromTunScript script limits x :=
    made_of_mem_unlessFailed (by simpa [fromConnection] using connection)
  cases script with
  | none => exact absurd connected setupTunScript_not_mem_fromAddressing
  | some script =>
      rcases List.mem_cons.mp connected with same | later
      · cases same
        rfl
      · exact absurd (made_of_mem_unlessFailed later) setupTunScript_not_mem_fromAddressing

/-! ## Any number of calls -/

/-- The script that a setup gives the tunnel: that of a configure call which gets to it, if it holds
no NUL. -/
def scriptGiven : Engine × Setup → List CText
  | (_, .configure o rc) => (o.reached (fault? rc)).filterMap script?
  | (_, .openPipe _) => []

/-- The wrapper that the library takes in a setup: the one that a configure call sets up the host
scan with, if zero is returned. -/
def wrapperTaken : Engine × Setup → List CText
  | (e, .configure o rc) => (notesOf (e.configure o rc).1.2).filterMap (taken? rc)
  | (_, .openPipe _) => []

/-- What is stored after any number of setups is what the last one gave that gave anything. -/
theorem stored_eq {configs : List RunnerConfig} {as : List (Action Engine)} {w : World Engine}
    {key : Nat} {s : Session Engine} (ran : run as (World.new configs) = some w)
    (found : w.session? key = some s) :
    s.engine.tunScript =
        ((setupsIn (passages key as (World.new configs))).flatMap scriptGiven).getLast? ∧
      s.engine.csdWrapper =
        ((setupsIn (passages key as (World.new configs))).flatMap wrapperTaken).getLast? := by
  refine World.setup_invariant (P := fun e _ done =>
    e.tunScript = (done.flatMap scriptGiven).getLast? ∧
      e.csdWrapper = (done.flatMap wrapperTaken).getLast?) ?_ ?_ ?_ ran found
  · intro plan agent e happenings made
    simp only [TunnelControl.Engine.make, Engine.make] at made
    repeat' split at made
    all_goals cases made
    exact ⟨rfl, rfl⟩
  · rintro x e e' happenings ns done happened ⟨script, wrapper⟩
    have same : (e.setup x).1 = e' := congrArg Prod.fst (Option.some.inj happened)
    rw [List.flatMap_append, List.flatMap_append, List.getLast?_append, List.getLast?_append,
      List.flatMap_singleton, List.flatMap_singleton, ← script, ← wrapper, ← same]
    cases x with
    | configure o rc => exact ⟨e.tunScript_configure o rc, e.csdWrapper_configure o rc⟩
    | openPipe rc => exact ⟨(e.keeps_openPipe rc).tunScript, (e.keeps_openPipe rc).csdWrapper⟩
  · rintro e e' ns ns' done handled ⟨script, wrapper⟩
    have keeps := Engine.keeps_of_handled handled
    exact ⟨keeps.tunScript.trans script, keeps.csdWrapper.trans wrapper⟩

/-- **Stored settings survive failures.** After any configure calls, each of which may fail
anywhere, the main loop goes along the course with the script of the last call that got to set one
and could pass it on, and sets up no other script, and none if there was none; the engine keeps the
wrapper that the library took last. A call that fails at one of these settings or before leaves
what is stored as it was. -/
theorem stored_settings_survive {configs : List RunnerConfig} {as : List (Action Engine)}
    {w : World Engine} {key : Nat} {s : Session Engine}
    (ran : run as (World.new configs) = some w) (found : w.session? key = some s) :
    let setups := setupsIn (passages key as (World.new configs))
    let script := (setups.flatMap scriptGiven).getLast?
    (stageEvents key as (World.new configs) = [] ∨
      ∃ i config x, s.runner = some i ∧ configs[i]? = some config ∧
        stageEvents key as (World.new configs) <+: course script config.limits x) ∧
    (∀ c, .made (.setupTunScript c) ∈ stageEvents key as (World.new configs) → script = some c) ∧
    s.engine.tunScript = script ∧
    s.engine.csdWrapper = (setups.flatMap wrapperTaken).getLast? ∧
    ∀ (runners : List Runner) (o : Options) (rc : Call → Int32) (r : Session.Result Engine Note),
      s.step runners (.setup (Setup.configure o rc)) = some r →
      ((∃ x ∈ o.settings, x.rank ≤ (Setting.tunScript "").rank ∧ fault? rc x ≠ none) →
        r.session.engine.tunScript = s.engine.tunScript) ∧
      ((s.engine.configure o rc).2 ≠ .ok () →
        r.session.engine.csdWrapper = s.engine.csdWrapper) := by
  intro setups script
  obtain ⟨stored, kept⟩ := stored_eq ran found
  obtain ⟨plan, agent, lifecycle, id, engine, happenings, made, path⟩ := World.exists_path ran found
  -- A session is not set up any more once its loop runs: the loop has read what is stored now.
  have seen := (prefix_course_of_path path rfl).imp_right And.right
  rw [stored] at seen
  refine ⟨seen, fun c mem => ?_, stored, kept, fun runners o rc r stepped => ?_⟩
  · rcases seen with nothing | ⟨i, config, x, -, -, part⟩
    · rw [stageEvents, nothing] at mem
      cases mem
    · exact eq_of_setupTunScript_mem_course (part.subset mem)
  · cases Session.transition_of_step stepped with
    | @setup _ engine' _ status happened =>
        obtain rfl : (s.engine.configure o rc).1.1 = engine' :=
          congrArg Prod.fst (Option.some.inj happened)
        exact ⟨s.engine.tunScript_configure_of_fails, s.engine.csdWrapper_configure_of_fails⟩

/-- Options with a script for the tunnel and a wrapper for the host scan. -/
def withScripts (script wrapper : String) : Options :=
  { Options.default with tunScript := some script, csd := some ⟨0, true, wrapper⟩ }

/-- Three configure calls: all goes well, the server is refused, the wrapper is refused. Then the
loop gets as far as its script. -/
def reconfigured : List (Action Engine) :=
  [.create (Plan.mk false) "agent" .handler,
    .act 0 (.setup (.configure (withScripts "one" "wrapper-1") fun _ => 0)),
    .act 0 (.setup (.configure { withScripts "two" "wrapper-2" with server := some "vpn" }
      fun | .parseUrl _ => -22 | _ => 0)),
    .act 0 (.setup (.configure (withScripts "three" "wrapper-3")
      fun | .setupCsd .. => -5 | _ => 0)),
    .act 0 (.start 0), .act 0 .reserve, .act 0 (.spawn none), .act 0 .enter,
    .act 0 (.move Move.go), .act 0 (.move (Move.returns 0)), .act 0 (.move Move.go),
    .act 0 (.move (Move.returns 0)), .act 0 (.move Move.go)]

theorem reconfigured_keeps_latest :
    ∃ w s c, run reconfigured (World.new [.default]) = some w ∧ w.session? 0 = some s ∧
      stageEvents 0 reconfigured (World.new [.default]) =
        [.made .obtainCookie, .returned 0, .made .connect, .returned 0,
          .made (.setupTunScript c)] ∧
      CText.ofText? "three" = some c ∧ s.engine.csdWrapper = CText.ofText? "wrapper-1" := by
  obtain ⟨w, s, c, ran, found, seen⟩ : ∃ w s c,
      run reconfigured (World.new [.default]) = some w ∧ w.session? 0 = some s ∧
      stageEvents 0 reconfigured (World.new [.default]) =
        [.made .obtainCookie, .returned 0, .made .connect, .returned 0,
          .made (.setupTunScript c)] :=
    ⟨_, _, _, rfl, rfl, rfl⟩
  obtain ⟨-, onlyScript, -, wrapper, -⟩ := stored_settings_survive ran found
  exact ⟨w, s, c, ran, found, seen, onlyScript c (by simp [seen]), wrapper.trans rfl⟩

end Native

end TunnelControl
