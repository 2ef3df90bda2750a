import TunnelControl.World

/-!
# What an act can do to a session

`Session.step` is one table over acts and states. `Session.Transition` lists its
rows, each with everything that has to hold for it; `transition_of_step` says
that there are no others, and `step_of_transition` that each of them is one. Every
invariant of sessions is proved row by row from here; nothing else unfolds
`Session.step`.
-/

namespace TunnelControl

section happenings

variable {ν : Type} {p : Event ν → Prop} {happenings : List (Happening ν)}

/-- What an engine leaves behind in its loop are notes and entries of the log. -/
theorem forall_inLoop (notes : ∀ n, p (.note n)) (entries : ∀ entry, p (.log entry)) :
    ∀ e ∈ happenings.map Happening.inLoop, p e := by
  rw [List.forall_mem_map]
  rintro (n | entry) -
  · exact notes n
  · exact entries entry

theorem forall_atCaller (notes : ∀ n, p (.note n)) (entries : ∀ entry, p (.callerLog entry)) :
    ∀ e ∈ happenings.map Happening.atCaller, p e := by
  rw [List.forall_mem_map]
  rintro (n | entry) -
  · exact notes n
  · exact entries entry

end happenings

namespace Session

open Engine (Note)

variable {ε : Type} [Engine ε]

theorem Result.seen_unchanged {s : Session ε} {events : List (Event (Note ε))} :
    (⟨s, events, .unchanged⟩ : Result ε (Note ε)).seen = events :=
  List.append_nil _

/-- The rows of `Session.step`: what an act makes of the session `s`. -/
inductive Transition (runners : List Runner) (s : Session ε) :
    Act ε → Result ε (Note ε) → Prop
  | setup {x engine happenings} (status : s.status = .held)
      (set : Engine.setup x s.engine = some (engine, happenings)) :
      Transition runners s (.setup x)
        ⟨{ s with engine }, happenings.map Happening.atCaller, .unchanged⟩
  | access {x engine happenings}
      (used : Engine.access x s.engine = some (engine, happenings)) :
      Transition runners s (.access x)
        ⟨{ s with engine }, happenings.map Happening.atCaller, .unchanged⟩
  | drop (status : s.status = .held) :
      Transition runners s .drop ⟨{ s with status := .retiring .nothing }, [], .unchanged⟩
  /-- The name for the thread cannot be used. -/
  | misname {i r} (status : s.status = .held) (place : runners[i]? = some r)
      (nul : '\x00' ∈ (r.config.threadName s.id).toList) :
      Transition runners s (.start i)
        ⟨({ s with runner := some i }).refuse (.threadName (r.config.threadName s.id)), [],
          .unchanged⟩
  | accept {i r} (status : s.status = .held) (place : runners[i]? = some r)
      (name : '\x00' ∉ (r.config.threadName s.id).toList) :
      Transition runners s (.start i)
        ⟨{ s with runner := some i, status := .starting }, [], .unchanged⟩
  | findFull {i r limit} (status : s.status = .starting) (given : s.runner = some i)
      (place : runners[i]? = some r) (full : r.exhausted? = some limit) :
      Transition runners s .reserve ⟨s.refuse (.capacity limit), [], .unchanged⟩
  | takeSlot {i r} (status : s.status = .starting) (given : s.runner = some i)
      (place : runners[i]? = some r) (free : r.exhausted? = none) :
      Transition runners s .reserve ⟨{ s with status := .placed }, [], .taken⟩
  | launch (status : s.status = .placed) :
      Transition runners s (.spawn none)
        ⟨{ s with status := .launched }, [.started s.id], .unchanged⟩
  | failSpawn {errno} (status : s.status = .placed) :
      Transition runners s (.spawn (some errno)) ⟨s.refuse (.spawn errno), [], .returned⟩
  | enter {i r} (status : s.status = .launched) (given : s.runner = some i)
      (place : runners[i]? = some r) :
      Transition runners s .enter
        ⟨{ s with
            engine := (Engine.enter r.config.limits s.engine).1
            status := .running none },
          (Engine.enter r.config.limits s.engine).2.map Happening.inLoop, .unchanged⟩
  /-- The engine moves and calls nobody. -/
  | move {m turn} (status : s.status = .running none)
      (moved : Engine.move m s.engine = some turn) (silent : turn.call = none) :
      Transition runners s (.move m)
        ⟨{ s with engine := turn.engine }, turn.happenings.map Happening.inLoop, .unchanged⟩
  /-- The engine moves and asks the controller. -/
  | ask {m turn call} (status : s.status = .running none)
      (moved : Engine.move m s.engine = some turn) (asked : turn.call = some call)
      (untold : s.usesChannel = true → call.notice? = none)
      (plain : ∀ result, call ≠ .terminated result) :
      Transition runners s (.move m)
        ⟨{ s with engine := turn.engine, status := .running (some call) },
          turn.happenings.map Happening.inLoop ++
            (call.announcement.map .log ++ [.called call]), .unchanged⟩
  /-- The engine moves and a notice goes into the channel. -/
  | forward {m turn call notice} (status : s.status = .running none)
      (moved : Engine.move m s.engine = some turn) (asked : turn.call = some call)
      (channel : s.usesChannel = true) (told : call.notice? = some notice)
      (plain : ∀ result, call ≠ .terminated result) :
      Transition runners s (.move m)
        ⟨{ s with
            engine := (Engine.resume call .done turn.engine).1
            lifecycle := s.lifecycle.forward notice
            status := .running none },
          turn.happenings.map Happening.inLoop ++
            (call.announcement.map .log ++ [.forwarded notice] ++
              (Engine.resume call .done turn.engine).2.map Happening.inLoop), .unchanged⟩
  | log {entry call} (status : s.status = .running (some call)) :
      Transition runners s (.log entry) ⟨s, [.log entry], .unchanged⟩
  | logLast {entry result} (status : s.status = .reporting result) :
      Transition runners s (.log entry) ⟨s, [.log entry], .unchanged⟩
  | reply {r : Reply} {call} (status : s.status = .running (some call)) (fits : r.fits call) :
      Transition runners s (.reply r)
        ⟨{ s with engine := (Engine.resume call r s.engine).1, status := .running none },
          [.replied call r] ++ (r.remark call).map .log ++
            (Engine.resume call r s.engine).2.map Happening.inLoop, .unchanged⟩
  /-- The controller has taken the terminal result, or panicked over it. -/
  | acknowledge {r : Reply} {result logs} (status : s.status = .reporting result)
      (fits : r.fits (.terminated result))
      (logged : logs = if r = .panic then [.log .terminalHandlerPanicked] else []) :
      Transition runners s (.reply r)
        ⟨s.afterReport, .replied (.terminated result) r :: logs, .unchanged⟩
  /-- The terminal result goes to the controller. -/
  | report {outcome logs} (status : s.status = .running none)
      (finished : Engine.outcome? s.engine = some outcome) (handled : s.usesChannel = false)
      (logged : logs = if outcome = .panicked then [.log .loopPanicked] else []) :
      Transition runners s .finish
        ⟨{ s with status := .reporting ⟨s.id, outcome.code⟩ },
          logs ++ [.log (.loopExited outcome.code), .ended outcome] ++
            [.called (.terminated ⟨s.id, outcome.code⟩)], .unchanged⟩
  /-- The terminal result goes into the channel. -/
  | post {outcome logs} (status : s.status = .running none)
      (finished : Engine.outcome? s.engine = some outcome) (channel : s.usesChannel = true)
      (logged : logs = if outcome = .panicked then [.log .loopPanicked] else []) :
      Transition runners s .finish
        ⟨{ s with
            lifecycle := s.lifecycle.forward (.terminated ⟨s.id, outcome.code⟩)
            status := .retiring .slot },
          logs ++ [.log (.loopExited outcome.code), .ended outcome] ++
            [.forwarded (.terminated ⟨s.id, outcome.code⟩)], .unchanged⟩
  | retire {aftermath} (status : s.status = .retiring aftermath) :
      Transition runners s .dispose
        ⟨{ s with engine := (Engine.retire s.engine).1, status := .freeing aftermath },
          (Engine.retire s.engine).2.map Happening.inLoop, .unchanged⟩
  | free {aftermath} (status : s.status = .freeing aftermath) :
      Transition runners s .dispose
        ⟨{ s with engine := (Engine.free s.engine).1, status := .unbinding aftermath },
          (Engine.free s.engine).2.map Happening.inLoop ++ [.released], .unchanged⟩
  | unbind {aftermath} (status : s.status = .unbinding aftermath) :
      Transition runners s .dispose
        ⟨{ s with status := .closing aftermath }, [.unbound], .unchanged⟩
  | close (status : s.status = .closing .nothing) :
      Transition runners s .dispose ⟨{ s with status := .gone }, [], .unchanged⟩
  | returnSlot (status : s.status = .closing .slot) :
      Transition runners s .dispose ⟨{ s with status := .gone }, [], .returned⟩
  | failStart {fault logs} (status : s.status = .closing (.refusal fault))
      (logged : logs = match fault with
        | .spawn errno => [.callerLog (.spawnFailed s.id errno)]
        | _ => []) :
      Transition runners s .dispose
        ⟨{ s with status := .gone }, logs ++ [.refused fault], .unchanged⟩
  | receive {waiting} (channel : s.lifecycle = .channel true waiting) :
      Transition runners s .receive
        ⟨{ s with lifecycle := .channel true [] }, [.received waiting !s.isBound], .unchanged⟩
  | hangUp {isOpen waiting} (channel : s.lifecycle = .channel isOpen waiting) :
      Transition runners s .hangUp ⟨{ s with lifecycle := .channel false [] }, [], .unchanged⟩

theorem transition_of_dispose {runners : List Runner} {s : Session ε} {r : Result ε (Note ε)}
    (h : s.dispose? = some r) : Transition runners s .dispose r := by
  unfold dispose? at h
  split at h
  · rename_i status
    cases h
    exact .retire status
  · rename_i status
    cases h
    exact .free status
  · rename_i status
    cases h
    exact .unbind status
  · rename_i aftermath status
    cases aftermath with
    | nothing => cases h; exact .close status
    | slot => cases h; exact .returnSlot status
    | refusal fault => cases fault <;> cases h <;> exact .failStart status rfl
  · simp at h

theorem transition_of_finish {runners : List Runner} {s : Session ε} {outcome : Outcome}
    (status : s.status = .running none) (finished : Engine.outcome? s.engine = some outcome) :
    Transition runners s .finish
      ⟨(s.report outcome).1, (s.report outcome).2, .unchanged⟩ := by
  cases channel : s.usesChannel with
  | true =>
      simp only [report, channel, if_true]
      exact .post status finished channel rfl
  | false =>
      simp only [report, channel, Bool.false_eq_true, if_false]
      exact .report status finished channel rfl

theorem dispatch_of_untold {s : Session ε} {call : Callback}
    (untold : s.usesChannel = true → call.notice? = none) :
    s.dispatch call =
      ({ s with status := .running (some call) },
        call.announcement.map .log ++ [.called call]) := by
  have h : (if s.usesChannel then call.notice? else none) = none := by
    split
    · rename_i channel
      exact untold channel
    · rfl
  simp only [dispatch, h]

theorem dispatch_of_told {s : Session ε} {call : Callback} {notice : Notice}
    (channel : s.usesChannel = true) (told : call.notice? = some notice) :
    s.dispatch call =
      ({ s with
          engine := (Engine.resume call .done s.engine).1
          lifecycle := s.lifecycle.forward notice
          status := .running none },
        call.announcement.map .log ++ [.forwarded notice] ++
          (Engine.resume call .done s.engine).2.map Happening.inLoop) := by
  simp only [dispatch, channel, told, if_true]

theorem transition_of_move {runners : List Runner} {s : Session ε} {m : Engine.Move ε}
    {turn : Turn ε (Note ε)} (status : s.status = .running none)
    (moved : Engine.move m s.engine = some turn) {r : Result ε (Note ε)}
    (h : r =
      let moved : Session ε := { s with engine := turn.engine }
      let after := match turn.call with
        | none => (moved, [])
        | some call => moved.dispatch call
      ⟨after.1, turn.happenings.map Happening.inLoop ++ after.2, .unchanged⟩) :
    Transition runners s (.move m) r := by
  subst h
  cases asked : turn.call with
  | none => simpa using Transition.move status moved asked
  | some call =>
      have plain : ∀ result, call ≠ .terminated result := fun result hc =>
        Engine.call_ne_terminated moved result (asked.trans (congrArg some hc))
      by_cases forwards : s.usesChannel = true ∧ call.notice?.isSome = true
      · obtain ⟨channel, isNotice⟩ := forwards
        obtain ⟨notice, told⟩ := Option.isSome_iff_exists.mp isNotice
        simp only [dispatch_of_told (s := { s with engine := turn.engine }) channel told]
        exact .forward status moved asked channel told plain
      · have untold : s.usesChannel = true → call.notice? = none := by
          intro channel
          simpa [channel] using forwards
        simp only [dispatch_of_untold (s := { s with engine := turn.engine }) untold]
        exact .ask status moved asked untold plain

/-- **The table is complete.** Whatever an act makes of a session is one of the
transitions. -/
theorem transition_of_step {runners : List Runner} {s : Session ε} {a : Act ε}
    {r : Result ε (Note ε)} (h : s.step runners a = some r) : Transition runners s a r := by
  unfold step at h
  split at h
  · rename_i status
    obtain ⟨⟨engine, happenings⟩, set, rfl⟩ := Option.map_eq_some_iff.mp h
    exact .setup status set
  · obtain ⟨⟨engine, happenings⟩, used, rfl⟩ := Option.map_eq_some_iff.mp h
    exact .access used
  · rename_i status
    cases h
    exact .drop status
  · rename_i i status
    obtain ⟨r, place, rfl⟩ := Option.map_eq_some_iff.mp h
    by_cases nul : '\x00' ∈ (r.config.threadName s.id).toList
    · simpa [nul] using Transition.misname (i := i) status place nul
    · simpa [nul] using Transition.accept (i := i) status place nul
  · rename_i status
    obtain ⟨r, found, rfl⟩ := Option.map_eq_some_iff.mp h
    obtain ⟨i, given, place⟩ := Option.bind_eq_some_iff.mp found
    unfold Runner.reserve
    cases full : r.exhausted? with
    | some limit => exact .findFull status given place full
    | none => exact .takeSlot status given place full
  · rename_i status
    cases h
    exact .launch status
  · rename_i errno status
    cases h
    exact .failSpawn status
  · rename_i status
    obtain ⟨r, found, rfl⟩ := Option.map_eq_some_iff.mp h
    obtain ⟨i, given, place⟩ := Option.bind_eq_some_iff.mp found
    exact .enter status given place
  · rename_i m status
    obtain ⟨turn, moved, rfl⟩ := Option.map_eq_some_iff.mp h
    exact transition_of_move status moved rfl
  · rename_i entry call status
    cases h
    exact .log status
  · rename_i entry result status
    cases h
    exact .logLast status
  · rename_i r call status
    split at h
    · rename_i fits
      cases h
      exact .reply status fits
    · simp at h
  · rename_i r result status
    simp only at h
    split at h
    · rename_i fits
      cases h
      exact .acknowledge status fits rfl
    · simp at h
  · rename_i status
    obtain ⟨outcome, finished, rfl⟩ := Option.map_eq_some_iff.mp h
    exact transition_of_finish status finished
  · exact transition_of_dispose h
  · split at h
    · rename_i waiting channel
      cases h
      exact .receive channel
    · simp at h
  · split at h
    · rename_i isOpen waiting channel
      cases h
      exact .hangUp channel
    · simp at h
  · simp at h

/-- **The table is sound.** Every transition can be made. -/
theorem step_of_transition {runners : List Runner} {s : Session ε} {a : Act ε}
    {r : Result ε (Note ε)} (trans : Transition runners s a r) : s.step runners a = some r := by
  cases trans with
  | setup status set => simp [step, status, set]
  | access used => simp [step, used]
  | misname status place nul => simp [step, status, place, nul]
  | accept status place name => simp [step, status, place, name]
  | findFull status given place full => simp [step, status, given, place, Runner.reserve, full]
  | takeSlot status given place free => simp [step, status, given, place, Runner.reserve, free]
  | enter status given place => simp [step, status, given, place]
  | move status moved silent => simp [step, status, moved, silent]
  | @ask m turn call status moved asked untold =>
      have dispatched := dispatch_of_untold
        (s := { s with engine := turn.engine, status := .running none }) untold
      simp [step, status, moved, asked, dispatched]
  | @forward m turn call notice status moved asked channel told =>
      have dispatched := dispatch_of_told
        (s := { s with engine := turn.engine, status := .running none }) channel told
      simp [step, status, moved, asked, dispatched]
  | reply status fits => simp [step, status, fits]
  | acknowledge status fits logged => simp [step, status, fits, logged]
  | report status finished handled logged =>
      simp [step, status, finished, Session.report, handled, logged]
  | post status finished channel logged =>
      simp [step, status, finished, Session.report, channel, logged, afterReport]
  | @failStart fault logs status logged =>
      subst logged
      cases fault <;> simp [step, dispose?, status]
  | receive channel | hangUp channel => simp [step, channel]
  | _ => simp [step, dispose?, *]

end Session
end TunnelControl
