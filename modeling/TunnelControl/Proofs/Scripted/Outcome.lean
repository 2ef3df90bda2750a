import TunnelControl.Proofs.Ending
import TunnelControl.Proofs.Scripted.Loop

/-!
# How a scripted loop comes to its end

What a session with a scripted engine has done, at any time of its life, is told by
where its engine stands (`Tells`). From this follows what its main loop returns: the
code of the first thing that asked it to end, or the code of its script once there
was nothing left to do.
-/

namespace TunnelControl.Scripted

variable {e e' : Engine} {bs : List Beat}

/-- A loop that was not entered has done nothing; commands may be waiting for it. -/
structure Fresh (e : Engine) (bs : List Beat) : Prop where
  point : e.point = .ready
  begun : begun bs = []
  inHook : inHook bs = false
  endings : endings bs = []

theorem Fresh.entered (fresh : Fresh e bs) (point : e'.point = e.point) :
    Fresh e' (bs ++ [.entered]) where
  point := point.trans fresh.point
  begun := by
    rw [begun_snoc, fresh.begun]
    rfl
  inHook := by
    rw [inHook_snoc, fresh.inHook]
    rfl
  endings := by
    rw [endings_snoc, fresh.endings]
    rfl

/-- The loop is entered. -/
theorem Fresh.going (fresh : Fresh e bs) :
    Going (e.moveTo (.poll e.script.steps)) none bs where
  stands := .poll _
  begun := by simp [fresh.begun]
  left rest h := by
    cases h
    simp [fresh.begun]
  inHook := by simp [fresh.inHook]
  settled := settled_of_endings fresh.endings
  ends := Or.inl (by simp [fresh.endings])

/-! ## Events that are no beats -/

theorem Engine.setup_frame {options : Options} {result : Engine × List (Happening Note)}
    (set : TunnelControl.Engine.setup options e = some result) :
    result.1 = e ∧ beats (result.2.map Happening.atCaller) = [] := by
  cases set
  refine applyAll_induction
    (P := fun s : Engine × Happenings => s.1 = e ∧ beats (s.2.map Happening.atCaller) = [])
    ?_ ⟨rfl, rfl⟩ options.settings
  rintro ⟨e', happenings⟩ setting ⟨rfl, h⟩
  unfold apply
  split
  · exact ⟨rfl, h⟩
  · exact ⟨rfl, by rw [List.map_append, beats_append, h]; rfl⟩

/-- A step of a send leaves the loop alone, and is a beat if a command enters. -/
theorem Engine.access_frame {act : QueueAct} {result : Engine × List (Happening Note)}
    (used : TunnelControl.Engine.access act e = some result) :
    result.1.script = e.script ∧ result.1.point = e.point ∧
      result.1.queue.taken = e.queue.taken ∧
      ((result.1.queue.entered = e.queue.entered ∧
          beats (result.2.map Happening.atCaller) = []) ∨
        ∃ c, result.1.queue.entered = e.queue.entered ++ [c] ∧
          beats (result.2.map Happening.atCaller) = [.entered]) := by
  obtain ⟨⟨queue, notes⟩, stepped, rfl⟩ := Option.map_eq_some_iff.mp used
  cases act with
  | borrow token c =>
      simp only [Queue.step?] at stepped
      split at stepped
      · simp at stepped
      · split at stepped <;> cases stepped <;> exact ⟨rfl, rfl, rfl, Or.inl ⟨rfl, rfl⟩⟩
  | enter token =>
      obtain ⟨loan, -, h⟩ := Option.map_eq_some_iff.mp stepped
      cases h
      exact ⟨rfl, rfl, rfl, Or.inr ⟨loan.command, rfl, rfl⟩⟩
  | giveBack token =>
      obtain ⟨loan, -, h⟩ := Option.map_eq_some_iff.mp stepped
      cases h
      exact ⟨rfl, rfl, rfl, Or.inl ⟨rfl, rfl⟩⟩

theorem beat?_called {call : Callback} (plain : ∀ result, call ≠ .terminated result) :
    beat? (.called call) = some (.called call) := by
  cases call with
  | terminated result => exact absurd rfl (plain result)
  | _ => rfl

theorem beat?_forwarded {call : Callback} {notice : Notice} (told : call.notice? = some notice)
    (plain : ∀ result, call ≠ .terminated result) :
    beat? (.forwarded notice) = some (.told notice) := by
  cases call with
  | terminated result => exact absurd rfl (plain result)
  | connected info => cases told; rfl
  | reconnected => cases told; rfl
  | _ => simp [Callback.notice?] at told

theorem beat?_replied {call : Callback} (plain : ∀ result, call ≠ .terminated result)
    (r : Reply) : beat? (.replied call r) = some (.replied call r) := by
  cases call with
  | terminated result => exact absurd rfl (plain result)
  | _ => rfl

/-! ## Sessions -/

/-- What the loop of a session has done, by the state of the session. -/
def Told : Status → Engine → List Beat → Prop
  | .held, e, bs | .starting, e, bs | .placed, e, bs | .launched, e, bs => Fresh e bs
  | .running asked, e, bs => Going e asked bs
  | _, e, bs => Fresh e bs ∨ (∃ outcome, e.point = .done outcome) ∧ Going e none bs

/-- What a session has done with its commands and in its loop. -/
structure Tells (s : Session Engine) (bs : List Beat) : Prop where
  queued : Queued s.engine bs
  loop : Told s.status s.engine bs

/-- A session's loop was not entered, is running, or is over. -/
theorem Told.cases {status : Status} (told : Told status e bs) :
    Fresh e bs ∨ ∃ asked, Going e asked bs ∧
      (status = .running asked ∨ ∃ outcome, e.point = .done outcome) := by
  cases status with
  | held | starting | placed | launched => exact Or.inl told
  | running asked => exact Or.inr ⟨asked, told, Or.inl rfl⟩
  | _ =>
      refine told.imp id ?_
      rintro ⟨ended, going⟩
      exact ⟨none, going, Or.inr ended⟩

theorem Told.congr {status : Status} (told : Told status e bs) (script : e'.script = e.script)
    (point : e'.point = e.point) : Told status e' bs := by
  have fresh : Fresh e bs → Fresh e' bs :=
    fun fresh => ⟨point.trans fresh.point, fresh.begun, fresh.inHook, fresh.endings⟩
  cases status with
  | held | starting | placed | launched => exact fresh told
  | running asked => exact Going.congr told script point
  | _ =>
      refine told.imp fresh ?_
      rintro ⟨⟨outcome, ended⟩, going⟩
      exact ⟨⟨outcome, point.trans ended⟩, going.congr script point⟩

theorem Told.entered {status : Status} (told : Told status e bs) (script : e'.script = e.script)
    (point : e'.point = e.point) : Told status e' (bs ++ [.entered]) := by
  cases status with
  | held | starting | placed | launched => exact Fresh.entered told point
  | running asked => exact Going.entered told script point
  | _ =>
      refine told.imp (·.entered point) ?_
      rintro ⟨⟨outcome, ended⟩, going⟩
      exact ⟨⟨outcome, point.trans ended⟩, going.entered script point⟩

theorem fits_done_of_notice {call : Callback} {notice : Notice}
    (told : call.notice? = some notice) : Reply.done.fits call = true := by
  cases call <;> simp [Callback.notice?] at told <;> rfl

theorem point_of_outcome? {outcome : Outcome} (finished : e.outcome? = some outcome) :
    e.point = .done outcome := by
  unfold Engine.outcome? at finished
  split at finished
  · rename_i outcome' point
    cases finished
    exact point
  · simp at finished

theorem beats_seen (r : Session.Result Engine Note) : beats r.seen = beats r.events := by
  rw [Session.Result.seen, beats_append]
  cases r.slots <;> simp [SlotUse.events, beats, beat?]

/-- The loop makes a move. -/
theorem moves {m : Move} {turn : Turn Engine Note} (going : Going e none bs)
    (queued : Queued e bs) (h : e.move m = some turn) :
    Going turn.engine turn.call (bs ++ noted turn.happenings) ∧
      Queued turn.engine (bs ++ noted turn.happenings) := by
  have moved := Engine.moved_of_move h
  exact ⟨going.move queued moved, queued.move going.stands moved⟩

/-- **One step of a session.** Whatever is done to it, its beats go on being told by
where its engine stands. -/
theorem Tells.step {runners : List Runner} {s : Session Engine} {a : Session.Act Engine}
    {r : Session.Result Engine Note} {h : List (Event Note)}
    (trans : Session.Transition runners s a r) (tells : Tells s (beats h)) :
    Tells r.session (beats (h ++ r.seen)) := by
  obtain ⟨queued, loop⟩ := tells
  rw [beats_append, beats_seen]
  generalize beats h = bs at queued loop ⊢
  -- Without beats nothing changes but the state of the session.
  have stays : ∀ {s' : Session Engine} {new}, s'.engine = s.engine → new = [] →
      Told s'.status s.engine bs → Tells s' (bs ++ new) := by
    rintro s' _ same rfl told
    rw [List.append_nil]
    exact ⟨same ▸ queued, same ▸ told⟩
  have with_beats : ∀ {s' : Session Engine} {new new' : List Beat}, new = new' →
      Tells s' (bs ++ new') → Tells s' (bs ++ new) := by
    rintro s' _ new rfl told
    exact told
  cases trans with
  | setup status set =>
      obtain ⟨rfl, silent⟩ := Engine.setup_frame set
      exact stays rfl silent loop
  | access used =>
      obtain ⟨script, point, taken, ⟨entered, silent⟩ | ⟨c, entered, beat⟩⟩ :=
        Engine.access_frame used
      · simp only [silent, List.append_nil]
        exact ⟨queued.shift entered taken (by rw [point]), loop.congr script point⟩
      · simp only [beat]
        exact ⟨queued.enter c entered taken point, loop.entered script point⟩
  | drop status | misname status place nul | findFull status given place full
  | failSpawn status =>
      rw [status] at loop
      refine stays rfl rfl ?_
      exact Or.inl loop
  | accept status place name | takeSlot status given place free | launch status =>
      rw [status] at loop
      refine stays rfl rfl ?_
      exact loop
  | enter status given place =>
      rw [status] at loop
      show Tells _ (bs ++ [])
      rw [List.append_nil]
      exact ⟨queued.shift rfl rfl (by rw [Fresh.point loop]; rfl), Fresh.going loop⟩
  | @move m turn status moved silent =>
      rw [status] at loop
      obtain ⟨going, queued⟩ := moves loop queued moved
      rw [silent] at going
      refine ⟨queued, ?_⟩
      simp only [status]
      exact going
  | @ask m turn call status moved asked untold plain =>
      rw [status] at loop
      obtain ⟨going, queued⟩ := moves loop queued moved
      rw [asked] at going
      have new : beats (turn.happenings.map Happening.inLoop ++
          (call.announcement.map .log ++ [.called call])) =
          noted turn.happenings ++ [.called call] := by
        rw [beats_append, beats_append, beats_logs, beats_cons, beat?_called plain]
        rfl
      refine with_beats new ?_
      rw [← List.append_assoc bs]
      exact ⟨queued.hears rfl, going.hears rfl⟩
  | @forward m turn call notice status moved asked channel told plain =>
      rw [status] at loop
      obtain ⟨going, queued⟩ := moves loop queued moved
      rw [asked] at going
      have heard : (Beat.told notice).isCall = true := rfl
      have fits := fits_done_of_notice told
      have new : beats (turn.happenings.map Happening.inLoop ++
          (call.announcement.map .log ++ [.forwarded notice] ++ [])) =
          noted turn.happenings ++ [.told notice] := by
        rw [beats_append, List.append_nil, beats_append, beats_logs, beats_cons,
          beat?_forwarded told plain]
        rfl
      refine with_beats new ?_
      rw [← List.append_assoc bs]
      exact ⟨(queued.hears heard).resume going.stands fits, (going.hears heard).takeNotice fits⟩
  | log status => exact stays rfl rfl loop
  | logLast status => exact stays rfl rfl loop
  | @reply r call status fits =>
      rw [status] at loop
      have going : Going s.engine (some call) bs := loop
      have new : beats ([.replied call r] ++ (r.remark call).map .log ++ []) =
          [.replied call r] := by
        rw [List.append_nil, beats_append, beats_logs, beats_cons,
          beat?_replied going.stands.plain]
        rfl
      have resumed := queued.resume going.stands fits
      exact with_beats new ⟨resumed.snoc rfl rfl rfl, going.reply fits⟩
  | acknowledge status fits logged =>
      rw [status] at loop
      subst logged
      refine stays rfl ?_ loop
      split <;> rfl
  | report status finished handled logged =>
      rw [status] at loop
      subst logged
      refine stays rfl ?_ (Or.inr ⟨⟨_, point_of_outcome? finished⟩, loop⟩)
      split <;> rfl
  | post status finished channel logged =>
      rw [status] at loop
      subst logged
      refine stays rfl ?_ (Or.inr ⟨⟨_, point_of_outcome? finished⟩, loop⟩)
      split <;> rfl
  | retire status =>
      rw [status] at loop
      exact stays rfl rfl loop
  | free status =>
      rw [status] at loop
      show Tells _ (bs ++ [])
      rw [List.append_nil]
      exact ⟨queued.shift rfl rfl rfl, Told.congr loop rfl rfl⟩
  | unbind status | close status | returnSlot status =>
      rw [status] at loop
      refine stays rfl rfl ?_
      exact loop
  | @failStart fault logs status logged =>
      rw [status] at loop
      subst logged
      refine stays rfl ?_ loop
      cases fault <;> rfl
  | receive channel => exact stays rfl rfl loop
  | hangUp channel => exact stays rfl rfl loop

/-! ## Whole runs -/

variable {configs : List RunnerConfig} {w : World Engine} {key : Nat} {s : Session Engine}

/-- In every reachable world, every session tells what it has done. -/
theorem tells_of_reachable (reach : World.Reachable configs w)
    (found : w.session? key = some s) : Tells s (beats (w.history key)) := by
  refine reach.session_invariant (P := fun s h => Tells s (beats h)) ?_ ?_ found
  · intro plan agent lifecycle id engine happenings hmake
    simp only [TunnelControl.Engine.make, Engine.make] at hmake
    split at hmake
    · simp at hmake
    · cases hmake
      exact ⟨⟨rfl, rfl, Nat.le_refl 0⟩, ⟨rfl, rfl, rfl, rfl⟩⟩
  · intro runners s a r h trans tells
    exact tells.step trans

/-- The loop does what comes next, if that calls nobody. -/
theorem run_go {e : Engine} {happenings : Engine.Happenings} (found : w.session? key = some s)
    (status : s.status = .running none) (moved : s.engine.move .go = some ⟨e, happenings, none⟩) :
    ∃ w' s', w'.session? key = some s' ∧ s'.status = .running none ∧ s'.engine = e ∧
      ∀ acts, World.run (.act key (.move Move.go) :: acts) w = World.run acts w' := by
  have stepped : s.step w.runners (.move Move.go) =
      some ⟨{ s with engine := e }, happenings.map Happening.inLoop ++ [], .unchanged⟩ := by
    have hmoved : TunnelControl.Engine.move Move.go s.engine = some ⟨e, happenings, none⟩ := moved
    simp [Session.step, status, hmoved]
  exact ⟨_, _, World.session?_advance_self found _, status, rfl, World.run_act found stepped⟩

/-- A loop that is certain of its outcome gets to it by itself. -/
theorem run_to_fate {outcome : Outcome} {p : Point} (fate : p.fate? = some outcome)
    (found : w.session? key = some s) (status : s.status = .running none)
    (point : s.engine.point = p) :
    ∃ n w' s', World.run (List.replicate n (.act key (.move Move.go))) w = some w' ∧
      w'.session? key = some s' ∧ s'.engine.outcome? = some outcome := by
  -- Each record that is still to be made takes one move.
  induction p generalizing w s with
  | done outcome' =>
      cases fate
      exact ⟨0, w, s, rfl, found, by simp [Engine.outcome?, point]⟩
  | obey c back =>
      have moved : s.engine.move .go =
          some ⟨s.engine.moveTo (.done outcome), [], none⟩ := by
        cases c <;> cases fate <;> simp [Engine.move, Engine.obey, point]
      obtain ⟨w', s', found', -, engine, run⟩ := run_go found status moved
      exact ⟨1, w', s', run [], found', by rw [engine]; rfl⟩
  | record n next ih =>
      have moved : s.engine.move .go =
          some ⟨s.engine.moveTo next, Engine.noted n.note, none⟩ := by
        simp [Engine.move, point]
      obtain ⟨w', s', found', status', engine, run⟩ := run_go found status moved
      have fate' : next.fate? = some outcome := by
        cases n <;> first | exact fate | simp at fate
      obtain ⟨k, w'', s'', run', found'', ended⟩ := ih fate' found' status' (by rw [engine]; rfl)
      exact ⟨k + 1, w'', s'', (run _).trans run', found'', ended⟩
  | _ => simp at fate

/-- **The loop ends as it is asked to.** The steps that begin are the first ones of
the script, in order. At most one thing asks the loop to end, nothing is done after
it, and the loop gets to the outcome it asks for, whatever commands may still be
waiting. A loop that ends without being asked to has run out of steps and commands,
and returns the code of its script. -/
theorem loop_ends_as_asked (reach : World.Reachable configs w)
    (found : w.session? key = some s) :
    begun (beats (w.history key)) <+: s.engine.script.steps ∧
    (endings (beats (w.history key))).length ≤ 1 ∧
    Settled (beats (w.history key)) ∧
    (∀ outcome ∈ endings (beats (w.history key)), ∃ n w' s',
      World.run (List.replicate n (.act key (.move Move.go))) w = some w' ∧
      w'.session? key = some s' ∧ s'.engine.outcome? = some outcome) ∧
    (∀ outcome, s.engine.outcome? = some outcome →
      endings (beats (w.history key)) = [outcome] ∨
      endings (beats (w.history key)) = [] ∧
        outcome = .returned s.engine.script.exitCode ∧
        Exhausted s.engine.script.steps (beats (w.history key))) := by
  obtain ⟨-, loop⟩ := tells_of_reachable reach found
  rcases loop.cases with fresh | ⟨asked, going, state⟩
  · refine ⟨?_, ?_, settled_of_endings fresh.endings, ?_, ?_⟩
    · simp [fresh.begun]
    · simp [fresh.endings]
    · simp [fresh.endings]
    · intro outcome h
      simp [Engine.outcome?, fresh.point] at h
  · refine ⟨going.begun, ?_, going.settled, ?_, ?_⟩
    · rcases going.ends with h | ⟨-, h, -⟩
      · rw [h]
        cases s.engine.point.fate? <;> simp
      · simp [h]
    · intro outcome ends
      have fate : s.engine.point.fate? = some outcome := by
        rcases going.ends with h | ⟨-, h, -⟩
        · rw [h] at ends
          exact Option.mem_toList.mp ends
        · simp [h] at ends
      rcases state with status | ⟨outcome', point⟩
      · -- A loop that waits for a reply has not been asked to end.
        cases asked with
        | none => exact run_to_fate fate found status rfl
        | some call => simp [going.stands.calm_of_asked.1] at fate
      · rw [point] at fate
        cases fate
        exact ⟨0, w, s, rfl, found, by simp [Engine.outcome?, point]⟩
    · intro outcome h
      have point := point_of_outcome? h
      rcases going.ends with ends | ⟨hdone, ends, exhausted⟩
      · rw [point] at ends
        exact Or.inl ends
      · rw [point] at hdone
        cases hdone
        exact Or.inr ⟨ends, rfl, exhausted⟩

/-- The tunnel is up again when two commands come in at once; the first of them has
been recorded, and there is a step left. -/
def interrupted : List (Action Engine) :=
  let send token c : List (Action Engine) :=
    [.act 0 (.access (QueueAct.borrow token c)), .act 0 (.access (QueueAct.enter token)),
      .act 0 (.access (QueueAct.giveBack token))]
  let go : Action Engine := .act 0 (.move Move.go)
  [.create (⟨0, ⟨[.reconnected, .invoke 0], 9, false, none⟩⟩ : Plan) "agent" .handler,
    .act 0 (.start 0), .act 0 .reserve, .act 0 (.spawn none), .act 0 .enter, go, go,
    .act 0 (.reply .done)] ++ send 1 .cancel ++ send 2 .detach ++ [go, go]

theorem interrupted_loop_ends_as_asked :
    ∃ w s, World.run interrupted (World.new [.default]) = some w ∧ w.session? 0 = some s ∧
      s.engine.queue.pending = [.detach] ∧
      begun (beats (w.history 0)) <+: [.reconnected, .invoke 0] ∧
      ∃ n w' s', World.run (List.replicate n (.act 0 (.move Move.go))) w = some w' ∧
        w'.session? 0 = some s' ∧ s'.engine.outcome? = some (.returned cancelledCode) := by
  obtain ⟨w, made⟩ : ∃ w, World.run interrupted (World.new [.default]) = some w := ⟨_, rfl⟩
  have reach : World.Reachable [.default] w := .of_run .start made
  cases made
  obtain ⟨begins, -, -, reaches, -⟩ := @loop_ends_as_asked _ _ 0 _ reach rfl
  exact ⟨_, _, rfl, rfl, rfl, begins, reaches _ (List.mem_of_getElem? (i := 0) rfl)⟩

end TunnelControl.Scripted
