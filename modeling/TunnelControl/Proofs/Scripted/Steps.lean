import TunnelControl.Proofs.Scripted.Outcome

/-!
# What a step does to a scripted session

Most of what can be done to a session does not touch its loop. `Stepped` lists what
is left: a step of a send, entering the loop, a move and a reply, each with what is
known of the loop at that time. Whatever is said about the commands and the answers
of a loop is proved from this list.
-/

namespace TunnelControl.Scripted

/-- What the sends to a session tell of themselves, in order. -/
def sends (h : List (Event Note)) : List SendNote :=
  h.filterMap fun | .note (.send n) => some n | _ => none

/-- The notices that went into a channel, in order. -/
def notices (h : List (Event Note)) : List Notice :=
  h.filterMap fun | .forwarded notice => some notice | _ => none

/-- What a session has written into its journal. -/
def recorded (h : List (Event Note)) : Journal :=
  h.filterMap fun | .note n => n.journalNote? | _ => none

@[simp] theorem sends_append (h h' : List (Event Note)) : sends (h ++ h') = sends h ++ sends h' :=
  List.filterMap_append

@[simp] theorem notices_append (h h' : List (Event Note)) :
    notices (h ++ h') = notices h ++ notices h' :=
  List.filterMap_append

@[simp] theorem recorded_append (h h' : List (Event Note)) :
    recorded (h ++ h') = recorded h ++ recorded h' :=
  List.filterMap_append

/-- Whether the main loop writes records of this kind. -/
def JournalNote.isOfLoop : JournalNote → Bool
  | .certificate _ | .form _ | .submitted _ | .browser _ | .command _ => true
  | .userAgent _ | .setting _ | .limits _ | .freed => false

/-- Whether the event tells neither of the loop nor of a send. -/
def isQuiet : Event Note → Bool
  | .note (.journal n) => !n.isOfLoop
  | .note _ => false
  | .called (.terminated _) | .replied (.terminated _) _ | .forwarded (.terminated _) => true
  | .called _ | .replied .. | .forwarded _ => false
  | _ => true

theorem beat?_of_isQuiet {e : Event Note} (quiet : isQuiet e = true) : beat? e = none := by
  unfold beat?
  split <;> first | rfl | simp_all [isQuiet, JournalNote.isOfLoop]

section quiet

variable {new : List (Event Note)}

theorem beats_of_quiet (quiet : ∀ e ∈ new, isQuiet e = true) : beats new = [] :=
  List.filterMap_eq_nil_iff.mpr fun e he => beat?_of_isQuiet (quiet e he)

theorem sends_of_quiet (quiet : ∀ e ∈ new, isQuiet e = true) : sends new = [] := by
  refine List.filterMap_eq_nil_iff.mpr fun e he => ?_
  have h := quiet e he
  split
  · simp [isQuiet] at h
  · rfl

theorem isOfLoop_of_quiet (quiet : ∀ e ∈ new, isQuiet e = true) :
    ∀ n ∈ recorded new, n.isOfLoop = false := by
  intro n hn
  obtain ⟨e, he, hrecord⟩ := List.mem_filterMap.mp hn
  have h := quiet e he
  split at hrecord
  · rename_i note
    cases note with
    | journal n' =>
        cases hrecord
        simpa [isQuiet] using h
    | _ => simp [Note.journalNote?] at hrecord
  · simp at hrecord

end quiet

/-- What an attempt to make a session comes to. -/
theorem make_eq (plan : Plan) (agent : String) (lifecycle : Lifecycle) (w : World Engine) :
    w.make plan agent lifecycle =
      if plan.script.failsConstruction then (none, [.unbound])
      else
        (some ⟨w.nextId, agent, ⟨plan.key, plan.script, Queue.new, .ready⟩, lifecycle, none, .held⟩,
          [.note (.journal (.userAgent agent))]) := by
  cases fails : plan.script.failsConstruction <;>
    simp [World.make, TunnelControl.Engine.make, Engine.make, fails, Engine.noted,
      Happening.atCaller]

/-! ## Journals -/

/-- No other session writes into the journal of this one. -/
def WritesAlone (w : World Engine) (key : Nat) : Prop :=
  ∀ s k t, w.session? key = some s → w.session? k = some t → t.engine.key = s.engine.key → k = key

/-- Sessions whose engines were made from different scripts write into different
journals. -/
theorem writesAlone_of_nodup {w : World Engine} {key : Nat}
    (nodup : (w.sessions.map (Option.map (·.engine.key))).Nodup) : WritesAlone w key := by
  intro s k t found found' same
  have lt := World.lt_length_of_session? found'
  refine (List.getElem?_inj (by rwa [List.length_map]) nodup).mp ?_
  simp [World.session?_eq_some_iff.mp found, World.session?_eq_some_iff.mp found', same]

theorem journal_eq_recorded {w : World Engine} {key : Nat} {s : Session Engine}
    (found : w.session? key = some s) (alone : WritesAlone w key) :
    journal s.engine.key w = recorded (w.history key) := by
  rw [recorded, World.history, List.filterMap_filterMap, journal]
  apply List.filterMap_congr
  rintro ⟨k, event⟩ -
  by_cases hk : k = key
  · subst hk
    cases event <;> simp [found]
  · cases event with
    | note n =>
        cases foundK : w.session? k with
        | none => simp [hk, foundK]
        | some t =>
            have other : t.engine.key ≠ s.engine.key := fun h => hk (alone s k t found foundK h)
            simp [hk, foundK, other]
    | _ => simp [hk]

theorem commands_recorded (h : List (Event Note)) : (recorded h).commands = obeyed (beats h) := by
  rw [Journal.commands, recorded, obeyed, beats, List.filterMap_filterMap, List.filterMap_filterMap]
  apply List.filterMap_congr
  intro event _
  cases event with
  | note n =>
      cases n with
      | journal n => cases n <;> rfl
      | send n => cases n <;> rfl
      | _ => rfl
  | called call => cases call <;> rfl
  | replied call r => cases call <;> rfl
  | forwarded notice => cases notice <;> rfl
  | _ => rfl

/-! ## The list of steps -/

/-- A call is brought to the controller, or put into a channel as a notice and taken
at once: what becomes of the engine, and what is seen of it. -/
inductive Brought (call : Callback) (e : Engine) : Engine → List (Event Note) → Prop
  | asked : Brought call e e (call.announcement.map .log ++ [.called call])
  | told {notice : Notice} (isNotice : call.notice? = some notice) :
      Brought call e (e.moveTo (Engine.afterReply .done e.point))
        (call.announcement.map .log ++ [.forwarded notice])

/-- What a step makes of the engine of a session, and what is seen of it. -/
inductive Stepped (e : Engine) : Engine → List (Event Note) → Prop
  /-- Nothing that concerns the loop or a send. If anything is recorded, the loop was
  not entered yet or is over. -/
  | rest {e' : Engine} {new : List (Event Note)} (script : e'.script = e.script)
      (point : e'.point = e.point) (entered : e'.queue.entered = e.queue.entered)
      (loans : e'.queue.loans = e.queue.loans) (quiet : ∀ x ∈ new, isQuiet x = true)
      (place : recorded new = [] ∨ e.point = .ready ∨ ∃ outcome, e.point = .done outcome) :
      Stepped e e' new
  /-- A step of a send. -/
  | send {act : QueueAct} {queue : Queue} {notes : List SendNote}
      (used : e.queue.step? act = some (queue, notes)) :
      Stepped e { e with queue } (notes.map fun n => .note (.send n))
  | enter {limits : LoopLimits} (point : e.point = .ready) :
      Stepped e (e.moveTo (.poll e.script.steps)) [.note (.journal (.limits limits))]
  /-- The loop moves and calls nobody. -/
  | move {m : Move} {turn : Turn Engine Note} (stands : Stands e.point none)
      (moved : Engine.Moved e m turn) (silent : turn.call = none) :
      Stepped e turn.engine (turn.happenings.map Happening.inLoop)
  | call {m : Move} {turn : Turn Engine Note} {call : Callback} {e' : Engine}
      {new : List (Event Note)} (stands : Stands e.point none) (moved : Engine.Moved e m turn)
      (calls : turn.call = some call) (waits : Stands turn.engine.point (some call))
      (brought : Brought call turn.engine e' new) :
      Stepped e e' (turn.happenings.map Happening.inLoop ++ new)
  | reply {r : Reply} {call : Callback} (stands : Stands e.point (some call))
      (fits : r.fits call = true) :
      Stepped e (e.moveTo (Engine.afterReply r e.point))
        (.replied call r :: (r.remark call).map .log)

/-! ## Places in an entered loop -/

theorem Stands.ne_ready {p : Point} {asked : Option Callback} (stands : Stands p asked) :
    p ≠ .ready := by
  rintro rfl
  cases stands with
  | @askingStep _ s _ _ rest point => cases s <;> cases point

theorem Tells.going_of_entered {s : Session Engine} {bs : List Beat} (tells : Tells s bs)
    (entered : s.engine.point ≠ .ready) : ∃ asked, Going s.engine asked bs := by
  rcases tells.loop.cases with fresh | ⟨asked, going, -⟩
  · exact absurd fresh.point entered
  · exact ⟨asked, going⟩

theorem Tells.settled {s : Session Engine} {bs : List Beat} (tells : Tells s bs) : Settled bs := by
  rcases tells.loop.cases with fresh | ⟨asked, going, -⟩
  · exact settled_of_endings fresh.endings
  · exact going.settled

/-! ## What a step leaves alone -/

/-- Moves bring no commands into the queue. -/
theorem Engine.Moved.frame {e : Engine} {m : Move} {turn : Turn Engine Note}
    (moved : Engine.Moved e m turn) :
    turn.engine.script = e.script ∧ turn.engine.queue.entered = e.queue.entered ∧
      turn.engine.queue.loans = e.queue.loans := by
  cases moved with
  | take taking popped =>
      obtain ⟨rfl, -⟩ := Queue.pop?_eq_some popped
      exact ⟨rfl, rfl, rfl⟩
  | _ => exact ⟨rfl, rfl, rfl⟩

theorem Engine.Moved.key {e : Engine} {m : Move} {turn : Turn Engine Note}
    (moved : Engine.Moved e m turn) : turn.engine.key = e.key := by
  cases moved <;> rfl

theorem Engine.Moved.sends_happenings {e : Engine} {m : Move} {turn : Turn Engine Note}
    (moved : Engine.Moved e m turn) : sends (turn.happenings.map Happening.inLoop) = [] := by
  cases moved <;> rfl

theorem sends_logs (entries : List Log.Entry) : sends (entries.map .log) = [] := by
  induction entries with
  | nil => rfl
  | cons entry entries ih => exact ih

theorem sends_notes (notes : List SendNote) :
    sends (notes.map fun n => .note (.send n)) = notes := by
  induction notes with
  | nil => rfl
  | cons n notes ih => exact congrArg (n :: ·) ih

theorem recorded_logs (entries : List Log.Entry) : recorded (entries.map .log) = [] := by
  induction entries with
  | nil => rfl
  | cons entry entries ih => exact ih

theorem recorded_notes (notes : List SendNote) :
    recorded (notes.map fun n => .note (.send n)) = [] := by
  induction notes with
  | nil => rfl
  | cons n notes ih => exact ih

/-- A step of a send is a beat if a command enters. -/
theorem beats_of_send {q q' : Queue} {act : QueueAct} {notes : List SendNote}
    (used : q.step? act = some (q', notes)) :
    beats (notes.map fun n => .note (.send n)) = [] ∨
      beats (notes.map fun n => .note (.send n)) = [.entered] := by
  cases act with
  | borrow token c =>
      simp only [Queue.step?] at used
      split at used
      · simp at used
      · split at used <;> cases used <;> exact Or.inl rfl
  | enter token =>
      obtain ⟨loan, -, h⟩ := Option.map_eq_some_iff.mp used
      cases h
      exact Or.inr rfl
  | giveBack token =>
      obtain ⟨loan, -, h⟩ := Option.map_eq_some_iff.mp used
      cases h
      exact Or.inl rfl

section brought

variable {call : Callback} {e e' : Engine} {new : List (Event Note)}

theorem Brought.frame (brought : Brought call e e' new) :
    e'.script = e.script ∧ e'.queue = e.queue ∧ sends new = [] ∧ recorded new = [] := by
  cases brought with
  | asked | told =>
      refine ⟨rfl, rfl, ?_, ?_⟩
      · rw [sends_append, sends_logs]
        rfl
      · rw [recorded_append, recorded_logs]
        rfl

/-- The loop waits, or it has gone on without a reply. -/
theorem Brought.point (brought : Brought call e e' new) :
    e'.point = e.point ∨
      Reply.done.fits call = true ∧ e'.point = Engine.afterReply .done e.point := by
  cases brought with
  | asked => exact Or.inl rfl
  | told isNotice => exact Or.inr ⟨fits_done_of_notice isNotice, rfl⟩

theorem Brought.heard (brought : Brought call e e' new) (waits : Stands e.point (some call)) :
    ∃ x, beats new = [x] ∧ x.isCall = true := by
  cases brought with
  | asked =>
      rw [beats_append, beats_logs, beats_cons, beat?_called waits.plain]
      exact ⟨_, rfl, rfl⟩
  | told isNotice =>
      rw [beats_append, beats_logs, beats_cons, beat?_forwarded isNotice waits.plain]
      exact ⟨_, rfl, rfl⟩

end brought

theorem Stepped.script_eq {e e' : Engine} {new : List (Event Note)} (stepped : Stepped e e' new) :
    e'.script = e.script := by
  cases stepped with
  | rest script => exact script
  | move stands moved => exact moved.frame.1
  | call stands moved calls waits brought => exact brought.frame.1.trans moved.frame.1
  | _ => rfl

/-! ## Completeness -/

theorem isQuiet_configure (options : Options) (e : Engine) :
    ∀ x ∈ (e.configure options).1.2.map Happening.atCaller, isQuiet x = true := by
  refine applyAll_induction
    (P := fun s : Engine × Engine.Happenings => ∀ x ∈ s.2.map Happening.atCaller, isQuiet x = true)
    ?_ (by simp) options.settings
  intro s setting quiet
  unfold Engine.apply
  split
  · exact quiet
  · intro x hx
    rw [List.map_append, List.mem_append] at hx
    rcases hx with hx | hx
    · exact quiet x hx
    · cases List.mem_singleton.mp hx
      rfl

theorem Fresh.ready_or_done {e : Engine} {bs : List Beat}
    (told : Fresh e bs ∨ (∃ outcome, e.point = .done outcome) ∧ Going e none bs) :
    e.point = .ready ∨ ∃ outcome, e.point = .done outcome := by
  rcases told with fresh | ⟨ended, -⟩
  · exact Or.inl fresh.point
  · exact Or.inr ended

/-- **The list is complete.** Every transition of a session comes to one of these. -/
theorem stepped_of_transition {runners : List Runner} {s : Session Engine}
    {a : Session.Act Engine} {r : Session.Result Engine Note} {bs : List Beat}
    (trans : Session.Transition runners s a r) (tells : Tells s bs) :
    Stepped s.engine r.session.engine r.seen := by
  obtain ⟨queued, loop⟩ := tells
  -- What is seen of an act that leaves the slots alone are its events.
  have seen : ∀ {s' : Session Engine} {events : List (Event Note)},
      (⟨s', events, .unchanged⟩ : Session.Result Engine Note).seen = events :=
    fun {_ _} => List.append_nil _
  cases trans with
  | @setup options engine happenings status set =>
      rw [status] at loop
      obtain ⟨same, -⟩ := Engine.setup_frame set
      have same : engine = s.engine := same
      have made : happenings = (s.engine.configure options).1.2 :=
        (congrArg Prod.snd (Option.some.inj set)).symm
      subst same made
      rw [seen]
      exact .rest rfl rfl rfl rfl (isQuiet_configure options _) (Or.inr (Or.inl (Fresh.point loop)))
  | @access act engine happenings used =>
      obtain ⟨⟨queue, notes⟩, stepped, h⟩ := Option.map_eq_some_iff.mp used
      cases h
      rw [seen, List.map_map]
      exact .send stepped
  | drop status | misname status place nul | findFull status given place full
  | accept status place name | takeSlot status given place free | launch status
  | failSpawn status | log status | logLast status | unbind status | close status
  | returnSlot status | receive channel | hangUp channel =>
      refine .rest rfl rfl rfl rfl ?_ (Or.inl rfl)
      simp [Session.Result.seen, SlotUse.events, isQuiet]
  | enter status given place =>
      rw [status] at loop
      rw [seen]
      exact .enter (Fresh.point loop)
  | move status moved silent =>
      rw [status] at loop
      rw [seen]
      exact .move (Going.stands loop) (Engine.moved_of_move moved) silent
  | @ask m turn call status moved asked untold plain =>
      rw [status] at loop
      obtain ⟨going, -⟩ := moves loop queued moved
      rw [seen]
      refine .call (Going.stands loop) (Engine.moved_of_move moved) asked ?_ .asked
      exact asked ▸ going.stands
  | @forward m turn call notice status moved asked channel told plain =>
      rw [status] at loop
      obtain ⟨going, -⟩ := moves loop queued moved
      rw [seen]
      refine .call (Going.stands loop) (Engine.moved_of_move moved) asked ?_ ?_
      · exact asked ▸ going.stands
      · have brought : Brought call turn.engine _ _ := .told told
        simpa [TunnelControl.Engine.resume] using brought
  | reply status fits =>
      rw [status] at loop
      rw [seen]
      have replied := Stepped.reply (Going.stands loop) fits
      simpa [TunnelControl.Engine.resume] using replied
  | acknowledge status fits logged =>
      subst logged
      refine .rest rfl rfl rfl rfl ?_ (Or.inl ?_)
      all_goals rw [seen]
      all_goals split <;> simp [isQuiet, recorded]
  | report status finished handled logged | post status finished channel logged =>
      subst logged
      refine .rest rfl rfl rfl rfl ?_ (Or.inl ?_)
      all_goals rw [seen]
      all_goals split <;> simp [isQuiet, recorded]
  | retire status =>
      rw [status] at loop
      refine .rest rfl rfl rfl rfl ?_ (Or.inr (Fresh.ready_or_done loop))
      rw [seen]
      exact List.forall_mem_singleton.mpr rfl
  | free status =>
      refine .rest rfl rfl rfl rfl ?_ (Or.inl rfl)
      rw [seen]
      exact List.forall_mem_singleton.mpr rfl
  | @failStart fault logs status logged =>
      subst logged
      refine .rest rfl rfl rfl rfl ?_ (Or.inl ?_)
      all_goals rw [seen]
      all_goals cases fault <;> simp [isQuiet, recorded]

/-- **Invariants of engines.** What holds of an engine as it is made, and is kept by
every step of its session, holds of the engines of every reachable world. -/
theorem engine_invariant {P : Engine → List (Event Note) → Prop}
    (made : ∀ (plan : Plan) (agent : String),
      P ⟨plan.key, plan.script, Queue.new, .ready⟩ [.note (.journal (.userAgent agent))])
    (kept : ∀ {s : Session Engine} {e' : Engine} {h new : List (Event Note)},
      Tells s (beats h) → Stepped s.engine e' new → P s.engine h → P e' (h ++ new))
    {configs : List RunnerConfig} {w : World Engine} {key : Nat} {s : Session Engine}
    (reach : World.Reachable configs w) (found : w.session? key = some s) :
    P s.engine (w.history key) := by
  have both : Tells s (beats (w.history key)) ∧ P s.engine (w.history key) := by
    refine reach.session_invariant (P := fun s h => Tells s (beats h) ∧ P s.engine h) ?_ ?_ found
    · intro plan agent lifecycle id engine happenings hmake
      simp only [TunnelControl.Engine.make, Engine.make] at hmake
      split at hmake
      · simp at hmake
      · cases hmake
        exact ⟨⟨⟨rfl, rfl, Nat.le_refl 0⟩, ⟨rfl, rfl, rfl, rfl⟩⟩, made plan agent⟩
    · rintro runners s a r h trans ⟨tells, holds⟩
      exact ⟨tells.step trans, kept tells (stepped_of_transition trans tells) holds⟩
  exact both.2

end TunnelControl.Scripted
