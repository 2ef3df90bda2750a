import TunnelControl.Proofs.Runs
import TunnelControl.Proofs.Scripted.Sends

/-!
# When the queue of a released engine closes

A command pipe holds no share of the queue. A send takes one for a moment, and it finds
one to take as long as anybody has a share: the engine, or another send. So the queue
closes with the engine if no send is under way just then, and otherwise only with the last
of the sends that overlap. Until then sends that begin after the engine has gone still enter
their commands, which nobody will ever take.

`inProgress` reads off what sends tell of themselves which of them are under way, and
`Lent` ties it to the loans of the queue. The journal needs no such care: nothing is
recorded once the engine has gone.
-/

namespace TunnelControl.Scripted

open World (Reachable LeadsTo)

/-! ## Sends under way -/

/-- The send that a note is about. -/
def SendNote.token : SendNote → Nat
  | .began token _ | .entered token | .ended token _ => token

/-- What was told under one token. -/
def ofToken (token : Nat) (ns : List SendNote) : List SendNote := ns.filter (·.token = token)

/-- The sends under way, once one more note was told. -/
def SendNote.follow (under : List Nat) : SendNote → List Nat
  | .began token _ => under ++ [token]
  | .entered _ => under
  | .ended token _ => under.filter (· ≠ token)

/-- The tokens of the sends that have begun and are not over. -/
def inProgress (ns : List SendNote) : List Nat := ns.foldl SendNote.follow []

theorem inProgress_append (ns ns' : List SendNote) :
    inProgress (ns ++ ns') = ns'.foldl SendNote.follow (inProgress ns) :=
  List.foldl_append

theorem ofToken_append (token : Nat) (ns ns' : List SendNote) :
    ofToken token (ns ++ ns') = ofToken token ns ++ ofToken token ns' :=
  List.filter_append ..

theorem ofToken_of_ne {token : Nat} {ns : List SendNote} (other : ∀ n ∈ ns, n.token ≠ token) :
    ofToken token ns = [] :=
  List.filter_eq_nil_iff.mpr fun n hn => by simpa using other n hn

theorem ofToken_snoc {token : Nat} {n : SendNote} (own : n.token = token) (ns : List SendNote) :
    ofToken token (ns ++ [n]) = ofToken token ns ++ [n] := by
  rw [ofToken_append]
  simp [ofToken, own]

/-- What a send that is not over has told. -/
def Loan.told (l : Loan) : List SendNote :=
  .began l.token l.command :: if l.entered then [.entered l.token] else []

/-- The loans of the queue are the sends under way. -/
structure Lent (q : Queue) (ns : List SendNote) : Prop where
  tokens : q.loans.map Loan.token = inProgress ns
  told : ∀ l ∈ q.loans, l.told <:+ ofToken l.token ns

/-- A step of a send leaves the other sends where they are. -/
theorem Lent.told_of_ne {q : Queue} {ns notes : List SendNote} (lent : Lent q ns) {l : Loan}
    (mem : l ∈ q.loans) (other : ∀ n ∈ notes, n.token ≠ l.token) :
    l.told <:+ ofToken l.token (ns ++ notes) := by
  rw [ofToken_append, ofToken_of_ne other, List.append_nil]
  exact lent.told l mem

/-- **One step of a send.** -/
theorem Lent.step {q q' : Queue} {act : QueueAct} {ns notes : List SendNote}
    (lent : Lent q ns) (used : q.step? act = some (q', notes)) : Lent q' (ns ++ notes) := by
  cases act with
  | borrow token c =>
      simp only [Queue.step?] at used
      split at used
      · simp at used
      · rename_i unused
        have fresh : ∀ l ∈ q.loans, token ≠ l.token := by
          rintro l hl rfl
          exact unused (List.any_eq_true.mpr ⟨l, hl, by simp⟩)
        split at used
        · cases used
          refine ⟨?_, ?_⟩
          · simp [inProgress_append, SendNote.follow, lent.tokens]
          · intro l hl
            rcases List.mem_append.mp hl with hl | hl
            · exact lent.told_of_ne hl (by simpa [SendNote.token] using fresh l hl)
            · cases List.mem_singleton.mp hl
              simp [ofToken, Loan.told, SendNote.token]
        · cases used
          refine ⟨?_, ?_⟩
          · -- The send is over as soon as it has begun.
            have absent : ∀ t ∈ inProgress ns, t ≠ token := by
              intro t ht
              rw [← lent.tokens] at ht
              obtain ⟨l, hl, rfl⟩ := List.mem_map.mp ht
              exact (fresh l hl).symm
            have kept : (inProgress ns).filter (· ≠ token) = inProgress ns :=
              List.filter_eq_self.mpr fun t ht => by simpa using absent t ht
            simpa [inProgress_append, SendNote.follow, lent.tokens] using kept.symm
          · intro l hl
            exact lent.told_of_ne hl (by simpa [SendNote.token] using fresh l hl)
  | enter token =>
      obtain ⟨loan, found, h⟩ := Option.map_eq_some_iff.mp used
      cases h
      have waits := List.find?_some found
      simp only [Bool.and_eq_true, beq_iff_eq, Bool.not_eq_true'] at waits
      have mem := List.mem_of_find?_eq_some found
      refine ⟨?_, ?_⟩
      · have same : ∀ l : Loan,
            Loan.token (if l.token = token then { l with entered := true } else l) = l.token := by
          intro l
          split <;> rfl
        simp [inProgress_append, SendNote.follow, ← lent.tokens, same]
      · intro l hl
        obtain ⟨l', hl', rfl⟩ := List.mem_map.mp hl
        by_cases own : l'.token = token
        · rw [if_pos own]
          -- Only one send goes by this token, and it has told that it began.
          have begun := lent.told l' hl'
          have begun' := lent.told loan mem
          rw [waits.1, ← own] at begun'
          obtain ⟨before, tells⟩ := begun
          obtain ⟨before', tells'⟩ := begun'
          have notYet : l'.entered = false := by
            have last := congrArg List.getLast? (tells.trans tells'.symm)
            cases entered : l'.entered with
            | false => rfl
            | true => simp [Loan.told, waits.2, entered] at last
          refine ⟨before, ?_⟩
          rw [ofToken_snoc (n := .entered token) own.symm, ← tells]
          simp [Loan.told, notYet, own]
        · rw [if_neg own]
          exact lent.told_of_ne hl' (by simpa [SendNote.token] using Ne.symm own)
  | giveBack token =>
      obtain ⟨loan, found, h⟩ := Option.map_eq_some_iff.mp used
      cases h
      refine ⟨?_, ?_⟩
      · rw [inProgress_append, ← lent.tokens]
        simp [SendNote.follow, List.filter_map, Function.comp_def]
      · intro l hl
        obtain ⟨hl, other⟩ := List.mem_filter.mp hl
        have other : l.token ≠ token := by simpa using other
        exact lent.told_of_ne hl (by simpa [SendNote.token] using other.symm)

/-- A step of a session is a step of a send, or it has nothing to do with sends. -/
theorem Stepped.sends_cases {e e' : Engine} {new : List (Event Note)}
    (stepped : Stepped e e' new) :
    (∃ act notes, e.queue.step? act = some (e'.queue, notes) ∧
        new = notes.map fun n => .note (.send n)) ∨
      sends new = [] ∧ e'.queue.loans = e.queue.loans := by
  cases stepped with
  | rest script point entered loans quiet => exact Or.inr ⟨sends_of_quiet quiet, loans⟩
  | send used => exact Or.inl ⟨_, _, used, rfl⟩
  | enter point => exact Or.inr ⟨rfl, rfl⟩
  | move stands moved => exact Or.inr ⟨moved.sends_happenings, moved.frame.2.2⟩
  | call stands moved calls waits brought =>
      obtain ⟨-, queue, silent, -⟩ := brought.frame
      refine Or.inr ⟨?_, queue ▸ moved.frame.2.2⟩
      rw [sends_append, moved.sends_happenings, silent, List.nil_append]
  | reply stands fits => exact Or.inr ⟨sends_logs _, rfl⟩

/-! ## Engines that are gone -/

/-- Whether the engine is gone. -/
def isLetGo : Status → Bool
  | .unbinding _ | .closing _ | .gone => true
  | _ => false

/-- What an engine gives up as it goes, it has until then. -/
structure Standing (s : Session Engine) (h : List (Event Note)) : Prop where
  letGo : isLetGo s.status = true ↔ .released ∈ h
  owned : s.engine.queue.owned = !isLetGo s.status

theorem owned_step? {q q' : Queue} {act : QueueAct} {notes : List SendNote}
    (used : q.step? act = some (q', notes)) : q'.owned = q.owned := by
  cases act with
  | borrow token c =>
      simp only [Queue.step?] at used
      split at used
      · simp at used
      · split at used <;> cases used <;> rfl
  | enter token | giveBack token =>
      obtain ⟨loan, -, h⟩ := Option.map_eq_some_iff.mp used
      cases h
      rfl

theorem Engine.Moved.owned {e : Engine} {m : Move} {turn : Turn Engine Note}
    (moved : Engine.Moved e m turn) : turn.engine.queue.owned = e.queue.owned := by
  cases moved with
  | take taking popped =>
      obtain ⟨rfl, -⟩ := Queue.pop?_eq_some popped
      rfl
  | _ => rfl

section happenings

variable {ν : Type} (happenings : List (Happening ν))

@[simp] theorem released_notMem_inLoop : .released ∉ happenings.map Happening.inLoop := fun mem =>
  forall_inLoop (p := (· ≠ .released)) (fun _ => nofun) (fun _ => nofun) _ mem rfl

@[simp] theorem released_notMem_atCaller :
    .released ∉ happenings.map Happening.atCaller := fun mem =>
  forall_atCaller (p := (· ≠ .released)) (fun _ => nofun) (fun _ => nofun) _ mem rfl

end happenings

theorem Standing.step {runners : List Runner} {s : Session Engine} {a : Session.Act Engine}
    {r : Session.Result Engine Note} {h : List (Event Note)} (standing : Standing s h)
    (trans : Session.Transition runners s a r) : Standing r.session (h ++ r.seen) := by
  obtain ⟨letGo, owned⟩ := standing
  have stays : isLetGo r.session.status = isLetGo s.status → .released ∉ r.seen →
      r.session.engine.queue.owned = s.engine.queue.owned → Standing r.session (h ++ r.seen) := by
    intro status unseen same
    exact ⟨by simp [status, letGo, unseen], by rw [same, status, owned]⟩
  cases trans with
  | free status =>
      exact ⟨by simp [isLetGo, Session.Result.seen], rfl⟩
  | setup status set =>
      refine stays rfl ?_ (congrArg (·.queue.owned) (Engine.setup_frame set).1)
      simp [Session.Result.seen, SlotUse.events]
  | access used =>
      obtain ⟨⟨queue, notes⟩, stepped, h⟩ := Option.map_eq_some_iff.mp used
      cases h
      refine stays rfl ?_ (owned_step? stepped)
      simp [Session.Result.seen, SlotUse.events, Happening.atCaller]
  | move status moved silent =>
      refine stays rfl ?_ (Engine.moved_of_move moved).owned
      simp [Session.Result.seen, SlotUse.events]
  | ask status moved asked untold plain =>
      refine stays (by simp [status, isLetGo]) ?_ (Engine.moved_of_move moved).owned
      simp [Session.Result.seen, SlotUse.events]
  | forward status moved asked channel told plain =>
      refine stays (by simp [status, isLetGo]) ?_ (Engine.moved_of_move moved).owned
      simp [Session.Result.seen, SlotUse.events]
  | log status | logLast status | receive channel | hangUp channel =>
      exact stays rfl (by simp [Session.Result.seen, SlotUse.events]) rfl
  | @failStart fault logs status logged =>
      subst logged
      refine stays (by simp [status, isLetGo]) ?_ rfl
      cases fault <;> simp [Session.Result.seen, SlotUse.events]
  | acknowledge status fits logged | report status finished handled logged
  | post status finished channel logged =>
      subst logged
      refine stays (by simp [status, isLetGo, Session.afterReport]) ?_ rfl
      split <;> simp [Session.Result.seen, SlotUse.events]
  | _ =>
      refine stays (by simp [*, isLetGo, Session.refuse]) ?_ rfl
      simp [Session.Result.seen, SlotUse.events]

/-- What is recorded is recorded before the engine is gone. -/
theorem recorded_of_letGo {runners : List Runner} {s : Session Engine}
    {a : Session.Act Engine} {r : Session.Result Engine Note}
    (trans : Session.Transition runners s a r)
    (gone : isLetGo s.status = true ∨ .released ∈ r.seen) : recorded r.seen = [] := by
  cases trans with
  | access used =>
      obtain ⟨⟨queue, notes⟩, stepped, h⟩ := Option.map_eq_some_iff.mp used
      cases h
      simp only [Session.Result.seen, SlotUse.events, List.append_nil, List.map_map]
      exact recorded_notes notes
  | setup status | enter status | move status | ask status | forward status | retire status =>
      simp [status, isLetGo, Session.Result.seen, SlotUse.events] at gone
  | reply status fits =>
      rw [Session.Result.seen, recorded_append, recorded_append, recorded_append, recorded_logs]
      rfl
  | @failStart fault logs status logged =>
      subst logged
      cases fault <;> rfl
  | acknowledge status fits logged | report status finished handled logged
  | post status finished channel logged =>
      subst logged
      split <;> rfl
  | _ => rfl

/-! ## What a send comes to -/

/-- Nobody has a share of the queue: the engine is gone, and no send is under way. -/
def Unowned (h : List (Event Note)) : Prop := .released ∈ h ∧ inProgress (sends h) = []

/-- What an event shows of what came before it. A command enters for a send that has begun
and is not over; a send succeeds after that, and it is refused where it began while nobody
had a share of the queue. -/
def Justified (before : List (Event Note)) : Event Note → Prop
  | .note (.send (.entered token)) => ∃ c, [.began token c] <:+ ofToken token (sends before)
  | .note (.send (.ended token (.ok ()))) =>
    ∃ c, [.began token c, .entered token] <:+ ofToken token (sends before)
  | .note (.send (.ended token (.error fault))) =>
    fault = .closed ∧ ∃ earlier c,
      before = earlier ++ [.note (.send (.began token c))] ∧ Unowned earlier
  | .note (.journal _) => .released ∉ before
  | _ => True

/-- The sends of a session up to now. -/
structure Served (s : Session Engine) (h : List (Event Note)) : Prop where
  standing : Standing s h
  lent : Lent s.engine.queue (sends h)
  justified : Throughout Justified h
  /-- A send that begins while nobody has a share of the queue is over at once. -/
  refused : ∀ before token c after, h = before ++ .note (.send (.began token c)) :: after →
    Unowned before → ∃ later, after = .note (.send (.ended token (.error .closed))) :: later

theorem Served.unowned_iff {s : Session Engine} {h : List (Event Note)} (served : Served s h) :
    Unowned h ↔ s.engine.queue.isOpen = false := by
  obtain ⟨⟨letGo, owned⟩, ⟨tokens, -⟩, -, -⟩ := served
  rw [Unowned, ← letGo, ← tokens, Queue.isOpen, owned]
  simp

/-- A step that tells nothing of sends. -/
theorem Throughout.justified_of_silent {h new : List (Event Note)}
    (justified : Throughout Justified h) (silent : sends new = [])
    (recording : .released ∈ h ∨ .released ∈ new → recorded new = []) :
    Throughout Justified (h ++ new) := by
  refine throughout_append justified ?_
  rintro pre x post rfl
  cases x with
  | note n =>
      cases n with
      | send n =>
          simp [sends] at silent
      | journal n =>
          intro mem
          have nothing := recording (by
            rcases List.mem_append.mp mem with mem | mem
            · exact Or.inl mem
            · exact Or.inr (List.mem_append_left _ mem))
          simp [recorded, Note.journalNote?] at nothing
      | _ => trivial
  | _ => trivial

/-- A step of a send. -/
theorem Served.justified_of_send {s : Session Engine} {h : List (Event Note)}
    (served : Served s h) {act : QueueAct} {q' : Queue} {notes : List SendNote}
    (used : s.engine.queue.step? act = some (q', notes)) :
    Throughout Justified (h ++ notes.map fun n => .note (.send n)) := by
  refine throughout_append served.justified ?_
  cases act with
  | borrow token c =>
      simp only [Queue.step?] at used
      split at used
      · simp at used
      · split at used
        · cases used
          exact throughout_singleton trivial
        · rename_i shut
          cases used
          rw [List.map_cons, ← List.singleton_append]
          refine throughout_append (throughout_singleton trivial) (throughout_singleton ?_)
          exact ⟨rfl, h, c, by simp, served.unowned_iff.mpr (by simpa using shut)⟩
  | enter token =>
      obtain ⟨loan, found, h⟩ := Option.map_eq_some_iff.mp used
      cases h
      have waits := List.find?_some found
      simp only [Bool.and_eq_true, beq_iff_eq, Bool.not_eq_true'] at waits
      have told := served.lent.told loan (List.mem_of_find?_eq_some found)
      refine throughout_singleton ⟨loan.command, ?_⟩
      simpa [Loan.told, waits] using told
  | giveBack token =>
      obtain ⟨loan, found, h⟩ := Option.map_eq_some_iff.mp used
      cases h
      have waits := List.find?_some found
      simp only [Bool.and_eq_true, beq_iff_eq] at waits
      have told := served.lent.told loan (List.mem_of_find?_eq_some found)
      refine throughout_singleton ⟨loan.command, ?_⟩
      simpa [Loan.told, waits] using told

/-- A send is refused in the step in which it begins. -/
theorem Served.refused_of_send {s : Session Engine} {h : List (Event Note)}
    (served : Served s h) {act : QueueAct} {q' : Queue} {notes before : List SendNote}
    {after : List SendNote} {token : Nat} {c : Command}
    (used : s.engine.queue.step? act = some (q', notes))
    (split : notes = before ++ .began token c :: after)
    (unowned : Unowned (h ++ before.map fun n => .note (.send n))) :
    after = [.ended token (.error .closed)] := by
  cases act with
  | borrow token' c' =>
      simp only [Queue.step?] at used
      split at used
      · simp at used
      · split at used
        · rename_i isOpen
          cases used
          obtain ⟨rfl, rest⟩ : before = [] ∧ _ := by
            cases before with
            | nil => exact ⟨rfl, split⟩
            | cons n before => simp at split
          rw [List.map_nil, List.append_nil, served.unowned_iff, isOpen] at unowned
          cases unowned
        · cases used
          cases before with
          | nil =>
              obtain ⟨h, rfl⟩ := List.cons.inj split
              cases h
              rfl
          | cons n before =>
              obtain ⟨rfl, rest⟩ := List.cons.inj split
              cases before <;> simp at rest
  | enter token' =>
      obtain ⟨loan, found, h⟩ := Option.map_eq_some_iff.mp used
      cases h
      cases before <;> simp at split
  | giveBack token' =>
      obtain ⟨loan, found, h⟩ := Option.map_eq_some_iff.mp used
      cases h
      cases before <;> simp at split

theorem Served.step {runners : List Runner} {s : Session Engine} {a : Session.Act Engine}
    {r : Session.Result Engine Note} {h : List (Event Note)} (served : Served s h)
    (tells : Tells s (beats h)) (trans : Session.Transition runners s a r) :
    Served r.session (h ++ r.seen) := by
  refine ⟨served.standing.step trans, ?_, ?_, ?_⟩
  all_goals rcases (stepped_of_transition trans tells).sends_cases with
    ⟨act, notes, used, seen⟩ | ⟨silent, loans⟩
  · rw [seen, sends_append, sends_notes]
    exact served.lent.step used
  · rw [sends_append, silent, List.append_nil]
    exact ⟨loans ▸ served.lent.tokens, loans ▸ served.lent.told⟩
  · exact seen ▸ served.justified_of_send used
  · refine Throughout.justified_of_silent served.justified silent fun gone => ?_
    exact recorded_of_letGo trans (gone.imp_left served.standing.letGo.mpr)
  · intro before token c after split unowned
    rcases split_append split with ⟨mid, rfl, rfl⟩ | ⟨mid, rfl, new⟩
    · obtain ⟨later, rfl⟩ := served.refused _ _ _ _ rfl unowned
      exact ⟨_, rfl⟩
    · rw [seen] at new
      obtain ⟨mid, rest, rfl, rfl, tail⟩ := List.map_eq_append_iff.mp new
      obtain ⟨n, later, rfl, began, rfl⟩ := List.map_eq_cons_iff.mp tail
      cases began
      rw [served.refused_of_send used rfl unowned]
      exact ⟨[], rfl⟩
  · intro before token c after split unowned
    rcases split_append split with ⟨mid, rfl, rfl⟩ | ⟨mid, rfl, new⟩
    · obtain ⟨later, rfl⟩ := served.refused _ _ _ _ rfl unowned
      exact ⟨_, rfl⟩
    · simp [new, sends] at silent

theorem served_of_reachable {configs : List RunnerConfig} {w : World Engine} {key : Nat}
    {s : Session Engine} (reach : Reachable configs w) (found : w.session? key = some s) :
    Served s (w.history key) := by
  have both : Tells s (beats (w.history key)) ∧ Served s (w.history key) := by
    refine reach.session_invariant (P := fun s h => Tells s (beats h) ∧ Served s h) ?_ ?_ found
    · intro plan agent lifecycle id engine happenings hmake
      simp only [TunnelControl.Engine.make, Engine.make] at hmake
      split at hmake
      · simp at hmake
      · cases hmake
        refine ⟨⟨⟨rfl, rfl, Nat.le_refl 0⟩, ⟨rfl, rfl, rfl, rfl⟩⟩, ?_⟩
        refine ⟨⟨by simp [isLetGo, Engine.noted, Happening.atCaller], rfl⟩,
          ⟨rfl, by simp [Queue.new]⟩,
          throughout_singleton (by simp [Justified, Happening.atCaller]), ?_⟩
        intro before token c after split
        cases before <;> simp [Engine.noted, Happening.atCaller] at split
    · rintro runners s a r h trans ⟨tells, served⟩
      exact ⟨tells.step trans, served.step tells trans⟩
  exact both.2

/-! ## Closing -/

section finishing

variable {w : World Engine} {key : Nat} {s : Session Engine} {l : Loan}

/-- A step of a send that is under way can always be taken. -/
theorem leadsTo_of_step? {act : QueueAct} {queue : Queue} {notes : List SendNote}
    (found : w.session? key = some s) (used : s.engine.queue.step? act = some (queue, notes)) :
    w.LeadsTo key [.act key (.access act)] { s with engine := { s.engine with queue } }
      (notes.map fun n => .note (.send n)) := by
  have stepped : s.step w.runners (.access act) =
      some ⟨{ s with engine := { s.engine with queue } },
        (notes.map fun n => Happening.note (.send n)).map Happening.atCaller, .unchanged⟩ := by
    simp [Session.step, TunnelControl.Engine.access, used]
  simpa [Session.Result.seen, SlotUse.events, Happening.atCaller, Function.comp_def]
    using World.leadsTo_of_step found stepped

theorem step?_giveBack {q : Queue} (mem : l ∈ q.loans) (entered : l.entered = true) :
    q.step? (.giveBack l.token) =
      some ({ q with loans := q.loans.filter (·.token ≠ l.token) }, [.ended l.token (.ok ())]) := by
  obtain ⟨loan, found⟩ := Option.isSome_iff_exists.mp <|
    List.find?_isSome (p := fun x => x.token == l.token && x.entered) |>.mpr
      ⟨l, mem, by simp [entered]⟩
  rw [Queue.step?, found]
  rfl

theorem exists_step?_enter {q : Queue} (mem : l ∈ q.loans) (waits : l.entered = false) :
    ∃ q', q.step? (.enter l.token) = some (q', [.entered l.token]) ∧
      { l with entered := true } ∈ q'.loans := by
  obtain ⟨loan, found⟩ := Option.isSome_iff_exists.mp <|
    List.find?_isSome (p := fun x => x.token == l.token && !x.entered) |>.mpr
      ⟨l, mem, by simp [waits]⟩
  refine ⟨_, by rw [Queue.step?, found]; rfl, ?_⟩
  exact List.mem_map.mpr ⟨l, mem, by simp⟩

/-- A send that is under way can be brought to its end, and succeeds. -/
theorem exists_finish (found : w.session? key = some s) (mem : l ∈ s.engine.queue.loans) :
    ∃ acts s' new,
      (∀ a ∈ acts, a = .act key (.access (.enter l.token)) ∨
        a = .act key (.access (.giveBack l.token))) ∧
      w.LeadsTo key acts s' (new ++ [.note (.send (.ended l.token (.ok ())))]) := by
  cases entered : l.entered with
  | true =>
      have last := leadsTo_of_step? found (step?_giveBack mem entered)
      exact ⟨_, _, [], by simp, last⟩
  | false =>
      obtain ⟨q', used, mem'⟩ := exists_step?_enter mem entered
      have first := leadsTo_of_step? found used
      have both := first.trans fun _ found' =>
        leadsTo_of_step? found' (step?_giveBack mem' rfl)
      exact ⟨_, _, [.note (.send (.entered l.token))], by simp, both⟩

end finishing

/-- How the queue of a session closes. -/
structure ClosesWithLastShare (w : World Engine) (key : Nat) : Prop where
  /-- A send is refused, at once, if it begins while nobody has a share of the queue, and only
  then. -/
  refused : ∀ before token c after,
    w.history key = before ++ .note (.send (.began token c)) :: after →
    (Unowned before ↔ ∃ later, after = .note (.send (.ended token (.error .closed))) :: later)
  /-- Commands enter for sends that were not refused, these sends succeed after it, and nothing
  is recorded once the engine is gone. -/
  justified : Throughout Justified (w.history key)
  /-- A send that was not refused can be brought to its end. -/
  finishes : ∀ token ∈ inProgress (sends (w.history key)), ∃ acts s new,
    (∀ a ∈ acts, a = .act key (.access (.enter token)) ∨
      a = .act key (.access (.giveBack token))) ∧
    w.LeadsTo key acts s (new ++ [.note (.send (.ended token (.ok ())))])

/-- **A queue closes with the last share of it.** Whatever the order of the steps of any number
of sends, a send is refused if and only if it begins when the engine is gone and no other send
is under way. Every other send enters its command and succeeds. -/
theorem closes_with_last_share {configs : List RunnerConfig} {w : World Engine} {key : Nat}
    {s : Session Engine} (reach : Reachable configs w) (found : w.session? key = some s) :
    ClosesWithLastShare w key := by
  have served := served_of_reachable reach found
  refine ⟨?_, served.justified, ?_⟩
  · intro before token c after split
    refine ⟨served.refused before token c after split, ?_⟩
    rintro ⟨later, rfl⟩
    -- A refusal shows that nobody had a share of the queue.
    rw [List.append_cons] at split
    obtain ⟨-, earlier, c', same, unowned⟩ := served.justified _ _ _ split
    exact (List.append_inj' same rfl).1 ▸ unowned
  · intro token mem
    rw [← served.lent.tokens] at mem
    obtain ⟨l, hl, rfl⟩ := List.mem_map.mp mem
    exact exists_finish found hl

/-- The engine goes while the first send has a share of its queue. The second send begins after
that and finds the queue open; the third begins when both are over. -/
def overlapping : List (Action Engine) :=
  [.create ⟨7, ⟨[], 0, false, none⟩⟩ "agent" .handler, .act 0 (.access (.borrow 1 .pause)),
    .act 0 .drop, .act 0 .dispose, .act 0 .dispose, .act 0 (.access (.borrow 2 .cancel)),
    .act 0 (.access (.enter 2)), .act 0 (.access (.giveBack 2)), .act 0 (.access (.enter 1)),
    .act 0 (.access (.giveBack 1)), .act 0 (.access (.borrow 3 .detach))]

theorem history_overlapping :
    ∃ w s, World.run overlapping (World.new [.default]) = some w ∧ w.session? 0 = some s ∧
      w.history 0 =
        [.note (.journal (.userAgent "agent")), .note (.send (.began 1 .pause)),
          .note (.journal .freed), .released] ++
        .note (.send (.began 2 .cancel)) ::
        [.note (.send (.entered 2)), .note (.send (.ended 2 (.ok ()))), .note (.send (.entered 1)),
          .note (.send (.ended 1 (.ok ()))), .note (.send (.began 3 .detach)),
          .note (.send (.ended 3 (.error .closed)))] :=
  ⟨_, _, rfl, rfl, rfl⟩

theorem overlapping_closes_with_last_share :
    ∃ w, World.run overlapping (World.new [.default]) = some w ∧ ClosesWithLastShare w 0 ∧
      ∃ before, w.history 0 = before ++
          .note (.send (.began 3 .detach)) :: [.note (.send (.ended 3 (.error .closed)))] ∧
        Unowned before := by
  obtain ⟨w, s, made, found, history⟩ := history_overlapping
  have closes := closes_with_last_share (.of_run .start made) found
  have last : w.history 0 = (w.history 0).take 9 ++
      .note (.send (.began 3 .detach)) :: [.note (.send (.ended 3 (.error .closed)))] := by
    rw [history]
    rfl
  exact ⟨w, made, closes, _, last, (closes.refused _ 3 .detach _ last).mpr ⟨[], rfl⟩⟩

/-- Sends that begin once the engine is gone are refused. -/
def RefusesOnceReleased (w : World Engine) (key : Nat) : Prop :=
  ∀ before token c after, w.history key = before ++ .note (.send (.began token c)) :: after →
    .released ∈ before → ∃ later, after = .note (.send (.ended token (.error .closed))) :: later

/-- A send that begins while another one has a share of the queue is not refused, although the
engine is gone: its command enters. -/
theorem overlapping_enters_once_released :
    ∃ w, World.run overlapping (World.new [.default]) = some w ∧ ¬ RefusesOnceReleased w 0 ∧
      ∃ before after, w.history 0 = before ++ .note (.send (.began 2 .cancel)) :: after ∧
        .released ∈ before ∧ [.entered 2, .ended 2 (.ok ())] <+: sends after := by
  obtain ⟨w, s, made, found, history⟩ := history_overlapping
  refine ⟨w, made, ?_, _, _, history, by simp, ⟨_, rfl⟩⟩
  intro refuses
  obtain ⟨later, ends⟩ := refuses _ 2 .cancel _ history (by simp)
  cases (List.cons.inj ends).1

end TunnelControl.Scripted
