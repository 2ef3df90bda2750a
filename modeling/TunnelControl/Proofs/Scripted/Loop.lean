import TunnelControl.Proofs.Scripted.Moves

/-!
# The invariant of a scripted loop

Where the main loop stands tells what its beats have been. `Going` says how: which
steps have begun and which are left, whether a hook is under way, and the outcome
that the loop has been asked to end with, if it has. `Queued` says the same of the
commands. Moves, replies and commands that arrive keep both.
-/

namespace TunnelControl.Scripted

namespace Point

/-- The steps that have not begun. -/
@[simp] def left? : Point → Option (List Step)
  | poll rest | idle rest | waiting _ rest | hook _ rest | askingCertificate rest
  | askingForm rest | askingBrowser rest => some rest
  | step s rest => some (s :: rest)
  | record _ next => next.left?
  | obey _ back | asking back => back.left?
  | ready | done _ => none

@[simp] def inHook : Point → Bool
  | hook .. => true
  | record _ next => next.inHook
  | obey _ back | asking back => back.inHook
  | _ => false

/-- The outcome that is certain by now. A command has its effect as it is recorded. -/
@[simp] def fate? : Point → Option Outcome
  | done outcome => some outcome
  | obey c _ => c.ending?
  | record (.command _) _ => none
  | record _ next => next.fate?
  | _ => none

/-- The command that was taken and has not been recorded. -/
@[simp] def unrecorded? : Point → Option Command
  | record (.command c) _ => some c
  | record _ next => next.unrecorded?
  | _ => none

end Point

/-- Where a loop can stand, and the call it is then waiting to have answered. -/
inductive Stands : Point → Option Callback → Prop
  | poll (rest : List Step) : Stands (.poll rest) none
  | step (s : Step) (rest : List Step) : Stands (.step s rest) none
  | idle (rest : List Step) : Stands (.idle rest) none
  | waiting (gate : Gate) (rest : List Step) : Stands (.waiting gate rest) none
  | hook (h : Nat) (rest : List Step) : Stands (.hook h rest) none
  | taken (c : Command) {back : Point} (taking : back.isTaking = true) :
      Stands (.record (.command c) (.obey c back)) none
  | obey (c : Command) {back : Point} (taking : back.isTaking = true) :
      Stands (.obey c back) none
  | recordCertificate (raw : Int32) {next : Point} (stands : Stands next none) :
      Stands (.record (.certificate raw) next) none
  | recordForm (raw : Int32) {next : Point} (stands : Stands next none) :
      Stands (.record (.form raw) next) none
  | recordSubmitted (responses : List (String × String)) {next : Point}
      (stands : Stands next none) : Stands (.record (.submitted responses) next) none
  | recordBrowser (raw : Int32) {next : Point} (stands : Stands next none) :
      Stands (.record (.browser raw) next) none
  | done (outcome : Outcome) : Stands (.done outcome) none
  | askingStep {p : Point} {s : Step} {u : Upcall} {call : Callback} (rest : List Step)
      (point : p = s.underWay rest) (calls : s.upcall? = some u)
      (heard : u.callback? = some call) : Stands p (some call)
  | askingStatistics {back : Point} {call : Callback} (taking : back.isTaking = true)
      (heard : statistics.callback? = some call) : Stands (.asking back) (some call)
  | askingHook (h : Nat) (rest : List Step) {u : Upcall} {call : Callback}
      (heard : u.callback? = some call) : Stands (.asking (.hook h rest)) (some call)

/-- **Where a loop stands and what it has done.** -/
structure Going (e : Engine) (asked : Option Callback) (bs : List Beat) : Prop where
  stands : Stands e.point asked
  begun : begun bs <+: e.script.steps
  left : ∀ rest, e.point.left? = some rest → Scripted.begun bs ++ rest = e.script.steps
  inHook : inHook bs = e.point.inHook
  settled : Settled bs
  /-- The loop has been asked for the outcome it is about to end with, or it has run
  out of steps and commands. -/
  ends : endings bs = e.point.fate?.toList ∨
    e.point = .done (.returned e.script.exitCode) ∧ endings bs = [] ∧
      Exhausted e.script.steps bs

/-- The commands that entered the queue, and those of them that were taken and, but
for the one at hand, obeyed. -/
structure Queued (e : Engine) (bs : List Beat) : Prop where
  entered : bs.countP Beat.isEntered = e.queue.entered.length
  taken : obeyed bs ++ e.point.unrecorded?.toList = e.queue.entered.take e.queue.taken
  within : e.queue.taken ≤ e.queue.entered.length

namespace Going

variable {e e' : Engine} {asked asked' : Option Callback} {bs : List Beat} {x : Beat}

theorem endings_eq_nil (going : Going e asked bs) (calm : e.point.fate? = none) :
    endings bs = [] := by
  rcases going.ends with h | ⟨-, h, -⟩
  · rw [h, calm]
    rfl
  · exact h

/-- The loop goes on without a beat. -/
theorem shift (going : Going e asked bs) (script : e'.script = e.script)
    (stands : Stands e'.point asked') (goesOn : ∀ outcome, e.point ≠ .done outcome)
    (left : ∀ rest, e'.point.left? = some rest → e.point.left? = some rest)
    (hook : e'.point.inHook = e.point.inHook) (fate : e'.point.fate? = e.point.fate?) :
    Going e' asked' bs where
  stands := stands
  begun := script ▸ going.begun
  left rest h := script ▸ going.left rest (left rest h)
  inHook := going.inHook.trans hook.symm
  settled := going.settled
  ends := by
    rcases going.ends with h | ⟨h, -⟩
    · exact Or.inl (by rw [fate, h])
    · exact absurd h (goesOn _)

/-- The loop goes on with a beat. -/
theorem snoc (going : Going e asked bs) (script : e'.script = e.script)
    (stands : Stands e'.point asked') (calm : e.point.fate? = none)
    (left : ∃ rest, e.point.left? = some (x.began?.toList ++ rest) ∧
      ∀ rest', e'.point.left? = some rest' → rest' = rest)
    (hook : e'.point.inHook = x.leavesHook e.point.inHook)
    (fate : e'.point.fate? = x.ending? e.point.inHook) : Going e' asked' (bs ++ [x]) := by
  have nothing := going.endings_eq_nil calm
  obtain ⟨rest, before, after⟩ := left
  have steps := going.left _ before
  rw [← List.append_assoc, ← begun_snoc] at steps
  constructor
  · exact stands
  · rw [script, ← steps]
    exact List.prefix_append _ _
  · intro rest' h
    rw [after rest' h, script, steps]
  · rw [inHook_snoc, going.inHook, hook]
  · exact going.settled.snoc (Or.inl nothing)
  · refine Or.inl ?_
    rw [endings_snoc, nothing, going.inHook, fate]
    rfl

/-- Only the script and the place in the loop matter. -/
theorem congr (going : Going e asked bs) (script : e'.script = e.script)
    (point : e'.point = e.point) : Going e' asked bs := by
  obtain ⟨stands, begun, left, hook, settled, ends⟩ := going
  rw [← script] at begun left ends
  rw [← point] at stands left hook ends
  exact ⟨stands, begun, left, hook, settled, ends⟩

/-- A command enters the queue, wherever the loop stands. -/
theorem entered (going : Going e asked bs) (script : e'.script = e.script)
    (point : e'.point = e.point) : Going e' asked (bs ++ [.entered]) := by
  have hbegun : Scripted.begun (bs ++ [.entered]) = Scripted.begun bs := by
    rw [begun_snoc]
    exact List.append_nil _
  have hendings : endings (bs ++ [.entered]) = endings bs := by
    rw [endings_snoc]
    exact List.append_nil _
  constructor
  · rw [point]
    exact going.stands
  · rw [hbegun, script]
    exact going.begun
  · rw [hbegun, script, point]
    exact going.left
  · rw [inHook_snoc, going.inHook, point]
    rfl
  · exact going.settled.snoc (Or.inr rfl)
  · rw [hendings, point, script]
    refine going.ends.imp id ?_
    rintro ⟨hdone, hnone, exhausted⟩
    exact ⟨hdone, hnone, exhausted.snoc rfl⟩

end Going

/-! ## Moves -/

/-- What an engine leaves behind, as beats. -/
def noted (happenings : Engine.Happenings) : List Beat := beats (happenings.map Happening.inLoop)

theorem append_noted_nil (bs : List Beat) : bs ++ noted [] = bs := by
  rw [noted, List.map_nil, beats_nil, List.append_nil]

namespace Stands

variable {p : Point} {asked : Option Callback}

/-- A loop that takes commands waits for nobody. -/
theorem of_isTaking (taking : p.isTaking = true) : Stands p none := by
  cases p with
  | poll rest => exact .poll rest
  | idle rest => exact .idle rest
  | _ => simp [Point.isTaking] at taking

theorem calm_of_isTaking (taking : p.isTaking = true) :
    p.fate? = none ∧ p.inHook = false ∧ p.unrecorded? = none ∧
      ∃ rest, p.left? = some rest := by
  cases p <;> simp [Point.isTaking] at taking <;> exact ⟨rfl, rfl, rfl, _, rfl⟩

theorem underWay {s : Step} (rest : List Step) (silent : s.upcall? = none) :
    Stands (s.underWay rest) none := by
  cases s with
  | idle => exact .idle rest
  | waitFor gate => exact .waiting gate rest
  | invoke h => exact .hook h rest
  | _ => simp [Step.upcall?] at silent

end Stands

@[simp] theorem Step.unrecorded?_underWay (s : Step) (rest : List Step) :
    (s.underWay rest).unrecorded? = none := by
  cases s <;> rfl

@[simp] theorem Step.left?_underWay (s : Step) (rest : List Step) :
    (s.underWay rest).left? = some rest := by
  cases s <;> rfl

@[simp] theorem Step.inHook_underWay (s : Step) (rest : List Step) :
    (s.underWay rest).inHook = (Beat.began s).leavesHook false := by
  cases s <;> rfl

@[simp] theorem Step.fate?_underWay (s : Step) (rest : List Step) :
    (s.underWay rest).fate? = none := by
  cases s <;> rfl

theorem Queued.length_of_empty {e : Engine} {bs : List Beat} (queued : Queued e bs)
    (recorded : e.point.unrecorded? = none) (empty : e.queue.pop? = none) :
    (obeyed bs).length = bs.countP Beat.isEntered := by
  have hpending : e.queue.pending = [] := by
    unfold Queue.pop? at empty
    split at empty
    · assumption
    · simp at empty
  have hle : e.queue.entered.length ≤ e.queue.taken := List.drop_eq_nil_iff.mp hpending
  have htaken := queued.taken
  rw [recorded, Option.toList_none, List.append_nil, List.take_of_length_le hle] at htaken
  rw [queued.entered, htaken]

/-- The loop ends of its own accord. -/
theorem Going.runOut {e : Engine} {bs : List Beat} (going : Going e none bs)
    (queued : Queued e bs) (point : e.point = .poll []) (empty : e.queue.pop? = none) :
    Going (e.moveTo (.done (.returned e.script.exitCode))) none (bs ++ [.foundEmpty []]) := by
  have nothing : endings bs = [] := going.endings_eq_nil (by simp [point])
  have all : Scripted.begun bs = e.script.steps := by
    rw [← going.left [] (by simp [point]), List.append_nil]
  have counted := queued.length_of_empty (by simp [point]) empty
  constructor
  · exact .done _
  · rw [begun_snoc, all]
    simp [Beat.began?]
  · simp
  · rw [inHook_snoc, going.inHook, point]
    rfl
  · exact going.settled.snoc (Or.inr rfl)
  · refine Or.inr ⟨rfl, ?_, bs, [], rfl, all, counted, by simp⟩
    rw [endings_snoc, nothing]
    rfl

attribute [simp] Beat.began? Beat.command? Beat.isEntered Beat.leavesHook Beat.ending?

/-- **One move.** Whatever the loop does, it stands where its beats say. -/
theorem Going.move {e : Engine} {m : Move} {turn : Turn Engine Note} {bs : List Beat}
    (going : Going e none bs) (queued : Queued e bs) (moved : Engine.Moved e m turn) :
    Going turn.engine turn.call (bs ++ noted turn.happenings) := by
  have stands := going.stands
  cases moved with
  | @take c queue taking popped =>
      obtain ⟨calm, -⟩ := Stands.calm_of_isTaking taking
      rw [append_noted_nil]
      refine going.shift rfl (.taken c taking) ?_ (fun _ h => h) rfl calm.symm
      intro outcome h
      simp [h] at taking
  | runOut point empty => exact going.runOut queued point empty
  | @advance s rest point empty =>
      refine going.snoc (x := .foundEmpty (s :: rest)) rfl (.step s rest) ?_ ?_ ?_ ?_ <;>
        simp [point]
  | @record n next point =>
      rw [point] at stands
      cases stands with
      | taken c taking =>
          obtain ⟨-, -, -, rest, hleft⟩ := Stands.calm_of_isTaking taking
          refine going.snoc (x := .command c) rfl (.obey c taking) ?_ ?_ ?_ ?_ <;>
            simp [point, hleft]
      | recordCertificate raw next | recordForm raw next | recordSubmitted responses next
      | recordBrowser raw next =>
          -- Only commands are beats as they are recorded.
          show Going _ none (bs ++ [])
          rw [List.append_nil]
          refine going.shift rfl next ?_ ?_ ?_ ?_ <;> simp [point]
  | @stop c back outcome point ends =>
      rw [point] at stands
      cases stands with
      | obey _ taking =>
      obtain ⟨-, noHook, -, -⟩ := Stands.calm_of_isTaking taking
      rw [append_noted_nil]
      refine going.shift rfl (.done outcome) ?_ ?_ ?_ ?_ <;> simp [point, ends, noHook]
  | @mute c back point goesOn unheard =>
      rw [point] at stands
      cases stands with
      | obey _ taking =>
      obtain ⟨calm, -⟩ := Stands.calm_of_isTaking taking
      rw [append_noted_nil]
      refine going.shift rfl (.of_isTaking taking) ?_ ?_ ?_ ?_ <;>
        simp [point, goesOn, calm]
  | @report c back call point goesOn heard =>
      rw [point] at stands
      cases stands with
      | obey _ taking =>
      rw [append_noted_nil]
      refine going.shift rfl (.askingStatistics taking heard) ?_ ?_ ?_ ?_ <;>
        simp [point, goesOn]
  | @beginAlone s rest point silent =>
      refine going.snoc (x := .began s) rfl (.underWay rest silent) ?_ ?_ ?_ ?_ <;>
        simp [point]
  | @beginMute s rest u point calls unheard =>
      -- A step that makes a call runs no hook.
      have noHook : (Beat.began s).leavesHook false = false := by
        cases s <;> simp [Step.upcall?] at calls <;> rfl
      refine going.snoc (x := .began s) rfl (.poll rest) ?_ ?_ ?_ ?_
      · simp [point]
      · simp [point]
      · rw [point]
        exact noHook.symm
      · simp
  | @begin s rest u call point calls heard =>
      refine going.snoc (x := .began s) rfl (.askingStep rest rfl calls heard) ?_ ?_ ?_ ?_ <;>
        simp [point]
  | @pass gate rest point =>
      rw [append_noted_nil]
      refine going.shift rfl (.poll rest) ?_ ?_ ?_ ?_ <;> simp [point]
  | @hookMute u h rest point unheard =>
      rw [append_noted_nil]
      refine going.shift rfl (.hook h rest) ?_ ?_ ?_ ?_ <;> simp [point]
  | @hookCall u h rest call point heard =>
      rw [append_noted_nil]
      refine going.shift rfl (.askingHook h rest heard) ?_ ?_ ?_ ?_ <;> simp [point]
  | @leave h rest point =>
      refine going.snoc (x := .hookReturned none) rfl (.poll rest) ?_ ?_ ?_ ?_ <;>
        simp [point]
  | @quit h rest code point =>
      refine going.snoc (x := .hookReturned (some code)) rfl (.done _) ?_ ?_ ?_ ?_ <;>
        simp [point]
  | @panic h rest point =>
      refine going.snoc (x := .hookPanicked) rfl (.done _) ?_ ?_ ?_ ?_ <;> simp [point]

/-! ## Calls and replies -/

theorem Stands.calm_of_asked {p : Point} {call : Callback} (stands : Stands p (some call)) :
    p.fate? = none ∧ p.unrecorded? = none ∧ ∃ rest, p.left? = some rest := by
  cases stands with
  | @askingStep _ s _ _ rest point =>
      subst point
      refine ⟨s.fate?_underWay rest, ?_, rest, s.left?_underWay rest⟩
      cases s <;> rfl
  | askingStatistics taking =>
      obtain ⟨-, -, -, rest, hleft⟩ := Stands.calm_of_isTaking taking
      exact ⟨rfl, rfl, rest, hleft⟩
  | askingHook h rest => exact ⟨rfl, rfl, rest, rfl⟩

/-- Engines never call with a terminal result. -/
theorem Stands.plain {p : Point} {call : Callback} (stands : Stands p (some call))
    (result : TerminalResult) : call ≠ .terminated result := by
  rintro rfl
  cases stands with
  | askingStep rest point calls heard => exact Upcall.callback?_ne_terminated _ _ heard
  | askingStatistics taking heard => exact Upcall.callback?_ne_terminated _ _ heard
  | askingHook h rest heard => exact Upcall.callback?_ne_terminated _ _ heard

theorem reply_of_progress {r : Reply} {level : Level} {line : String}
    (fits : r.fits (.progress level line)) : r = .done ∨ r = .panic := by
  cases r <;> simp [Reply.fits] at fits ⊢

/-- Where a loop goes on with a reply: with the steps it had left, unless the reply
ends it. -/
structure GoesOn (p p' : Point) (r : Reply) : Prop where
  stands : Stands p' none
  left : ∀ rest, p'.left? = some rest → p.left? = some rest
  inHook : p'.inHook = p.inHook
  fate : p'.fate? = if p.inHook then none else r.ending?
  recorded : p'.unrecorded? = none

theorem goesOn_asking {back : Point} {r : Reply} (hr : r = .done ∨ r = .panic)
    (taking : back.isTaking = true) :
    GoesOn (.asking back) (Engine.afterReply r (.asking back)) r := by
  obtain ⟨calm, noHook, recorded, -⟩ := Stands.calm_of_isTaking taking
  rcases hr with rfl | rfl
  · have hback : Engine.afterReply .done (.asking back) = back := by
      cases back <;> simp at taking <;> rfl
    rw [hback]
    refine ⟨.of_isTaking taking, fun _ h => h, rfl, ?_, recorded⟩
    simp [calm, noHook, Reply.ending?]
  · have hdone : Engine.afterReply .panic (.asking back) = .done .panicked := by
      cases back <;> simp at taking <;> rfl
    rw [hdone]
    exact ⟨.done _, by simp, by simp [noHook], by simp [noHook, Reply.ending?], rfl⟩

theorem goesOn_askingCertificate {rest : List Step} {cert : String} {r : Reply}
    (fits : r.fits (.certificate cert) = true) :
    GoesOn (.askingCertificate rest) (Engine.afterReply r (.askingCertificate rest)) r := by
  cases r with
  | certificate decision =>
      cases decision with
      | accept => exact ⟨.recordCertificate _ (.poll rest), fun _ h => h, rfl, rfl, rfl⟩
      | reject =>
          exact ⟨.recordCertificate _ (.done _), nofun, rfl, rfl, rfl⟩
  | panic => exact ⟨.done _, nofun, rfl, rfl, rfl⟩
  | _ => simp [Reply.fits] at fits

theorem goesOn_askingForm {rest : List Step} {f : Form} {r : Reply}
    (fits : r.fits (.form f) = true) :
    GoesOn (.askingForm rest) (Engine.afterReply r (.askingForm rest)) r := by
  cases r with
  | form answered result =>
      cases result with
      | ok =>
          exact ⟨.recordForm _ (.recordSubmitted _ (.poll rest)), fun _ h => h, rfl, rfl, rfl⟩
      | newGroup => exact ⟨.recordForm _ (.poll rest), fun _ h => h, rfl, rfl, rfl⟩
      | cancelled => exact ⟨.recordForm _ (.done _), nofun, rfl, rfl, rfl⟩
      | failed => exact ⟨.recordForm _ (.done _), nofun, rfl, rfl, rfl⟩
  | panic => exact ⟨.done _, nofun, rfl, rfl, rfl⟩
  | _ => simp [Reply.fits] at fits

theorem goesOn_askingBrowser {rest : List Step} {uri : String} {r : Reply}
    (fits : r.fits (.browser uri) = true) :
    GoesOn (.askingBrowser rest) (Engine.afterReply r (.askingBrowser rest)) r := by
  cases r with
  | browser fault =>
      cases fault with
      | none => exact ⟨.recordBrowser _ (.poll rest), fun _ h => h, rfl, rfl, rfl⟩
      | some fault =>
          exact ⟨.recordBrowser _ (.done _), nofun, rfl, rfl, rfl⟩
  | panic => exact ⟨.done _, nofun, rfl, rfl, rfl⟩
  | _ => simp [Reply.fits] at fits

/-- **One reply.** The loop goes on or ends as the reply says. -/
theorem Stands.afterReply {p : Point} {call : Callback} {r : Reply}
    (stands : Stands p (some call)) (fits : r.fits call = true) :
    GoesOn p (Engine.afterReply r p) r := by
  cases stands with
  | @askingStep _ s u _ rest point calls heard =>
      subst point
      cases s with
      | progress level message =>
          cases calls
          obtain ⟨line, -, rfl⟩ := Option.map_eq_some_iff.mp heard
          exact goesOn_asking (reply_of_progress fits) rfl
      | peerCert cert =>
          cases calls
          cases heard
          exact goesOn_askingCertificate fits
      | authForm f =>
          cases calls
          cases heard
          exact goesOn_askingForm fits
      | browser uri =>
          cases calls
          cases heard
          exact goesOn_askingBrowser fits
      | connected info =>
          cases calls
          cases heard
          exact goesOn_asking (by cases r <;> simp [Reply.fits] at fits ⊢) rfl
      | reconnected =>
          cases calls
          cases heard
          exact goesOn_asking (by cases r <;> simp [Reply.fits] at fits ⊢) rfl
      | _ => simp [Step.upcall?] at calls
  | askingStatistics taking heard =>
      simp only [statistics, Upcall.callback?] at heard
      obtain ⟨line, -, rfl⟩ := Option.map_eq_some_iff.mp heard
      exact goesOn_asking (reply_of_progress fits) taking
  | askingHook h rest =>
      have hback : Engine.afterReply r (.asking (.hook h rest)) = .hook h rest := by
        cases r <;> rfl
      rw [hback]
      exact ⟨.hook h rest, fun _ h => h, rfl, by simp, rfl⟩

namespace Going

variable {e : Engine} {call : Callback} {bs : List Beat}

/-- The call that the loop waits for is made. -/
theorem hears {x : Beat} (going : Going e (some call) bs) (heard : x.isCall = true) :
    Going e (some call) (bs ++ [x]) := by
  obtain ⟨calm, -, rest, hleft⟩ := going.stands.calm_of_asked
  cases x with
  | called c | told n =>
      refine going.snoc rfl going.stands calm ?_ ?_ ?_ <;> simp [hleft, calm]
  | _ => simp [Beat.isCall] at heard

theorem reply {r : Reply} {call' : Callback} (going : Going e (some call) bs)
    (fits : r.fits call = true) :
    Going (e.moveTo (Engine.afterReply r e.point)) none (bs ++ [.replied call' r]) := by
  obtain ⟨calm, -, rest, hleft⟩ := going.stands.calm_of_asked
  obtain ⟨stands, left, hook, fate, -⟩ := going.stands.afterReply fits
  refine going.snoc rfl stands calm ⟨rest, hleft, ?_⟩ hook fate
  intro rest' h
  have hrest := left rest' h
  rw [hleft] at hrest
  exact (Option.some.inj hrest).symm

/-- A notice that went into a channel is taken without a reply. -/
theorem takeNotice (going : Going e (some call) bs) (fits : Reply.done.fits call = true) :
    Going (e.moveTo (Engine.afterReply .done e.point)) none bs := by
  obtain ⟨calm, -, -⟩ := going.stands.calm_of_asked
  obtain ⟨stands, left, hook, fate, -⟩ := going.stands.afterReply fits
  refine going.shift rfl stands ?_ left hook ?_
  · intro outcome h
    simp [h] at calm
  · rw [calm]
    exact fate.trans (by simp [Reply.ending?])

end Going

/-! ## Commands -/

namespace Queue

theorem pop?_eq_some {q q' : Queue} {c : Command} (h : q.pop? = some (c, q')) :
    q' = { q with taken := q.taken + 1 } ∧ q.entered[q.taken]? = some c := by
  unfold pop? at h
  split at h
  · simp at h
  · rename_i c' rest hpending
    cases h
    refine ⟨rfl, ?_⟩
    rw [pending] at hpending
    rw [← List.head?_drop, hpending]
    rfl

end Queue

namespace Queued

variable {e e' : Engine} {bs : List Beat} {x : Beat}

/-- The loop goes on without a beat, and takes no command. -/
theorem shift (queued : Queued e bs) (entered : e'.queue.entered = e.queue.entered)
    (taken : e'.queue.taken = e.queue.taken)
    (recorded : e'.point.unrecorded? = e.point.unrecorded?) : Queued e' bs where
  entered := entered ▸ queued.entered
  taken := by
    rw [recorded, entered, taken]
    exact queued.taken
  within := by
    rw [entered, taken]
    exact queued.within

/-- The loop goes on with a beat; if it is a command, it was the one at hand. -/
theorem snoc (queued : Queued e bs) (queue : e'.queue = e.queue)
    (own : x.isEntered = false)
    (recorded : x.command?.toList ++ e'.point.unrecorded?.toList =
      e.point.unrecorded?.toList) : Queued e' (bs ++ [x]) where
  entered := by
    rw [List.countP_append, List.countP_singleton, own, queue, queued.entered]
    rfl
  taken := by
    rw [obeyed_snoc, List.append_assoc, recorded, queue]
    exact queued.taken
  within := queue ▸ queued.within

/-- A command enters the queue. -/
theorem enter (queued : Queued e bs) (c : Command)
    (entered : e'.queue.entered = e.queue.entered ++ [c])
    (taken : e'.queue.taken = e.queue.taken) (point : e'.point = e.point) :
    Queued e' (bs ++ [.entered]) where
  entered := by
    rw [List.countP_append, entered, List.length_append, queued.entered]
    rfl
  taken := by
    rw [obeyed_snoc, entered, taken, List.take_append_of_le_length queued.within, ← queued.taken,
      point]
    simp
  within := by
    rw [entered, taken, List.length_append]
    exact Nat.le_add_right_of_le queued.within

/-- **One move.** Commands are taken in order and obeyed one at a time. -/
theorem move {m : Move} {turn : Turn Engine Note} (queued : Queued e bs)
    (stands : Stands e.point none) (moved : Engine.Moved e m turn) :
    Queued turn.engine (bs ++ noted turn.happenings) := by
  cases moved with
  | @take c queue taking popped =>
      obtain ⟨-, -, recorded, -⟩ := Stands.calm_of_isTaking taking
      obtain ⟨rfl, next⟩ := Queue.pop?_eq_some popped
      have hlt : e.queue.taken < e.queue.entered.length := (List.getElem?_eq_some_iff.mp next).1
      rw [append_noted_nil]
      -- From here on the command is at hand, until it is recorded.
      refine ⟨queued.entered, ?_, hlt⟩
      have htaken := queued.taken
      rw [recorded, Option.toList_none, List.append_nil] at htaken
      simp [htaken, List.take_add_one, next]
  | record point =>
      rw [point] at stands
      cases stands with
      | taken c taking => exact queued.snoc (x := .command c) rfl rfl (by simp [point])
      | recordCertificate raw next | recordForm raw next | recordSubmitted responses next
      | recordBrowser raw next =>
          show Queued _ (bs ++ [])
          rw [List.append_nil]
          exact queued.shift rfl rfl (by simp [point])
  | mute point =>
      rw [point] at stands
      cases stands with
      | obey _ taking =>
      obtain ⟨-, -, recorded, -⟩ := Stands.calm_of_isTaking taking
      rw [append_noted_nil]
      exact queued.shift rfl rfl (by simp [point, recorded])
  | stop point | report point | pass point | hookMute point | hookCall point =>
      rw [append_noted_nil]
      exact queued.shift rfl rfl (by simp [point])
  | runOut point | advance point | beginAlone point | beginMute point | begin point
  | leave point | quit point | panic point =>
      exact queued.snoc rfl rfl (by simp [point])

/-- Calls and notices are no commands. -/
theorem hears (queued : Queued e bs) (heard : x.isCall = true) : Queued e (bs ++ [x]) := by
  cases x with
  | called c | told n => exact queued.snoc rfl rfl rfl
  | _ => simp [Beat.isCall] at heard

/-- With a reply the loop takes no command. -/
theorem resume {call : Callback} {r : Reply} (queued : Queued e bs)
    (stands : Stands e.point (some call)) (fits : r.fits call = true) :
    Queued (e.moveTo (Engine.afterReply r e.point)) bs := by
  have before : e.point.unrecorded? = none := stands.calm_of_asked.2.1
  have after := (stands.afterReply fits).recorded
  exact queued.shift rfl rfl (after.trans before.symm)

end Queued

end TunnelControl.Scripted
