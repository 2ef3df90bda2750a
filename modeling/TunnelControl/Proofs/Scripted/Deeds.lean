import TunnelControl.Proofs.Order
import TunnelControl.Proofs.Scripted.Steps

/-!
# Commands and the calls that they make

A call is made by the step or by the command that was the last to begin. Of all that
a loop does, `deeds` keeps the commands and the calls that they make: each request for
statistics makes one call, before the next command is recorded, and the other commands
make none.
-/

namespace TunnelControl

/-- The calls that a command makes. -/
def Command.calls : Command → List Callback
  | .stats => [.progress .info "statistics requested"]
  | .cancel | .detach | .pause => []

namespace Scripted

/-! ## What the loop is about -/

/-- What the loop is in the middle of. -/
inductive Business
  /-- It is about to run a step, ahead of which it found no command. -/
  | step
  /-- It is about to obey a command that has been recorded. -/
  | command (c : Command)
  | hook
  deriving DecidableEq

@[simp] def Point.business? : Point → Option Business
  | .step .. => some .step
  | .obey c _ => some (.command c)
  | .hook .. => some .hook
  | .record (.command _) _ => none
  | .record _ next => next.business?
  | .asking back => back.business?
  | _ => none

@[simp] theorem Step.business?_underWay (s : Step) (rest : List Step) :
    (s.underWay rest).business? = if s.isHook then some .hook else none := by
  cases s <;> rfl

theorem Point.business?_of_isTaking {p : Point} (taking : p.isTaking = true) :
    p.business? = none := by
  cases p <;> simp at taking <;> rfl

/-- With a reply the loop goes on with what it was about, or with nothing. -/
theorem business?_afterReply (r : Reply) (p : Point) :
    (Engine.afterReply r p).business? = p.business? ∨
      (Engine.afterReply r p).business? = none := by
  unfold Engine.afterReply
  split
  · exact Or.inl rfl
  · exact Or.inl rfl
  · exact Or.inl rfl
  · exact Or.inl rfl
  · exact Or.inl rfl
  · refine Or.inr ?_
    show Point.business? (if _ then _ else _) = none
    split <;> rfl
  · rename_i f result
    refine Or.inr ?_
    show (Engine.afterForm f (FormResult.ofRaw result.raw) _).business? = none
    cases FormResult.ofRaw result.raw <;> rfl
  · refine Or.inr ?_
    show Point.business? (if _ then _ else _) = none
    split <;> rfl
  · exact Or.inr rfl

/-- A loop that waits for a reply is in a hook or in the middle of nothing. -/
theorem Stands.business?_of_asked {p : Point} {call : Callback} (stands : Stands p (some call)) :
    p.business? = none ∨ p.business? = some .hook := by
  cases stands with
  | @askingStep _ s u _ rest point calls heard =>
      subst point
      rw [Step.business?_underWay]
      split <;> simp
  | askingStatistics taking =>
      have calm := Point.business?_of_isTaking taking
      exact Or.inl calm
  | askingHook => exact Or.inr rfl

theorem Stands.business?_ne_command {p : Point} {call : Callback}
    (stands : Stands p (some call)) (c : Command) : p.business? ≠ some (.command c) := by
  rcases stands.business?_of_asked with none | hook
  · simp [none]
  · simp [hook]

/-! ## Calls that commands make -/

namespace Beat

/-- Whether a command, rather than a step, is the last to have begun after the beat,
if `b` tells so of the time before it. -/
def atCommand (b : Bool) : Beat → Bool
  | .command _ => true
  | .began _ => false
  | .entered | .foundEmpty _ | .called _ | .told _ | .replied .. | .hookReturned _
  | .hookPanicked => b

/-- Whether the beat is a command or, after a command, a call. -/
def isDeed (b : Bool) : Beat → Bool
  | .command _ => true
  | .called _ | .told _ => b
  | .entered | .foundEmpty _ | .began _ | .replied .. | .hookReturned _ | .hookPanicked => false

end Beat

/-- Whether a command, rather than a step, was the last to begin. -/
def atCommand (bs : List Beat) : Bool := bs.foldl Beat.atCommand false

/-- The commands and the calls that they make. -/
def deeds (bs : List Beat) : List Beat :=
  emitted Beat.atCommand (fun b x => if x.isDeed b then [x] else []) false bs

/-- What a command comes to: it is recorded, and then makes its calls. -/
def deedsOf (c : Command) : List Beat := .command c :: c.calls.map .called

theorem deeds_snoc (bs : List Beat) (x : Beat) :
    deeds (bs ++ [x]) = deeds bs ++ if x.isDeed (atCommand bs) then [x] else [] :=
  emitted_snoc x

theorem atCommand_snoc (bs : List Beat) (x : Beat) :
    atCommand (bs ++ [x]) = x.atCommand (atCommand bs) := by
  rw [atCommand, List.foldl_append]
  rfl

/-- The calls that are still to be made for the last command recorded. -/
def Point.owed (p : Point) : List Callback :=
  match p.business? with
  | some (.command c) => c.calls
  | _ => []

theorem Point.owed_cases (p : Point) : p.owed = [] ∨ p.owed = Command.stats.calls := by
  unfold owed
  split
  · rename_i c _
    cases c <;> simp [Command.calls]
  · exact Or.inl rfl

/-- **Commands and their calls.** Each command has made its calls, but for the last
one where it is still to be obeyed. -/
structure Ordered (p : Point) (bs : List Beat) : Prop where
  paid : deeds bs ++ p.owed.map .called = (obeyed bs).flatMap deedsOf
  obeying : ∀ c, p.business? = some (.command c) → atCommand bs = true
  hooked : p.business? = some .hook → atCommand bs = false

namespace Ordered

variable {p p' : Point} {bs : List Beat} {x : Beat}

/-- The loop goes on without a beat. -/
theorem shift (ordered : Ordered p bs) (owed : p'.owed = p.owed)
    (business : p'.business? = p.business? ∨ p'.business? = none ∨ p'.business? = some .step) :
    Ordered p' bs where
  paid := by rw [owed, ordered.paid]
  obeying c h := by
    rcases business with same | none | step
    · exact ordered.obeying c (same ▸ h)
    · simp [none] at h
    · simp [step] at h
  hooked h := by
    rcases business with same | none | step
    · exact ordered.hooked (same ▸ h)
    · simp [none] at h
    · simp [step] at h

/-- A beat that is neither a command nor a call of one, nor the beginning of a step. -/
theorem snoc (ordered : Ordered p bs) (command : x.command? = none)
    (deed : x.isDeed (atCommand bs) = false)
    (place : x.atCommand (atCommand bs) = atCommand bs) :
    Ordered p (bs ++ [x]) where
  paid := by
    rw [deeds_snoc, deed, obeyed_snoc, command]
    simpa using ordered.paid
  obeying c h := by
    rw [atCommand_snoc, place]
    exact ordered.obeying c h
  hooked h := by
    rw [atCommand_snoc, place]
    exact ordered.hooked h

/-- A step begins. -/
theorem beginStep {s : Step} (ordered : Ordered p bs) (owed : p.owed = []) (owed' : p'.owed = [])
    (business : ∀ c, p'.business? ≠ some (.command c)) : Ordered p' (bs ++ [.began s]) where
  paid := by
    rw [deeds_snoc, obeyed_snoc, owed']
    simpa [owed, Beat.isDeed] using ordered.paid
  obeying c h := absurd h (business c)
  hooked _ := by
    rw [atCommand_snoc]
    rfl

/-- A call of the step that began last is heard. -/
theorem hear (ordered : Ordered p bs) (calm : atCommand bs = false)
    (heard : x.isCall = true) : Ordered p (bs ++ [x]) := by
  cases x with
  | called c | told n => exact ordered.snoc rfl calm rfl
  | _ => simp [Beat.isCall] at heard

end Ordered

theorem Point.owed_of_business? {p : Point} (h : ∀ c, p.business? ≠ some (.command c)) :
    p.owed = [] := by
  unfold owed
  split
  · rename_i c hc
    exact absurd hc (h c)
  · rfl

theorem calls_of_ending? {c : Command} {outcome : Outcome} (ends : c.ending? = some outcome) :
    c.calls = [] := by
  cases c <;> first | rfl | simp [Command.ending?] at ends

theorem callback?_statistics :
    statistics.callback? = some (.progress .info "statistics requested") := rfl

/-- **One move** that calls nobody. -/
theorem Ordered.move {e : Engine} {m : Move} {turn : Turn Engine Note} {bs : List Beat}
    (ordered : Ordered e.point bs) (stands : Stands e.point none) (moved : Engine.Moved e m turn)
    (silent : turn.call = none) : Ordered turn.engine.point (bs ++ noted turn.happenings) := by
  cases moved with
  | @take c queue taking popped =>
      have calm := Point.business?_of_isTaking taking
      rw [append_noted_nil]
      exact ordered.shift (by simp [Point.owed, calm]) (Or.inr (Or.inl rfl))
  | runOut point empty =>
      refine (ordered.snoc (x := .foundEmpty []) rfl rfl rfl).shift ?_ ?_ <;>
        simp [Point.owed, point]
  | @advance s rest point empty =>
      refine (ordered.snoc (x := .foundEmpty (s :: rest)) rfl rfl rfl).shift ?_ ?_ <;>
        simp [Point.owed, point]
  | @record n next point =>
      rw [point] at stands
      cases stands with
      | taken c taking =>
          refine ⟨?_, fun c' h => ?_, fun h => ?_⟩
          · have paid := ordered.paid
            simp only [point, Point.owed, Point.business?, List.map_nil, List.append_nil] at paid
            show deeds (bs ++ [.command c]) ++ c.calls.map .called =
              (obeyed (bs ++ [.command c])).flatMap deedsOf
            rw [deeds_snoc, obeyed_snoc, paid]
            simp [Beat.isDeed, deedsOf]
          · show atCommand (bs ++ [.command c]) = true
            rw [atCommand_snoc]
            rfl
          · simp at h
      | recordCertificate raw next | recordForm raw next | recordSubmitted responses next
      | recordBrowser raw next =>
          show Ordered _ (bs ++ [])
          rw [List.append_nil]
          refine ordered.shift ?_ (Or.inl ?_) <;> simp [Point.owed, point]
  | @stop c back outcome point ends =>
      rw [append_noted_nil]
      refine ordered.shift ?_ (Or.inr (Or.inl rfl))
      simp [Point.owed, point, calls_of_ending? ends]
  | mute point goesOn unheard => cases unheard
  | @beginAlone s rest point alone =>
      refine ordered.beginStep (s := s) (by simp [Point.owed, point]) ?_ ?_
      · refine Point.owed_of_business? ?_
        cases s <;> simp
      · cases s <;> simp
  | @beginMute s rest u point calls unheard =>
      refine ordered.beginStep (s := s) ?_ ?_ ?_ <;> simp [Point.owed, point]
  | pass point | hookMute point =>
      rw [append_noted_nil]
      refine ordered.shift ?_ ?_ <;> simp [Point.owed, point]
  | leave point | quit point | panic point =>
      refine (ordered.snoc rfl rfl rfl).shift ?_ ?_ <;> simp [Point.owed, point]
  | report | begin | hookCall => simp at silent

/-- With a reply the loop has nothing left to do for a command. -/
theorem Ordered.afterReply {p : Point} {call : Callback} {bs : List Beat} (ordered : Ordered p bs)
    (waits : Stands p (some call)) (r : Reply) : Ordered (Engine.afterReply r p) bs := by
  have after := business?_afterReply r p
  refine ordered.shift ?_ (after.imp id Or.inl)
  rw [Point.owed_of_business? waits.business?_ne_command]
  refine Point.owed_of_business? fun c h => ?_
  rcases after with same | none
  · exact waits.business?_ne_command c (same ▸ h)
  · simp [none] at h

/-- The call of a step is heard, or told and taken. -/
theorem Ordered.brought {call : Callback} {e e' : Engine} {bs : List Beat}
    {new : List (Event Note)} (ordered : Ordered e.point bs) (calm : atCommand bs = false)
    (waits : Stands e.point (some call)) (brought : Brought call e e' new) :
    Ordered e'.point (bs ++ beats new) := by
  obtain ⟨x, beat, heard⟩ := brought.heard waits
  rw [beat]
  have hears := ordered.hear calm heard
  rcases brought.point with same | ⟨-, taken⟩
  · exact same ▸ hears
  · exact taken ▸ hears.afterReply waits .done

/-- **One move** that makes a call. -/
theorem Ordered.call {e e' : Engine} {m : Move} {turn : Turn Engine Note} {call : Callback}
    {bs : List Beat} {new : List (Event Note)} (ordered : Ordered e.point bs)
    (stands : Stands e.point none) (moved : Engine.Moved e m turn)
    (calls : turn.call = some call) (waits : Stands turn.engine.point (some call))
    (brought : Brought call turn.engine e' new) :
    Ordered e'.point (bs ++ noted turn.happenings ++ beats new) := by
  cases moved with
  | @report c back call' point goesOn heard =>
      rw [point] at stands
      cases stands with
      | obey _ taking =>
      cases calls
      -- The only command that goes on is the one that asks for statistics.
      cases c <;> simp [Command.ending?] at goesOn
      rw [callback?_statistics] at heard
      cases heard
      have calm : back.business? = none := Point.business?_of_isTaking taking
      have place : atCommand bs = true := ordered.obeying .stats (by simp [point])
      have paid := ordered.paid
      simp only [point, Point.owed, Point.business?] at paid
      cases brought with
      | asked =>
          rw [append_noted_nil, beats_append, beats_logs, beats_cons, beat?_called waits.plain]
          refine ⟨?_, fun c h => ?_, fun h => ?_⟩
          · show deeds (bs ++ [_]) ++ _ = (obeyed (bs ++ [_])).flatMap deedsOf
            rw [Point.owed_of_business? (by simp [calm]), deeds_snoc, obeyed_snoc, place]
            simpa [Beat.isDeed, Command.calls] using paid
          · exact absurd (calm.symm.trans h) nofun
          · exact absurd (calm.symm.trans h) nofun
      | told isNotice => simp [Callback.notice?] at isNotice
  | @begin s rest u call' point calls' heard =>
      cases calls
      have noHook : s.isHook = false := by
        cases s <;> simp [Step.upcall?] at calls' <;> rfl
      have business : (s.underWay rest).business? = none := by
        rw [Step.business?_underWay, noHook]
        rfl
      have begun : Ordered (s.underWay rest) (bs ++ [.began s]) := by
        refine ordered.beginStep ?_ ?_ ?_ <;> simp [Point.owed, point, business]
      exact begun.brought (atCommand_snoc bs (.began s)) waits brought
  | @hookCall u h rest call' point heard =>
      cases calls
      rw [append_noted_nil]
      have calm : atCommand bs = false := ordered.hooked (by simp [point])
      have asking : Ordered (.asking (.hook h rest)) bs :=
        ordered.shift (by simp [Point.owed, point]) (Or.inl (by simp [point]))
      exact asking.brought calm waits brought
  | _ => simp at calls

/-- **One step of a session.** -/
theorem Ordered.stepped {e e' : Engine} {h new : List (Event Note)}
    (ordered : Ordered e.point (beats h)) (stepped : Stepped e e' new) :
    Ordered e'.point (beats (h ++ new)) := by
  rw [beats_append]
  cases stepped with
  | rest script point entered loans quiet =>
      rw [beats_of_quiet quiet, List.append_nil, point]
      exact ordered
  | send used =>
      rcases beats_of_send used with none | entered
      · rw [none, List.append_nil]
        exact ordered
      · rw [entered]
        exact ordered.snoc rfl rfl rfl
  | enter point =>
      show Ordered _ (beats h ++ [])
      rw [List.append_nil]
      refine ordered.shift ?_ (Or.inr (Or.inl rfl))
      simp [Point.owed, point]
  | move stands moved silent => exact ordered.move stands moved silent
  | call stands moved calls waits brought =>
      rw [beats_append, ← List.append_assoc]
      exact ordered.call stands moved calls waits brought
  | @reply r call stands fits =>
      rw [beats_cons, beat?_replied stands.plain, beats_logs]
      have replied : Ordered e.point (beats h ++ [.replied call r]) := ordered.snoc rfl rfl rfl
      exact replied.afterReply stands r

end Scripted
end TunnelControl
