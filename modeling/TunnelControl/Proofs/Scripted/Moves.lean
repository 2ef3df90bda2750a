import TunnelControl.Proofs.Scripted.Beats

/-!
# What a move does to a scripted engine

`Moved` lists what the main loop of a scripted engine can do, with everything that
has to hold for it; `moved_of_move` says that there is nothing else, and `move_of_moved`
that all of it can be done. Invariants of the loop are proved from here, and nothing else
unfolds `Engine.move`.
-/

namespace TunnelControl.Scripted

/-- The call that a step makes, if it makes one. -/
def Step.upcall? : Step → Option Upcall
  | .progress level message =>
    some (.progress level (Progress.plain message) (Progress.plain message))
  | .peerCert cert => some (.certificate cert)
  | .authForm f => some (.form f)
  | .browser uri => some (.browser uri)
  | .connected info => some (.connected info)
  | .reconnected => some .reconnected
  | .idle | .waitFor _ | .invoke _ => none

/-- Where the loop stands once a step has begun, unless its call reaches nobody. -/
def Step.underWay (rest : List Step) : Step → Point
  | .peerCert _ => .askingCertificate rest
  | .authForm _ => .askingForm rest
  | .browser _ => .askingBrowser rest
  | .idle => .idle rest
  | .waitFor gate => .waiting gate rest
  | .invoke h => .hook h rest
  | _ => .asking (.poll rest)

/-- The call by which statistics are given. -/
def statistics : Upcall :=
  let line := Progress.plain "statistics requested"
  .progress Level.info.raw line line

/-- Whether the loop takes commands here. -/
@[simp] def Point.isTaking : Point → Bool
  | .poll _ | .idle _ => true
  | _ => false

namespace Engine

theorem begin_eq (e : Engine) (s : Step) (rest : List Step) :
    e.begin s rest =
      match s.upcall? with
      | none => ⟨e.moveTo (s.underWay rest), [.note (.began s)], none⟩
      | some u => e.callUp u (.poll rest) (s.underWay rest) [.note (.began s)] := by
  cases s <;> rfl

/-- What a move of the main loop can come to. -/
inductive Moved (e : Engine) : Move → Turn Engine Note → Prop
  | take {c queue} (taking : e.point.isTaking = true) (popped : e.queue.pop? = some (c, queue)) :
      Moved e .go ⟨{ e with queue, point := .record (.command c) (.obey c e.point) }, [], none⟩
  | runOut (point : e.point = .poll []) (empty : e.queue.pop? = none) :
      Moved e .go
        ⟨e.moveTo (.done (.returned e.script.exitCode)), [.note (.foundEmpty [])], none⟩
  | advance {s rest} (point : e.point = .poll (s :: rest)) (empty : e.queue.pop? = none) :
      Moved e .go ⟨e.moveTo (.step s rest), [.note (.foundEmpty (s :: rest))], none⟩
  | record {n next} (point : e.point = .record n next) :
      Moved e .go ⟨e.moveTo next, noted n.note, none⟩
  /-- A command ends the loop. -/
  | stop {c back outcome} (point : e.point = .obey c back) (ends : c.ending? = some outcome) :
      Moved e .go ⟨e.moveTo (.done outcome), [], none⟩
  /-- A command asks for statistics, which reach nobody. -/
  | mute {c back} (point : e.point = .obey c back) (goesOn : c.ending? = none)
      (unheard : statistics.callback? = none) : Moved e .go ⟨e.moveTo back, [], none⟩
  | report {c back call} (point : e.point = .obey c back) (goesOn : c.ending? = none)
      (heard : statistics.callback? = some call) :
      Moved e .go ⟨e.moveTo (.asking back), [], some call⟩
  /-- A step begins that makes no call. -/
  | beginAlone {s rest} (point : e.point = .step s rest) (silent : s.upcall? = none) :
      Moved e .go ⟨e.moveTo (s.underWay rest), [.note (.began s)], none⟩
  /-- A step begins whose call reaches nobody. -/
  | beginMute {s rest u} (point : e.point = .step s rest) (calls : s.upcall? = some u)
      (unheard : u.callback? = none) :
      Moved e .go ⟨e.moveTo (.poll rest), [.note (.began s)], none⟩
  | begin {s rest u call} (point : e.point = .step s rest) (calls : s.upcall? = some u)
      (heard : u.callback? = some call) :
      Moved e .go ⟨e.moveTo (s.underWay rest), [.note (.began s)], some call⟩
  | pass {gate rest} (point : e.point = .waiting gate rest) :
      Moved e .pass ⟨e.moveTo (.poll rest), [], none⟩
  /-- A call of a hook reaches nobody. -/
  | hookMute {u h rest} (point : e.point = .hook h rest) (unheard : u.callback? = none) :
      Moved e (.call u) ⟨e.moveTo (.hook h rest), [], none⟩
  | hookCall {u h rest call} (point : e.point = .hook h rest)
      (heard : u.callback? = some call) :
      Moved e (.call u) ⟨e.moveTo (.asking (.hook h rest)), [], some call⟩
  | leave {h rest} (point : e.point = .hook h rest) :
      Moved e (.leave none) ⟨e.moveTo (.poll rest), [.note (.hookReturned none)], none⟩
  /-- A hook ends the loop. -/
  | quit {h rest code} (point : e.point = .hook h rest) :
      Moved e (.leave (some code))
        ⟨e.moveTo (.done (.returned code)), [.note (.hookReturned (some code))], none⟩
  | panic {h rest} (point : e.point = .hook h rest) :
      Moved e .panic ⟨e.moveTo (.done .panicked), [.note .hookPanicked], none⟩

theorem moved_of_obey {e : Engine} {c : Command} {back : Point} (point : e.point = .obey c back) :
    Moved e .go (e.obey c back) := by
  cases c with
  | cancel => exact .stop point rfl
  | detach => exact .stop point rfl
  | pause => exact .stop point rfl
  | stats =>
      cases heard : statistics.callback? with
      | none =>
          have hturn : e.obey .stats back = ⟨e.moveTo back, [], none⟩ := by
            unfold statistics at heard
            simp only [obey, callUp, heard]
          exact hturn ▸ .mute point rfl heard
      | some call =>
          have hturn : e.obey .stats back = ⟨e.moveTo (.asking back), [], some call⟩ := by
            unfold statistics at heard
            simp only [obey, callUp, heard]
          exact hturn ▸ .report point rfl heard

theorem moved_of_begin {e : Engine} {s : Step} {rest : List Step}
    (point : e.point = .step s rest) : Moved e .go (e.begin s rest) := by
  rw [begin_eq]
  cases calls : s.upcall? with
  | none => exact .beginAlone point calls
  | some u =>
      simp only [callUp]
      cases heard : u.callback? with
      | none => exact .beginMute point calls heard
      | some call => exact .begin point calls heard

/-- **The list is complete.** Whatever a move makes of a scripted engine is listed. -/
theorem moved_of_move {m : Move} {e : Engine} {turn : Turn Engine Note}
    (h : e.move m = some turn) : Moved e m turn := by
  unfold move at h
  split at h
  · rename_i rest point
    cases popped : e.queue.pop? with
    | some taken =>
        obtain ⟨c, queue⟩ := taken
        simp only [take?, popped, Option.map_some, Option.getD_some, Option.some.injEq] at h
        have hpoint : Point.poll rest = e.point := point.symm
        rw [← h, hpoint]
        exact .take (by rw [point]; rfl) popped
    | none =>
        simp only [take?, popped, Option.map_none, Option.getD_none, Option.some.injEq] at h
        subst h
        cases rest with
        | nil => exact .runOut point popped
        | cons s rest => exact .advance point popped
  · rename_i n next point
    cases h
    exact .record point
  · rename_i c back point
    cases h
    exact moved_of_obey point
  · rename_i s rest point
    cases h
    exact moved_of_begin point
  · rename_i rest point
    obtain ⟨⟨c, queue⟩, popped, rfl⟩ := Option.map_eq_some_iff.mp h
    have hpoint : Point.idle rest = e.point := point.symm
    rw [hpoint]
    exact .take (by rw [point]; rfl) popped
  · rename_i gate rest point
    cases h
    exact .pass point
  · rename_i u hook rest point
    cases h
    unfold callUp
    cases heard : u.callback? with
    | none => exact .hookMute point heard
    | some call => exact .hookCall point heard
  · rename_i code hook rest point
    cases h
    cases code with
    | none => exact .leave point
    | some code => exact .quit point
  · rename_i hook rest point
    cases h
    exact .panic point
  · simp at h

/-- **The list is sound.** Whatever is listed is what the move makes of the engine. -/
theorem move_of_moved {m : Move} {e : Engine} {turn : Turn Engine Note} (moved : Moved e m turn) :
    e.move m = some turn := by
  cases moved with
  | @take c queue taking popped =>
      cases point : e.point <;> simp [point] at taking <;> simp [move, point, take?, popped]
  | runOut point empty | advance point empty => simp [move, point, take?, empty]
  | record point | pass point | panic point | leave point | quit point => simp [move, point]
  | @stop c back outcome point ends =>
      cases c <;> cases ends <;> simp [move, point, obey]
  | @mute c back point goesOn unheard =>
      cases c <;> cases goesOn
      unfold statistics at unheard
      simp only [move, point, obey, callUp, unheard]
  | @report c back call point goesOn heard =>
      cases c <;> cases goesOn
      unfold statistics at heard
      simp only [move, point, obey, callUp, heard]
  | beginAlone point silent => simp [move, point, begin_eq, silent]
  | beginMute point calls unheard => simp [move, point, begin_eq, calls, callUp, unheard]
  | begin point calls heard => simp [move, point, begin_eq, calls, callUp, heard]
  | hookMute point unheard => simp [move, point, callUp, unheard]
  | hookCall point heard => simp [move, point, callUp, heard]

end Engine
end TunnelControl.Scripted
