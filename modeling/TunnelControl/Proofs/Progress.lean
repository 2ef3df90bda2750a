import TunnelControl.Proofs.Scripted.Moves
import TunnelControl.Proofs.Transition

/-!
# Progress lines

Counting and writing go through a pass piece by piece, with a bound to keep at every piece. What
they come to is a matter of whole passes: `text?` is the text of a pass, and `measureFrom_eq` and
`writeWithin_eq` say that only its size counts, however it is cut into pieces.

A call of an engine with a line that is not formatted yet comes to one call of the controller with
the finished line, or to nothing at all.
-/

namespace TunnelControl
namespace Progress

/-! ## Whole passes -/

/-- The text of a pass, unless a piece of it fails. -/
def text? (p : Pass) : Option String := (p.mapM id).map String.join

section pass

variable (s : String) (p : Pass)

theorem text?_nil : text? [] = some "" := rfl

theorem text?_fail : text? (none :: p) = none := rfl

theorem text?_piece : text? (some s :: p) = (text? p).map (s ++ ·) := by
  cases rest : p.mapM id <;> simp [text?, rest]

@[simp] theorem size_empty : size "" = 0 := rfl

@[simp] theorem size_append (t : String) : size (s ++ t) = size s + size t :=
  String.utf8ByteSize_append

/-- **The first pass** comes to the size of its text, if that can be counted. -/
theorem measureFrom_eq {n : Nat} (counted : n ≤ maxSize) :
    measureFrom n p = ((text? p).map fun t => n + size t).filter (· ≤ maxSize) := by
  induction p generalizing n with
  | nil => simp [measureFrom, text?_nil, Option.filter, counted]
  | cons piece p ih =>
      cases piece with
      | none => simp [measureFrom, text?_fail]
      | some s =>
          rw [measureFrom, text?_piece, Option.map_map]
          split
          · rename_i fits
            rw [ih fits]
            simp [Function.comp_def, Nat.add_assoc]
          · rename_i overflows
            -- What follows only adds to the count, so the whole pass is not countable either.
            symm
            rw [Option.filter_eq_none_iff]
            intro m mem
            obtain ⟨t, -, rfl⟩ := Option.map_eq_some_iff.mp mem
            simp
            omega

/-- **The second pass** leaves its text behind what was in the buffer, if there is room for it. -/
theorem writeWithin_eq {limit : Nat} {buffer : String} (within : size buffer ≤ limit) :
    writeWithin limit buffer p = ((text? p).map (buffer ++ ·)).filter (size · ≤ limit) := by
  induction p generalizing buffer with
  | nil => simp [writeWithin, text?_nil, Option.filter, within]
  | cons piece p ih =>
      cases piece with
      | none => simp [writeWithin, text?_fail]
      | some s =>
          rw [writeWithin, text?_piece, Option.map_map]
          split
          · rename_i fits
            rw [ih (by rwa [size_append])]
            simp [Function.comp_def, String.append_assoc]
          · rename_i overflows
            -- A piece that is refused would not fit with the rest behind it.
            symm
            rw [Option.filter_eq_none_iff]
            intro line mem
            obtain ⟨t, -, rfl⟩ := Option.map_eq_some_iff.mp mem
            simp
            omega

end pass

section render

variable {first second : Pass}

theorem measure_eq (p : Pass) : measure p = ((text? p).map size).filter (· ≤ maxSize) := by
  simpa [measure] using measureFrom_eq p (Nat.zero_le maxSize)

theorem measure_eq_some_iff {p : Pass} {n : Nat} :
    measure p = some n ↔ ∃ t, text? p = some t ∧ size t = n ∧ n ≤ maxSize := by
  rw [measure_eq, Option.filter_eq_some_iff, Option.map_eq_some_iff]
  simp only [decide_eq_true_eq, ← exists_and_right, and_assoc]

theorem renderInto_eq (hasRoom : Nat → Bool) :
    renderInto hasRoom first second =
      (measure first).bind fun n =>
        if hasRoom n then (text? second).filter (size · ≤ n) else none := by
  refine Option.bind_congr fun n _ => ?_
  have empty : size "" ≤ n := Nat.zero_le n
  simp [writeWithin_eq second empty]

theorem renderInto_eq_some_iff {hasRoom : Nat → Bool} {line : String} :
    renderInto hasRoom first second = some line ↔
      ∃ n, measure first = some n ∧ hasRoom n = true ∧ text? second = some line ∧
        size line ≤ n := by
  rw [renderInto_eq, Option.bind_eq_some_iff]
  refine exists_congr fun n => and_congr_right fun _ => ?_
  cases hasRoom n <;> simp [Option.filter_eq_some_iff]

theorem render_eq :
    render first second = (measure first).bind fun n => (text? second).filter (size · ≤ n) := by
  simp [render, renderInto_eq]

theorem render_eq_some_iff {line : String} :
    render first second = some line ↔
      ∃ n, measure first = some n ∧ text? second = some line ∧ size line ≤ n := by
  simp [render, renderInto_eq_some_iff]

end render
end Progress

/-! ## Calls with a line -/

/-- Numbers of levels are clamped. -/
theorem Level.toInt_raw_ofRaw (n : Int32) : (ofRaw n).raw.toInt = max 0 (min n.toInt 3) := by
  have zero : n ≤ 0 ↔ n.toInt ≤ 0 := Int32.le_iff_toInt_le
  have one : n = 1 ↔ n.toInt = 1 := Int32.toInt_inj.symm
  have two : n = 2 ↔ n.toInt = 2 := Int32.toInt_inj.symm
  have raws : error.raw.toInt = 0 ∧ info.raw.toInt = 1 ∧ debug.raw.toInt = 2 ∧
      trace.raw.toInt = 3 := ⟨rfl, rfl, rfl, rfl⟩
  simp only [ofRaw, zero, one, two]
  split
  · omega
  · split
    · omega
    · split <;> omega

namespace Scripted

section hook

variable {s : Session Engine} {h : Nat} {rest : List Step} (level : Int32)
  {first second : Progress.Pass}

/-- A line that cannot be formatted reaches nobody, and the hook goes on. -/
theorem step_call_of_unformatted (runners : List Runner) (status : s.status = .running none)
    (point : s.engine.point = .hook h rest) (dropped : Progress.render first second = none) :
    s.step runners (.move (Move.call (.progress level first second))) =
      some ⟨s, [], .unchanged⟩ := by
  have unheard : (Upcall.progress level first second).callback? = none := by
    rw [Upcall.callback?, dropped]
    rfl
  have moved : s.engine.move (.call (.progress level first second)) =
      some ⟨s.engine.moveTo (.hook h rest), [], none⟩ :=
    Engine.move_of_moved (.hookMute point unheard)
  have same : s.engine.moveTo (.hook h rest) = s.engine := by rw [← point]; rfl
  rw [same] at moved
  exact Session.step_of_transition (.move status moved rfl)

/-- A finished line reaches the controller, and once it has replied the hook goes on. -/
theorem step_call_of_formatted {line : String} (runners : List Runner)
    (status : s.status = .running none) (point : s.engine.point = .hook h rest)
    (formatted : Progress.render first second = some line) :
    ∃ r, s.step runners (.move (Move.call (.progress level first second))) = some r ∧
      r.seen = [.called (.progress (Level.ofRaw level) line)] ∧
      ∀ reply : Reply, reply.fits (.progress (Level.ofRaw level) line) = true →
        r.session.step runners (.reply reply) =
          some ⟨s, [.replied (.progress (Level.ofRaw level) line) reply], .unchanged⟩ := by
  have heard : (Upcall.progress level first second).callback? =
      some (.progress (Level.ofRaw level) line) := by
    rw [Upcall.callback?, formatted]
    rfl
  have moved : s.engine.move (.call (.progress level first second)) =
      some ⟨s.engine.moveTo (.asking (.hook h rest)), [],
        some (.progress (Level.ofRaw level) line)⟩ :=
    Engine.move_of_moved (.hookCall point heard)
  refine ⟨_, Session.step_of_transition (.ask status moved rfl (fun _ => rfl) (by simp)), rfl, ?_⟩
  intro reply fits
  have back : Engine.afterReply reply (.asking (.hook h rest)) = .hook h rest := by
    cases reply <;> simp_all [Reply.fits, Engine.afterReply]
  -- A hook that asks keeps its place, so the reply brings back the session as it was.
  have same : ({ s with
      engine := (s.engine.moveTo (.asking (.hook h rest))).moveTo
        (Engine.afterReply reply (.asking (.hook h rest)))
      status := .running none } : Session Engine) = s := by
    rw [back, ← status, ← point]
    rfl
  have replied : Session.step runners (.reply reply) { s with
      engine := s.engine.moveTo (.asking (.hook h rest))
      status := .running (some (.progress (Level.ofRaw level) line)) } = _ :=
    Session.step_of_transition (.reply rfl fits)
  have quiet : reply.remark (.progress (Level.ofRaw level) line) = [] := by
    cases reply <;> simp_all [Reply.remark]
  rw [replied, quiet]
  exact congrArg (fun s' => some (⟨s', [.replied (.progress (Level.ofRaw level) line) reply],
    .unchanged⟩ : Session.Result Engine Note)) same

end hook
end Scripted

/-- **Lines are measured, then written.** The first pass comes to the size of its text, as far as
sizes can be counted; the line is the text of the second pass, if both passes succeed, there is
room, and the second is no longer than the first. So a value that formats alike each time gives
its whole text. Engines pass on a finished line once, at the clamped level, and nothing of a line
that is not finished. -/
theorem Progress.measured_then_written (first second : Pass) :
    (∀ n, measure first = some n ↔ ∃ t, text? first = some t ∧ size t = n ∧ n ≤ maxSize) ∧
    (∀ (hasRoom : Nat → Bool) (line : String), renderInto hasRoom first second = some line ↔
      ∃ n, measure first = some n ∧ hasRoom n = true ∧ text? second = some line ∧ size line ≤ n) ∧
    (∀ line, text? first = some line → text? second = some line → size line ≤ maxSize →
      measure first = some (size line) ∧ render first second = some line) ∧
    (∀ level : Int32, (Level.ofRaw level).raw.toInt = max 0 (min level.toInt 3)) ∧
    ∀ (runners : List Runner) (s : Session Scripted.Engine) (h : Nat) (rest : List Scripted.Step)
      (level : Int32), s.status = .running none → s.engine.point = .hook h rest →
      (render first second = none →
        s.step runners (.move (Scripted.Move.call (.progress level first second))) =
          some ⟨s, [], .unchanged⟩) ∧
      ∀ line, render first second = some line →
        ∃ r, s.step runners (.move (Scripted.Move.call (.progress level first second))) = some r ∧
          r.seen = [.called (.progress (Level.ofRaw level) line)] ∧
          ∀ reply : Reply, reply.fits (.progress (Level.ofRaw level) line) = true →
            r.session.step runners (.reply reply) =
              some ⟨s, [.replied (.progress (Level.ofRaw level) line) reply], .unchanged⟩ := by
  refine ⟨fun n => measure_eq_some_iff, fun hasRoom line => renderInto_eq_some_iff, ?_,
    Level.toInt_raw_ofRaw, ?_⟩
  · intro line text text' countable
    have measured : measure first = some (size line) :=
      measure_eq_some_iff.mpr ⟨line, text, rfl, countable⟩
    exact ⟨measured, render_eq_some_iff.mpr ⟨_, measured, text', Nat.le_refl _⟩⟩
  · intro runners s h rest level status point
    exact ⟨Scripted.step_call_of_unformatted level runners status point,
      fun line => Scripted.step_call_of_formatted level runners status point⟩

/-- A session whose loop is inside a hook, the first of its script. -/
def Scripted.hookedSession : Session Scripted.Engine where
  id := ⟨1⟩
  userAgent := "agent"
  engine := ⟨0, ⟨[], 0, false, none⟩, Queue.new, .hook 0 []⟩
  lifecycle := .handler
  runner := none
  status := .running none

/-- A value that comes in other pieces the next time gives its whole text. One that takes five
bytes at first and then four reaches the controller as in the second pass, as detailed as lines
can be. -/
theorem Progress.unsteady_lines_called :
    (measure [some "né", some "!"] = some 4 ∧
      render [some "né", some "!"] [some "n", some "é!"] = some "né!") ∧
    ∃ r, Scripted.hookedSession.step [] (.move (Scripted.Move.call
        (.progress 9 [some "né", some " !"] [some "n", some "é!"]))) = some r ∧
      r.seen = [.called (.progress .trace "né!")] := by
  obtain ⟨-, -, whole, -, -⟩ :=
    Progress.measured_then_written [some "né", some "!"] [some "n", some "é!"]
  obtain ⟨-, -, -, -, calls⟩ :=
    Progress.measured_then_written [some "né", some " !"] [some "n", some "é!"]
  obtain ⟨r, stepped, seen, -⟩ :=
    (calls [] Scripted.hookedSession 0 [] 9 rfl rfl).2 "né!" (by decide +kernel)
  exact ⟨whole "né!" (by decide +kernel) (by decide +kernel) (by decide +kernel), r, stepped, seen⟩

end TunnelControl
