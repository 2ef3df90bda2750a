import TunnelControl.Proofs.Order
import TunnelControl.Proofs.Scripted.Steps
import Mathlib.Logic.Function.Basic

/-!
# What sends bring into the queue

Sends of any number of threads interleave step by step. `accepted` reads off what
they tell of themselves which commands came into the queue, and in which order; the
queue has exactly these (`Tracked`), whatever the loop takes from it.
-/

namespace TunnelControl.Scripted

/-- For each token the command of the last send that began with it. -/
def SendNote.open (under : Nat → Option Command) : SendNote → Nat → Option Command
  | .began token c => Function.update under token (some c)
  | .entered _ | .ended .. => under

/-- The command that enters the queue, where `under` tells of the sends that began. -/
def SendNote.enters? (under : Nat → Option Command) : SendNote → Option Command
  | .entered token => under token
  | .began .. | .ended .. => none

/-- The sends that have begun, by their tokens. -/
def underWay (ns : List SendNote) : Nat → Option Command := ns.foldl SendNote.open fun _ => none

/-- The commands that sends brought into the queue, in the order in which they
entered it. -/
def accepted (ns : List SendNote) : List Command :=
  emitted SendNote.open (fun under n => (n.enters? under).toList) (fun _ => none) ns

theorem accepted_append (ns ns' : List SendNote) :
    accepted (ns ++ ns') = accepted ns ++
      emitted SendNote.open (fun under n => (n.enters? under).toList) (underWay ns) ns' :=
  emitted_append ns'

theorem underWay_append (ns ns' : List SendNote) :
    underWay (ns ++ ns') = ns'.foldl SendNote.open (underWay ns) :=
  List.foldl_append

/-- The queue and its loans are what the sends told. -/
structure Tracked (q : Queue) (ns : List SendNote) : Prop where
  entered : accepted ns = q.entered
  loans : ∀ l ∈ q.loans, underWay ns l.token = some l.command

/-- **One step of a send.** -/
theorem Tracked.step {q q' : Queue} {act : QueueAct} {ns notes : List SendNote}
    (tracked : Tracked q ns) (used : q.step? act = some (q', notes)) :
    Tracked q' (ns ++ notes) := by
  cases act with
  | borrow token c =>
      simp only [Queue.step?] at used
      split at used
      · simp at used
      · rename_i unused
        -- Opening a send changes nothing for the sends that are under way.
        have others : ∀ l ∈ q.loans, Function.update (underWay ns) token (some c) l.token =
            some l.command := by
          intro l hl
          have hne : l.token ≠ token := by
            intro h
            exact unused (List.any_eq_true.mpr ⟨l, hl, by simp [h]⟩)
          rw [Function.update_of_ne hne]
          exact tracked.loans l hl
        split at used
        · cases used
          refine ⟨by simpa [accepted_append, emitted, SendNote.enters?] using tracked.entered,
            ?_⟩
          intro l hl
          rw [underWay_append]
          rcases List.mem_append.mp hl with hl | hl
          · exact others l hl
          · cases List.mem_singleton.mp hl
            exact Function.update_self ..
        · cases used
          refine ⟨by simpa [accepted_append, emitted, SendNote.enters?] using tracked.entered,
            ?_⟩
          intro l hl
          rw [underWay_append]
          exact others l hl
  | enter token =>
      obtain ⟨loan, found, h⟩ := Option.map_eq_some_iff.mp used
      cases h
      have hloan : underWay ns token = some loan.command := by
        have htoken := List.find?_some found
        simp only [Bool.and_eq_true, beq_iff_eq] at htoken
        rw [← htoken.1]
        exact tracked.loans loan (List.mem_of_find?_eq_some found)
      refine ⟨?_, ?_⟩
      · simp [accepted_append, emitted, SendNote.enters?, hloan, tracked.entered]
      · intro l hl
        obtain ⟨l', hl', rfl⟩ := List.mem_map.mp hl
        rw [underWay_append]
        have before := tracked.loans l' hl'
        split <;> exact before
  | giveBack token =>
      obtain ⟨loan, -, h⟩ := Option.map_eq_some_iff.mp used
      cases h
      refine ⟨by simpa [accepted_append, emitted, SendNote.enters?] using tracked.entered, ?_⟩
      intro l hl
      rw [underWay_append]
      exact tracked.loans l (List.mem_filter.mp hl).1

theorem Tracked.stepped {e e' : Engine} {h new : List (Event Note)}
    (tracked : Tracked e.queue (sends h)) (stepped : Stepped e e' new) :
    Tracked e'.queue (sends (h ++ new)) := by
  rw [sends_append]
  -- Only a step of a send makes a difference.
  have stays : ∀ {q : Queue} {ns : List SendNote}, q.entered = e.queue.entered →
      q.loans = e.queue.loans → ns = [] → Tracked q (sends h ++ ns) := by
    rintro q ns entered loans rfl
    rw [List.append_nil]
    exact ⟨entered ▸ tracked.entered, loans ▸ tracked.loans⟩
  cases stepped with
  | rest script point entered loans quiet => exact stays entered loans (sends_of_quiet quiet)
  | send used =>
      rw [sends_notes]
      exact tracked.step used
  | enter point => exact stays rfl rfl rfl
  | move stands moved =>
      obtain ⟨-, entered, loans⟩ := moved.frame
      exact stays entered loans moved.sends_happenings
  | call stands moved calls waits brought =>
      obtain ⟨-, entered, loans⟩ := moved.frame
      obtain ⟨-, queue, silent, -⟩ := brought.frame
      rw [sends_append, moved.sends_happenings, silent]
      exact stays (queue ▸ entered) (queue ▸ loans) rfl
  | reply stands fits =>
      refine stays rfl rfl ?_
      exact sends_logs _

end TunnelControl.Scripted
