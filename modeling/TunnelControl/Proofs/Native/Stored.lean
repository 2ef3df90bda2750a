import TunnelControl.Proofs.Handling
import TunnelControl.Proofs.Native.Work

/-!
# What only configuring stores

The script for the tunnel and the wrapper for the host scan are stored on a native engine as it is
configured, long before anybody reads them. However else the engine is handled, they stay what they
are, and the library is asked for no setting.
-/

namespace TunnelControl.Native

/-- Whether the call makes a setting. -/
def Call.isSetting : Call → Bool
  | .setLogLevel _ | .setProtocol _ | .parseUrl _ | .setDpd _ | .allowInsecureCrypto _
  | .setupCsd .. => true
  | _ => false

/-- None of the notes is a call that makes a setting. -/
def Unset (ns : List Note) : Prop := ∀ c, .call c ∈ ns → c.isSetting = false

theorem unset_nil : Unset [] := by simp [Unset]

theorem Unset.append {ns ns' : List Note} (h : Unset ns) (h' : Unset ns') : Unset (ns ++ ns') :=
  fun c mem => (List.mem_append.mp mem).elim (h c) (h' c)

theorem unset_called {c : Call} (other : c.isSetting = false) :
    Unset (notesOf (Engine.called c)) := by
  intro c' mem
  cases List.mem_singleton.mp mem
  exact other

theorem unset_of_isOfLoop {ns : List Note} (ofLoop : ∀ n ∈ ns, n.isOfLoop = true) : Unset ns := by
  intro c mem
  have ofLoop : c.isOfLoop = true := ofLoop _ mem
  cases c <;> first | rfl | cases ofLoop

namespace Engine

variable {e : Engine}

/-- What is stored on both engines is the same, and nothing was set meanwhile. -/
structure Keeps (e e' : Engine) (ns : List Note) : Prop where
  tunScript : e'.tunScript = e.tunScript
  csdWrapper : e'.csdWrapper = e.csdWrapper
  unset : Unset ns

theorem keeps_of_onlyMoves {s : Engine × Happenings} (moves : OnlyMoves e s) :
    e.Keeps s.1 (notesOf s.2) := by
  obtain ⟨p, same⟩ := moves.point
  refine ⟨by rw [same]; rfl, by rw [same]; rfl, unset_of_isOfLoop fun n mem => ?_⟩
  exact moves.notes n (mem_notesOf.mp mem)

theorem keeps_access (a : Access) (e : Engine) :
    e.Keeps (e.access a).1 (notesOf (e.access a).2) := by
  unfold access
  split <;> exact ⟨rfl, rfl, by simp [Unset, notesOf, Happening.note?]⟩

/-- Opening the command pipe is no setting either. -/
theorem keeps_openPipe (rc : Int32) (e : Engine) :
    e.Keeps (e.openPipe rc).1.1 (notesOf (e.openPipe rc).1.2) := by
  unfold openPipe
  repeat' split
  · exact ⟨rfl, rfl, unset_nil⟩
  · exact ⟨rfl, rfl, unset_called rfl⟩
  · exact ⟨rfl, rfl, unset_called rfl⟩

/-- **Handling keeps what is stored.** -/
theorem keeps_of_handled {e' : Engine} {ns : List Note}
    (handled : TunnelControl.Engine.Handled e e' ns) : e.Keeps e' ns := by
  induction handled with
  | rest e => exact ⟨rfl, rfl, unset_nil⟩
  | @access x e e' happenings used =>
      have same : e.access x = (e', happenings) := Option.some.inj used
      simpa only [same] using keeps_access x e
  | enter limits e => exact ⟨rfl, rfl, unset_nil⟩
  | move moved => exact keeps_of_onlyMoves (onlyMoves_move moved)
  | resume call r e => exact keeps_of_onlyMoves (onlyMoves_resume r e)
  | retire e => exact ⟨rfl, rfl, unset_nil⟩
  | free e => exact ⟨rfl, rfl, unset_called rfl⟩
  | next _ _ first after =>
      exact ⟨after.tunScript.trans first.tunScript, after.csdWrapper.trans first.csdWrapper,
        first.unset.append after.unset⟩

end Engine
end TunnelControl.Native
