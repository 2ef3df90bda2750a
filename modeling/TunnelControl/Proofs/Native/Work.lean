import TunnelControl.Native.Engine

/-!
# Native engines at work

Configuring and the main loop make library calls and answer the library's own. They
neither open the command pipe nor write to it, they leave its descriptor where it is, and
they do not free the engine. `Worked` says so, and whatever is said of pipes and of freeing
can leave configuring and the main loop out.

The main loop does even less: it only gets from one point to the next (`OnlyMoves`).
-/

namespace TunnelControl.Native

/-- Whether configuring or the main loop makes the call. -/
def Call.isOfWork : Call → Bool
  | .create _ | .setBrowserCallback | .setReconnectedHandler | .setupCommandPipe | .free => false
  | _ => true

/-- Whether configuring or the main loop leaves the note. -/
def Note.isOfWork : Note → Bool
  | .call c => c.isOfWork
  | .answered .. => true
  | .wrote _ | .sent .. => false

/-- Whether configuring leaves the note. -/
def Note.isSetting : Note → Bool
  | .call c => c.isOfWork
  | _ => false

theorem Note.isOfWork_of_isSetting {n : Note} (setting : n.isSetting = true) :
    n.isOfWork = true := by
  cases n with
  | call c => exact setting
  | _ => simp [isSetting] at setting

/-- What work makes of an engine, and what it leaves behind: notes of this kind only. -/
structure Worked (kind : Note → Bool) (e : Engine) (s : Engine × Engine.Happenings) : Prop where
  notes : ∀ n, .note n ∈ s.2 → kind n = true
  descriptor : s.1.descriptor = e.descriptor

section worked

variable {kind : Note → Bool} {e : Engine} {s : Engine × Engine.Happenings}

theorem worked_silently {e' : Engine} (descriptor : e'.descriptor = e.descriptor) :
    Worked kind e (e', []) :=
  ⟨by simp, descriptor⟩

theorem Worked.note {n : Note} (worked : Worked kind e s) (ofKind : kind n = true) :
    Worked kind e (s.1, s.2 ++ [.note n]) := by
  refine ⟨fun n' mem => ?_, worked.descriptor⟩
  rcases List.mem_append.mp mem with mem | mem
  · exact worked.notes n' mem
  · cases List.mem_singleton.mp mem
    exact ofKind

theorem Worked.ofWork (worked : Worked Note.isSetting e s) : Worked Note.isOfWork e s :=
  ⟨fun n mem => n.isOfWork_of_isSetting (worked.notes n mem), worked.descriptor⟩

end worked

namespace Engine

variable {e : Engine} {s : Engine × Happenings}

theorem worked_withText {kind : Note → Bool} {setting : Setting} {text : String}
    {go : CText → Applied} (worked : Worked kind e s)
    (goes : ∀ c, Worked kind e (go c).1) :
    Worked kind e (withText s setting text go).1 := by
  unfold withText
  split
  · exact goes _
  · exact worked

theorem worked_configure (options : Options) (rc : Call → Int32) (e : Engine) :
    Worked Note.isSetting e (e.configure options rc).1 := by
  refine applyAll_induction (P := Worked Note.isSetting e) ?_ (worked_silently rfl) options.settings
  intro s setting worked
  cases setting with
  | logLevel | dpd | insecureCrypto => exact worked.note rfl
  | protocol | url => exact worked_withText worked fun _ => worked.note rfl
  | tunScript => exact worked_withText worked fun _ => ⟨worked.notes, worked.descriptor⟩
  | csd csd =>
      refine worked_withText worked fun wrapper => ?_
      have called := worked.note (n := .call (.setupCsd csd.uid csd.silent wrapper)) rfl
      split
      · rename_i e' happenings happened
        have same : (s.1, s.2 ++ Engine.called (.setupCsd csd.uid csd.silent wrapper)) =
            (e', happenings) := congrArg (·.1) happened
        obtain ⟨rfl, rfl⟩ := Prod.mk.inj same
        exact ⟨called.notes, called.descriptor⟩
      · exact called

end Engine

/-! ## The main loop -/

/-- Whether the main loop makes the call. -/
def Call.isOfLoop : Call → Bool
  | .obtainCookie | .connect | .setupTunScript _ | .addressing | .mainLoop _
  | .setOptionValue .. => true
  | _ => false

/-- Whether the main loop leaves the note. -/
def Note.isOfLoop : Note → Bool
  | .call c => c.isOfLoop
  | .answered .. => true
  | _ => false

theorem Note.isOfWork_of_isOfLoop {n : Note} (ofLoop : n.isOfLoop = true) : n.isOfWork = true := by
  cases n with
  | call c => cases c <;> first | rfl | cases ofLoop
  | answered => rfl
  | _ => cases ofLoop

/-- What the main loop makes of an engine: it is at some point now, and left only such notes. -/
structure OnlyMoves (e : Engine) (s : Engine × Engine.Happenings) : Prop where
  point : ∃ p, s.1 = e.moveTo p
  notes : ∀ n, .note n ∈ s.2 → n.isOfLoop = true

theorem OnlyMoves.worked {e : Engine} {s : Engine × Engine.Happenings} (moves : OnlyMoves e s) :
    Worked Note.isOfWork e s := by
  obtain ⟨p, same⟩ := moves.point
  exact ⟨fun n mem => n.isOfWork_of_isOfLoop (moves.notes n mem), by rw [same]; rfl⟩

theorem onlyMoves_silently {e : Engine} (p : Point) : OnlyMoves e (e.moveTo p, []) :=
  ⟨⟨p, rfl⟩, by simp⟩

theorem onlyMoves_called {e : Engine} {c : Call} (p : Point) (ofLoop : c.isOfLoop = true) :
    OnlyMoves e (e.moveTo p, Engine.called c) := by
  refine ⟨⟨p, rfl⟩, fun n mem => ?_⟩
  cases List.mem_singleton.mp mem
  exact ofLoop

namespace Engine

variable {e : Engine}

theorem onlyMoves_goBack (e : Engine) (stage : Stage) (entry : Entry) (rc : Option Int32)
    (log : List Log.Entry) : OnlyMoves e (e.goBack stage entry rc log) := by
  refine ⟨⟨_, rfl⟩, fun n mem => ?_⟩
  rw [goBack, List.mem_append] at mem
  rcases mem with mem | mem
  · simp at mem
  · obtain ⟨rc, -, same⟩ := List.mem_map.mp mem
    cases same
    rfl

theorem onlyMoves_follow (e : Engine) (stage : Stage) (entry : Entry) (verdict : Verdict) :
    OnlyMoves e (e.follow stage entry verdict) := by
  unfold follow
  split
  · exact onlyMoves_goBack ..
  · exact onlyMoves_goBack ..
  · exact onlyMoves_silently _

theorem onlyMoves_callIn (e : Engine) (stage : Stage) (entry : Entry) (bound : Bool) :
    OnlyMoves e ((e.callIn stage entry bound).engine, (e.callIn stage entry bound).happenings) := by
  unfold callIn
  split
  · exact onlyMoves_goBack e stage entry entry.fallback? []
  · exact onlyMoves_silently _

theorem onlyMoves_move {m : Move} {turn : Turn Engine Note} (moved : e.move m = some turn) :
    OnlyMoves e (turn.engine, turn.happenings) := by
  unfold move at moved
  split at moved
  · rename_i stage _
    cases moved
    exact onlyMoves_called _ (by cases stage <;> rfl)
  · rename_i stage _
    cases stage <;> simp only [afterStage?, endWith, Option.some.injEq, reduceCtorEq] at moved
    all_goals subst moved; try split
    all_goals exact ⟨⟨_, rfl⟩, by simp⟩
  · split at moved <;> cases moved <;> exact ⟨⟨_, rfl⟩, by simp⟩
  · cases moved
    exact onlyMoves_callIn ..
  · cases moved
    exact onlyMoves_called _ rfl
  · rename_i stage entry code current left _
    split at moved <;> cases moved
    · exact onlyMoves_follow e stage entry (.write code left)
    · exact onlyMoves_goBack e stage entry _ _
  · simp at moved

theorem onlyMoves_resume (r : Reply) (e : Engine) : OnlyMoves e (e.resume r) := by
  unfold resume
  split
  · exact onlyMoves_follow ..
  · split <;> exact onlyMoves_silently _
  · exact onlyMoves_silently e.point

theorem worked_move {m : Move} {turn : Turn Engine Note} (moved : e.move m = some turn) :
    Worked Note.isOfWork e (turn.engine, turn.happenings) :=
  (onlyMoves_move moved).worked

theorem worked_resume (r : Reply) (e : Engine) : Worked Note.isOfWork e (e.resume r) :=
  (onlyMoves_resume r e).worked

end Engine
end TunnelControl.Native
