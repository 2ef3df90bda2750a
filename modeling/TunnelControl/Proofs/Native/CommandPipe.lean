import TunnelControl.Proofs.Order
import TunnelControl.Proofs.Passages
import TunnelControl.Proofs.Release.Native

/-!
# The descriptor of a native engine's command pipe

All pipes of an engine write to one descriptor, which belongs to the library. The holder of
the handle asks for it, anybody with a pipe writes to it at any time, and letting the engine
go takes it from the pipes before the library frees what it belongs to.

`pipeLog` reads off a run what became of the descriptor, and `Kept` says of each entry what
it has to be after those before it. That nothing is left out of the log is part of `Piped`:
every library call for a pipe, every byte and every call that frees the engine is in it.
-/

namespace TunnelControl.Native

open World (run passages)
open Session.Result (seen_unchanged)

/-! ## The log -/

/-- What concerns the command pipe. -/
inductive PipeEvent
  /-- The holder asks for a pipe: whether the library is called for it, the code that it
  returns to that call, and what the holder gets. -/
  | opened (called : Bool) (rc : Int32) (result : Except EngineFault Unit)
  /-- A command is sent: why the system fails to write, if it does, the bytes that are
  written, each with the descriptor it goes to, and what the sender gets. -/
  | sent (c : Command) (failure : Option Int32) (written : List (Int32 × UInt8))
    (results : List (Except SendFault Unit))
  /-- The descriptor is taken from the pipes. -/
  | taken
  /-- The library frees the engine. -/
  | freed

namespace PipeEvent

/-- The descriptor that a request for a pipe got. -/
def descriptor? : PipeEvent → Option Int32
  | opened _ rc (.ok ()) => some rc
  | _ => none

def isCall : PipeEvent → Bool
  | opened called .. => called
  | _ => false

def isTaken : PipeEvent → Bool
  | taken => true
  | _ => false

def isFreed : PipeEvent → Bool
  | freed => true
  | _ => false

def written : PipeEvent → List (Int32 × UInt8)
  | sent _ _ written _ => written
  | _ => []

end PipeEvent

/-- The descriptor that the pipes got: the first request that succeeded decides. -/
def descriptor? (log : List PipeEvent) : Option Int32 := log.findSome? PipeEvent.descriptor?

/-- Whether the note is the library call that opens the pipe. -/
def Note.isSetup : Note → Bool
  | .call .setupCommandPipe => true
  | _ => false

/-- The bytes that were written. -/
def bytesWritten (h : List (Event Note)) : List UInt8 :=
  h.filterMap fun | .note (.wrote c) => some c.byte | _ => none

/-- What senders got. -/
def sendResults (h : List (Event Note)) : List (Except SendFault Unit) :=
  h.filterMap fun | .note (.sent _ result) => some result | _ => none

/-- What a passage means for the pipe. -/
def pipeEvents (p : Passage Engine) : List PipeEvent :=
  match p.act, p.before.status with
  | .setup (.openPipe rc), _ =>
    [.opened (p.result.seen.any (Event.hasNote Note.isSetup)) rc (p.before.engine.openPipe rc).2]
  | .access (.send c failure), _ =>
    [.sent c failure
      (p.before.engine.descriptor.toList.flatMap fun d => (bytesWritten p.result.seen).map (d, ·))
      (sendResults p.result.seen)]
  | .dispose, .retiring _ => [.taken]
  | .dispose, .freeing _ => [.freed]
  | _, _ => []

def pipeLog (ps : List (Passage Engine)) : List PipeEvent := ps.flatMap pipeEvents

/-! ## The law of the pipe -/

/-- What an entry of the log has to be, after the ones before it. -/
def Kept (log : List PipeEvent) : PipeEvent → Prop
  -- The library is called until it has opened a pipe, and never again.
  | .opened called rc result =>
    log.any PipeEvent.isTaken = false ∧
      match descriptor? log with
      | some _ => called = false ∧ result = .ok ()
      | none => called = true ∧
        result = if rc < 0 then .error ⟨"setup command pipe", rc⟩ else .ok ()
  -- One byte goes to the one descriptor, until it is taken.
  | .sent c failure written results =>
    match descriptor? log with
    | none => written = []
    | some d =>
      if log.any PipeEvent.isTaken then written = [] ∧ results = [.error .closed]
      else match failure with
        | none => written = [(d, c.byte)] ∧ results = [.ok ()]
        | some errno => written = [] ∧ results = [.error (.writing errno)]
  | .taken => log.any PipeEvent.isTaken = false
  | .freed => log.any PipeEvent.isTaken = true ∧ log.any PipeEvent.isFreed = false

/-- Whether the descriptor has been taken from the pipes. -/
def isTaken : Status → Bool
  | .freeing _ | .unbinding _ | .closing _ | .gone => true
  | _ => false

/-- A session, its history and the log of its pipe. -/
structure Piped (s : Session Engine) (h : List (Event Note)) (log : List PipeEvent) : Prop where
  kept : Throughout Kept log
  /-- The engine has the descriptor until it is taken. -/
  descriptor : s.engine.descriptor =
    if log.any PipeEvent.isTaken then none else descriptor? log
  taken : log.any PipeEvent.isTaken = isTaken s.status
  freed : log.any PipeEvent.isFreed = isFreed s.status
  /-- The log is complete. -/
  calls : h.countP (Event.hasNote Note.isSetup) = log.countP PipeEvent.isCall
  bytes : bytesWritten h = (log.flatMap PipeEvent.written).map Prod.snd
  frees : h.countP (Event.hasNote Note.isFree) = log.countP PipeEvent.isFreed

section step

variable {s s' : Session Engine} {h new : List (Event Note)} {log : List PipeEvent}

/-- The notes of configuring and of the main loop. -/
def OfWork (new : List (Event Note)) : Prop := ∀ n, .note n ∈ new → n.isOfWork = true

theorem OfWork.silent (works : OfWork new) :
    new.countP (Event.hasNote Note.isSetup) = 0 ∧ bytesWritten new = [] ∧
      new.countP (Event.hasNote Note.isFree) = 0 := by
  simp only [List.countP_eq_zero, bytesWritten, List.filterMap_eq_nil_iff]
  refine ⟨?_, ?_, ?_⟩
  all_goals intro x mem
  all_goals cases x with
  | note n =>
      have ofWork := works n mem
      cases n with
      | call c => cases c <;> simp_all [Note.isOfWork, Call.isOfWork, Event.hasNote,
          Note.isSetup, Note.isFree]
      | _ => simp_all [Note.isOfWork, Event.hasNote, Note.isSetup, Note.isFree]
  | _ => simp [Event.hasNote]

/-- What has nothing to do with the pipe. -/
theorem Piped.work (piped : Piped s h log) (works : OfWork new)
    (descriptor : s'.engine.descriptor = s.engine.descriptor)
    (taken : isTaken s'.status = isTaken s.status)
    (freed : isFreed s'.status = isFreed s.status) : Piped s' (h ++ new) log := by
  obtain ⟨calls, bytes, frees⟩ := works.silent
  refine ⟨piped.kept, descriptor.trans piped.descriptor, piped.taken.trans taken.symm,
    piped.freed.trans freed.symm, ?_, ?_, ?_⟩
  · rw [List.countP_append, calls, piped.calls]
    rfl
  · rw [bytesWritten, List.filterMap_append, ← bytesWritten, ← bytesWritten, bytes, piped.bytes,
      List.append_nil]
  · rw [List.countP_append, frees, piped.frees]
    rfl

/-- What makes an entry of the log. -/
theorem Piped.snoc {x : PipeEvent} (piped : Piped s h log) (kept : Kept log x)
    (descriptor : s'.engine.descriptor =
      if log.any PipeEvent.isTaken || x.isTaken then none else descriptor? (log ++ [x]))
    (taken : isTaken s'.status = (isTaken s.status || x.isTaken))
    (freed : isFreed s'.status = (isFreed s.status || x.isFreed))
    (calls : new.countP (Event.hasNote Note.isSetup) = if x.isCall then 1 else 0)
    (bytes : bytesWritten new = x.written.map Prod.snd)
    (frees : new.countP (Event.hasNote Note.isFree) = if x.isFreed then 1 else 0) :
    Piped s' (h ++ new) (log ++ [x]) := by
  refine ⟨?_, ?_, ?_, ?_, ?_, ?_, ?_⟩
  · exact throughout_append piped.kept (throughout_singleton (by rwa [List.append_nil]))
  · simpa using descriptor
  · simp [taken, ← piped.taken]
  · simp [freed, ← piped.freed]
  · simp [calls, piped.calls, List.countP_cons]
  · rw [bytesWritten, List.filterMap_append, ← bytesWritten, ← bytesWritten, bytes, piped.bytes]
    simp
  · simp [frees, piped.frees, List.countP_cons]

theorem descriptor?_append (x : PipeEvent) :
    descriptor? (log ++ [x]) = (descriptor? log).or x.descriptor? := by
  cases hx : x.descriptor? <;> simp [descriptor?, List.findSome?_append, hx]

end step

/-! ## Single steps -/

section events

theorem OfWork.append {new new' : List (Event Note)} (works : OfWork new) (works' : OfWork new') :
    OfWork (new ++ new') := by
  intro n mem
  rcases List.mem_append.mp mem with mem | mem
  · exact works n mem
  · exact works' n mem

theorem ofWork_of_worked {e : Engine} {r : Engine × Engine.Happenings}
    (worked : Worked Note.isOfWork e r)
    {f : Happening Note → Event Note} (notes : ∀ n, f (.note n) = .note n)
    (entries : ∀ entry n, f (.log entry) ≠ .note n) : OfWork (r.2.map f) := by
  intro n mem
  obtain ⟨x, hx, same⟩ := List.mem_map.mp mem
  cases x with
  | note n' =>
      rw [notes] at same
      cases same
      exact worked.notes n hx
  | log entry => exact absurd same (entries entry n)

theorem ofWork_inLoop {e : Engine} {r : Engine × Engine.Happenings}
    (worked : Worked Note.isOfWork e r) :
    OfWork (r.2.map Happening.inLoop) :=
  ofWork_of_worked worked (fun _ => rfl) fun _ _ same => by cases same

theorem ofWork_atCaller {e : Engine} {r : Engine × Engine.Happenings}
    (worked : Worked Note.isOfWork e r) :
    OfWork (r.2.map Happening.atCaller) :=
  ofWork_of_worked worked (fun _ => rfl) fun _ _ same => by cases same

end events

section transitions

variable {runners : List Runner} {s : Session Engine} {a : Session.Act Engine}
  {r : Session.Result Engine Note} {h : List (Event Note)} {log : List PipeEvent}

/-- **One request for a pipe.** -/
theorem Piped.opens (piped : Piped s h log) (rc : Int32) (status : s.status = .held) :
    Piped { s with engine := (s.engine.openPipe rc).1.1 }
      (h ++ (s.engine.openPipe rc).1.2.map Happening.atCaller)
      (log ++ [.opened (((s.engine.openPipe rc).1.2.map Happening.atCaller).any
        (Event.hasNote Note.isSetup)) rc (s.engine.openPipe rc).2]) := by
  have untaken : log.any PipeEvent.isTaken = false := by
    rw [piped.taken, status]
    rfl
  have descriptor := piped.descriptor
  rw [untaken, if_neg Bool.false_ne_true] at descriptor
  have stays : ∀ b : Bool, b = (b || false) := fun b => (Bool.or_false b).symm
  unfold Engine.openPipe
  cases opened : s.engine.descriptor with
  | some d =>
      rw [opened] at descriptor
      refine piped.snoc ⟨untaken, ?_⟩ ?_ (stays _) (stays _) rfl rfl rfl
      · rw [← descriptor]
        exact ⟨rfl, rfl⟩
      · simp [untaken, descriptor?_append, ← descriptor, opened, PipeEvent.isTaken]
  | none =>
      rw [opened] at descriptor
      by_cases negative : rc < 0
      · simp only [negative, if_true]
        refine piped.snoc ⟨untaken, ?_⟩ ?_ (stays _) (stays _) rfl rfl rfl
        · rw [← descriptor]
          exact ⟨rfl, (if_pos negative).symm⟩
        · simp [untaken, descriptor?_append, ← descriptor, opened, PipeEvent.isTaken,
            PipeEvent.descriptor?]
      · simp only [negative, if_false]
        refine piped.snoc ⟨untaken, ?_⟩ ?_ (stays _) (stays _) rfl rfl rfl
        · rw [← descriptor]
          exact ⟨rfl, (if_neg negative).symm⟩
        · simp [untaken, descriptor?_append, ← descriptor, PipeEvent.isTaken,
            PipeEvent.descriptor?]

/-- **One send.** -/
theorem Piped.sends {c : Command} {failure : Option Int32} (piped : Piped s h log) :
    Piped { s with engine := (s.engine.access (.send c failure)).1 }
      (h ++ (s.engine.access (.send c failure)).2.map Happening.atCaller)
      (log ++ [.sent c failure
        (s.engine.descriptor.toList.flatMap fun d =>
          (bytesWritten ((s.engine.access (.send c failure)).2.map Happening.atCaller)).map (d, ·))
        (sendResults ((s.engine.access (.send c failure)).2.map Happening.atCaller))]) := by
  have descriptor := piped.descriptor
  have same : ∀ written results, s.engine.descriptor =
      if log.any PipeEvent.isTaken || (PipeEvent.sent c failure written results).isTaken then none
      else descriptor? (log ++ [.sent c failure written results]) := by
    intro written results
    simpa [descriptor?_append, PipeEvent.descriptor?, PipeEvent.isTaken] using descriptor
  have stays : ∀ b : Bool, b = (b || false) := fun b => (Bool.or_false b).symm
  unfold Engine.access
  cases opened : s.engine.descriptor with
  | none =>
      refine piped.snoc ?_ (same _ _) (stays _) (stays _) rfl rfl rfl
      rw [opened] at descriptor
      split at descriptor
      · rename_i taken
        simp only [Kept, taken, if_true]
        split
        · rfl
        · exact ⟨rfl, rfl⟩
      · simp only [Kept, ← descriptor]
        rfl
  | some d =>
      -- The descriptor is still there, so it was not taken.
      rw [opened] at descriptor
      split at descriptor
      · simp at descriptor
      · rename_i untaken
        cases failure with
        | none =>
            refine piped.snoc ?_ (same _ _) (stays _) (stays _) rfl rfl rfl
            simp only [Kept, ← descriptor, untaken]
            exact ⟨rfl, rfl⟩
        | some errno =>
            refine piped.snoc ?_ (same _ _) (stays _) (stays _) rfl rfl rfl
            simp only [Kept, ← descriptor, untaken]
            exact ⟨rfl, rfl⟩

/-- **One step.** -/
theorem Piped.step (piped : Piped s h log) (stepped : s.step runners a = some r) :
    Piped r.session (h ++ r.seen) (log ++ pipeEvents ⟨s, a, r⟩) := by
  cases Session.transition_of_step stepped with
  | @setup x engine happenings status set =>
      obtain rfl : (s.engine.setup x).1 = engine := congrArg Prod.fst (Option.some.inj set)
      obtain rfl : (s.engine.setup x).2 = happenings := congrArg Prod.snd (Option.some.inj set)
      rw [seen_unchanged]
      cases x with
      | configure options rc =>
          have worked := (Engine.worked_configure options rc s.engine).ofWork
          have worked : Piped { s with engine := (s.engine.configure options rc).1.1 } _ log :=
            piped.work (ofWork_atCaller worked) worked.descriptor rfl rfl
          simpa [pipeEvents, Engine.setup] using worked
      | openPipe rc => simpa [pipeEvents, Engine.setup, seen_unchanged] using piped.opens rc status
  | @access x engine happenings used =>
      obtain rfl : (s.engine.access x).1 = engine := congrArg Prod.fst (Option.some.inj used)
      obtain rfl : (s.engine.access x).2 = happenings := congrArg Prod.snd (Option.some.inj used)
      rw [seen_unchanged]
      cases x with
      | send c failure => simpa [pipeEvents, seen_unchanged] using piped.sends
  | @retire aftermath status =>
      have untaken : log.any PipeEvent.isTaken = false := by rw [piped.taken, status]; rfl
      have log' : ∀ r', pipeEvents ⟨s, .dispose, r'⟩ = [.taken] := fun _ => by
        simp only [pipeEvents, status]
      rw [seen_unchanged, log']
      exact piped.snoc untaken (by simp [PipeEvent.isTaken, TunnelControl.Engine.retire])
        (by simp [isTaken, PipeEvent.isTaken]) (by simp [isFreed, PipeEvent.isFreed, status])
        rfl rfl rfl
  | @free aftermath status =>
      have taken : log.any PipeEvent.isTaken = true := by rw [piped.taken, status]; rfl
      have unfreed : log.any PipeEvent.isFreed = false := by rw [piped.freed, status]; rfl
      have log' : ∀ r', pipeEvents ⟨s, .dispose, r'⟩ = [.freed] := fun _ => by
        simp only [pipeEvents, status]
      have descriptor := piped.descriptor
      rw [taken, if_pos rfl] at descriptor
      rw [seen_unchanged, log']
      exact piped.snoc ⟨taken, unfreed⟩ (by rw [taken]; exact descriptor)
        (by simp [isTaken, PipeEvent.isTaken, status]) (by simp [isFreed, PipeEvent.isFreed])
        rfl rfl rfl
  | move status moved silent =>
      have worked := Engine.worked_move moved
      rw [pipeEvents, List.append_nil, seen_unchanged]
      exact piped.work (ofWork_inLoop worked) worked.descriptor rfl rfl
  | ask status moved asked untold plain =>
      have worked := Engine.worked_move moved
      rw [pipeEvents, List.append_nil, seen_unchanged]
      refine piped.work ((ofWork_inLoop worked).append ?_) worked.descriptor
        (by simp [isTaken, status]) (by simp [isFreed, status])
      simp [OfWork]
  | @forward m turn call notice status moved asked channel told plain =>
      have worked := Engine.worked_move moved
      have resumed := Engine.worked_resume .done turn.engine
      rw [pipeEvents, List.append_nil, seen_unchanged]
      refine piped.work ((ofWork_inLoop worked).append (.append ?_ (ofWork_inLoop resumed)))
        (resumed.descriptor.trans worked.descriptor) (by simp [isTaken, status])
        (by simp [isFreed, status])
      simp [OfWork]
  | @reply answer call status fits =>
      have resumed := Engine.worked_resume answer s.engine
      rw [pipeEvents, List.append_nil, seen_unchanged]
      refine piped.work (.append ?_ (ofWork_inLoop resumed)) resumed.descriptor
        (by simp [isTaken, status]) (by simp [isFreed, status])
      simp [OfWork]
  | enter status given place =>
      rw [pipeEvents, List.append_nil, seen_unchanged]
      exact piped.work (by simp [OfWork, TunnelControl.Engine.enter]) rfl
        (by simp [isTaken, status]) (by simp [isFreed, status])
  | @failStart fault logs status logged =>
      subst logged
      have log' : ∀ r', pipeEvents ⟨s, .dispose, r'⟩ = [] := fun _ => by
        simp only [pipeEvents, status]
      rw [log', List.append_nil, seen_unchanged]
      refine piped.work ?_ rfl (by simp [isTaken, status]) (by simp [isFreed, status])
      cases fault <;> simp [OfWork]
  | acknowledge status fits logged | report status finished handled logged
  | post status finished channel logged =>
      subst logged
      rw [pipeEvents, List.append_nil, seen_unchanged]
      refine piped.work ?_ rfl (by simp [isTaken, status, Session.afterReport])
        (by simp [isFreed, status, Session.afterReport])
      split <;> simp [OfWork]
  | unbind status | close status | returnSlot status =>
      have log' : ∀ r', pipeEvents ⟨s, .dispose, r'⟩ = [] := fun _ => by
        simp only [pipeEvents, status]
      rw [log', List.append_nil]
      refine piped.work ?_ rfl (by simp [isTaken, status]) (by simp [isFreed, status])
      simp [OfWork, Session.Result.seen, SlotUse.events]
  | drop status | misname status | accept status | findFull status | takeSlot status
  | launch status | failSpawn status | log status | logLast status =>
      rw [pipeEvents, List.append_nil]
      refine piped.work ?_ rfl (by simp [isTaken, status, Session.refuse])
        (by simp [isFreed, status, Session.refuse])
      simp [OfWork, Session.Result.seen, SlotUse.events]
  | receive channel | hangUp channel =>
      rw [pipeEvents, List.append_nil]
      refine piped.work ?_ rfl rfl rfl
      simp [OfWork, Session.Result.seen, SlotUse.events]

end transitions

/-! ## All runs -/

/-- **One descriptor, until it is taken.** In every run, whoever asks for pipes and sends
commands and in whatever order: the library is called for a pipe until it has opened one, a
call that failed is what the holder gets, and all sends after that write their one byte to the
descriptor it gave, or fail and write nothing. From the moment in which letting the engine go
takes the descriptor every send is refused, and the library frees the engine only after that. -/
theorem pipe_kept {configs : List RunnerConfig} {as : List (Action Engine)} {w : World Engine}
    {key : Nat} {s : Session Engine} (ran : run as (World.new configs) = some w)
    (found : w.session? key = some s) :
    Piped s (w.history key) (pipeLog (passages key as (World.new configs))) := by
  refine World.passages_invariant (P := fun s h ps => Piped s h (pipeLog ps)) ?_ ?_ ran found
  · intro plan agent lifecycle id engine happenings hmake
    simp only [TunnelControl.Engine.make, Engine.make] at hmake
    split at hmake
    · simp at hmake
    · split at hmake
      · simp at hmake
      · cases hmake
        exact ⟨throughout_nil, rfl, rfl, rfl, rfl, rfl, rfl⟩
  · intro runners s a r h ps configured stepped piped
    simpa [pipeLog] using piped.step stepped

/-- The first request for a pipe fails. The second one succeeds and the third shares its
descriptor. A command is written, another cannot be, and the last is sent while the engine is
being let go. -/
def pipeRun : List (Action Engine) :=
  [.create ⟨false⟩ "agent" .handler, .act 0 (.setup (.openPipe (-5))),
    .act 0 (.setup (.openPipe 7)), .act 0 (.setup (.openPipe 9)),
    .act 0 (.access (.send .stats none)), .act 0 (.access (.send .pause (some 32))), .act 0 .drop,
    .act 0 .dispose, .act 0 (.access (.send .cancel none)), .act 0 .dispose]

theorem pipe_kept_of_pipeRun :
    ∃ w s, run pipeRun (World.new [.default]) = some w ∧ w.session? 0 = some s ∧
      Piped s (w.history 0)
        [.opened true (-5) (.error ⟨"setup command pipe", -5⟩), .opened true 7 (.ok ()),
          .opened false 9 (.ok ()), .sent .stats none [(7, 115)] [.ok ()],
          .sent .pause (some 32) [] [.error (.writing 32)], .taken,
          .sent .cancel none [] [.error .closed], .freed] := by
  obtain ⟨w, s, made, found⟩ : ∃ w s, run pipeRun (World.new [.default]) = some w ∧
      w.session? 0 = some s := ⟨_, _, rfl, rfl⟩
  exact ⟨w, s, made, found, pipe_kept made found⟩

end TunnelControl.Native
