import Mathlib.Data.List.ReduceOption
import TunnelControl.Proofs.Passages
import TunnelControl.Proofs.Release.Scripted
import TunnelControl.Proofs.Scripted.Closing
import TunnelControl.Proofs.TerminalResult

/-!
# The lifecycle channel

A session that was made with a channel puts the notices of its life into it, where a
receiver takes them whenever it looks. `ReceivedAllBut` says how far it has come with it:
the notices are what it gets, in their order, and that there are no more it is told only
after the last of them. It is told so once the callback context is gone, and then the engine
is gone as well, so that the queue is closed but for sends that are still under way.

What went into the channel is compared with the notices that the engine was to give
by the moves of its loop, `announced`.
-/

namespace TunnelControl

/-- The notice that a call of an engine is, if it is one. -/
def Upcall.notice? : Upcall → Option Notice
  | .connected info => some (.connected info)
  | .reconnected => some .reconnected
  | _ => none

theorem Upcall.notice?_eq (u : Upcall) : u.callback?.bind Callback.notice? = u.notice? := by
  cases u with
  | progress level first second =>
      rw [callback?]
      cases Progress.render first second <;> rfl
  | _ => rfl

namespace Scripted

open Session (Transition)
open World (Reachable)

/-! ## What the engine announces -/

/-- The notice that a move of the loop gives, if it gives one: in a step of the script, or by a
call of a hook. -/
def Engine.announces? (m : Move) (e : Engine) : Option Notice :=
  match m, e.point with
  | .go, .step s _ => s.upcall?.bind Upcall.notice?
  | .call u, .hook .. => u.notice?
  | _, _ => none

/-- The notices of the engine of a session, in the order of its calls. -/
def announced (ps : List (Passage Engine)) : List Notice :=
  ps.filterMap fun p => match p.act with | .move m => p.before.engine.announces? m | _ => none

theorem Engine.Moved.announces?_eq {e : Engine} {m : Move} {turn : Turn Engine Note}
    (moved : Engine.Moved e m turn) : e.announces? m = turn.call.bind Callback.notice? := by
  cases moved with
  | take taking popped =>
      cases point : e.point <;> simp [point] at taking <;> simp [announces?, point]
  | report point goesOn heard =>
      have silent : statistics.notice? = none := rfl
      rw [← Upcall.notice?_eq, heard] at silent
      simpa [announces?, point] using silent.symm
  | beginMute point calls unheard =>
      simp [announces?, point, calls, ← Upcall.notice?_eq, unheard]
  | begin point calls heard => simp [announces?, point, calls, ← Upcall.notice?_eq, heard]
  | hookMute point unheard => simp [announces?, point, ← Upcall.notice?_eq, unheard]
  | hookCall point heard => simp [announces?, point, ← Upcall.notice?_eq, heard]
  | beginAlone point silent => simp [announces?, point, silent]
  | _ point => simp [announces?, point]

/-! ## What the receiver gets -/

/-- What the receiver gets at a time: notices, and none for the end of the channel. -/
def gets : Event Note → List (Option Notice)
  | .received taken isEnd => taken.map some ++ if isEnd then [none] else []
  | _ => []

/-- What the receiver has got, in order. -/
def observed (h : List (Event Note)) : List (Option Notice) := h.flatMap gets

/-- The receiver has got the notices but for the last ones, that it is waiting for, in their
order, and the end of the channel only after all of them. -/
def ReceivedAllBut (waiting : List Notice) (h : List (Event Note)) : Prop :=
  ∃ got ends, notices h = got ++ waiting ∧
    observed h = got.map some ++ List.replicate ends none ∧ (waiting = [] ∨ ends = 0)

/-- What is left for the receiver. -/
def outstanding (h : List (Event Note)) : List Notice :=
  (notices h).drop (observed h).reduceOption.length

section aside

variable {ν : Type}

/-- Whether the event has nothing to do with the channel. -/
def isAside : Event ν → Bool
  | .forwarded _ | .received .. | .called (.terminated _) => false
  | _ => true

theorem aside_inLoop (happenings : List (Happening ν)) :
    (happenings.map Happening.inLoop).all isAside = true :=
  List.all_eq_true.mpr (forall_inLoop (fun _ => rfl) (fun _ => rfl))

theorem aside_atCaller (happenings : List (Happening ν)) :
    (happenings.map Happening.atCaller).all isAside = true :=
  List.all_eq_true.mpr (forall_atCaller (fun _ => rfl) (fun _ => rfl))

theorem aside_logs (entries : List Log.Entry) :
    (entries.map (Event.log : Log.Entry → Event ν)).all isAside = true := by
  rw [List.all_eq_true, List.forall_mem_map]
  exact fun _ _ => rfl

theorem aside_called {call : Callback} (plain : ∀ result, call ≠ .terminated result) :
    isAside (Event.called call : Event ν) = true := by
  cases call with
  | terminated result => exact absurd rfl (plain result)
  | _ => rfl

end aside

section views

variable {h new : List (Event Note)} {waiting : List Notice}

@[simp] theorem observed_append : observed (h ++ new) = observed h ++ observed new :=
  List.flatMap_append

@[simp] theorem deliveries_append : deliveries (h ++ new) = deliveries h ++ deliveries new :=
  List.filterMap_append

theorem gets_of_aside {e : Event Note} (aside : isAside e = true) : gets e = [] := by
  cases e <;> first | rfl | cases aside

theorem notices_of_aside (aside : new.all isAside = true) : notices new = [] := by
  refine List.filterMap_eq_nil_iff.mpr fun e he => ?_
  have h := List.all_eq_true.mp aside e he
  cases e <;> first | rfl | cases h

theorem deliveries_of_aside (aside : new.all isAside = true) : deliveries new = [] := by
  refine List.filterMap_eq_nil_iff.mpr fun e he => ?_
  have h := List.all_eq_true.mp aside e he
  cases e with
  | called call => cases call <;> first | rfl | cases h
  | forwarded notice => cases h
  | _ => rfl

theorem observed_of_aside (aside : new.all isAside = true) : observed new = [] :=
  List.flatMap_eq_nil_iff.mpr fun e he => gets_of_aside (List.all_eq_true.mp aside e he)

theorem none_mem_observed_iff : none ∈ observed h ↔ ∃ e ∈ h, none ∈ gets e := List.mem_flatMap

namespace ReceivedAllBut

theorem aside (received : ReceivedAllBut waiting h) (aside : new.all isAside = true) :
    ReceivedAllBut waiting (h ++ new) := by
  obtain ⟨got, ends, sent, seen, last⟩ := received
  refine ⟨got, ends, ?_, ?_, last⟩
  · rw [notices_append, notices_of_aside aside, List.append_nil, sent]
  · rw [observed_append, observed_of_aside aside, List.append_nil, seen]

/-- One more notice goes into the channel. -/
theorem forward {notice : Notice} (received : ReceivedAllBut waiting h)
    (goesOn : none ∉ observed h) (sent : notices new = [notice]) (unseen : observed new = []) :
    ReceivedAllBut (waiting ++ [notice]) (h ++ new) := by
  obtain ⟨got, ends, before, seen, -⟩ := received
  have none : ends = 0 := by
    by_contra some
    exact goesOn (by simp [seen, some])
  refine ⟨got, ends, ?_, ?_, Or.inr none⟩
  · rw [notices_append, before, sent, List.append_assoc]
  · rw [observed_append, unseen, List.append_nil, seen]

/-- The receiver takes all that waits. -/
theorem receive (received : ReceivedAllBut waiting h) (isEnd : Bool) :
    ReceivedAllBut [] (h ++ [.received waiting isEnd]) := by
  obtain ⟨got, ends, sent, seen, last⟩ := received
  refine ⟨got ++ waiting, ends + if isEnd then 1 else 0, ?_, ?_, Or.inl rfl⟩
  · rw [notices_append, sent, List.append_nil]
    exact List.append_nil _
  · rw [observed_append, seen]
    rcases last with rfl | rfl <;> cases isEnd <;>
      simp [observed, gets, List.replicate_succ']

/-- Once the receiver has got the end, it has got everything. -/
theorem whole (received : ReceivedAllBut waiting h) (finished : none ∈ observed h) :
    ∃ ends, observed h = (notices h).map some ++ List.replicate (ends + 1) none := by
  obtain ⟨got, ends, sent, seen, last⟩ := received
  cases ends with
  | zero => simp [seen] at finished
  | succ ends =>
      obtain rfl : waiting = [] := last.resolve_right (Nat.succ_ne_zero ends)
      refine ⟨ends, ?_⟩
      rw [seen, sent, List.append_nil]

theorem outstanding_eq (received : ReceivedAllBut waiting h) : outstanding h = waiting := by
  obtain ⟨got, ends, sent, seen, -⟩ := received
  have all : (observed h).reduceOption = got := by
    rw [seen]
    simp [List.reduceOption, List.filterMap_append, List.filterMap_map]
  rw [outstanding, all, sent, List.drop_left]

end ReceivedAllBut

end views

/-! ## Steps -/

/-- What has gone through the channel of a session, where `told` are the notices of its
engine. -/
structure Streaming (s : Session Engine) (h : List (Event Note)) (told : List Notice) :
    Prop where
  along : Along 0 0 s.id s.status (marks (fun _ => false) h)
  sent : notices h = told ++ (deliveries h).map .terminated
  received : ∃ waiting, s.lifecycle = .channel true waiting ∧ ReceivedAllBut waiting h
  /-- The end of the channel is seen once the context is gone. -/
  late : Preceded (· = .unbound) (none ∈ gets ·) h

namespace Streaming

variable {s : Session Engine} {h : List (Event Note)} {told : List Notice}

theorem usesChannel (streaming : Streaming s h told) : s.usesChannel = true := by
  obtain ⟨waiting, channel, -⟩ := streaming.received
  rw [Session.usesChannel, channel]

theorem unbound_iff (streaming : Streaming s h told) : .unbound ∈ h ↔ s.isBound = false := by
  rw [← streaming.along.unbound_mem_iff]
  exact (mem_marks_iff rfl).symm

theorem deliveries_eq_nil {asked : Option Callback} (streaming : Streaming s h told)
    (status : s.status = .running asked) : deliveries h = [] := by
  have along := streaming.along
  rw [status] at along
  rw [deliveries_eq]
  exact along.deliveries_of_running

/-- As long as the context is there, the receiver waits for more. -/
theorem goesOn (streaming : Streaming s h told) (bound : s.isBound = true) :
    none ∉ observed h := by
  intro seen
  obtain ⟨e, he, isEnd⟩ := none_mem_observed_iff.mp seen
  obtain ⟨before, after, rfl⟩ := List.append_of_mem he
  obtain ⟨_, mem, rfl⟩ := streaming.late before e after rfl isEnd
  have gone := streaming.unbound_iff.mp (List.mem_append_left _ mem)
  rw [bound] at gone
  cases gone

theorem unbound_of_finished (streaming : Streaming s h told) (finished : none ∈ observed h) :
    .unbound ∈ h := by
  cases bound : s.isBound with
  | true => exact absurd finished (streaming.goesOn bound)
  | false => exact streaming.unbound_iff.mpr bound

/-- A step that has nothing to do with the channel. -/
theorem aside {s' : Session Engine} {new : List (Event Note)} (streaming : Streaming s h told)
    (along : Along 0 0 s'.id s'.status (marks (fun _ => false) (h ++ new)))
    (same : s'.lifecycle = s.lifecycle) (aside : new.all isAside = true) :
    Streaming s' (h ++ new) told := by
  obtain ⟨waiting, channel, received⟩ := streaming.received
  refine ⟨along, ?_, ⟨waiting, same.trans channel, received.aside aside⟩, ?_⟩
  · rw [notices_append, deliveries_append, notices_of_aside aside, deliveries_of_aside aside,
      List.append_nil, List.append_nil, streaming.sent]
  · refine streaming.late.append fun e he isEnd => ?_
    rw [gets_of_aside (List.all_eq_true.mp aside e he)] at isEnd
    cases isEnd

/-- A notice goes into the channel. -/
theorem put {s' : Session Engine} {pre : List (Event Note)} {notice : Notice}
    {told' : List Notice} (streaming : Streaming s h told)
    (along : Along 0 0 s'.id s'.status
      (marks (fun _ => false) (h ++ (pre ++ [.forwarded notice]))))
    (bound : s.isBound = true) (channel : s'.lifecycle = s.lifecycle.forward notice)
    (aside : pre.all isAside = true)
    (sent : notices h ++ [notice] = told' ++
      (deliveries h ++ deliveries [(Event.forwarded notice : Event Note)]).map .terminated) :
    Streaming s' (h ++ (pre ++ [.forwarded notice])) told' := by
  obtain ⟨waiting, before, received⟩ := streaming.received
  have put : notices (pre ++ [.forwarded notice]) = [notice] := by
    rw [notices_append, notices_of_aside aside]
    rfl
  have unseen : observed (pre ++ [.forwarded notice]) = [] := by
    rw [observed_append, observed_of_aside aside]
    rfl
  refine ⟨along, ?_, ⟨waiting ++ [notice], ?_, ?_⟩, ?_⟩
  · rw [notices_append, put, deliveries_append, deliveries_append, deliveries_of_aside aside,
      List.nil_append, sent]
  · rw [channel, before]
    rfl
  · exact received.forward (streaming.goesOn bound) put unseen
  · refine streaming.late.append fun e he isEnd => ?_
    have unseen := List.flatMap_eq_nil_iff.mp unseen e he
    rw [unseen] at isEnd
    cases isEnd

/-- **One step of a session with a channel.** -/
theorem step {runners : List Runner} {a : Session.Act Engine} {r : Session.Result Engine Note}
    (streaming : Streaming s h told) (trans : Transition runners s a r) (stays : a ≠ .hangUp) :
    Streaming r.session (h ++ r.seen) (told ++ announced [⟨s, a, r⟩]) := by
  have along := trans.along (.hidden Engine) streaming.along
  -- Most of what can be done has nothing to do with the channel.
  have idle : announced [⟨s, a, r⟩] = [] → r.session.lifecycle = s.lifecycle →
      (r.seen.all isAside = true) →
      Streaming r.session (h ++ r.seen) (told ++ announced [⟨s, a, r⟩]) := by
    intro silent same aside
    rw [silent, List.append_nil]
    exact streaming.aside along same aside
  have announces : ∀ {m : Move} {turn : Turn Engine Note}, a = .move m →
      Engine.move m s.engine = some turn →
      announced [⟨s, a, r⟩] = (turn.call.bind Callback.notice?).toList := by
    rintro m turn rfl moved
    rw [← (Engine.moved_of_move moved).announces?_eq]
    cases given : s.engine.announces? m <;> simp [announced, given]
  obtain ⟨waiting, channel, received⟩ := streaming.received
  cases trans with
  | hangUp => exact absurd rfl stays
  | @receive waiting' channel' =>
      obtain ⟨-, rfl⟩ := Lifecycle.channel.inj (channel'.symm.trans channel)
      rw [Session.Result.seen_unchanged] at along ⊢
      refine ⟨along, ?_, ⟨[], rfl, received.receive _⟩, ?_⟩
      · rw [notices_append, deliveries_append, streaming.sent]
        simp [announced, notices, deliveries, Event.delivery?]
      · refine streaming.late.append fun e he isEnd => ⟨_, streaming.unbound_iff.mpr ?_, rfl⟩
        cases List.mem_singleton.mp he
        cases bound : s.isBound with
        | false => rfl
        | true => simp [gets, bound] at isEnd
  | move status moved silent =>
      refine idle ?_ rfl ?_
      · rw [announces rfl moved, silent]
        rfl
      · rw [Session.Result.seen_unchanged]
        exact aside_inLoop _
  | @ask m turn call status moved asked untold plain =>
      refine idle ?_ rfl ?_
      · rw [announces rfl moved, asked, Option.bind_some, untold streaming.usesChannel]
        rfl
      · rw [Session.Result.seen_unchanged, List.all_append, List.all_append, aside_inLoop,
          aside_logs, List.all_cons, aside_called plain]
        rfl
  | @forward m turn call notice status moved asked _ told' plain =>
      rw [announces rfl moved, asked, Option.bind_some, told', Option.toList_some]
      have last : (turn.happenings.map Happening.inLoop ++ (call.announcement.map .log ++
          [.forwarded notice] ++
            (TunnelControl.Engine.resume call .done turn.engine).2.map Happening.inLoop)) =
          (turn.happenings.map Happening.inLoop ++ call.announcement.map .log) ++
            [.forwarded notice] := by
        simp [TunnelControl.Engine.resume]
      rw [Session.Result.seen_unchanged, last] at along ⊢
      refine streaming.put along (by rw [Session.isBound, status]) rfl ?_ ?_
      · rw [List.all_append, aside_inLoop, aside_logs]
        rfl
      · have unlike : deliveries [(Event.forwarded notice : Event Note)] = [] := by
          cases call <;> cases told' <;> first | rfl | exact absurd rfl (plain _)
        rw [streaming.sent, streaming.deliveries_eq_nil status, unlike]
        simp
  | report status finished handled => simp [streaming.usesChannel] at handled
  | post status finished _ logged =>
      subst logged
      rw [Session.Result.seen_unchanged] at along ⊢
      refine streaming.put along (by rw [Session.isBound, status]) rfl ?_ ?_
      · split <;> rfl
      · rw [streaming.sent]
        simp [announced, deliveries, Event.delivery?]
  | @failStart fault logs status logged =>
      subst logged
      refine idle rfl rfl ?_
      cases fault <;> rfl
  | acknowledge status fits logged =>
      subst logged
      refine idle rfl rfl ?_
      split <;> rfl
  | _ =>
      exact idle rfl rfl (by
        simp only [Session.Result.seen, SlotUse.events, List.all_append, List.all_cons,
          List.all_nil, aside_inLoop, aside_atCaller, aside_logs, isAside, Bool.and_self])

end Streaming

/-! ## What the notices tell -/

section streaming

variable {s : Session Engine} {h : List (Event Note)} {told : List Notice}

/-- The terminal result is the last notice, if it is there. -/
theorem Streaming.notices_cases (streaming : Streaming s h told) :
    notices h = told ∧ deliveries h = [] ∨ ∃ outcome, .started s.id ∈ h ∧ .ended outcome ∈ h ∧
      notices h = told ++ [.terminated ⟨s.id, outcome.code⟩] := by
  rcases streaming.along.deliveries_cases with none | ⟨outcome, started, ended, one⟩
  · rw [← deliveries_eq] at none
    refine Or.inl ⟨?_, none⟩
    rw [streaming.sent, none]
    exact List.append_nil _
  · rw [← deliveries_eq] at one
    refine Or.inr ⟨outcome, (mem_marks_iff rfl).mp started, (mem_marks_iff rfl).mp ended, ?_⟩
    rw [streaming.sent, one]
    rfl

/-- It is there before the context goes. -/
theorem Streaming.notices_of_unbound {id : EngineId} (streaming : Streaming s h told)
    (started : .started id ∈ h) (unbound : .unbound ∈ h) :
    ∃ outcome, .ended outcome ∈ h ∧ notices h = told ++ [.terminated ⟨id, outcome.code⟩] := by
  obtain ⟨rfl, some⟩ := streaming.along.delivered_of_unbound ((mem_marks_iff rfl).mpr unbound)
    ((mem_marks_iff rfl).mpr started)
  rw [← deliveries_eq] at some
  rcases streaming.notices_cases with ⟨-, none⟩ | ⟨outcome, -, ended, all⟩
  · exact absurd none some
  · exact ⟨outcome, ended, all⟩

/-- Nothing is told of a loop that was never started. -/
theorem Streaming.notices_eq_nil (streaming : Streaming s h told)
    (unstarted : ∀ id, .started id ∉ h) : notices h = [] := by
  rw [List.eq_nil_iff_forall_not_mem]
  intro notice mem
  have unmarked : .started s.id ∉ marks (fun _ => false) h := fun marked =>
    unstarted s.id ((mem_marks_iff rfl).mp marked)
  obtain ⟨e, he, sent⟩ := List.mem_filterMap.mp mem
  have called : e.isCallback = true := by
    cases e <;> first | rfl | cases sent
  have marked : .called ∈ e.marks (fun _ => false) ∨
      ∃ result, .delivered result ∈ e.marks (fun _ => false) := exists_mark_of_isCallback called
  rcases marked with call | ⟨result, delivered⟩
  · exact unmarked (streaming.along.started_of_called (List.mem_flatMap.mpr ⟨e, he, call⟩))
  · have delivered : result ∈ (marks (fun _ => false) h).filterMap Mark.delivery? :=
      List.mem_filterMap.mpr ⟨_, List.mem_flatMap.mpr ⟨e, he, delivered⟩, rfl⟩
    rcases streaming.along.deliveries_cases with none | ⟨outcome, started, -⟩
    · rw [none] at delivered
      cases delivered
    · exact unmarked started

/-- Whenever the receiver looks, it gets what is left. -/
theorem Streaming.looks {w : World Engine} {key : Nat}
    (streaming : Streaming s (w.history key) told) (found : w.session? key = some s) :
    ∃ s', w.LeadsTo key [.act key .receive] s'
      [.received (outstanding (w.history key)) ((w.history key).any Event.isUnbound)] := by
  obtain ⟨waiting, channel, received⟩ := streaming.received
  have told : (w.history key).any Event.isUnbound = !s.isBound := by
    cases bound : s.isBound with
    | false =>
        rw [Bool.not_false, List.any_eq_true]
        exact ⟨_, streaming.unbound_iff.mpr bound, rfl⟩
    | true =>
        rw [Bool.not_true, List.any_eq_false]
        rintro e mem unbound
        obtain rfl := Event.isUnbound_iff.mp unbound
        rw [streaming.unbound_iff.mp mem] at bound
        cases bound
  have leads := World.leadsTo_of_step found (Session.step_of_transition (.receive channel))
  rw [Session.Result.seen_unchanged] at leads
  rw [received.outstanding_eq, told]
  exact ⟨_, leads⟩

end streaming

/-! ## Runs -/

section runs

variable {configs : List RunnerConfig} {w : World Engine} {key : Nat} {s : Session Engine}
  {as : List (Action Engine)} {c : Creation Engine} {told : List Notice}

/-- Where no engine can be made, the channel has no sending side any more. -/
theorem unmade_of_run (ran : World.run as (World.new configs) = some w)
    (created : (World.creations as)[key]? = some c)
    (fails : c.plan.script.failsConstruction = true) :
    w.session? key = none ∧ w.history key = [.unbound] := by
  let P (x : Option (Session Engine)) (h : List (Event Note)) (_ : List (Passage Engine)) : Prop :=
    x = none ∧ h = [.unbound]
  have made : ∀ w : World Engine, P (w.make c.plan c.userAgent c.lifecycle).1
      (w.make c.plan c.userAgent c.lifecycle).2 [] := by
    intro w
    rw [make_eq, if_pos fails]
    exact ⟨rfl, rfl⟩
  -- Nothing can be done where there is no session.
  obtain ⟨x, place, rfl, history⟩ :=
    World.creation_invariant (P := P) made (fun _ _ before => nomatch before.1) ran created
  refine ⟨?_, history⟩
  rw [World.session?, place]
  rfl

/-- What goes through the channel of a session whose receiver stays. -/
theorem streaming_of_run (ran : World.run as (World.new configs) = some w)
    (created : (World.creations as)[key]? = some c)
    (sound : c.plan.script.failsConstruction = false) (channel : c.lifecycle = .channel true [])
    (stays : .hangUp ∉ World.acts key as) :
    ∃ s, w.session? key = some s ∧
      Streaming s (w.history key) (announced (World.passages key as (World.new configs))) := by
  let P (s : Session Engine) (h : List (Event Note)) (ps : List (Passage Engine)) : Prop :=
    .hangUp ∉ ps.map Passage.act → Streaming s h (announced ps)
  have made : ∀ w : World Engine, ∃ s, (w.make c.plan c.userAgent c.lifecycle).1 = some s ∧
      P s (w.make c.plan c.userAgent c.lifecycle).2 [] := by
    intro w
    rw [make_eq, if_neg (by simp [sound])]
    refine ⟨_, rfl, fun _ => ⟨.held, rfl, ⟨[], channel, [], 0, rfl, rfl, Or.inl rfl⟩, ?_⟩⟩
    intro before e after split isEnd
    cases before <;> simp at split
    obtain ⟨rfl, -⟩ := split
    cases isEnd
  have kept : ∀ {runners s a r h ps}, runners.map Runner.config = configs →
      Session.step runners a s = some r → P s h ps →
      P r.session (h ++ r.seen) (ps ++ [⟨s, a, r⟩]) := by
    rintro runners s a r h ps - stepped streaming stays
    rw [List.map_append, List.mem_append, not_or] at stays
    have here : a ≠ .hangUp := by
      rintro rfl
      simp at stays
    rw [announced, List.filterMap_append]
    exact (streaming stays.1).step (Session.transition_of_step stepped) here
  obtain ⟨s, found, streaming⟩ := World.exists_of_creation made kept ran created
  exact ⟨s, found, streaming (by rwa [World.map_act_passages ran])⟩

/-- A session whose handle was dropped is not started any more. -/
theorem dropped_of_run (ran : World.run as (World.new configs) = some w)
    (found : w.session? key = some s) (dropped : .drop ∈ World.acts key as) :
    s.status.disposals?.isSome = true ∧ ∀ id, .started id ∉ w.history key := by
  have both : Along 0 0 s.id s.status (marks (fun _ => false) (w.history key)) ∧
      (.drop ∈ (World.passages key as (World.new configs)).map Passage.act →
        s.status.disposals?.isSome = true ∧ ∀ id, .started id ∉ w.history key) := by
    refine World.passages_invariant (P := fun s h ps =>
      Along 0 0 s.id s.status (marks (fun _ => false) h) ∧
        (.drop ∈ ps.map Passage.act →
          s.status.disposals?.isSome = true ∧ ∀ id, .started id ∉ h)) ?_ ?_ ran found
    · intro plan agent lifecycle id engine happenings made
      exact ⟨.of_make (.hidden Engine) made, nofun⟩
    · rintro runners s a r h ps - stepped ⟨along, ended⟩
      have trans := Session.transition_of_step stepped
      refine ⟨trans.along (.hidden Engine) along, fun dropped => ?_⟩
      rw [List.map_append, List.mem_append] at dropped
      rcases dropped with before | now
      · obtain ⟨ending, silent⟩ := ended before
        obtain ⟨ending', silent'⟩ := trans.ending ending
        exact ⟨ending', fun id mem => (List.mem_append.mp mem).elim (silent id) (silent' id)⟩
      · obtain rfl : Session.Act.drop = a := by simpa using now
        cases trans with
        | drop status =>
            rw [status] at along
            refine ⟨rfl, fun id mem => ?_⟩
            rw [Session.Result.seen_unchanged, List.append_nil] at mem
            have marked : .started id ∈ marks (fun _ => false) h := (mem_marks_iff rfl).mpr mem
            rw [along.eq_nil_of_held] at marked
            cases marked
  exact both.2 (by rwa [World.map_act_passages ran])

/-- On the way out the receiver does not go. -/
theorem hangUp_notMem_wayOut {r : Reply} {acts : List (Session.Act Engine)}
    (way : s.wayOut? r = some acts) : .hangUp ∉ acts := by
  unfold Session.wayOut? at way
  split at way
  · obtain ⟨outcome, -, rfl⟩ := Option.map_eq_some_iff.mp way
    split <;> simp
  · cases way
    simp
  · obtain ⟨n, -, rfl⟩ := Option.map_eq_some_iff.mp way
    simp

end runs

/-! ## The channel of a session -/

/-- What a lifecycle channel tells of a session, where `told` are the notices of its engine. -/
structure ChannelHistory (w : World Engine) (key : Nat) (s : Session Engine)
    (told : List Notice) : Prop where
  /-- The notices of the engine went into the channel in the order of its calls, and then the
  terminal result of a loop that was started. -/
  sent : notices (w.history key) = told ∨ ∃ id outcome, .started id ∈ w.history key ∧
    .ended outcome ∈ w.history key ∧
    notices (w.history key) = told ++ [.terminated ⟨id, outcome.code⟩]
  /-- The terminal result is there by the time that the context is gone. -/
  started : ∀ id, .started id ∈ w.history key → .unbound ∈ w.history key →
    ∃ outcome, .ended outcome ∈ w.history key ∧
      notices (w.history key) = told ++ [.terminated ⟨id, outcome.code⟩]
  unstarted : (∀ id, .started id ∉ w.history key) → notices (w.history key) = []
  /-- A session whose start has failed is not started, and by then its context is gone. -/
  refused : ∀ fault, .refused fault ∈ w.history key →
    .unbound ∈ w.history key ∧ ∀ id, .started id ∉ w.history key
  received : ReceivedAllBut (outstanding (w.history key)) (w.history key)
  /-- Once the receiver has got the end, it has got everything, and the context is gone. -/
  whole : none ∈ observed (w.history key) → .unbound ∈ w.history key ∧
    ∃ ends, observed (w.history key) =
      (notices (w.history key)).map some ++ List.replicate (ends + 1) none
  /-- Whenever the receiver looks, it gets what is left, and it is told that this is the end if
  the context is gone. -/
  looks : ∃ s', w.LeadsTo key [.act key .receive] s'
    [.received (outstanding (w.history key)) ((w.history key).any Event.isUnbound)]
  /-- It is told so only once the engine and the context are gone. -/
  late : Preceded (· = .released) (none ∈ gets ·) (w.history key) ∧
    Preceded (· = .unbound) (none ∈ gets ·) (w.history key)
  /-- A session that is not to run any more can be brought to its end, and the receiver is told. -/
  ends : ∀ acts, s.wayOut? .done = some acts →
    ∃ w', World.run ((acts ++ [Session.Act.receive]).map (.act key)) w = some w' ∧
      none ∈ observed (w'.history key)
  /-- A send that began after that, while no other one was under way, was refused at once. -/
  closed : ∀ before token c after,
    w.history key = before ++ .note (.send (.began token c)) :: after →
    none ∈ observed before → inProgress (sends before) = [] →
    ∃ later, after = .note (.send (.ended token (.error .closed))) :: later
  /-- So is any send that begins now. -/
  refuses : none ∈ observed (w.history key) → inProgress (sends (w.history key)) = [] →
    ∀ token c, w.LeadsTo key [.act key (.access (.borrow token c))] s
      [.note (.send (.began token c)), .note (.send (.ended token (.error .closed)))]

section channel

variable {configs : List RunnerConfig} {w : World Engine} {key : Nat} {s : Session Engine}
  {as : List (Action Engine)} {c : Creation Engine} {told : List Notice}

/-- The end is told once the engine is gone. -/
theorem Streaming.preceded_released (streaming : Streaming s (w.history key) told)
    (reach : Reachable configs w) (found : w.session? key = some s) :
    Preceded (· = .released) (none ∈ gets ·) (w.history key) :=
  ((reach.releasesOnce releaseSign rfl).session key s found).context.2.trans streaming.late

/-- Once the end was told, nobody has a share of the queue but the sends under way. -/
theorem Streaming.unowned (streaming : Streaming s (w.history key) told)
    (reach : Reachable configs w) (found : w.session? key = some s)
    {before after : List (Event Note)} (split : w.history key = before ++ after)
    (finished : none ∈ observed before) (still : inProgress (sends before) = []) :
    Unowned before := by
  refine ⟨?_, still⟩
  obtain ⟨e, mem, isEnd⟩ := none_mem_observed_iff.mp finished
  obtain ⟨first, last, rfl⟩ := List.append_of_mem mem
  rw [List.append_assoc, List.cons_append] at split
  obtain ⟨_, mem, rfl⟩ :=
    streaming.preceded_released reach found first e (last ++ after) split isEnd
  exact List.mem_append_left _ mem

/-- A session that is not to run any more can be brought to its end. -/
theorem exists_end (ran : World.run as (World.new configs) = some w)
    (created : (World.creations as)[key]? = some c)
    (sound : c.plan.script.failsConstruction = false) (channel : c.lifecycle = .channel true [])
    (stays : .hangUp ∉ World.acts key as) (found : w.session? key = some s)
    {acts : List (Session.Act Engine)} (way : s.wayOut? .done = some acts) :
    ∃ w', World.run ((acts ++ [Session.Act.receive]).map (.act key)) w = some w' ∧
      none ∈ observed (w'.history key) := by
  obtain ⟨w₁, s₁, out, found₁, gone⟩ := World.run_wayOut (Or.inl rfl) found way
  have ran₁ : World.run (as ++ acts.map (.act key)) (World.new configs) = some w₁ := by
    rw [World.run_append, ran]
    exact out
  have created₁ : (World.creations (as ++ acts.map (.act key)))[key]? = some c := by
    rw [World.creations_append, List.getElem?_append_left (List.getElem?_eq_some_iff.mp created).1]
    exact created
  have stays₁ : .hangUp ∉ World.acts key (as ++ acts.map (.act key)) := by
    rw [World.acts_append, World.acts_map, List.mem_append, not_or]
    exact ⟨stays, hangUp_notMem_wayOut way⟩
  obtain ⟨_, found', streaming⟩ := streaming_of_run ran₁ created₁ sound channel stays₁
  cases found₁.symm.trans found'
  obtain ⟨s₂, w₂, ran₂, -, history⟩ := streaming.looks found₁
  have unbound : (w₁.history key).any Event.isUnbound = true := by
    rw [List.any_eq_true]
    refine ⟨_, streaming.unbound_iff.mpr ?_, rfl⟩
    rw [Session.isBound, gone]
  refine ⟨w₂, ?_, ?_⟩
  · rw [List.map_append, World.run_append, out]
    exact ran₂
  · rw [history, unbound, observed_append]
    simp [observed, gets]

/-- **The channel of a session tells its history.** Let the receiver of the channel stay, and let it
look whenever it likes. It gets the notices of the engine in the order of its calls and then, if
and only if the session was started, the terminal result with the number of the engine, and then
the end. By then the engine is gone, and a send that begins while no other one is under way is
refused. Of a session that is not started, whether no engine can be made, or it is dropped, or its
start fails, the channel tells nothing but the end. -/
theorem channel_tells_history (ran : World.run as (World.new configs) = some w)
    (created : (World.creations as)[key]? = some c) (channel : c.lifecycle = .channel true [])
    (stays : .hangUp ∉ World.acts key as) :
    (c.plan.script.failsConstruction = true →
      w.session? key = none ∧ w.history key = [.unbound]) ∧
    (c.plan.script.failsConstruction = false → ∃ s, w.session? key = some s ∧
      ChannelHistory w key s (announced (World.passages key as (World.new configs))) ∧
      (.drop ∈ World.acts key as →
        (∀ id, .started id ∉ w.history key) ∧ (s.wayOut? .done).isSome = true)) := by
  refine ⟨unmade_of_run ran created, fun sound => ?_⟩
  obtain ⟨s, found, streaming⟩ := streaming_of_run ran created sound channel stays
  have reach : Reachable configs w := .of_run .start ran
  have served := served_of_reachable reach found
  refine ⟨s, found, ?_, ?_⟩
  · constructor
    case sent =>
      rcases streaming.notices_cases with ⟨none, -⟩ | ⟨outcome, started, ended, all⟩
      · exact Or.inl none
      · exact Or.inr ⟨s.id, outcome, started, ended, all⟩
    case started =>
      intro id started unbound
      exact streaming.notices_of_unbound started unbound
    case unstarted => exact streaming.notices_eq_nil
    case refused =>
      intro fault refused
      obtain ⟨unbound, unstarted⟩ :=
        streaming.along.not_started_of_refused ((mem_marks_iff rfl).mpr refused)
      exact ⟨(mem_marks_iff rfl).mp unbound, fun id started =>
        unstarted id ((mem_marks_iff rfl).mpr started)⟩
    case received =>
      obtain ⟨waiting, -, received⟩ := streaming.received
      exact received.outstanding_eq ▸ received
    case whole =>
      intro finished
      obtain ⟨waiting, -, received⟩ := streaming.received
      exact ⟨streaming.unbound_of_finished finished, received.whole finished⟩
    case looks => exact streaming.looks found
    case late => exact ⟨streaming.preceded_released reach found, streaming.late⟩
    case ends =>
      intro acts way
      exact exists_end ran created sound channel stays found way
    case closed =>
      intro before token c after split finished still
      have unowned := streaming.unowned reach found split finished still
      exact served.refused before token c after split unowned
    case refuses =>
      intro finished still token c
      have unowned := streaming.unowned reach found (List.append_nil _).symm finished still
      have unused : s.engine.queue.loans = [] := by
        rw [← List.map_eq_nil_iff (f := Loan.token), served.lent.tokens, still]
      have used : s.engine.queue.step? (.borrow token c) =
          some (s.engine.queue, [.began token c, .ended token (.error .closed)]) := by
        simp [Queue.step?, unused, served.unowned_iff.mp unowned]
      exact leadsTo_of_step? found used
  · intro dropped
    obtain ⟨ending, unstarted⟩ := dropped_of_run ran found dropped
    refine ⟨unstarted, ?_⟩
    cases status : s.status <;> simp [status, Status.disposals?] at ending <;>
      simp [Session.wayOut?, status, Status.disposals?]

end channel

def assigned : Addressing :=
  ⟨some "10.8.0.12", some "255.255.255.0", none, none, ["10.0.0.53"], [], none, none, 1399, [], [],
    [], none, [], []⟩

/-- Three attempts: no engine can be made for the first session, the loop of the second one is
run, with a receiver that looks three times, and the third one is dropped. -/
def watched : List (Action Engine) :=
  let create (fails : Bool) : Action Engine :=
    .create ⟨0, ⟨[.connected assigned, .invoke 0], 0, fails, none⟩⟩ "agent" (.channel true [])
  let dispose (key : Nat) : List (Action Engine) := List.replicate 4 (.act key .dispose)
  [create true, create false, create false, .act 1 (.start 0), .act 1 .reserve,
    .act 1 (.spawn none), .act 1 .enter, .act 1 (.move .go), .act 1 (.move .go), .act 1 .receive,
    .act 1 (.move .go), .act 1 (.move .go), .act 1 (.move (.call .reconnected)),
    .act 1 (.move (.leave none)), .act 1 (.move .go), .act 1 .finish, .act 1 .receive] ++
  dispose 1 ++ [.act 1 .receive, .act 1 (.access (.borrow 1 .cancel)), .act 2 .drop] ++ dispose 2

theorem watched_channel_tells_history :
    ∃ w, World.run watched (World.new [.default]) = some w ∧ w.session? 0 = none ∧
      (∃ s, w.session? 1 = some s ∧ ChannelHistory w 1 s [.connected assigned, .reconnected]) ∧
      observed (w.history 1) = [some (.connected assigned), some .reconnected,
        some (.terminated ⟨.first, 0⟩), none] ∧
      ∀ id, .started id ∉ w.history 2 := by
  have stays : ∀ key, .hangUp ∉ World.acts key watched := by
    simp [watched, World.acts]
  obtain ⟨w, ran⟩ : ∃ w, World.run watched (World.new [.default]) = some w := ⟨_, rfl⟩
  have unmade := (@channel_tells_history _ w 0 _ _ ran rfl rfl (stays 0)).1 rfl
  obtain ⟨s, found, history, -⟩ := (@channel_tells_history _ w 1 _ _ ran rfl rfl (stays 1)).2 rfl
  obtain ⟨_, -, -, dropped⟩ := (@channel_tells_history _ w 2 _ _ ran rfl rfl (stays 2)).2 rfl
  refine ⟨w, ran, unmade.1, ⟨s, found, history⟩, ?_, (dropped ?_).1⟩
  · cases ran
    rfl
  · simp [watched, World.acts]

end Scripted
end TunnelControl
