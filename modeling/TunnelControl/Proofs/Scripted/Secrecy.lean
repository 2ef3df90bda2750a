import Mathlib.Data.List.DropRight
import TunnelControl.Proofs.TerminalResult
import TunnelControl.Proofs.Scripted.Records

/-!
# Credentials stay secret

A `Clerk` answers forms with processors that log and fill in credentials. Whatever else it is
asked, it may go by everything that has happened so far, but for what was entered into forms.
Apart from the clerk there are those who configure, start and drive the sessions, and who send
them commands: a list of `Hand`s tells whose turn it is, and `Clerk.attend` is the run that comes
of it.

A run is the same behind the veil whatever the credentials are (`Clerk.attend_veiled`). So nothing
that is looked at without the values of forms tells credentials apart, and `credentials_stay_secret`
says what that is: the log, the calls and the answers, the terminal results and the journals.
-/

namespace TunnelControl

/-- The call that the controller is to answer next. -/
def Session.asked? {ε : Type} (s : Session ε) : Option Callback :=
  match s.status with
  | .running asked => asked
  | .reporting result => some (.terminated result)
  | _ => none

theorem Session.asked?_eq_some {ε : Type} {s : Session ε} {call : Callback}
    (asked : s.asked? = some call) :
    s.status = .running (some call) ∨
      ∃ result, s.status = .reporting result ∧ call = .terminated result := by
  unfold asked? at asked
  split at asked
  · rename_i status
    exact .inl (asked ▸ status)
  · rename_i result status
    exact .inr ⟨result, status, (Option.some.inj asked).symm⟩
  · cases asked

namespace Scripted

/-! ## Clerks -/

/-- What a controller does about a call: it writes to the log, and then it replies. -/
structure Conduct where
  entries : List Log.Entry
  reply : Reply

/-- A controller that answers the forms of each session with processors. -/
structure Clerk where
  forms : Nat → Processor Filling
  /-- What it does about any other call of a session, after all that has happened before. -/
  others : List (Nat × Event Note) → Nat → Callback → Conduct
  fits : ∀ before key call, (others before key call).reply.fits call = true

/-- Whether an entry of a trace is a call of the session. -/
def isCall (key : Nat) (x : Nat × Event Note) : Bool := x.1 = key && x.2.call?.isSome

/-- Whether an entry of a trace was logged by the thread of the session. -/
def isLogged (key : Nat) (x : Nat × Event Note) : Bool :=
  x.1 = key && match x.2 with
    | .log _ => true
    | _ => false

namespace Clerk

variable (c : Clerk) (held : Nat → Credentials)

/-- What the clerk does about a call, given the credentials. Only forms are a matter of
credentials, and what was entered into them is hidden from all other callbacks. -/
def conduct (before : List (Nat × Event Note)) (key : Nat) : Callback → Conduct
  | .form f =>
    let (desk, verdict) := (c.forms key).fillIn held f
    ⟨desk.log, verdict.elim .panic (.form desk.form)⟩
  | call => c.others (before.map values.entry) key call

/-- What the clerk does next for a session that waits for it: what it has to log comes one by
one, the reply after that. -/
def act? (key : Nat) (w : World Engine) : Option (Session.Act Engine) :=
  ((w.session? key).bind Session.asked?).map fun call =>
    let before := w.trace.rdropWhile fun x => !isCall key x
    let since := w.trace.rtakeWhile fun x => !isCall key x
    let conduct := c.conduct held before key call
    match conduct.entries[since.countP (isLogged key)]? with
    | some entry => .log entry
    | none => .reply conduct.reply

theorem fits_conduct (before : List (Nat × Event Note)) (key : Nat) (call : Callback) :
    (c.conduct held before key call).reply.fits call = true := by
  cases call with
  | form f =>
      simp only [conduct]
      cases ((c.forms key).fillIn held f).2 <;> rfl
  | _ => exact c.fits _ _ _

theorem exists_act {key : Nat} {w : World Engine} {s : Session Engine} {call : Callback}
    (found : w.session? key = some s) (asked : s.asked? = some call) :
    ∃ a, c.act? held key w = some a ∧
      ((∃ entry, a = .log entry) ∨ ∃ r : Reply, r.fits call = true ∧ a = .reply r) := by
  simp only [act?, found, Option.bind_some, asked, Option.map_some, Option.some.injEq,
    exists_eq_left']
  split
  · exact .inl ⟨_, rfl⟩
  · exact .inr ⟨_, c.fits_conduct held _ key call, rfl⟩

/-- Whatever a session waits for, the clerk can do what is next. -/
theorem exists_step {key : Nat} {w : World Engine} {s : Session Engine} {call : Callback}
    (found : w.session? key = some s) (asked : s.asked? = some call) :
    ∃ a w', c.act? held key w = some a ∧ w.step (.act key a) = some w' := by
  obtain ⟨a, chosen, next⟩ := c.exists_act held found asked
  obtain ⟨r, trans⟩ : ∃ r, Session.Transition w.runners s a r := by
    rcases next with ⟨entry, rfl⟩ | ⟨r, fits, rfl⟩ <;>
      rcases Session.asked?_eq_some asked with status | ⟨result, status, rfl⟩
    · exact ⟨_, .log status⟩
    · exact ⟨_, .logLast status⟩
    · exact ⟨_, .reply status fits⟩
    · exact ⟨_, .acknowledge status fits rfl⟩
  exact ⟨a, _, chosen, World.act_of_step found (Session.step_of_transition trans)⟩

end Clerk

/-! ## Runs -/

/-- Whose turn it is. -/
inductive Hand
  /-- Somebody does this who is not the controller. -/
  | other (a : Action Engine)
  /-- The controller goes on with what a session has called it for. -/
  | controller (key : Nat)

/-- Whether only the controller can do this. -/
def isAnswer : Action Engine → Bool
  | .act _ (.log _) | .act _ (.reply _) => true
  | _ => false

/-- What is done next, if that can be. -/
def Clerk.action? (c : Clerk) (held : Nat → Credentials) (w : World Engine) :
    Hand → Option (Action Engine)
  | .other a => if isAnswer a then none else some a
  | .controller key => (c.act? held key w).map (.act key)

/-- The run with these hands: the world that it leads to, and all that is written to the log on
the way. There is none if somebody cannot do what it is their turn to do. -/
def Clerk.attend (c : Clerk) (held : Nat → Credentials) :
    List Hand → World Engine → Option (World Engine × List (Nat × Record))
  | [], w => some (w, [])
  | hand :: hands, w => do
    let a ← c.action? held w hand
    let w' ← w.step a
    (c.attend held hands w').map (Prod.map id (written w a w' ++ ·))

def forwarded? : Event Note → Option Notice
  | .forwarded notice => some notice
  | _ => none

/-- The call that was answered and the reply, but for the values of a form. -/
def answered? (e : Event Note) : Option (Callback × Reply) :=
  e.reply?.map (Prod.map id Reply.valueless)

/-- What is to be seen of a run without the values of forms. -/
structure View where
  /-- All records, by session and in the order in which they were written. -/
  log : List (Nat × Record)
  calls : List (Nat × Callback)
  /-- The notices that went into channels in place of calls. -/
  notices : List (Nat × Notice)
  /-- The calls that were answered, with the replies. -/
  answers : List (Nat × Callback × Reply)
  /-- The terminal results that were delivered. -/
  results : List (Nat × TerminalResult)
  /-- The journal of each script. -/
  journals : Nat → Journal

def view (run : World Engine × List (Nat × Record)) : View where
  log := run.2
  calls := seenAs Event.call? run.1.trace
  notices := seenAs forwarded? run.1.trace
  answers := seenAs answered? run.1.trace
  results := seenAs Event.delivery? run.1.trace
  journals key := (journal key run.1).map JournalNote.valueless

/-! ## Behind the veil -/

/-- Where two computations agree under a map, and go on in agreement, they agree in the end. -/
theorem map_bind_congr {α β γ δ : Type} {x x' : Option α} {f : α → β} {g g' : α → Option γ}
    {h : γ → δ} (same : x.map f = x'.map f)
    (next : ∀ a a', f a = f a' → (g a).map h = (g' a').map h) :
    (x.bind g).map h = (x'.bind g').map h := by
  cases x with
  | none =>
      rw [Option.map_eq_none_iff.mp same.symm]
      rfl
  | some a =>
      obtain ⟨a', rfl, agree⟩ := Option.map_eq_some_iff.mp same.symm
      exact next a a' agree.symm

theorem isCall_veiled (key : Nat) (x : Nat × Event Note) :
    isCall key (values.entry x) = isCall key x := by
  obtain ⟨k, event⟩ := x
  cases event <;> rfl

theorem isLogged_veiled (key : Nat) (x : Nat × Event Note) :
    isLogged key (values.entry x) = isLogged key x := by
  obtain ⟨k, event⟩ := x
  cases event <;> rfl

theorem rdropWhile_veiled (key : Nat) (trace : List (Nat × Event Note)) :
    (trace.map values.entry).rdropWhile (fun x => !isCall key x) =
      (trace.rdropWhile fun x => !isCall key x).map values.entry := by
  simp [List.rdropWhile, ← List.map_reverse, List.dropWhile_map, Function.comp_def, isCall_veiled]
  rfl

theorem countP_rtakeWhile_veiled (key : Nat) (trace : List (Nat × Event Note)) :
    ((trace.map values.entry).rtakeWhile fun x => !isCall key x).countP (isLogged key) =
      (trace.rtakeWhile fun x => !isCall key x).countP (isLogged key) := by
  simp [List.rtakeWhile, ← List.map_reverse, List.takeWhile_map, Function.comp_def, isCall_veiled,
    List.countP_map, isLogged_veiled]
  rfl

theorem asked?_veiled (key : Nat) (w : World Engine) :
    ((values.world w).session? key).bind Session.asked? =
      (w.session? key).bind Session.asked? := by
  rw [Veil.session?_world, Option.bind_map]
  rfl

/-- What the clerk does, whatever the values of the form that it replies. -/
def Conduct.valueless (x : Conduct) : Conduct := { x with reply := x.reply.valueless }

namespace Clerk

variable (c : Clerk) (held held' : Nat → Credentials)

/-- With other credentials the clerk does the same about a call, but for values. -/
theorem conduct_valueless {before before' : List (Nat × Event Note)}
    (same : before.map values.entry = before'.map values.entry) (key : Nat) (call : Callback) :
    (c.conduct held before key call).valueless = (c.conduct held' before' key call).valueless := by
  cases call with
  | form f =>
      have filled := (c.forms key).fillIn_valueless held f
      rw [(c.forms key).fillIn_valueless held' f] at filled
      simp only [conduct, Conduct.valueless]
      cases run : (c.forms key).fillIn held f with
      | mk desk verdict =>
          cases run' : (c.forms key).fillIn held' f with
          | mk desk' verdict' =>
              rw [run, run'] at filled
              obtain ⟨desks, rfl⟩ := Prod.mk.inj filled
              simp only [Rehearsal.Desk.valueless, Rehearsal.Desk.mk.injEq] at desks
              obtain ⟨form, log⟩ := desks
              cases verdict' <;> simp [log, form, Reply.valueless]
  | _ => simp only [conduct, same]

theorem act?_veiled {w w' : World Engine} (same : values.world w = values.world w') (key : Nat) :
    (c.act? held key w).map values.act = (c.act? held' key w').map values.act := by
  have trace : w.trace.map values.entry = w'.trace.map values.entry := congrArg World.trace same
  have asked : (w.session? key).bind Session.asked? = (w'.session? key).bind Session.asked? := by
    rw [← asked?_veiled key w, same, asked?_veiled]
  have before : (w.trace.rdropWhile fun x => !isCall key x).map values.entry =
      (w'.trace.rdropWhile fun x => !isCall key x).map values.entry := by
    rw [← rdropWhile_veiled, trace, rdropWhile_veiled]
  have logged : (w.trace.rtakeWhile fun x => !isCall key x).countP (isLogged key) =
      (w'.trace.rtakeWhile fun x => !isCall key x).countP (isLogged key) := by
    rw [← countP_rtakeWhile_veiled, trace, countP_rtakeWhile_veiled]
  simp only [act?, asked, logged, Option.map_map]
  refine congrArg (Option.map · _) (funext fun call => ?_)
  have done := c.conduct_valueless held held' before key call
  have entries := congrArg Conduct.entries done
  have reply := congrArg Conduct.reply done
  simp only [Conduct.valueless] at entries reply
  simp only [Function.comp_apply, entries]
  split
  · rfl
  · exact congrArg Session.Act.reply reply

theorem action?_veiled {w w' : World Engine} (same : values.world w = values.world w')
    (hand : Hand) :
    (c.action? held w hand).map values.action = (c.action? held' w' hand).map values.action := by
  cases hand with
  | other a => rfl
  | controller key =>
      have veiled (x : Option (Session.Act Engine)) :
          (x.map (Action.act key)).map values.action = (x.map values.act).map (Action.act key) := by
        cases x <;> rfl
      rw [action?, action?, veiled, veiled, c.act?_veiled held held' same key]

/-- **Credentials change nothing that is not behind the veil.** -/
theorem attend_veiled (hands : List Hand) {w w' : World Engine}
    (same : values.world w = values.world w') :
    (c.attend held hands w).map (Prod.map values.world id) =
      (c.attend held' hands w').map (Prod.map values.world id) := by
  induction hands generalizing w w' with
  | nil => exact congrArg (fun v => some (v, [])) same
  | cons hand hands ih =>
      simp only [attend, Option.bind_eq_bind]
      refine map_bind_congr (c.action?_veiled held held' same hand) fun a a' acts => ?_
      have stepped : (w.step a).map values.world = (w'.step a').map values.world := by
        rw [← values_unseen.world_step, ← values_unseen.world_step, same, acts]
      refine map_bind_congr stepped fun v v' worlds => ?_
      have log : written w a v = written w' a' v' := by
        rw [← written_veiled, same, acts, worlds, written_veiled]
      have later := congrArg (Option.map (Prod.map id (written w' a' v' ++ ·))) (ih worlds)
      simp only [Option.map_map] at later ⊢
      rw [log]
      exact later

end Clerk

theorem journal_veiled (key : Nat) (w : World Engine) :
    journal key (values.world w) = (journal key w).map JournalNote.valueless := by
  simp only [journal, Veil.world, List.filterMap_map, List.map_filterMap]
  congr 1
  funext x
  obtain ⟨k, event⟩ := x
  have found := values.session?_world w k
  simp only [Veil.world] at found
  cases event with
  | note n =>
      simp only [Function.comp_apply, Veil.entry, Veil.event, found]
      cases w.session? k with
      | none => rfl
      | some s =>
          have own : (values.session s).engine.key = s.engine.key := rfl
          simp only [Option.map_some, own]
          split
          · cases n <;> rfl
          · rfl
  | _ => rfl

/-- What is seen of a run without the values of forms is seen behind the veil. -/
theorem view_congr {run run' : World Engine × List (Nat × Record)}
    (same : Prod.map values.world id run = Prod.map values.world id run') :
    view run = view run' := by
  obtain ⟨w, log⟩ := run
  obtain ⟨w', log'⟩ := run'
  obtain ⟨worlds, logs⟩ := Prod.mk.inj same
  have trace : w.trace.map values.entry = w'.trace.map values.entry := congrArg World.trace worlds
  have looks {α : Type} (look look' : Event Note → Option α)
      (veiled : ∀ e, look' (values.event e) = look e) :
      seenAs look w.trace = seenAs look w'.trace := by
    rw [← seenAs_veiled veiled, trace, seenAs_veiled veiled]
  have calls := looks Event.call? Event.call? fun e => by cases e <;> rfl
  have notices := looks forwarded? forwarded? fun e => by cases e <;> rfl
  have answers := looks answered? Event.reply? fun e => by cases e <;> rfl
  have results := looks Event.delivery? Event.delivery? fun e => by cases e <;> rfl
  have journals (key : Nat) : (journal key w).map JournalNote.valueless =
      (journal key w').map JournalNote.valueless := by
    rw [← journal_veiled, worlds, journal_veiled]
  have logs : log = log' := logs
  simp only [view, logs, calls, notices, answers, results, journals]

/-- **Credentials stay secret.** Let a controller answer forms with any processors that log and
fill in credentials, and let its other callbacks not depend on what was entered. If everybody else
does the same at the same points, a run can be made with other credentials just as well, and it
writes the same to the log, makes the same calls, gets the same answers and comes to the same
terminal results and the same journals, but for the values of the forms that were answered. -/
theorem credentials_stay_secret (c : Clerk) (held held' : Nat → Credentials) (hands : List Hand)
    (configs : List RunnerConfig) :
    (c.attend held hands (World.new configs)).map view =
      (c.attend held' hands (World.new configs)).map view := by
  have runs := c.attend_veiled held held' hands
    (rfl : values.world (World.new configs) = values.world (World.new configs))
  have seen : ((c.attend held hands (World.new configs)).bind some).map view =
      ((c.attend held' hands (World.new configs)).bind some).map view :=
    map_bind_congr runs fun run run' same => congrArg some (view_congr same)
  simpa using seen

/-- Logs a form and fills in credentials, and leaves everything else to the defaults. -/
def porter : Clerk where
  forms _ := .aggregate [.leaf .logging, .leaf (.credentials 0)]
  others _ _ call := ⟨[], call.defaultReply⟩
  fits _ _ call := by cases call <;> rfl

/-- A session that asks for user name and password, from its making to its end. -/
def signIn : List Hand :=
  let form : Form := ⟨none, some "Sign in", none, none,
    [.blank "username" "User" .text, .blank "password" "Password" .password]⟩
  let go := Hand.other (.act 0 (.move .go))
  [.other (.create ⟨7, ⟨[.authForm form], 0, false, none⟩⟩ "agent" .handler),
    .other (.act 0 (.start 0)), .other (.act 0 .reserve), .other (.act 0 (.spawn none)),
    .other (.act 0 .enter), go, go] ++ List.replicate 4 (.controller 0) ++ [go, go, go] ++
    [.other (.act 0 .finish), .controller 0] ++ List.replicate 4 (.other (.act 0 .dispose))

example :
    (porter.attend (fun _ => ⟨"ann", "secret"⟩) signIn (World.new [.default])).map
      (fun run => (journal 7 run.1).submitted) =
        some [[("username", "ann"), ("password", "secret")]] := by
  decide +kernel

end Scripted
end TunnelControl
