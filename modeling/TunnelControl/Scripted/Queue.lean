import TunnelControl.Command
import TunnelControl.Fault

/-!
# Command queues

A queue keeps every command that ever entered it and how many of them the loop
has taken; what is pending is the rest.

Command pipes do not own the queue. A send borrows it, enters its command and
hands it back, as three separate steps. It can be borrowed as long as anybody
owns it: the engine, or another send that is under way. Once nobody does, the
queue is closed for good.
-/

namespace TunnelControl.Scripted

/-- A send under way. -/
structure Loan where
  /-- Tells the send from all others. -/
  token : Nat
  command : Command
  /-- Whether the command has entered the queue. -/
  entered : Bool
  deriving DecidableEq

structure Queue where
  /-- The commands that entered, oldest first. -/
  entered : List Command
  /-- How many of them were taken. -/
  taken : Nat
  /-- Whether the engine still owns the queue. -/
  owned : Bool
  loans : List Loan
  deriving DecidableEq

/-- A step of a send. -/
inductive QueueAct
  | borrow (token : Nat) (command : Command)
  | enter (token : Nat)
  | giveBack (token : Nat)
  deriving DecidableEq

/-- What a send tells of itself. -/
inductive SendNote
  | began (token : Nat) (command : Command)
  | entered (token : Nat)
  /-- The send is over. -/
  | ended (token : Nat) (result : Except SendFault Unit)

namespace Queue

def new : Queue := ⟨[], 0, true, []⟩

def pending (q : Queue) : List Command := q.entered.drop q.taken

/-- Whether the queue can be borrowed. -/
def isOpen (q : Queue) : Bool := q.owned || !q.loans.isEmpty

/-- Takes the oldest pending command. -/
def pop? (q : Queue) : Option (Command × Queue) :=
  match q.pending with
  | [] => none
  | c :: _ => some (c, { q with taken := q.taken + 1 })

/-- The engine gives up the queue. -/
def disown (q : Queue) : Queue := { q with owned := false }

/-- One step of a send. A token that is in use cannot be used for another send. -/
def step? (act : QueueAct) (q : Queue) : Option (Queue × List SendNote) :=
  match act with
  | .borrow token c =>
    if q.loans.any fun l => l.token == token then none
    else if q.isOpen then
      some ({ q with loans := q.loans ++ [⟨token, c, false⟩] }, [.began token c])
    else some (q, [.began token c, .ended token (.error .closed)])
  | .enter token =>
    (q.loans.find? fun l => l.token == token && !l.entered).map fun loan =>
      ({ q with
          entered := q.entered ++ [loan.command]
          loans := q.loans.map fun l => if l.token = token then { l with entered := true } else l },
        [.entered token])
  | .giveBack token =>
    (q.loans.find? fun l => l.token == token && l.entered).map fun _ =>
      ({ q with loans := q.loans.filter fun l => l.token ≠ token }, [.ended token (.ok ())])

end Queue
end TunnelControl.Scripted
