import DemandPaging.Lock.Basic

/-!
The ticket lock: everybody takes a number, and the lock belongs to the number being served.
-/
namespace DemandPaging

structure TicketLock (α : Type) where
  nextTicket : UInt64
  nowServing : UInt64
  value : α
deriving DecidableEq, Repr

structure TicketGuard where
  ticket : UInt64
deriving DecidableEq, Repr

namespace TicketLock

variable {α : Type}

/-- The number behind a ticket's. -/
def successor (ticket : UInt64) : Except Halt UInt64 :=
  if ticket.toNat + 1 < UInt64.size then .ok (ticket + 1) else .error .ticketOverflow

/-- Takes a ticket, and the lock if the ticket is being served. With one user there is nobody
else to serve it later. Behind the last ticket the numbers start again. -/
def lock (tickets : TicketLock α) : Option (TicketGuard × TicketLock α) :=
  let ticket := tickets.nextTicket
  let taken := { tickets with nextTicket := ticket + 1 }
  if tickets.nowServing = ticket then some (⟨ticket⟩, taken) else none

/-- Takes a ticket only if it is the one being served. There has to be a ticket behind it in any
case. -/
def tryLock (tickets : TicketLock α) : Except Halt (Option TicketGuard × TicketLock α) := do
  let ticket := tickets.nextTicket
  let nextTicket ← successor ticket
  if tickets.nowServing = ticket then
    return (some ⟨ticket⟩, { tickets with nextTicket })
  else
    return (none, tickets)

def unlock (guard : TicketGuard) (tickets : TicketLock α) : Except Halt (TicketLock α) := do
  let nowServing ← successor guard.ticket
  return { tickets with nowServing }

def isLocked (tickets : TicketLock α) : Bool := tickets.nowServing ≠ tickets.nextTicket

instance : ExclusiveLock TicketLock TicketGuard where
  new value := ⟨0, 0, value⟩
  lock := lock
  tryLock := tryLock
  unlock := unlock
  isLocked := isLocked
  value tickets := tickets.value
  setValue value tickets := { tickets with value }
  describe? := none

end TicketLock

end DemandPaging
