import DemandPaging.Lock.Basic

/-!
A lock in the hands of one user, who holds at most one guard. What would block or needs a guard
that is not there is refused and changes nothing.
-/
namespace DemandPaging

structure LockSession (L : Type → Type) (G α : Type) where
  lock : L α
  guard? : Option G

inductive LockAction (α : Type) where
  | lock
  | tryLock
  | unlock
  /-- Reads the value through the guard. -/
  | get
  /-- Writes the value through the guard. -/
  | set (value : α)
  /-- Writes the value of a lock that nobody holds. -/
  | setUnlocked (value : α)
  /-- Takes the value out, which ends the lock. -/
  | takeValue
  | isLocked
  | describe
  | describeGuard
deriving DecidableEq, Repr

inductive LockReply (α : Type) where
  | value (value : α)
  | flag (flag : Bool)
  | text (text : String)
  | nothing
  | wouldBlock
  | notAllowed
deriving DecidableEq, Repr

namespace LockSession

variable {L : Type → Type} {G α : Type} [ExclusiveLock L G]

def new (value : α) : LockSession L G α := ⟨ExclusiveLock.new value, none⟩

def value (session : LockSession L G α) : α := ExclusiveLock.value session.lock

/-- Carries out one action; no session is left of a lock that has ended. -/
def perform (text : α → String) (session : LockSession L G α) :
    LockAction α → Except Halt (LockReply α × Option (LockSession L G α))
  | .lock =>
    match session.guard?, ExclusiveLock.lock session.lock with
    | none, some (guard, lock) =>
      return (.value (ExclusiveLock.value lock), some ⟨lock, some guard⟩)
    | _, _ => return (.wouldBlock, some session)
  | .tryLock => do
    match ← ExclusiveLock.tryLock session.lock with
    | (none, lock) => return (.flag false, some { session with lock })
    | (some guard, lock) => return (.flag true, some ⟨lock, some guard⟩)
  | .unlock =>
    match session.guard? with
    | none => return (.flag false, some session)
    | some guard => do
      let lock ← ExclusiveLock.unlock guard session.lock
      return (.flag true, some ⟨lock, none⟩)
  | .get => return (if session.guard?.isSome then .value session.value else .nothing, some session)
  | .set value =>
    if session.guard?.isSome then
      return (.flag true, some { session with lock := ExclusiveLock.setValue value session.lock })
    else
      return (.notAllowed, some session)
  | .setUnlocked value =>
    if session.guard?.isSome then
      return (.notAllowed, some session)
    else
      return (.flag true, some { session with lock := ExclusiveLock.setValue value session.lock })
  | .takeValue =>
    if session.guard?.isSome then
      return (.notAllowed, some session)
    else
      return (.value session.value, none)
  | .isLocked => return (.flag (ExclusiveLock.isLocked session.lock), some session)
  | .describe =>
    match (ExclusiveLock.describe? : Option (LockDisplay L α)) with
    | none => return (.notAllowed, some session)
    | some display => do
      let (shown, lock) ← display text session.lock
      return (.text shown, some { session with lock })
  | .describeGuard =>
    match session.guard?, (ExclusiveLock.describe? : Option (LockDisplay L α)) with
    | some _, some _ => return (.text (text session.value), some session)
    | _, _ => return (.notAllowed, some session)

/-- Carries out actions one after the other, until the lock has ended or an action halts: the
replies, and the session behind them. -/
def play (text : α → String) (session : LockSession L G α) :
    List (LockAction α) → List (LockReply α) × Except Halt (Option (LockSession L G α))
  | [] => ([], .ok (some session))
  | action :: actions =>
    match session.perform text action with
    | .error halt => ([], .error halt)
    | .ok (reply, none) => ([reply], .ok none)
    | .ok (reply, some session) =>
      let (replies, rest) := session.play text actions
      (reply :: replies, rest)

def run (text : α → String) (session : LockSession L G α) (actions : List (LockAction α)) :
    List (LockReply α) :=
  (session.play text actions).1

end LockSession

end DemandPaging
