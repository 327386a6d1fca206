import DemandPaging.Lock.SpinLock
import DemandPaging.Lock.TicketLock

/-!
The mutex that the rest of the system uses: a lock of either kind that can be shown. To look at the
value, showing takes the lock and gives it back.
-/
namespace DemandPaging

structure ShownLock (L : Type → Type) (α : Type) where
  inner : L α

/-- The mutex is a ticket lock, unless it is built to spin. -/
abbrev Mutex : Type → Type := ShownLock TicketLock

abbrev SpinningMutex : Type → Type := ShownLock SpinLock

namespace ShownLock

variable {L : Type → Type} {G α : Type} [ExclusiveLock L G]

def describe (text : α → String) (shown : ShownLock L α) :
    Except Halt (String × ShownLock L α) := do
  match ← ExclusiveLock.tryLock shown.inner with
  | (none, inner) => return ("Mutex \x7b <locked> \x7d", ⟨inner⟩)
  | (some guard, inner) =>
    let description := "Mutex \x7b data: " ++ text (ExclusiveLock.value inner) ++ " \x7d"
    return (description, ⟨← ExclusiveLock.unlock guard inner⟩)

instance : ExclusiveLock (ShownLock L) G where
  new value := ⟨ExclusiveLock.new value⟩
  lock shown := (ExclusiveLock.lock shown.inner).map fun (guard, inner) => (guard, ⟨inner⟩)
  tryLock shown := do
    let (guard?, inner) ← ExclusiveLock.tryLock shown.inner
    return (guard?, ⟨inner⟩)
  unlock guard shown := do return ⟨← ExclusiveLock.unlock guard shown.inner⟩
  isLocked shown := ExclusiveLock.isLocked shown.inner
  value shown := ExclusiveLock.value shown.inner
  setValue value shown := ⟨ExclusiveLock.setValue value shown.inner⟩
  describe? := some describe

end ShownLock

end DemandPaging
