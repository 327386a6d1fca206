import DemandPaging.Lock.Basic

/-!
The spin lock: a flag that whoever finds it clear may set.
-/
namespace DemandPaging

structure SpinLock (α : Type) where
  held : Bool
  value : α
deriving DecidableEq, Repr

/-- A spin lock's guard has nothing to remember. -/
structure SpinGuard where
deriving DecidableEq, Repr

namespace SpinLock

variable {α : Type}

/-- Sets the flag if it is clear. -/
def exchange (spin : SpinLock α) : Option SpinGuard × SpinLock α :=
  if spin.held then (none, spin) else (some ⟨⟩, { spin with held := true })

/-- Takes the lock as soon as the flag is clear. An exchange may fail on a clear flag too, as the
first `failures` do here, and is made again then. With one user, a flag that is set stays so. -/
def lock : (failures : Nat) → SpinLock α → Option (SpinGuard × SpinLock α)
  | 0, spin =>
    match spin.exchange with
    | (none, _) => none
    | (some guard, taken) => some (guard, taken)
  | failures + 1, spin => if spin.held then none else spin.lock failures

theorem lock_eq (failures : Nat) (spin : SpinLock α) : spin.lock failures =
    if spin.held then none else some (⟨⟩, { spin with held := true }) := by
  induction failures with
  | zero =>
      rw [lock, exchange]
      cases spin.held <;> rfl
  | succ failures ih =>
      rw [lock, ih]
      cases spin.held <;> rfl

instance : ExclusiveLock SpinLock SpinGuard where
  new value := ⟨false, value⟩
  lock := lock 0
  tryLock spin := .ok spin.exchange
  unlock _ spin := .ok { spin with held := false }
  isLocked spin := spin.held
  value spin := spin.value
  setValue value spin := { spin with value }
  describe? := none

end SpinLock

end DemandPaging
