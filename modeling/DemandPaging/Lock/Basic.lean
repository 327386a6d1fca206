import DemandPaging.Halt

/-!
Locks with a value inside. To hold a lock is to have its guard.
-/
namespace DemandPaging

/-- A way to show a lock, given how its value is shown. -/
abbrev LockDisplay (L : Type → Type) (α : Type) : Type :=
  (α → String) → L α → Except Halt (String × L α)

/-- The operations that all locks share; `G` is the guard. -/
class ExclusiveLock (L : Type → Type) (G : outParam Type) where
  new {α : Type} : α → L α
  /-- Takes the lock, or answers `none` where it would wait for ever. -/
  lock {α : Type} : L α → Option (G × L α)
  /-- Takes the lock if nobody holds it. -/
  tryLock {α : Type} : L α → Except Halt (Option G × L α)
  unlock {α : Type} : G → L α → Except Halt (L α)
  isLocked {α : Type} : L α → Bool
  value {α : Type} : L α → α
  setValue {α : Type} : α → L α → L α
  /-- How the lock is shown, for those that can be. -/
  describe? {α : Type} : Option (LockDisplay L α)

end DemandPaging
