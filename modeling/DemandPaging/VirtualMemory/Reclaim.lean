import DemandPaging.VirtualMemory.Basic

/-!
Getting a frame, and evicting pages until there is one.
-/
namespace DemandPaging.VirtualMemory

variable {δ φ π : Type} [BlockDriver δ] [Replacement π]

/-- The page of `key`, if it is in reach and lives in `frame`: mapped, not locked, not
destroyed. -/
def residentIn? (vm : VirtualMemory δ φ π) (key : UserPage) (frame : FrameNumber) :
    Option AnonPage :=
  match vm.cell? key with
  | none => none
  | some cell =>
    if cell.locked then none else cell.page?.filter fun page => page.frame? = some frame

/-- Swaps out a page of the map. -/
def pageOutPage (vm : VirtualMemory δ φ π) (key : UserPage) (page : AnonPage) :
    Except Halt (Except MemoryError SwapSlot × VirtualMemory δ φ π) := do
  let (result, page, store) ← page.pageOut vm.toPageStore
  let vm := { vm with toPageStore := store }.putPage key page
  match result with
  | .error error => return (.error (.swap error), vm)
  | .ok slot => return (.ok slot, { vm with pageOuts := vm.pageOuts + 1 })

/-- Asks the policy for a victim up to `attempts` times. A frame whose page is out of reach goes
to the back of the queue. -/
def evictWithin (vm : VirtualMemory δ φ π) :
    (attempts : Nat) → Except Halt (Except MemoryError SwapSlot × VirtualMemory δ φ π)
  | 0 => .ok (.error .outOfFrames, vm)
  | attempts + 1 => do
    let choice ← Replacement.choose vm.policy vm.pool vm.tables
    let vm := { vm with policy := choice.policy, tables := choice.tables }
    match choice.victim with
    | none => return (.error .outOfFrames, vm)
    | some victim =>
      match (← vm.pool.frame victim).owner with
      | none => vm.evictWithin attempts
      | some key =>
        match vm.residentIn? key victim with
        | none =>
          let vm := { vm with pool := vm.pool.moveToBack victim }
          vm.evictWithin attempts
        | some page => vm.pageOutPage key page

/-- Swaps out one page that the policy chooses. -/
def evictPage (vm : VirtualMemory δ φ π) :
    Except Halt (Except MemoryError SwapSlot × VirtualMemory δ φ π) :=
  vm.evictWithin (2 * vm.pool.size + 1)

/-- Allocates a frame for `owner`, with up to `evictions` evictions before it gives up. -/
def obtainFrameWithin [Placement φ] (vm : VirtualMemory δ φ π) (owner : UserPage)
    (evictions : Nat) :
    Except Halt (Except MemoryError FrameNumber × VirtualMemory δ φ π) := do
  let (found, pool, placement) ← vm.pool.alloc vm.placement owner
  let vm := { vm with pool, placement }
  match found with
  | some frame => return (.ok frame, vm)
  | none =>
    match evictions with
    | 0 => throw .waitsForever
    | evictions + 1 =>
      match ← vm.evictPage with
      | (.error error, vm) => return (.error error, vm)
      | (.ok _, vm) => vm.obtainFrameWithin owner evictions

/-- Allocates a frame for `owner` and evicts pages until one is free. Every eviction that
succeeds frees an allocated frame, so of one more than there are allocated the last one fails. -/
def obtainFrame [Placement φ] (vm : VirtualMemory δ φ π) (owner : UserPage) :
    Except Halt (Except MemoryError FrameNumber × VirtualMemory δ φ π) :=
  vm.obtainFrameWithin owner (vm.pool.allocatedCount + 1)

end DemandPaging.VirtualMemory
