import DemandPaging.AnonPage.Swapping
import DemandPaging.Replacement.Basic
import DemandPaging.VirtualMemory.Error

/-!
The state of the virtual memory: the store that pages live on, the placement algorithm, the
replacement policy and the map of all pages.
-/
namespace DemandPaging

/-- A place in the page map. Its lock is held while the page is being made or moved; `page?` is
`none` before a page is finished and after it is destroyed. -/
structure PageCell where
  locked : Bool
  page? : Option AnonPage
deriving DecidableEq, Repr

structure VirtualMemory (δ φ π : Type) extends PageStore δ where
  placement : φ
  policy : π
  pages : Std.ExtTreeMap UserPage PageCell
  /-- The size in bytes of the region below the stack top that faults may grow the stack in. -/
  stackLimit : Nat
  pageIns : Nat
  pageOuts : Nat

structure Usage where
  framesTotal : Nat
  framesFree : Nat
  slotsTotal : Nat
  slotsFree : Nat
  pageIns : Nat
  pageOuts : Nat
deriving DecidableEq, Repr

namespace VirtualMemory

variable {δ φ π : Type}

/-- A machine with no address space and no page. -/
def new (swap : SwapArea δ) (pool : FramePool) (placement : φ) (policy : π) (stackLimit : Nat) :
    VirtualMemory δ φ π :=
  { swap, pool, tables := .empty, placement, policy, pages := ∅, stackLimit,
    pageIns := 0, pageOuts := 0 }

def usage (vm : VirtualMemory δ φ π) : Usage where
  framesTotal := vm.pool.size
  framesFree := vm.pool.freeFrames
  slotsTotal := vm.swap.slotCount
  slotsFree := vm.swap.freeSlots
  pageIns := vm.pageIns
  pageOuts := vm.pageOuts

/-- The cell of a page, if the page is in the map. -/
def cell? (vm : VirtualMemory δ φ π) (key : UserPage) : Option PageCell := vm.pages[key]?

/-- Puts an unlocked cell with `page` into the map. -/
def putPage (vm : VirtualMemory δ φ π) (key : UserPage) (page : AnonPage) :
    VirtualMemory δ φ π :=
  { vm with pages := vm.pages.insert key ⟨false, some page⟩ }

theorem cell?_putPage (vm : VirtualMemory δ φ π) (key other : UserPage) (page : AnonPage) :
    (vm.putPage key page).cell? other =
      if key = other then some ⟨false, some page⟩ else vm.cell? other := by
  by_cases h : key = other <;> simp [putPage, cell?, Std.ExtTreeMap.getElem?_insert, h]

/-- Waits for the cell's lock. -/
def waitFor (cell : PageCell) : Except Halt (Option AnonPage) :=
  if cell.locked then .error .waitsForever else .ok cell.page?

/-- The page that holds `addr` in the address space of `pid`, if there is one. -/
def page? (vm : VirtualMemory δ φ π) (pid : Pid) (addr : Nat) :
    Except Halt (Option AnonPage) :=
  match vm.cell? (.containing pid addr) with
  | none => .ok none
  | some cell => waitFor cell

def location? (vm : VirtualMemory δ φ π) (pid : Pid) (addr : Nat) :
    Except Halt (Option PageLocation) :=
  return (← vm.page? pid addr).map (·.location)

def kind? (vm : VirtualMemory δ φ π) (pid : Pid) (addr : Nat) :
    Except Halt (Option PageKind) :=
  return (← vm.page? pid addr).map (·.kind)

end VirtualMemory

end DemandPaging
