import DemandPaging.FramePool.Basic
import DemandPaging.PageTable.AddressSpaces
import DemandPaging.SwapArea.Basic

/-!
Anonymous pages: user pages with no file behind them. A page holds exactly one resource, the
frame it is resident in or the slot that keeps its contents.
-/
namespace DemandPaging

/-- What a page was made for; both kinds are swapped alike. -/
inductive PageKind where
  | ordinary
  | stack
deriving DecidableEq, Repr

def PageKind.label : PageKind → String
  | ordinary => "Ordinary"
  | stack => "Stack"

/-- Where the contents of a page are. -/
inductive PageLocation where
  | resident (frame : FrameNumber)
  | swappedOut (slot : SwapSlot)
deriving DecidableEq, Repr

structure AnonPage where
  key : UserPage
  writable : Bool
  kind : PageKind
  location : PageLocation
deriving DecidableEq, Repr

namespace AnonPage

def frame? (page : AnonPage) : Option FrameNumber :=
  match page.location with
  | .resident frame => some frame
  | .swappedOut _ => none

def slot? (page : AnonPage) : Option SwapSlot :=
  match page.location with
  | .resident _ => none
  | .swappedOut slot => some slot

def inMemory (page : AnonPage) : Bool := page.frame?.isSome

end AnonPage

/-- All that pages live on: the swap area, the frame pool and the page tables. -/
structure PageStore (δ : Type) where
  swap : SwapArea δ
  pool : FramePool
  tables : AddressSpaces

end DemandPaging
