import DemandPaging.FramePool.Basic
import DemandPaging.PageTable.AddressSpaces

/-!
Page replacement. A policy looks at the pool and chooses the frame whose page is to go; it may
change reference bits in the page tables along the way.
-/
namespace DemandPaging

/-- What a policy answers: the frame, if it has one, and what it leaves behind. -/
structure Choice (π : Type) where
  victim : Option FrameNumber
  policy : π
  tables : AddressSpaces

class Replacement (π : Type) where
  choose : π → FramePool → AddressSpaces → Except Halt (Choice π)

/-- Whether a frame may be evicted. -/
def Frame.evictable (frame : Frame) : Bool := frame.status.allocated && !frame.status.pinned

end DemandPaging
