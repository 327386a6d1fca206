import DemandPaging.BitField

/-!
The status of a frame: one byte, with a bit for allocated and one for pinned. The other six bits
are kept as they are. The core map holds the statuses of all frames.
-/
namespace DemandPaging

structure FrameStatus where
  raw : BitVec 8
deriving DecidableEq, Repr

namespace FrameStatus
open BitField

/-- The status of a frame that nobody uses. -/
def free : FrameStatus := ⟨0⟩

def allocated (status : FrameStatus) : Bool := bit status.raw 0
def pinned (status : FrameStatus) : Bool := bit status.raw 1

def withAllocated (status : FrameStatus) (on : Bool) : FrameStatus := ⟨withBit status.raw 0 on⟩
def withPinned (status : FrameStatus) (on : Bool) : FrameStatus := ⟨withBit status.raw 1 on⟩

@[simp] theorem allocated_free : free.allocated = false := by decide

@[simp] theorem pinned_free : free.pinned = false := by decide

@[simp] theorem allocated_withAllocated (status : FrameStatus) (on : Bool) :
    (status.withAllocated on).allocated = on := by
  simp [allocated, withAllocated, bit_withBit]

@[simp] theorem pinned_withAllocated (status : FrameStatus) (on : Bool) :
    (status.withAllocated on).pinned = status.pinned := by
  simp [pinned, withAllocated, bit_withBit]

@[simp] theorem allocated_withPinned (status : FrameStatus) (on : Bool) :
    (status.withPinned on).allocated = status.allocated := by
  simp [allocated, withPinned, bit_withBit]

@[simp] theorem pinned_withPinned (status : FrameStatus) (on : Bool) :
    (status.withPinned on).pinned = on := by
  simp [pinned, withPinned, bit_withBit]

end FrameStatus

/-- The statuses in the order of the frames. -/
abbrev CoreMap := Array FrameStatus

/-- Whether `index` lies in the core map and is not allocated. -/
def CoreMap.isFree (coreMap : CoreMap) (index : Nat) : Bool :=
  coreMap[index]?.any (!·.allocated)

end DemandPaging
