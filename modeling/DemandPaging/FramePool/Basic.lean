import DemandPaging.Bytes
import DemandPaging.Halt
import DemandPaging.FramePool.Placement
import DemandPaging.UserPage

/-!
The pool of frames that back user pages. An allocated frame knows the page it belongs to and
stands in a queue, oldest allocation first, until it is freed. A frame comes out of allocation
pinned, and its bytes are whatever was there before.
-/
namespace DemandPaging

/-- A page table entry names its frame in 20 bits. -/
def frameLimit : Nat := 0x100000

structure Frame where
  status : FrameStatus
  owner : Option UserPage
  contents : Page
deriving DecidableEq

def Frame.blank : Frame := ⟨.free, none, .zero pageSize⟩

instance : Inhabited Frame := ⟨.blank⟩

structure FramePool where
  /-- What there is of each frame, at one index: its status, its owner and its bytes. Each of the
  three is an array of its own in `coreMap`, `ownerMap` and `memory`. -/
  frames : Array Frame
  /-- The allocated frames, oldest first. -/
  queue : List FrameNumber
  allocatedCount : Nat
deriving DecidableEq

namespace FramePool

/-- A pool of `count` free frames of zeros. -/
def new (count : Nat) : Except Halt FramePool :=
  if count ≤ frameLimit then
    .ok ⟨Array.replicate count .blank, [], 0⟩
  else
    .error (.poolTooLarge count)

def size (pool : FramePool) : Nat := pool.frames.size

def freeFrames (pool : FramePool) : Nat := pool.size - pool.allocatedCount

def coreMap (pool : FramePool) : CoreMap := pool.frames.map (·.status)

def ownerMap (pool : FramePool) : Array (Option UserPage) := pool.frames.map (·.owner)

/-- The bytes of all frames, one frame after the other. -/
def memory (pool : FramePool) : List UInt8 := pool.frames.toList.flatMap (·.contents.toList)

def frame? (pool : FramePool) (number : FrameNumber) : Option Frame :=
  pool.frames[number.index]?

def frame (pool : FramePool) (number : FrameNumber) : Except Halt Frame :=
  match pool.frame? number with
  | some frame => .ok frame
  | none => .error (.noSuchFrame number.index)

/-- Puts `frame` in the place of frame `number`. -/
def replace (pool : FramePool) (number : FrameNumber) (frame : Frame) : FramePool :=
  { pool with frames := pool.frames.setIfInBounds number.index frame }

@[simp] theorem size_replace (pool : FramePool) (number : FrameNumber) (frame : Frame) :
    (pool.replace number frame).size = pool.size := by
  simp [replace, size]

theorem frame?_replace (pool : FramePool) (number other : FrameNumber) (frame : Frame) :
    (pool.replace number frame).frame? other =
      if number = other then (pool.frame? other).map fun _ => frame else pool.frame? other := by
  obtain ⟨index⟩ := number
  obtain ⟨otherIndex⟩ := other
  by_cases h : index = otherIndex
  · subst h
    by_cases hlt : index < pool.frames.size <;> simp [replace, frame?, hlt]
  · simp [replace, frame?, h]

section Arrays

variable (pool : FramePool) (number : FrameNumber) (frame : Frame)

theorem coreMap_replace : (pool.replace number frame).coreMap =
    pool.coreMap.setIfInBounds number.index frame.status := by
  rw [coreMap, replace, Array.map_setIfInBounds, coreMap]

theorem ownerMap_replace : (pool.replace number frame).ownerMap =
    pool.ownerMap.setIfInBounds number.index frame.owner := by
  rw [ownerMap, replace, Array.map_setIfInBounds, ownerMap]

theorem length_contents_take {frames : List Frame} {count : Nat} (h : count ≤ frames.length) :
    ((frames.take count).flatMap (·.contents.toList)).length = count * pageSize := by
  induction count generalizing frames with
  | zero => simp
  | succ count ih =>
      cases frames with
      | nil => cases h
      | cons frame frames =>
          rw [List.take_succ_cons, List.flatMap_cons, List.length_append,
            ih (Nat.le_of_succ_le_succ h), Bytes.length_toList, Nat.succ_mul, Nat.add_comm]

/-- The bytes of the first frames are the first bytes, and the rest are those of the others. -/
theorem memory_split {count : Nat} (h : count ≤ pool.size) :
    pool.memory.take (count * pageSize) =
        (pool.frames.toList.take count).flatMap (·.contents.toList) ∧
      pool.memory.drop (count * pageSize) =
        (pool.frames.toList.drop count).flatMap (·.contents.toList) := by
  have hlength : ((pool.frames.toList.take count).flatMap (·.contents.toList)).length =
      count * pageSize := length_contents_take h
  have hmemory : pool.memory = (pool.frames.toList.take count).flatMap (·.contents.toList) ++
      (pool.frames.toList.drop count).flatMap (·.contents.toList) := by
    rw [← List.flatMap_append, List.take_append_drop, memory]
  rw [hmemory]
  exact ⟨List.take_left' hlength, List.drop_left' hlength⟩

/-- The frames before and behind one keep their bytes where it is replaced. -/
theorem memory_replace (h : number.index < pool.size) : (pool.replace number frame).memory =
    pool.memory.take (number.index * pageSize) ++ frame.contents.toList ++
      pool.memory.drop ((number.index + 1) * pageSize) := by
  have hlt : number.index < pool.frames.toList.length := h
  rw [(pool.memory_split (Nat.le_of_lt h)).1, (pool.memory_split h).2, memory, replace,
    Array.toList_setIfInBounds, List.set_eq_take_append_cons_drop, if_pos hlt,
    List.flatMap_append, List.flatMap_cons, List.append_assoc]

end Arrays

/-- Makes a free frame an allocated and pinned one, the last of the queue. -/
def take (pool : FramePool) (number : FrameNumber) (frame : Frame) (owner : UserPage) :
    FramePool :=
  let status := (FrameStatus.free.withAllocated true).withPinned true
  { pool.replace number { frame with status, owner := some owner } with
    queue := pool.queue ++ [number]
    allocatedCount := pool.allocatedCount + 1 }

/-- Makes an allocated frame a free one. -/
def release (pool : FramePool) (number : FrameNumber) (frame : Frame) : FramePool :=
  { pool.replace number { frame with status := .free, owner := none } with
    queue := pool.queue.erase number
    allocatedCount := pool.allocatedCount - 1 }

/-- Allocates the frame that the placement algorithm chooses for the page `owner`. Where every
frame is allocated the algorithm is not asked. -/
def alloc {φ : Type} [Placement φ] (pool : FramePool) (placement : φ) (owner : UserPage) :
    Except Halt (Option FrameNumber × FramePool × φ) :=
  if pool.allocatedCount = pool.size then
    .ok (none, pool, placement)
  else
    match Placement.place placement pool.coreMap with
    | (none, placement) => .ok (none, pool, placement)
    | (some index, placement) => do
      let frame ← pool.frame ⟨index⟩
      if frame.status.allocated then
        throw (.placedOnAllocated index)
      else
        return (some ⟨index⟩, pool.take ⟨index⟩ frame owner, placement)

/-- Takes a frame from its page and gives it back to the pool. -/
def free (pool : FramePool) (number : FrameNumber) : Except Halt FramePool := do
  let frame ← pool.frame number
  if !frame.status.allocated then
    throw (.freeingUnallocated number.index)
  else if pool.allocatedCount = 0 then
    throw .allocatedUnderflow
  else
    return pool.release number frame

def pin (pool : FramePool) (number : FrameNumber) : Except Halt FramePool := do
  let frame ← pool.frame number
  if !frame.status.allocated then
    throw (.pinningUnallocated number.index)
  else
    return pool.replace number { frame with status := frame.status.withPinned true }

def unpin (pool : FramePool) (number : FrameNumber) : Except Halt FramePool := do
  let frame ← pool.frame number
  return pool.replace number { frame with status := frame.status.withPinned false }

/-- Moves a frame to the back of the queue; a frame that is not in it stays out. -/
def moveToBack (pool : FramePool) (number : FrameNumber) : FramePool :=
  if number ∈ pool.queue then
    { pool with queue := pool.queue.erase number ++ [number] }
  else
    pool

def setContents (pool : FramePool) (number : FrameNumber) (contents : Page) :
    Except Halt FramePool := do
  let frame ← pool.frame number
  return pool.replace number { frame with contents }

/-- Copies `data` over the bytes of a frame from `start` on. -/
def writeBytes (pool : FramePool) (number : FrameNumber) (start : Nat) (data : List UInt8) :
    Except Halt FramePool := do
  let frame ← pool.frame number
  if start + data.length ≤ pageSize then
    return pool.replace number { frame with contents := frame.contents.overwrite start data }
  else
    throw (.bytesOutsideFrame start data.length)

end FramePool

end DemandPaging
