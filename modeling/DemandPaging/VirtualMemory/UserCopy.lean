import DemandPaging.VirtualMemory.PageFault

/-!
Copies between a buffer and user memory, page by page. Pages are faulted in as they are needed,
and what was copied before an error stays copied.
-/
namespace DemandPaging.VirtualMemory

variable {δ φ π : Type} [BlockDriver δ] [Placement φ] [Replacement π]

/-- The frame behind `addr` with its accessed and dirty bits updated, or `none` if the page is not
present. -/
def touch? (vm : VirtualMemory δ φ π) (pid : Pid) (addr : Nat) (write : Bool) :
    Option (Except MemoryError FrameNumber × VirtualMemory δ φ π) :=
  match vm.tables.directory? pid with
  | none => some (.error .noAddressSpace, vm)
  | some directory =>
    match directory.frame? addr with
    | none => none
    | some frame =>
      if write && !directory.isSet .writable addr then
        some (.error .writeProtected, vm)
      else
        let tables := vm.tables.setFlag .accessed pid addr true
        let tables := if write then tables.setFlag .dirty pid addr true else tables
        some (.ok frame, { vm with tables })

/-- Tries to touch the page and resolves its fault where it is not present, up to `rounds`
times. -/
def accessWithin (vm : VirtualMemory δ φ π) (pid : Pid) (addr : Nat) (write : Bool) :
    (rounds : Nat) → Except Halt (Except MemoryError FrameNumber × VirtualMemory δ φ π)
  | 0 => .error .waitsForever
  | rounds + 1 =>
    match vm.touch? pid addr write with
    | some reply => .ok reply
    | none => do
      match ← vm.resolveFault pid ⟨addr, write, none⟩ with
      | (.error error, vm) => return (.error error, vm)
      | (.ok (), vm) => vm.accessWithin pid addr write rounds

/-- The frame behind `addr`, faulted in if need be. A fault that was resolved either made the page
present or found it resident and changed nothing, so a third round would not end either. -/
def access (vm : VirtualMemory δ φ π) (pid : Pid) (addr : Nat) (write : Bool) :
    Except Halt (Except MemoryError FrameNumber × VirtualMemory δ φ π) :=
  if inUserSpace addr then
    vm.accessWithin pid addr write 2
  else
    .ok (.error .notUserAddress, vm)

/-- The bytes from `addr` to the end of its page, of `length` bytes that are wanted. -/
def chunkLength (addr length : Nat) : Nat := min (pageSize - offsetInPage addr) length

theorem chunkLength_pos (addr : Nat) {length : Nat} (h : 0 < length) :
    0 < chunkLength addr length := by
  have := offsetInPage_lt addr
  simp only [chunkLength]
  omega

theorem length_drop_chunkLength_lt (addr : Nat) (byte : UInt8) (bytes : List UInt8) :
    ((byte :: bytes).drop (chunkLength addr (byte :: bytes).length)).length <
      (byte :: bytes).length := by
  have hpos : 0 < (byte :: bytes).length := by simp
  have hchunk := chunkLength_pos addr hpos
  rw [List.length_drop]
  omega

/-- Copies user memory from `addr` on into `buffer`. -/
def copyFromUser (vm : VirtualMemory δ φ π) (pid : Pid) (addr : Nat) :
    (buffer : List UInt8) →
      Except Halt (Except MemoryError Unit × List UInt8 × VirtualMemory δ φ π)
  | [] => .ok (.ok (), [], vm)
  | byte :: bytes => do
    let buffer := byte :: bytes
    let count := chunkLength addr buffer.length
    match ← vm.access pid addr false with
    | (.error error, vm) => return (.error error, buffer, vm)
    | (.ok frame, vm) =>
      let chunk := (← vm.pool.frame frame).contents.slice (offsetInPage addr) count
      let (result, rest, vm) ← vm.copyFromUser pid (addr + count) (buffer.drop count)
      return (result, chunk ++ rest, vm)
termination_by buffer => buffer.length
decreasing_by exact length_drop_chunkLength_lt addr byte bytes

/-- Copies `data` to user memory from `addr` on. -/
def copyToUser (vm : VirtualMemory δ φ π) (pid : Pid) (addr : Nat) :
    (data : List UInt8) → Except Halt (Except MemoryError Unit × VirtualMemory δ φ π)
  | [] => .ok (.ok (), vm)
  | byte :: bytes => do
    let data := byte :: bytes
    let count := chunkLength addr data.length
    match ← vm.access pid addr true with
    | (.error error, vm) => return (.error error, vm)
    | (.ok frame, vm) =>
      let pool ← vm.pool.writeBytes frame (offsetInPage addr) (data.take count)
      let vm := { vm with pool }
      vm.copyToUser pid (addr + count) (data.drop count)
termination_by data => data.length
decreasing_by exact length_drop_chunkLength_lt addr byte bytes

end DemandPaging.VirtualMemory
