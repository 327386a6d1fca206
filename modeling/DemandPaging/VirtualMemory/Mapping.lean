import DemandPaging.VirtualMemory.Reclaim

/-!
Address spaces come and go, and pages are mapped and unmapped in them.
-/
namespace DemandPaging.VirtualMemory

variable {δ φ π : Type}

/-- Creates an empty address space for `pid`; `false` if it has one already. -/
def createSpace (vm : VirtualMemory δ φ π) (pid : Pid) : Bool × VirtualMemory δ φ π :=
  match vm.tables.create? pid with
  | none => (false, vm)
  | some tables => (true, { vm with tables })

/-- Takes the page of `key` out of the map. -/
def detach? (vm : VirtualMemory δ φ π) (key : UserPage) :
    Option (PageCell × VirtualMemory δ φ π) :=
  (vm.cell? key).map fun cell => (cell, { vm with pages := vm.pages.erase key })

/-- Drops the table entry of a page that is out of the map already and releases what it holds. -/
def dispose [BlockDriver δ] (vm : VirtualMemory δ φ π) (key : UserPage) (cell : PageCell) :
    Except Halt (VirtualMemory δ φ π) := do
  match ← waitFor cell with
  | none => return vm
  | some page =>
    let tables := vm.tables.unmap key.owner key.base
    let store ← page.destroy { vm.toPageStore with tables }
    return { vm with toPageStore := store }

/-- Unmaps the page that holds `addr`. -/
def unmap [BlockDriver δ] (vm : VirtualMemory δ φ π) (pid : Pid) (addr : Nat) :
    Except Halt (Except MemoryError Unit × VirtualMemory δ φ π) := do
  let key := UserPage.containing pid addr
  match vm.detach? key with
  | none => return (.error .notMapped, vm)
  | some (cell, vm) => return (.ok (), ← vm.dispose key cell)

/-- The keys of all pages of `pid` in the map, in ascending order. -/
def keysOf (vm : VirtualMemory δ φ π) (pid : Pid) : List UserPage :=
  vm.pages.keys.filter (·.owner = pid)

/-- Takes the pages of all `keys` out of the map. -/
def detachAll (vm : VirtualMemory δ φ π) (keys : List UserPage) :
    List (UserPage × PageCell) × VirtualMemory δ φ π :=
  (keys.filterMap fun key => (vm.cell? key).map (key, ·),
    { vm with pages := keys.foldl (·.erase ·) vm.pages })

def disposeAll [BlockDriver δ] (vm : VirtualMemory δ φ π)
    (doomed : List (UserPage × PageCell)) :
    Except Halt (VirtualMemory δ φ π) :=
  doomed.foldlM (fun vm (key, cell) => vm.dispose key cell) vm

/-- Destroys every page of `pid` and then its address space. -/
def destroySpace [BlockDriver δ] (vm : VirtualMemory δ φ π) (pid : Pid) :
    Except Halt (Except MemoryError Unit × VirtualMemory δ φ π) := do
  let (doomed, vm) := vm.detachAll (vm.keysOf pid)
  let vm ← vm.disposeAll doomed
  if vm.tables.contains pid then
    return (.ok (), { vm with tables := vm.tables.destroy pid })
  else
    return (.error .noAddressSpace, vm)

/-- Gives the frame of a page that could not be mapped back, and forgets the page. -/
def abandon (vm : VirtualMemory δ φ π) (key : UserPage) (frame : FrameNumber)
    (error : MemoryError) :
    Except Halt (Except MemoryError Unit × VirtualMemory δ φ π) := do
  let pool ← vm.pool.free frame
  return (.error error, { vm with pool, pages := vm.pages.erase key })

/-- Maps a new page of zeros that holds `addr`. The page stays locked in the map until it is
complete. -/
def mapZero [BlockDriver δ] [Placement φ] [Replacement π] (vm : VirtualMemory δ φ π)
    (pid : Pid) (addr : Nat) (kind : PageKind) (writable : Bool) :
    Except Halt (Except MemoryError Unit × VirtualMemory δ φ π) := do
  let key := UserPage.containing pid addr
  if !inUserSpace addr then
    return (.error .notUserAddress, vm)
  else if !vm.tables.contains pid then
    return (.error .noAddressSpace, vm)
  else if vm.pages.contains key then
    return (.error .alreadyMapped, vm)
  else
    let vm := { vm with pages := vm.pages.insert key ⟨true, none⟩ }
    match ← vm.obtainFrame key with
    | (.error error, vm) => return (.error error, { vm with pages := vm.pages.erase key })
    | (.ok frame, vm) =>
      match ← vm.tables.map pid key.base frame writable with
      | .noSpace => vm.abandon key frame .noAddressSpace
      | .alreadyPresent => vm.abandon key frame .alreadyMapped
      | .done tables =>
        let pool ← vm.pool.setContents frame (.zero pageSize)
        let pool ← pool.unpin frame
        return (.ok (), { vm with pool, tables }.putPage key
          { key, writable, kind, location := .resident frame })

end DemandPaging.VirtualMemory
