import DemandPaging.VirtualMemory.Mapping

/-!
Page faults. A page that is swapped out comes back into a fresh frame, and an access just below
the stack pointer makes the stack grow by a page.
-/
namespace DemandPaging

/-- A fault as the trap handler reports it. -/
structure FaultReport where
  addr : Nat
  write : Bool
  /-- The user stack pointer at the time of the fault, if the fault came from user mode. -/
  stackPointer : Option Nat
deriving DecidableEq, Repr

/-- How far below the stack pointer an access may lie and still make the stack grow. -/
def stackReach : Nat := 32

/-- Whether a fault lies in the region the stack may grow in and near enough to the stack
pointer. -/
def FaultReport.growsStack (fault : FaultReport) (stackLimit : Nat) : Bool :=
  decide (stackTop - stackLimit ≤ fault.addr) && decide (fault.addr < stackTop) &&
    fault.stackPointer.any fun pointer => pointer - stackReach ≤ fault.addr

namespace VirtualMemory

variable {δ φ π : Type} [BlockDriver δ] [Placement φ] [Replacement π]

def extendStack (vm : VirtualMemory δ φ π) (pid : Pid) (fault : FaultReport) :
    Except Halt (Except MemoryError Unit × VirtualMemory δ φ π) := do
  if fault.growsStack vm.stackLimit then
    match ← vm.mapZero pid fault.addr .stack true with
    | (.error .alreadyMapped, vm) => return (.ok (), vm)
    | reply => return reply
  else
    return (.error .notMapped, vm)

/-- Reads a swapped-out page back into a fresh frame and maps it. The page is locked while the
frame is found. -/
def bringBack (vm : VirtualMemory δ φ π) (key : UserPage) (page : AnonPage) :
    Except Halt (Except MemoryError Unit × VirtualMemory δ φ π) := do
  let vm := { vm with pages := vm.pages.insert key ⟨true, some page⟩ }
  match ← vm.obtainFrame key with
  | (.error error, vm) => return (.error error, vm.putPage key page)
  | (.ok frame, vm) =>
    match ← page.pageIn vm.toPageStore frame with
    | (.error error, page, store) =>
      let pool ← store.pool.free frame
      let vm := { vm with toPageStore := { store with pool } }
      return (.error (.swap error), vm.putPage key page)
    | (.ok (), page, store) =>
      let vm := { vm with toPageStore := store, pageIns := vm.pageIns + 1 }.putPage key page
      let mapped ← vm.tables.map key.owner key.base frame page.writable
      let pool ← vm.pool.unpin frame
      match mapped with
      | .done tables => return (.ok (), { vm with pool, tables })
      | _ => return (.error .noAddressSpace, { vm with pool })

/-- Resolves a fault of `pid`. A fault on a resident page needs nothing. -/
def resolveFault (vm : VirtualMemory δ φ π) (pid : Pid) (fault : FaultReport) :
    Except Halt (Except MemoryError Unit × VirtualMemory δ φ π) := do
  let key := UserPage.containing pid fault.addr
  if !inUserSpace fault.addr then
    return (.error .notUserAddress, vm)
  else
    match vm.cell? key with
    | none => vm.extendStack pid fault
    | some cell =>
      match ← waitFor cell with
      | none => return (.error .notMapped, vm)
      | some page =>
        if fault.write && !page.writable then
          return (.error .writeProtected, vm)
        else if page.inMemory then
          return (.ok (), vm)
        else
          vm.bringBack key page

end VirtualMemory

end DemandPaging
