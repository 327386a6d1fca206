import DemandPaging.VirtualMemory.UserCopy

/-!
Calls of the virtual memory as data, so that whole runs can be talked about.
-/
namespace DemandPaging

inductive MemoryCall where
  | createSpace (pid : Pid)
  | destroySpace (pid : Pid)
  | mapZero (pid : Pid) (addr : Nat) (kind : PageKind) (writable : Bool)
  | unmap (pid : Pid) (addr : Nat)
  | resolveFault (pid : Pid) (fault : FaultReport)
  | evictPage
  | copyFromUser (pid : Pid) (addr : Nat) (buffer : List UInt8)
  | copyToUser (pid : Pid) (addr : Nat) (data : List UInt8)
  | location (pid : Pid) (addr : Nat)
  | kind (pid : Pid) (addr : Nat)
  | usage
deriving DecidableEq, Repr

/-- Whether a call copies bytes from or to user memory. -/
def MemoryCall.isCopy : MemoryCall → Bool
  | .copyFromUser .. | .copyToUser .. => true
  | _ => false

inductive MemoryReply where
  | created (fresh : Bool)
  | done (result : Except MemoryError Unit)
  | evicted (result : Except MemoryError SwapSlot)
  | bytes (result : Except MemoryError Unit) (buffer : List UInt8)
  | location (location? : Option PageLocation)
  | kind (kind? : Option PageKind)
  | usage (usage : Usage)

namespace VirtualMemory

variable {δ φ π : Type} [BlockDriver δ] [Placement φ] [Replacement π]

/-- Carries out one call. -/
def perform (vm : VirtualMemory δ φ π) :
    MemoryCall → Except Halt (MemoryReply × VirtualMemory δ φ π)
  | .createSpace pid =>
    let (fresh, vm) := vm.createSpace pid
    return (.created fresh, vm)
  | .destroySpace pid => do
    let (result, vm) ← vm.destroySpace pid
    return (.done result, vm)
  | .mapZero pid addr kind writable => do
    let (result, vm) ← vm.mapZero pid addr kind writable
    return (.done result, vm)
  | .unmap pid addr => do
    let (result, vm) ← vm.unmap pid addr
    return (.done result, vm)
  | .resolveFault pid fault => do
    let (result, vm) ← vm.resolveFault pid fault
    return (.done result, vm)
  | .evictPage => do
    let (result, vm) ← vm.evictPage
    return (.evicted result, vm)
  | .copyFromUser pid addr buffer => do
    let (result, buffer, vm) ← vm.copyFromUser pid addr buffer
    return (.bytes result buffer, vm)
  | .copyToUser pid addr data => do
    let (result, vm) ← vm.copyToUser pid addr data
    return (.done result, vm)
  | .location pid addr => do
    return (.location (← vm.location? pid addr), vm)
  | .kind pid addr => do
    return (.kind (← vm.kind? pid addr), vm)
  | .usage => return (.usage vm.usage, vm)

/-- Carries out calls one after the other; the replies come in the order of the calls. -/
def run (vm : VirtualMemory δ φ π) :
    List MemoryCall → Except Halt (List MemoryReply × VirtualMemory δ φ π)
  | [] => .ok ([], vm)
  | call :: calls => do
    let (reply, vm) ← vm.perform call
    let (replies, vm) ← vm.run calls
    return (reply :: replies, vm)

end VirtualMemory

end DemandPaging
