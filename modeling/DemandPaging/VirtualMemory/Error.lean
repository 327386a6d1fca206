import DemandPaging.SwapArea.Error

/-!
Errors of mapping requests, page faults and accesses to user memory.
-/
namespace DemandPaging

inductive MemoryError where
  | notUserAddress
  | noAddressSpace
  | alreadyMapped
  | notMapped
  | writeProtected
  | outOfFrames
  | noSwapDevice
  | swap (error : PagingError)
deriving DecidableEq, Repr

namespace MemoryError

def all : List MemoryError :=
  [notUserAddress, noAddressSpace, alreadyMapped, notMapped, writeProtected, outOfFrames,
    noSwapDevice] ++ PagingError.all.map swap

def label : MemoryError → String
  | notUserAddress => "NotUserAddress"
  | noAddressSpace => "NoAddressSpace"
  | alreadyMapped => "AlreadyMapped"
  | notMapped => "NotMapped"
  | writeProtected => "WriteProtected"
  | outOfFrames => "OutOfFrames"
  | noSwapDevice => "NoSwapDevice"
  | swap error => "Swap(" ++ error.label ++ ")"

def message : MemoryError → String
  | notUserAddress => "address is not a user address"
  | noAddressSpace => "no such address space"
  | alreadyMapped => "page is already mapped"
  | notMapped => "page is not mapped"
  | writeProtected => "write to a read-only page"
  | outOfFrames => "no frame could be freed"
  | noSwapDevice => "no swap device"
  | swap error => error.message

/-- The error that caused this one. -/
def source? : MemoryError → Option PagingError
  | swap error => some error
  | _ => none

end MemoryError

end DemandPaging
