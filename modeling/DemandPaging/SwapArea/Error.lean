import DemandPaging.BlockDevice.Error

/-!
Errors of moving a page out to swap and back.
-/
namespace DemandPaging

inductive PagingError where
  /-- A page that is to be read back has a frame already. -/
  | notSwappedOut
  /-- A page that is to be written out has no frame. -/
  | notResident
  | block (error : TransferError)
deriving DecidableEq, Repr

namespace PagingError

def all : List PagingError := [notSwappedOut, notResident] ++ TransferError.all.map block

def label : PagingError → String
  | notSwappedOut => "NotSwappedOut"
  | notResident => "NotResident"
  | block error => "Block(" ++ error.label ++ ")"

def message : PagingError → String
  | notSwappedOut => "page is not swapped out"
  | notResident => "page has no resident frame"
  | block error => "swap device: " ++ error.message

/-- The error that caused this one. -/
def source? : PagingError → Option TransferError
  | block error => some error
  | _ => none

end PagingError

end DemandPaging
