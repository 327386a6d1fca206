/-!
Errors of a sector transfer.
-/
namespace DemandPaging

inductive TransferError where
  | sectorOutOfBounds
  | bufferInvalid
  | readError
  | writeError
deriving DecidableEq, Repr

namespace TransferError

def all : List TransferError := [sectorOutOfBounds, bufferInvalid, readError, writeError]

def label : TransferError → String
  | sectorOutOfBounds => "SectorOutOfBounds"
  | bufferInvalid => "BufferInvalid"
  | readError => "ReadError"
  | writeError => "WriteError"

def message : TransferError → String
  | sectorOutOfBounds => "sector out of bounds (greater than the block size)"
  | bufferInvalid => "invalid buffer size (not one sector)"
  | readError => "error reading from the block device"
  | writeError => "error writing to the block device"

end TransferError

end DemandPaging
