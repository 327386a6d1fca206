import DemandPaging.BlockDevice.MemoryDisk

/-!
A disk in memory with bad sectors. A transfer to one of them fails and moves nothing.
-/
namespace DemandPaging

structure FaultyDisk where
  disk : MemoryDisk
  readFails : SectorNumber → Bool
  writeFails : SectorNumber → Bool

namespace FaultyDisk

def sound (disk : MemoryDisk) : FaultyDisk := ⟨disk, fun _ => false, fun _ => false⟩

/-- The same disk with other bad sectors. -/
def withFaults (faulty : FaultyDisk) (readFails writeFails : SectorNumber → Bool) : FaultyDisk :=
  { faulty with readFails, writeFails }

instance : BlockDriver FaultyDisk where
  read faulty sector buffer :=
    if faulty.readFails sector then
      (.error .readError, buffer, faulty)
    else
      let (result, buffer, disk) := BlockDriver.read faulty.disk sector buffer
      (result, buffer, { faulty with disk })
  write faulty sector data :=
    if faulty.writeFails sector then
      (.error .writeError, faulty)
    else
      let (result, disk) := BlockDriver.write faulty.disk sector data
      (result, { faulty with disk })

end FaultyDisk

end DemandPaging
