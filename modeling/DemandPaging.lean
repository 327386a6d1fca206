import DemandPaging.BlockDevice.FaultyDisk
import DemandPaging.FramePool.Script
import DemandPaging.Proofs.BootOptions
import DemandPaging.Proofs.DeviceLedger
import DemandPaging.Proofs.FailedMoves
import DemandPaging.Proofs.FrameHistory
import DemandPaging.Proofs.LockAgreement
import DemandPaging.Proofs.NextFit
import DemandPaging.Proofs.PageRecords
import DemandPaging.Proofs.Safekeeping
import DemandPaging.Proofs.SecondChance
import DemandPaging.Proofs.SlotHistory
import DemandPaging.Proofs.SlotTransfers
import DemandPaging.Proofs.VirtualMemory.Atomicity
import DemandPaging.Proofs.VirtualMemory.Capacity
import DemandPaging.Proofs.VirtualMemory.CopySplit
import DemandPaging.Proofs.VirtualMemory.Detachment
import DemandPaging.Proofs.VirtualMemory.EvictionOrder
import DemandPaging.Proofs.VirtualMemory.Integrity
import DemandPaging.Proofs.VirtualMemory.Limits
import DemandPaging.Proofs.VirtualMemory.Marks
import DemandPaging.Proofs.VirtualMemory.Noninterference
import DemandPaging.Proofs.VirtualMemory.Ownership
import DemandPaging.Proofs.VirtualMemory.Retries
import DemandPaging.Proofs.VirtualMemory.StackGrowth
import DemandPaging.Proofs.VirtualMemory.StaleFrames
import DemandPaging.Proofs.VirtualMemory.Teardown
import DemandPaging.Proofs.VirtualMemory.Traffic
import DemandPaging.Proofs.VirtualMemory.Translation
import DemandPaging.Proofs.VirtualMemory.Transparency
import DemandPaging.Replacement.Script
import DemandPaging.Replacement.Trace
import DemandPaging.VirtualMemory.Boot
import DemandPaging.VirtualMemory.Call
