import Std.Data.ExtTreeSet
import DemandPaging.Address
import DemandPaging.BlockDevice.Registry
import DemandPaging.Search

/-!
The swap area: a device cut into slots of one page each, and the set of slots in use. Occupancy
is known in memory only; the device holds nothing but page contents.
-/
namespace DemandPaging

/-- Sectors that hold one page. -/
def slotSectors : Nat := 8

theorem slotSectors_mul_sectorSize : slotSectors * sectorSize = pageSize := by decide

/-- The index of a slot. -/
structure SwapSlot where
  index : Nat
deriving DecidableEq, Repr

namespace SwapSlot

/-- The sector that holds the first byte of the slot. -/
def startSector (slot : SwapSlot) : SectorNumber := UInt32.ofNat (slot.index * slotSectors)

def text (slot : SwapSlot) : String := s!"slot {slot.index}"

end SwapSlot

structure SwapArea (δ : Type) where
  disk : BlockDevice δ
  /-- The indices of the slots in use, which `bits` gives as one boolean for each slot. -/
  taken : Std.ExtTreeSet Nat

namespace SwapArea

variable {δ : Type}

/-- A swap area with no slot in use. -/
def new (disk : BlockDevice δ) : SwapArea δ := { disk, taken := ∅ }

/-- As many slots as the device has room for; sectors left over at the end stay unused. -/
def slotCount (area : SwapArea δ) : Nat := area.disk.size.toNat / slotSectors

/-- What is announced for a new swap area. -/
def notice (area : SwapArea δ) : Transcript :=
  .line <|
    "Swap: using \"" ++ area.disk.name ++ "\" (" ++ toString area.disk.size.toNat ++
      " sectors, " ++ toString area.slotCount ++ " slots)"

/-- Claims the swap device of that name, or the first swap device, for a new swap area. -/
def claim? (registry : DeviceRegistry δ) (name : Option String) :
    Option (SwapArea δ × DeviceRegistry δ) :=
  (registry.claim? .swap name).map fun (disk, registry) => (new disk, registry)

def freeSlots (area : SwapArea δ) : Nat := area.slotCount - area.taken.size

def isTaken (area : SwapArea δ) (slot : SwapSlot) : Bool := area.taken.contains slot.index

/-- Takes the lowest free slot, if there is one. -/
def acquire? (area : SwapArea δ) : Option (SwapSlot × SwapArea δ) :=
  (firstBelow? (fun index => !area.taken.contains index) area.slotCount).map fun index =>
    (⟨index⟩, { area with taken := area.taken.insert index })

/-- Takes the lowest free slot. A page that is to be evicted needs one, so a full area is
fatal. -/
def attemptAcquire (area : SwapArea δ) : Except Halt SwapSlot × SwapArea δ :=
  match area.acquire? with
  | some (slot, area) => (.ok slot, area)
  | none => (.error (.swapExhausted area.slotCount), area)

/-- Gives a slot back. To release a slot that is free would mean that two pages claimed it. -/
def attemptRelease (area : SwapArea δ) (slot : SwapSlot) : Except Halt Unit × SwapArea δ :=
  if area.isTaken slot then
    (.ok (), { area with taken := area.taken.erase slot.index })
  else
    (.error (.releasingFreeSlot slot.index), area)

def acquire (area : SwapArea δ) : Except Halt (SwapSlot × SwapArea δ) := settle area.attemptAcquire

def release (area : SwapArea δ) (slot : SwapSlot) : Except Halt (SwapArea δ) :=
  (settle (area.attemptRelease slot)).map (·.2)

theorem acquire_def (area : SwapArea δ) : area.acquire =
    match area.acquire? with
    | some taken => .ok taken
    | none => .error (.swapExhausted area.slotCount) := by
  rw [acquire, attemptAcquire]
  cases area.acquire? <;> rfl

theorem release_def (area : SwapArea δ) (slot : SwapSlot) : area.release slot =
    if area.isTaken slot then
      .ok { area with taken := area.taken.erase slot.index }
    else
      .error (.releasingFreeSlot slot.index) := by
  rw [release, attemptRelease]
  split <;> rfl

theorem isTaken_new (disk : BlockDevice δ) (slot : SwapSlot) :
    (new disk).isTaken slot = false := by
  simp [new, isTaken]

theorem isTaken_of_acquire? {area after : SwapArea δ} {slot : SwapSlot}
    (h : area.acquire? = some (slot, after)) (other : SwapSlot) :
    after.isTaken other = (decide (slot = other) || area.isTaken other) := by
  obtain ⟨index, -, heq⟩ := Option.map_eq_some_iff.1 h
  cases heq
  obtain ⟨otherIndex⟩ := other
  by_cases h : index = otherIndex <;> simp [isTaken, Std.ExtTreeSet.contains_insert, h]

theorem isTaken_of_release {area after : SwapArea δ} {slot : SwapSlot}
    (h : area.release slot = .ok after) (other : SwapSlot) :
    after.isTaken other = (!decide (slot = other) && area.isTaken other) := by
  rw [release_def] at h
  split at h
  · cases h
    obtain ⟨index⟩ := slot
    obtain ⟨otherIndex⟩ := other
    by_cases h : index = otherIndex <;> simp [isTaken, Std.ExtTreeSet.contains_erase, h]
  · cases h

section Transfers

variable [BlockDriver δ] (area : SwapArea δ) (slot : SwapSlot)

/-- Writes one page to a slot, sector by sector. -/
def attemptStorePage (data : List UInt8) :
    Except Halt (Except TransferError Unit) × SwapArea δ :=
  if data.length = pageSize then
    let (result, disk) := area.disk.attemptWriteRun slot.startSector slotSectors data
    (result, { area with disk })
  else
    (.error (.notOnePage data.length), area)

/-- Reads the page of a slot into `buffer`, sector by sector. After an error the buffer holds the
sectors that were read before it. -/
def attemptLoadPage (buffer : List UInt8) :
    Except Halt (Except TransferError Unit) × List UInt8 × SwapArea δ :=
  if buffer.length = pageSize then
    let (result, buffer, disk) := area.disk.attemptReadRun slot.startSector slotSectors buffer
    (result, buffer, { area with disk })
  else
    (.error (.notOnePage buffer.length), buffer, area)

def storePage (data : List UInt8) : Except Halt (Except TransferError Unit × SwapArea δ) :=
  settle (area.attemptStorePage slot data)

def loadPage (buffer : List UInt8) :
    Except Halt (Except TransferError Unit × List UInt8 × SwapArea δ) :=
  settle (area.attemptLoadPage slot buffer)

theorem storePage_def (data : List UInt8) : area.storePage slot data =
    if data.length = pageSize then do
      let (result, disk) ← area.disk.writeRun slot.startSector slotSectors data
      return (result, { area with disk })
    else
      .error (.notOnePage data.length) := by
  rw [storePage, attemptStorePage, BlockDevice.writeRun]
  split
  · obtain ⟨result, disk⟩ := area.disk.attemptWriteRun slot.startSector slotSectors data
    cases result <;> rfl
  · rfl

theorem loadPage_def (buffer : List UInt8) : area.loadPage slot buffer =
    if buffer.length = pageSize then do
      let (result, buffer, disk) ← area.disk.readRun slot.startSector slotSectors buffer
      return (result, buffer, { area with disk })
    else
      .error (.notOnePage buffer.length) := by
  rw [loadPage, attemptLoadPage, BlockDevice.readRun]
  split
  · obtain ⟨result, buffer, disk⟩ :=
      area.disk.attemptReadRun slot.startSector slotSectors buffer
    cases result <;> rfl
  · rfl

end Transfers

/-- Sectors read from and written to the device so far. -/
def transfers (area : SwapArea δ) : Nat × Nat := (area.disk.reads, area.disk.writes)

end SwapArea

end DemandPaging
