import DemandPaging.BlockDevice.Basic
import DemandPaging.PackedBytes

/-!
A disk kept in memory: bytes without any structure, cut into sectors by their position alone.
What is said of sectors, that each holds what was written to it last and no other, follows from
where their bytes lie.
-/
namespace DemandPaging

structure MemoryDisk where
  /-- The number of bytes. -/
  length : Nat
  data : PackedBytes length

namespace MemoryDisk

/-- A disk of zeros. -/
def new (sectors : SectorNumber) : MemoryDisk := ⟨sectors.toNat * sectorSize, .zero _⟩

/-- The number of whole sectors, cut to 32 bits. -/
def sectors (disk : MemoryDisk) : SectorNumber := UInt32.ofNat (disk.length / sectorSize)

theorem sectors_new (sectors : SectorNumber) : (new sectors).sectors = sectors := by
  rw [new, MemoryDisk.sectors, Nat.mul_div_cancel _ (by decide), UInt32.ofNat_toNat]

variable {disk : MemoryDisk} {sector other : SectorNumber}

/-- Cutting the number of sectors can only hide some of them. -/
theorem sector_le_length (h : sector < disk.sectors) :
    sector.toNat * sectorSize + sectorSize ≤ disk.length := by
  have hlt : sector.toNat < disk.length / sectorSize := by
    refine Nat.lt_of_lt_of_le (UInt32.lt_iff_toNat_lt.1 h) ?_
    rw [sectors, UInt32.toNat_ofNat']
    exact Nat.mod_le _ _
  rw [← Nat.succ_mul]
  exact (Nat.le_div_iff_mul_le (by decide)).1 hlt

/-- Where the bytes of a sector start, given how many of them are to be moved. -/
def range (disk : MemoryDisk) (sector : SectorNumber) (length : Nat) :
    Except TransferError { start : Nat // start + sectorSize ≤ disk.length } :=
  if length = sectorSize then
    if h : sector < disk.sectors then .ok ⟨sector.toNat * sectorSize, sector_le_length h⟩
    else .error .sectorOutOfBounds
  else
    .error .bufferInvalid

/-- Reads a sector, given the length of the buffer it goes to. -/
def read (disk : MemoryDisk) (sector : SectorNumber) (length : Nat) : Except TransferError Sector :=
  (disk.range sector length).map fun ⟨start, hfits⟩ => disk.data.slice start sectorSize hfits

/-- Copies `data` over the bytes from `start` on. -/
def put (disk : MemoryDisk) (start : Nat) (data : List UInt8) : MemoryDisk :=
  { disk with data := disk.data.overwrite start data }

@[simp] theorem sectors_put (disk : MemoryDisk) (start : Nat) (data : List UInt8) :
    (disk.put start data).sectors = disk.sectors := rfl

def write (disk : MemoryDisk) (sector : SectorNumber) (data : List UInt8) :
    Except TransferError MemoryDisk :=
  (disk.range sector data.length).map fun ⟨start, _⟩ => disk.put start data

/-- What a sector holds, and zeros for one that the disk does not have. -/
def contents (disk : MemoryDisk) (sector : SectorNumber) : Sector :=
  if h : sector < disk.sectors then
    disk.data.slice (sector.toNat * sectorSize) sectorSize (sector_le_length h)
  else
    .zero sectorSize

theorem toList_contents (h : sector < disk.sectors) :
    (disk.contents sector).toList =
      disk.data.unpack.slice (sector.toNat * sectorSize) sectorSize := by
  rw [contents, dif_pos h, PackedBytes.toList_slice]

theorem contents_of_not_lt (h : ¬ sector < disk.sectors) :
    disk.contents sector = .zero sectorSize := by
  rw [contents, dif_neg h]

theorem contents_new (sectors sector : SectorNumber) :
    (new sectors).contents sector = .zero sectorSize := by
  by_cases h : sector < (new sectors).sectors
  · have hfits : sector.toNat * sectorSize + sectorSize ≤ sectors.toNat * sectorSize :=
      sector_le_length h
    apply Bytes.ext
    rw [toList_contents h]
    simp only [new, PackedBytes.unpack_zero, Bytes.slice, Bytes.zero, List.drop_replicate,
      List.take_replicate]
    rw [Nat.min_eq_left (by omega)]
  · exact contents_of_not_lt h

/-- Two sectors have no byte in common. -/
theorem sectors_apart (h : sector ≠ other) :
    other.toNat * sectorSize + sectorSize ≤ sector.toNat * sectorSize ∨
      sector.toNat * sectorSize + sectorSize ≤ other.toNat * sectorSize := by
  have hne : sector.toNat ≠ other.toNat := fun heq => h (UInt32.toNat_inj.1 heq)
  simp only [sectorSize]
  omega

/-- Bytes put over those of a sector are what it holds, and no other sector changes. -/
theorem contents_put (h : sector < disk.sectors) (data : Sector) (other : SectorNumber) :
    (disk.put (sector.toNat * sectorSize) data.toList).contents other =
      if sector = other then data else disk.contents other := by
  have hlength := data.length_toList
  have hfits : sector.toNat * sectorSize + data.toList.length ≤ disk.length := by
    rw [hlength]
    exact sector_le_length h
  by_cases hother : other < disk.sectors
  · have hput : other < (disk.put (sector.toNat * sectorSize) data.toList).sectors := hother
    apply Bytes.ext
    rw [toList_contents hput, put, PackedBytes.unpack_overwrite _ hfits]
    by_cases heq : sector = other
    · subst heq
      have hslice := disk.data.unpack.slice_overwrite hfits
      rw [hlength] at hslice
      rw [if_pos rfl]
      exact hslice
    · rw [if_neg heq, toList_contents hother]
      refine disk.data.unpack.slice_overwrite_apart hfits ?_
      rw [hlength]
      exact sectors_apart heq
  · have hne : sector ≠ other := fun heq => hother (heq ▸ h)
    rw [if_neg hne, contents_of_not_lt hother]
    exact contents_of_not_lt hother

instance : BlockDriver MemoryDisk where
  read disk sector buffer :=
    match disk.read sector buffer.toList.length with
    | .ok contents => (.ok (), contents, disk)
    | .error error => (.error error, buffer, disk)
  write disk sector data :=
    match disk.write sector data.toList with
    | .ok disk => (.ok (), disk)
    | .error error => (.error error, disk)

end MemoryDisk

end DemandPaging
