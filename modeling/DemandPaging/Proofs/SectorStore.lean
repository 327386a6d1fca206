import DemandPaging.BlockDevice.FaultyDisk
import DemandPaging.Proofs.Outcome

/-!
Drivers that keep what is written to them. A read that succeeds gives what the sector holds, a
write that succeeds changes that sector alone, and a transfer that fails moves nothing. Runs of
sectors inherit this.
-/
namespace DemandPaging

class SectorStore (δ : Type) [BlockDriver δ] where
  /-- What each sector holds. -/
  stored : δ → SectorNumber → Sector
  read_ok : ∀ {driver driver' : δ} {sector : SectorNumber} {buffer buffer' : Sector},
    BlockDriver.read driver sector buffer = (.ok (), buffer', driver') →
      buffer' = stored driver sector ∧ stored driver' = stored driver
  read_error : ∀ {driver driver' : δ} {sector : SectorNumber} {buffer buffer' : Sector}
    {error : TransferError},
      BlockDriver.read driver sector buffer = (.error error, buffer', driver') →
      buffer' = buffer ∧ stored driver' = stored driver
  write_ok : ∀ {driver driver' : δ} {sector : SectorNumber} {data : Sector},
    BlockDriver.write driver sector data = (.ok (), driver') →
      ∀ other, stored driver' other = if sector = other then data else stored driver other
  write_error : ∀ {driver driver' : δ} {sector : SectorNumber} {data : Sector}
    {error : TransferError}, BlockDriver.write driver sector data = (.error error, driver') →
      stored driver' = stored driver

open SectorStore (stored)

namespace MemoryDisk

theorem driver_read_eq (disk : MemoryDisk) (sector : SectorNumber) (buffer : Sector) :
    BlockDriver.read disk sector buffer =
      if sector < disk.sectors then (.ok (), disk.contents sector, disk)
      else (.error .sectorOutOfBounds, buffer, disk) := by
  by_cases h : sector < disk.sectors <;>
    simp [BlockDriver.read, read, range, contents, h, Except.map]

theorem driver_write_eq (disk : MemoryDisk) (sector : SectorNumber) (data : Sector) :
    BlockDriver.write disk sector data =
      if sector < disk.sectors then
        (.ok (), disk.put (sector.toNat * sectorSize) data.toList)
      else (.error .sectorOutOfBounds, disk) := by
  by_cases h : sector < disk.sectors <;>
    simp [BlockDriver.write, write, range, h, Except.map]

instance : SectorStore MemoryDisk where
  stored := contents
  read_ok h := by
    rw [driver_read_eq] at h
    split at h <;> cases h
    exact ⟨rfl, rfl⟩
  read_error h := by
    rw [driver_read_eq] at h
    split at h <;> cases h
    exact ⟨rfl, rfl⟩
  write_ok {disk _ sector data} h other := by
    rw [driver_write_eq] at h
    split at h
    · rename_i hsector
      cases h
      exact contents_put hsector data other
    · cases h
  write_error h := by
    rw [driver_write_eq] at h
    split at h <;> cases h
    rfl

end MemoryDisk

namespace FaultyDisk

theorem driver_read_eq (faulty : FaultyDisk) (sector : SectorNumber) (buffer : Sector) :
    BlockDriver.read faulty sector buffer =
      if faulty.readFails sector then (.error .readError, buffer, faulty)
      else if sector < faulty.disk.sectors then (.ok (), faulty.disk.contents sector, faulty)
      else (.error .sectorOutOfBounds, buffer, faulty) := by
  have hread : BlockDriver.read faulty sector buffer =
      if faulty.readFails sector then (.error .readError, buffer, faulty)
      else
        let reply := BlockDriver.read faulty.disk sector buffer
        (reply.1, reply.2.1, { faulty with disk := reply.2.2 }) := rfl
  rw [hread, MemoryDisk.driver_read_eq]
  by_cases hbound : sector < faulty.disk.sectors <;> simp [hbound]

theorem driver_write_eq (faulty : FaultyDisk) (sector : SectorNumber) (data : Sector) :
    BlockDriver.write faulty sector data =
      if faulty.writeFails sector then (.error .writeError, faulty)
      else if sector < faulty.disk.sectors then
        (.ok (), { faulty with
          disk := faulty.disk.put (sector.toNat * sectorSize) data.toList })
      else (.error .sectorOutOfBounds, faulty) := by
  have hwrite : BlockDriver.write faulty sector data =
      if faulty.writeFails sector then (.error .writeError, faulty)
      else
        let reply := BlockDriver.write faulty.disk sector data
        (reply.1, { faulty with disk := reply.2 }) := rfl
  rw [hwrite, MemoryDisk.driver_write_eq]
  by_cases hbound : sector < faulty.disk.sectors <;> simp [hbound]

instance : SectorStore FaultyDisk where
  stored faulty := faulty.disk.contents
  read_ok h := by
    rw [driver_read_eq] at h
    split at h
    · cases h
    · split at h <;> cases h
      exact ⟨rfl, rfl⟩
  read_error h := by
    rw [driver_read_eq] at h
    split at h
    · cases h
      exact ⟨rfl, rfl⟩
    · split at h <;> cases h
      exact ⟨rfl, rfl⟩
  write_ok {faulty _ sector data} h other := by
    rw [driver_write_eq] at h
    split at h
    · cases h
    · split at h
      · rename_i hsector
        cases h
        exact MemoryDisk.contents_put hsector data other
      · cases h
  write_error h := by
    rw [driver_write_eq] at h
    split at h
    · cases h
      rfl
    · split at h <;> cases h
      rfl

/-- The sectors that fail are others now, and the rest of the disk is the same. -/
def Refaulted (before after : FaultyDisk) : Prop :=
  ∃ readFails writeFails, after = before.withFaults readFails writeFails

theorem Refaulted.stored_eq {before after : FaultyDisk} (h : before.Refaulted after) :
    stored after = stored before := by
  obtain ⟨_, _, rfl⟩ := h
  rfl

end FaultyDisk

namespace BlockDevice

variable {δ : Type} [BlockDriver δ] {device after : BlockDevice δ} {sector : SectorNumber}
  {buffer buffer' data : List UInt8} {result : Except TransferError Unit} {count : Nat}

/-- What a device is, whatever was transferred so far. -/
def identity (device : BlockDevice δ) : BlockDevice Unit where
  index := device.index
  name := device.name
  type := device.type
  size := device.size
  driver := ()
  reads := 0
  writes := 0

/-- A read either fails before the driver or in it, or the driver carries it out. -/
theorem read_eq_ok (h : device.read sector buffer = .ok (result, buffer', after)) :
    after.identity = device.identity ∧
      ((∃ error, result = .error error ∧ buffer' = buffer ∧ after = device) ∨
        ∃ chunk chunk' : Sector, buffer = chunk.toList ∧ buffer' = chunk'.toList ∧
          BlockDriver.read device.driver sector chunk = (result, chunk', after.driver)) := by
  simp only [read_def] at h
  split at h
  · split at h
    · rename_i hlength
      split at h
      · rename_i hread
        cases h
        exact ⟨rfl, .inr ⟨⟨buffer, hlength⟩, _, rfl, rfl, hread⟩⟩
      · rename_i hread
        obtain ⟨reads, -, h⟩ := bind_eq_ok.1 h
        cases h
        exact ⟨rfl, .inr ⟨⟨buffer, hlength⟩, _, rfl, rfl, hread⟩⟩
    · cases h
      exact ⟨rfl, .inl ⟨_, rfl, rfl, rfl⟩⟩
  · cases h
    exact ⟨rfl, .inl ⟨_, rfl, rfl, rfl⟩⟩

theorem write_eq_ok (h : device.write sector data = .ok (result, after)) :
    after.identity = device.identity ∧
      ((∃ error, result = .error error ∧ after = device) ∨
        ∃ chunk : Sector, data = chunk.toList ∧
          BlockDriver.write device.driver sector chunk = (result, after.driver)) := by
  simp only [write_def] at h
  split at h
  · split at h
    · rename_i hlength
      split at h
      · cases h
      · split at h
        · rename_i hwrite
          cases h
          exact ⟨rfl, .inr ⟨⟨data, hlength⟩, rfl, hwrite⟩⟩
        · rename_i hwrite
          obtain ⟨writes, -, h⟩ := bind_eq_ok.1 h
          cases h
          exact ⟨rfl, .inr ⟨⟨data, hlength⟩, rfl, hwrite⟩⟩
    · cases h
      exact ⟨rfl, .inl ⟨_, rfl, rfl⟩⟩
  · cases h
    exact ⟨rfl, .inl ⟨_, rfl, rfl⟩⟩

/-- What every read leaves alone, a run of reads leaves alone. -/
theorem keeps_of_readRun {α : Type} {f : BlockDevice δ → α}
    (hstep : ∀ {device after : BlockDevice δ} {sector : SectorNumber} {buffer buffer' : List UInt8}
      {result : Except TransferError Unit},
      device.read sector buffer = .ok (result, buffer', after) → f after = f device)
    (h : device.readRun sector count buffer = .ok (result, buffer', after)) :
    f after = f device := by
  induction count generalizing device sector buffer result buffer' after with
  | zero =>
      cases h
      rfl
  | succ count ih =>
      rw [readRun_succ] at h
      obtain ⟨⟨first, chunk, mid⟩, hread, h⟩ := bind_eq_ok.1 h
      cases first with
      | error error =>
          cases h
          exact hstep hread
      | ok =>
          obtain ⟨⟨last, rest, final⟩, hrest, h⟩ := bind_eq_ok.1 h
          cases h
          exact (ih hrest).trans (hstep hread)

theorem keeps_of_writeRun {α : Type} {f : BlockDevice δ → α}
    (hstep : ∀ {device after : BlockDevice δ} {sector : SectorNumber} {data : List UInt8}
      {result : Except TransferError Unit},
      device.write sector data = .ok (result, after) → f after = f device)
    (h : device.writeRun sector count data = .ok (result, after)) : f after = f device := by
  induction count generalizing device sector data result after with
  | zero =>
      cases h
      rfl
  | succ count ih =>
      rw [writeRun_succ] at h
      obtain ⟨⟨first, mid⟩, hwrite, h⟩ := bind_eq_ok.1 h
      cases first with
      | error error =>
          cases h
          exact hstep hwrite
      | ok => exact (ih h).trans (hstep hwrite)

theorem size_of_read (h : device.read sector buffer = .ok (result, buffer', after)) :
    after.size = device.size :=
  congrArg (·.size) (read_eq_ok h).1

theorem size_of_write (h : device.write sector data = .ok (result, after)) :
    after.size = device.size :=
  congrArg (·.size) (write_eq_ok h).1

theorem size_of_readRun (h : device.readRun sector count buffer = .ok (result, buffer', after)) :
    after.size = device.size :=
  keeps_of_readRun size_of_read h

theorem size_of_writeRun (h : device.writeRun sector count data = .ok (result, after)) :
    after.size = device.size :=
  keeps_of_writeRun size_of_write h

end BlockDevice

/-- The contents of `count` sectors in a row. -/
def sectorsFrom (contents : SectorNumber → Sector) (sector : SectorNumber) :
    (count : Nat) → List UInt8
  | 0 => []
  | count + 1 => (contents sector).toList ++ sectorsFrom contents (sector + 1) count

theorem length_sectorsFrom (contents : SectorNumber → Sector) (sector : SectorNumber)
    (count : Nat) : (sectorsFrom contents sector count).length = count * sectorSize := by
  induction count generalizing sector with
  | zero => simp [sectorsFrom]
  | succ count ih => simp [sectorsFrom, ih, Nat.add_mul, Nat.add_comm]

/-- The sector that lies `i` further on. -/
theorem sector_add_succ (sector : SectorNumber) (i : Nat) :
    sector + 1 + UInt32.ofNat i = sector + UInt32.ofNat (i + 1) := by
  rw [UInt32.add_assoc, UInt32.ofNat_add]
  congr 1
  exact UInt32.add_comm _ _

theorem sectorsFrom_congr {contents contents' : SectorNumber → Sector} {sector : SectorNumber}
    {count : Nat}
    (h : ∀ i < count, contents' (sector + UInt32.ofNat i) = contents (sector + UInt32.ofNat i)) :
    sectorsFrom contents' sector count = sectorsFrom contents sector count := by
  induction count generalizing sector with
  | zero => rfl
  | succ count ih =>
      have hfirst : contents' sector = contents sector := by simpa using h 0 (by omega)
      rw [sectorsFrom, sectorsFrom, hfirst]
      congr 1
      apply ih
      intro i hi
      rw [sector_add_succ]
      exact h (i + 1) (by omega)

namespace BlockDevice

variable {δ : Type} [BlockDriver δ] [SectorStore δ] {device after : BlockDevice δ}
  {sector : SectorNumber} {buffer buffer' data : List UInt8}
  {result : Except TransferError Unit} {count : Nat}

theorem stored_of_read (h : device.read sector buffer = .ok (result, buffer', after)) :
    stored after.driver = stored device.driver := by
  obtain ⟨-, ⟨error, -, -, rfl⟩ | ⟨chunk, chunk', -, -, hread⟩⟩ := read_eq_ok h
  · rfl
  · cases result with
    | error error => exact (SectorStore.read_error hread).2
    | ok => exact (SectorStore.read_ok hread).2

theorem stored_of_readRun (h : device.readRun sector count buffer = .ok (result, buffer', after)) :
    stored after.driver = stored device.driver :=
  keeps_of_readRun stored_of_read h

theorem buffer_of_readRun (h : device.readRun sector count buffer = .ok (.ok (), buffer', after))
    (hlength : buffer.length = count * sectorSize) :
    buffer' = sectorsFrom (stored device.driver) sector count := by
  induction count generalizing device sector buffer buffer' after with
  | zero =>
      cases h
      simpa [sectorsFrom] using hlength
  | succ count ih =>
      rw [readRun_succ] at h
      obtain ⟨⟨first, chunk, mid⟩, hread, h⟩ := bind_eq_ok.1 h
      cases first with
      | error error => cases h
      | ok =>
          obtain ⟨⟨last, rest, final⟩, hrest, h⟩ := bind_eq_ok.1 h
          cases h
          have hchunk : chunk = (stored device.driver sector).toList := by
            obtain ⟨-, ⟨error, herror, -⟩ | ⟨_, chunk', -, rfl, hdriver⟩⟩ := read_eq_ok hread
            · cases herror
            · rw [(SectorStore.read_ok hdriver).1]
          have hdrop : (buffer.drop sectorSize).length = count * sectorSize := by
            rw [List.length_drop, hlength, Nat.add_mul]
            omega
          rw [sectorsFrom, hchunk, ih hrest hdrop, stored_of_read hread]

/-- A run of writes leaves all sectors outside alone, also when it fails. -/
theorem stored_of_writeRun (h : device.writeRun sector count data = .ok (result, after))
    {other : SectorNumber} (houtside : ∀ i < count, sector + UInt32.ofNat i ≠ other) :
    stored after.driver other = stored device.driver other := by
  induction count generalizing device sector data result after with
  | zero =>
      cases h
      rfl
  | succ count ih =>
      rw [writeRun_succ] at h
      obtain ⟨⟨first, mid⟩, hwrite, h⟩ := bind_eq_ok.1 h
      have hne : sector ≠ other := by simpa using houtside 0 (by omega)
      have hmid : stored mid.driver other = stored device.driver other := by
        obtain ⟨-, ⟨error, -, rfl⟩ | ⟨chunk, -, hdriver⟩⟩ := write_eq_ok hwrite
        · rfl
        · cases first with
          | error error => rw [SectorStore.write_error hdriver]
          | ok => rw [SectorStore.write_ok hdriver, if_neg hne]
      cases first with
      | error error =>
          cases h
          exact hmid
      | ok =>
          refine (ih h ?_).trans hmid
          intro i hi
          rw [sector_add_succ]
          exact houtside (i + 1) (by omega)

theorem sectorsFrom_of_writeRun (h : device.writeRun sector count data = .ok (.ok (), after))
    (hlength : data.length = count * sectorSize) (hcount : count ≤ 0x100000000) :
    sectorsFrom (stored after.driver) sector count = data := by
  induction count generalizing device sector data after with
  | zero =>
      cases h
      exact (List.eq_nil_of_length_eq_zero (by simpa using hlength)).symm
  | succ count ih =>
      rw [writeRun_succ] at h
      obtain ⟨⟨first, mid⟩, hwrite, h⟩ := bind_eq_ok.1 h
      cases first with
      | error error => cases h
      | ok =>
          have hdrop : (data.drop sectorSize).length = count * sectorSize := by
            rw [List.length_drop, hlength, Nat.add_mul]
            omega
          -- The sectors that follow are others, so the first one keeps what was written to it.
          have hfirst : (stored after.driver sector).toList = data.take sectorSize := by
            rw [stored_of_writeRun h]
            · obtain ⟨-, ⟨error, herror, -⟩ | ⟨chunk, hchunk, hdriver⟩⟩ := write_eq_ok hwrite
              · cases herror
              · rw [SectorStore.write_ok hdriver, if_pos rfl, hchunk]
            · intro i hi heq
              rw [sector_add_succ] at heq
              have hnat := congrArg UInt32.toNat heq
              have hlt := sector.toNat_lt
              simp only [UInt32.toNat_add, UInt32.toNat_ofNat'] at hnat
              omega
          rw [sectorsFrom, hfirst, ih h hdrop (by omega), List.take_append_drop]

end BlockDevice

end DemandPaging
