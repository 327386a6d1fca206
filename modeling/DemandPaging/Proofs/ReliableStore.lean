import DemandPaging.Proofs.SwapArea

/-!
Drivers that carry out every transfer to a sector they have. On such a device a run of sectors that
lies within it never ends in an error.
-/
namespace DemandPaging

class ReliableStore (δ : Type) [BlockDriver δ] where
  /-- The number of sectors the driver has. -/
  capacity : δ → Nat
  read_ok : ∀ {driver driver' : δ} {sector : SectorNumber} {buffer buffer' : Sector}
    {result : Except TransferError Unit}, sector.toNat < capacity driver →
    BlockDriver.read driver sector buffer = (result, buffer', driver') → result = .ok ()
  write_ok : ∀ {driver driver' : δ} {sector : SectorNumber} {data : Sector}
    {result : Except TransferError Unit}, sector.toNat < capacity driver →
    BlockDriver.write driver sector data = (result, driver') → result = .ok ()
  capacity_of_read : ∀ {driver driver' : δ} {sector : SectorNumber} {buffer buffer' : Sector}
    {result : Except TransferError Unit},
    BlockDriver.read driver sector buffer = (result, buffer', driver') →
      capacity driver' = capacity driver
  capacity_of_write : ∀ {driver driver' : δ} {sector : SectorNumber} {data : Sector}
    {result : Except TransferError Unit},
    BlockDriver.write driver sector data = (result, driver') → capacity driver' = capacity driver

open ReliableStore (capacity)

instance : ReliableStore MemoryDisk where
  capacity disk := disk.sectors.toNat
  read_ok {disk _ sector _ _ _} hsector h := by
    rw [MemoryDisk.driver_read_eq, if_pos (UInt32.lt_iff_toNat_lt.2 hsector)] at h
    cases h
    rfl
  write_ok {disk _ sector _ _} hsector h := by
    rw [MemoryDisk.driver_write_eq, if_pos (UInt32.lt_iff_toNat_lt.2 hsector)] at h
    cases h
    rfl
  capacity_of_read h := by
    rw [MemoryDisk.driver_read_eq] at h
    split at h <;> cases h <;> rfl
  capacity_of_write h := by
    rw [MemoryDisk.driver_write_eq] at h
    split at h <;> cases h <;> rfl

namespace BlockDevice

variable {δ : Type} [BlockDriver δ] [ReliableStore δ] {device after : BlockDevice δ}
  {sector : SectorNumber} {buffer buffer' data : List UInt8}
  {result : Except TransferError Unit} {count : Nat}

theorem capacity_of_read (h : device.read sector buffer = .ok (result, buffer', after)) :
    capacity after.driver = capacity device.driver := by
  obtain ⟨-, ⟨error, -, -, rfl⟩ | ⟨chunk, chunk', -, -, hread⟩⟩ := read_eq_ok h
  · rfl
  · exact ReliableStore.capacity_of_read hread

theorem capacity_of_write (h : device.write sector data = .ok (result, after)) :
    capacity after.driver = capacity device.driver := by
  obtain ⟨-, ⟨error, -, rfl⟩ | ⟨chunk, -, hwrite⟩⟩ := write_eq_ok h
  · rfl
  · exact ReliableStore.capacity_of_write hwrite

theorem Transfers.capacity_eq (h : device.Transfers after) :
    capacity after.driver = capacity device.driver := by
  refine h.keeps (f := fun device => capacity device.driver) fun hstep => ?_
  cases hstep with
  | read hread => exact capacity_of_read hread
  | written hwrite => exact capacity_of_write hwrite

theorem read_ok (h : device.read sector buffer = .ok (result, buffer', after))
    (hsize : sector.toNat < device.size.toNat) (hcapacity : sector.toNat < capacity device.driver)
    (hlength : buffer.length = sectorSize) : result = .ok () := by
  simp only [read_def, if_pos (UInt32.lt_iff_toNat_lt.2 hsize), dif_pos hlength] at h
  split at h
  · rename_i hread
    cases ReliableStore.read_ok hcapacity hread
  · obtain ⟨_, -, h⟩ := bind_eq_ok.1 h
    cases h
    rfl

theorem write_ok (h : device.write sector data = .ok (result, after))
    (hsize : sector.toNat < device.size.toNat) (hcapacity : sector.toNat < capacity device.driver)
    (hlength : data.length = sectorSize) : result = .ok () := by
  simp only [write_def, if_pos (UInt32.lt_iff_toNat_lt.2 hsize), dif_pos hlength] at h
  split at h
  · cases h
  · split at h
    · rename_i hwrite
      cases ReliableStore.write_ok hcapacity hwrite
    · obtain ⟨_, -, h⟩ := bind_eq_ok.1 h
      cases h
      rfl

theorem toNat_add_one {size : SectorNumber} (h : sector.toNat < size.toNat) :
    (sector + 1).toNat = sector.toNat + 1 := by
  have := size.toNat_lt
  rw [UInt32.toNat_add, UInt32.toNat_one]
  omega

theorem readRun_ok (h : device.readRun sector count buffer = .ok (result, buffer', after))
    (hsize : sector.toNat + count ≤ device.size.toNat)
    (hcapacity : sector.toNat + count ≤ capacity device.driver)
    (hlength : buffer.length = count * sectorSize) : result = .ok () := by
  induction count generalizing device sector buffer result buffer' after with
  | zero =>
      cases h
      rfl
  | succ count ih =>
      rw [Nat.succ_mul] at hlength
      rw [readRun_succ] at h
      obtain ⟨⟨first, chunk, mid⟩, hread, h⟩ := bind_eq_ok.1 h
      obtain rfl := read_ok hread (by omega) (by omega) (by rw [List.length_take]; omega)
      obtain ⟨⟨last, rest, final⟩, hrest, h⟩ := bind_eq_ok.1 h
      cases h
      have hnext := toNat_add_one (by omega : sector.toNat < device.size.toNat)
      refine ih hrest ?_ ?_ (by rw [List.length_drop]; omega)
      · rw [hnext, size_of_read hread]
        omega
      · rw [hnext, capacity_of_read hread]
        omega

theorem writeRun_ok (h : device.writeRun sector count data = .ok (result, after))
    (hsize : sector.toNat + count ≤ device.size.toNat)
    (hcapacity : sector.toNat + count ≤ capacity device.driver)
    (hlength : data.length = count * sectorSize) : result = .ok () := by
  induction count generalizing device sector data result after with
  | zero =>
      cases h
      rfl
  | succ count ih =>
      rw [Nat.succ_mul] at hlength
      rw [writeRun_succ] at h
      obtain ⟨⟨first, mid⟩, hwrite, h⟩ := bind_eq_ok.1 h
      obtain rfl := write_ok hwrite (by omega) (by omega) (by rw [List.length_take]; omega)
      have hnext := toNat_add_one (by omega : sector.toNat < device.size.toNat)
      refine ih h ?_ ?_ (by rw [List.length_drop]; omega)
      · rw [hnext, size_of_write hwrite]
        omega
      · rw [hnext, capacity_of_write hwrite]
        omega

end BlockDevice

namespace SwapArea

variable {δ : Type} [BlockDriver δ] [ReliableStore δ] {area : SwapArea δ} {slot : SwapSlot}
  {buffer buffer' data : List UInt8} {result : Except TransferError Unit} {after : BlockDevice δ}

/-- The driver has the sectors of all slots. -/
def Roomy (area : SwapArea δ) : Prop := area.slotCount * slotSectors ≤ capacity area.disk.driver

instance (area : SwapArea δ) : Decidable area.Roomy :=
  inferInstanceAs (Decidable (area.slotCount * slotSectors ≤ capacity area.disk.driver))

theorem Roomy.slot_le (h : area.Roomy) (hslot : slot.index < area.slotCount) :
    slot.startSector.toNat + slotSectors ≤ area.disk.size.toNat ∧
      slot.startSector.toNat + slotSectors ≤ capacity area.disk.driver := by
  have hstart : slot.startSector.toNat = slot.index * slotSectors := by
    simpa using
      SwapSlot.toNat_startSector_add (i := 0) (SwapSlot.addressable_of_lt hslot) (by decide)
  have hroom : area.disk.size.toNat / slotSectors * slotSectors ≤ capacity area.disk.driver := h
  have hindex : slot.index < area.disk.size.toNat / slotSectors := hslot
  simp only [slotSectors] at *
  omega

theorem Roomy.read_ok (h : area.Roomy) (hslot : slot.index < area.slotCount)
    (hrun : area.disk.readRun slot.startSector slotSectors buffer = .ok (result, buffer', after))
    (hlength : buffer.length = pageSize) : result = .ok () := by
  obtain ⟨hsize, hcapacity⟩ := h.slot_le hslot
  exact BlockDevice.readRun_ok hrun hsize hcapacity (by rw [hlength, slotSectors_mul_sectorSize])

theorem Roomy.write_ok (h : area.Roomy) (hslot : slot.index < area.slotCount)
    (hrun : area.disk.writeRun slot.startSector slotSectors data = .ok (result, after))
    (hlength : data.length = pageSize) : result = .ok () := by
  obtain ⟨hsize, hcapacity⟩ := h.slot_le hslot
  exact BlockDevice.writeRun_ok hrun hsize hcapacity (by rw [hlength, slotSectors_mul_sectorSize])

end SwapArea

end DemandPaging
