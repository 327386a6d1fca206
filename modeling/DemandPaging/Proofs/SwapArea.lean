import Mathlib.Data.Bool.Count
import Mathlib.Data.List.Perm.Subperm
import DemandPaging.Proofs.Transfers
import DemandPaging.SwapArea.Basic

/-!
The swap area: which slots are in use, how many there are, and what a slot holds. Slots have their
sectors to themselves, so a transfer to one leaves the contents of all others as they were.
-/
namespace DemandPaging

open SectorStore (stored)

attribute [ext] SwapArea

namespace SwapArea

variable {δ : Type} {area after : SwapArea δ} {slot other : SwapSlot}

/-- Only slots that the device has room for are in use. -/
def Bounded (area : SwapArea δ) : Prop := ∀ slot, area.isTaken slot = true →
  slot.index < area.slotCount

/-- The lowest slot that is free. -/
structure IsLowestFree (area : SwapArea δ) (slot : SwapSlot) : Prop where
  lt_slotCount : slot.index < area.slotCount
  free : area.isTaken slot = false
  lower : ∀ other : SwapSlot, other.index < slot.index → area.isTaken other = true

/-- The area with another state of its device. -/
def withDisk (area : SwapArea δ) (disk : BlockDevice δ) : SwapArea δ := { area with disk }

theorem bounded_new (disk : BlockDevice δ) : (new disk).Bounded := by
  intro slot htaken
  simp [isTaken_new] at htaken

theorem acquire?_eq_some (h : area.acquire? = some (slot, after)) :
    area.IsLowestFree slot ∧ after = { area with taken := area.taken.insert slot.index } := by
  obtain ⟨index, hindex, hpair⟩ := Option.map_eq_some_iff.1 h
  cases hpair
  obtain ⟨hlt, hfree, hlower⟩ := firstBelow?_eq_some_iff.1 hindex
  refine ⟨⟨hlt, by simpa [isTaken] using hfree, ?_⟩, rfl⟩
  intro other hother
  simpa [isTaken] using hlower other.index hother

theorem acquire_eq_ok (h : area.acquire = .ok (slot, after)) :
    area.IsLowestFree slot ∧ after = { area with taken := area.taken.insert slot.index } := by
  simp only [acquire_def] at h
  split at h
  · rename_i taken hsome
    cases h
    exact acquire?_eq_some hsome
  · cases h

theorem release_eq_ok (h : area.release slot = .ok after) :
    area.isTaken slot = true ∧ after = { area with taken := area.taken.erase slot.index } := by
  simp only [release_def] at h
  split at h
  · rename_i htaken
    cases h
    exact ⟨htaken, rfl⟩
  · cases h

/-- Giving a slot back undoes taking it. -/
theorem erase_insert_of_free (h : area.isTaken slot = false) :
    (area.taken.insert slot.index).erase slot.index = area.taken := by
  have hfree : slot.index ∉ area.taken := by
    rw [Std.ExtTreeSet.mem_iff_contains, Bool.not_eq_true]
    exact h
  apply Std.ExtTreeSet.ext_mem
  intro index
  rw [Std.ExtTreeSet.mem_erase, Std.ExtTreeSet.mem_insert]
  simp only [ne_eq, Nat.compare_eq_eq]
  by_cases heq : slot.index = index
  · simp [← heq, hfree]
  · simp [heq]

theorem isTaken_insert (area : SwapArea δ) (disk : BlockDevice δ) (slot other : SwapSlot) :
    ({ disk, taken := area.taken.insert slot.index } : SwapArea δ).isTaken other =
      (decide (slot = other) || area.isTaken other) := by
  obtain ⟨index⟩ := slot
  obtain ⟨otherIndex⟩ := other
  by_cases h : index = otherIndex <;> simp [isTaken, Std.ExtTreeSet.contains_insert, h]

theorem isTaken_erase (area : SwapArea δ) (disk : BlockDevice δ) (slot other : SwapSlot) :
    ({ disk, taken := area.taken.erase slot.index } : SwapArea δ).isTaken other =
      (!decide (slot = other) && area.isTaken other) := by
  obtain ⟨index⟩ := slot
  obtain ⟨otherIndex⟩ := other
  by_cases h : index = otherIndex <;> simp [isTaken, Std.ExtTreeSet.contains_erase, h]

theorem Bounded.insert (h : area.Bounded) (hslot : slot.index < area.slotCount)
    {disk : BlockDevice δ} (hsize : disk.size = area.disk.size) :
    ({ disk, taken := area.taken.insert slot.index } : SwapArea δ).Bounded := by
  intro other htaken
  rw [isTaken_insert, Bool.or_eq_true, decide_eq_true_iff] at htaken
  simp only [slotCount, hsize]
  obtain rfl | htaken := htaken
  · exact hslot
  · exact h other htaken

theorem Bounded.erase (h : area.Bounded) (slot : SwapSlot) {disk : BlockDevice δ}
    (hsize : disk.size = area.disk.size) :
    ({ disk, taken := area.taken.erase slot.index } : SwapArea δ).Bounded := by
  intro other htaken
  rw [isTaken_erase, Bool.and_eq_true] at htaken
  simp only [slotCount, hsize]
  exact h other htaken.2

/-- The slots in use, counted one by one. -/
theorem Bounded.size_taken_eq (h : area.Bounded) :
    area.taken.size = (List.range area.slotCount).countP fun index => area.isTaken ⟨index⟩ := by
  have hnodup : area.taken.toList.Nodup :=
    area.taken.distinct_toList.imp fun hne heq => hne (by simp [heq])
  have hperm : area.taken.toList.Perm
      ((List.range area.slotCount).filter fun index => area.isTaken ⟨index⟩) := by
    refine (List.perm_ext_iff_of_nodup hnodup (List.nodup_range.filter _)).2 fun index => ?_
    have hmem : index ∈ area.taken.toList ↔ area.isTaken ⟨index⟩ = true := by simp [isTaken]
    rw [List.mem_filter, List.mem_range, hmem]
    exact ⟨fun htaken => ⟨h ⟨index⟩ htaken, htaken⟩, And.right⟩
  rw [List.countP_eq_length_filter, ← hperm.length_eq, Std.ExtTreeSet.length_toList]

theorem Bounded.size_taken_le (h : area.Bounded) : area.taken.size ≤ area.slotCount := by
  rw [h.size_taken_eq]
  exact Nat.le_trans List.countP_le_length (Nat.le_of_eq List.length_range)

theorem size_insert_of_free (h : area.isTaken slot = false) :
    (area.taken.insert slot.index).size = area.taken.size + 1 := by
  have hfree : area.taken.contains slot.index = false := h
  simp [Std.ExtTreeSet.size_insert, hfree]

theorem size_erase_of_taken (h : area.isTaken slot = true) :
    (area.taken.erase slot.index).size + 1 = area.taken.size := by
  have htaken : area.taken.contains slot.index = true := h
  have hpos : area.taken.size ≠ 0 := by
    intro hzero
    rw [Std.ExtTreeSet.eq_empty_iff_size_eq_zero.2 hzero] at htaken
    simp at htaken
  simp only [Std.ExtTreeSet.size_erase, htaken, if_true]
  omega

theorem IsLowestFree.size_taken_lt (h : area.IsLowestFree slot) (hbounded : area.Bounded) :
    area.taken.size < area.slotCount := by
  have hsame : area.disk.size = area.disk.size := rfl
  have hle := (hbounded.insert h.lt_slotCount hsame).size_taken_le
  rw [size_insert_of_free h.free] at hle
  exact hle

/-- Only an area without a free slot has none to give. -/
theorem haltsOnly_acquire (h : area.Bounded) :
    HaltsOnly (fun halt => halt = .swapExhausted area.slotCount ∧
      area.taken.size = area.slotCount) area.acquire := by
  simp only [acquire_def]
  split
  · exact .ok _
  · rename_i hnone
    refine .error ⟨rfl, Nat.le_antisymm h.size_taken_le ?_⟩
    have hall := firstBelow?_eq_none_iff.1 (Option.map_eq_none_iff.1 hnone)
    have hsubset : List.range area.slotCount ⊆ area.taken.toList := by
      intro index hindex
      have htaken := hall index (List.mem_range.1 hindex)
      simpa using htaken
    have hle := (List.nodup_range.subperm hsubset).length_le
    rwa [List.length_range, Std.ExtTreeSet.length_toList] at hle

theorem acquire_of_full (h : area.Bounded) (hfull : area.taken.size = area.slotCount) :
    area.acquire = .error (.swapExhausted area.slotCount) := by
  cases hacquire : area.acquire with
  | error halt => rw [(haltsOnly_acquire h halt hacquire).1]
  | ok taken =>
      have hlt := (acquire_eq_ok hacquire).1.size_taken_lt h
      omega

theorem haltsOnly_release {allowed : Halt → Prop} (h : area.isTaken slot = true) :
    HaltsOnly allowed (area.release slot) := by
  rw [release_def, if_pos h]
  exact .ok _

section Bits

/-- The slots as a vector of booleans, one for each slot that the device has room for: whether it is
in use. The set of slots in use tells no more than that while it is bounded. -/
def bits (area : SwapArea δ) : List Bool :=
  (List.range area.slotCount).map fun index => area.isTaken ⟨index⟩

theorem length_bits (area : SwapArea δ) : area.bits.length = area.slotCount := by
  rw [bits, List.length_map, List.length_range]

theorem bits_new (disk : BlockDevice δ) :
    (new disk).bits = List.replicate (new disk).slotCount false := by
  rw [List.eq_replicate_iff]
  refine ⟨length_bits _, fun bit hbit => ?_⟩
  obtain ⟨index, -, rfl⟩ := List.mem_map.1 hbit
  exact isTaken_new disk ⟨index⟩

theorem getElem?_bits (area : SwapArea δ) (slot : SwapSlot) : area.bits[slot.index]? =
    if slot.index < area.slotCount then some (area.isTaken slot) else none := by
  rw [bits, List.getElem?_map]
  split
  · rename_i hlt
    rw [List.getElem?_range hlt]
    rfl
  · rename_i hout
    rw [List.getElem?_eq_none (by simpa using hout)]
    rfl

/-- A slot that is out of range is not in use. -/
theorem Bounded.isTaken_eq (h : area.Bounded) (slot : SwapSlot) :
    area.isTaken slot = area.bits[slot.index]?.getD false := by
  rw [getElem?_bits]
  split
  · rfl
  · rename_i hout
    exact Bool.eq_false_iff.2 fun htaken => hout (h slot htaken)

/-- The slot that is taken next is the first zero. -/
theorem acquire?_eq_bits (area : SwapArea δ) : area.acquire? =
    (area.bits.idxOf? false).map fun index =>
      (⟨index⟩, { area with taken := area.taken.insert index }) := by
  have hsearch : firstBelow? (fun index => !area.taken.contains index) area.slotCount =
      area.bits.idxOf? false := by
    ext index
    rw [firstBelow?_eq_some_iff, List.idxOf?_eq_some_iff]
    simp [bits, isTaken, and_left_comm]
  rw [acquire?, hsearch]

/-- Where one slot changes, one bit does. -/
theorem bits_eq_set {bit : Bool} (hcount : after.slotCount = area.slotCount)
    (hslot : after.isTaken slot = bit)
    (hothers : ∀ other, slot ≠ other → after.isTaken other = area.isTaken other) :
    after.bits = area.bits.set slot.index bit := by
  refine List.ext_getElem? fun index => ?_
  rw [List.getElem?_set, length_bits, getElem?_bits after ⟨index⟩, getElem?_bits area ⟨index⟩,
    hcount]
  by_cases heq : slot.index = index
  · subst heq
    rw [if_pos rfl, ← hslot]
  · rw [if_neg heq, hothers ⟨index⟩ fun h => heq (congrArg SwapSlot.index h)]

theorem bits_of_acquire? (h : area.acquire? = some (slot, after)) :
    after.bits = area.bits.set slot.index true := by
  have htaken := isTaken_of_acquire? h
  obtain ⟨-, rfl⟩ := acquire?_eq_some h
  refine bits_eq_set rfl (by simp [htaken]) fun other hne => ?_
  rw [htaken, decide_eq_false hne, Bool.false_or]

theorem bits_of_release (h : area.release slot = .ok after) :
    after.bits = area.bits.set slot.index false := by
  have htaken := isTaken_of_release h
  obtain ⟨-, rfl⟩ := release_eq_ok h
  refine bits_eq_set rfl (by simp [htaken]) fun other hne => ?_
  rw [htaken, decide_eq_false hne, Bool.not_false, Bool.true_and]

/-- The free slots are the zeros. -/
theorem Bounded.freeSlots_eq (h : area.Bounded) : area.freeSlots = area.bits.count false := by
  have hones : area.taken.size = area.bits.count true := by
    rw [h.size_taken_eq, bits, List.count_eq_countP, List.countP_map]
    congr 1
    funext index
    simp
  have hboth := List.count_false_add_count_true area.bits
  rw [length_bits] at hboth
  rw [freeSlots, hones]
  omega

end Bits

variable [BlockDriver δ] {data buffer buffer' : List UInt8} {result : Except TransferError Unit}

/-- What can stop a page on its way out: all slots are in use, or the device cannot count its
sectors any more. -/
inductive Stops (area : SwapArea δ) : Halt → Prop where
  | exhausted : area.taken.size = area.slotCount → Stops area (.swapExhausted area.slotCount)
  | uncounted {halt : Halt} : area.disk.Overflows halt →
      0x100000000 ≤ area.disk.writes + slotSectors → area.taken.size < area.slotCount →
      Stops area halt

theorem haltsOnly_storePage (area : SwapArea δ) (hwritable : area.disk.type ≠ .foreign)
    (slot : SwapSlot) (hlength : data.length = pageSize) :
    HaltsOnly (fun halt => area.disk.Overflows halt ∧
      0x100000000 ≤ area.disk.writes + slotSectors) (area.storePage slot data) := by
  rw [storePage_def, if_pos hlength]
  exact .bind (BlockDevice.haltsOnly_writeRun hwritable _ _ _) fun _ _ => .ok _

theorem haltsOnly_loadPage (area : SwapArea δ) (slot : SwapSlot)
    (hlength : buffer.length = pageSize) :
    HaltsOnly area.disk.Overflows (area.loadPage slot buffer) := by
  rw [loadPage_def, if_pos hlength]
  exact .bind (BlockDevice.haltsOnly_readRun _ _ _ _) fun _ _ => .ok _

theorem storePage_eq_ok (h : area.storePage slot data = .ok (result, after)) :
    ∃ disk, area.disk.writeRun slot.startSector slotSectors data = .ok (result, disk) ∧
      after = area.withDisk disk := by
  simp only [storePage_def] at h
  split at h
  · obtain ⟨⟨_, disk⟩, hrun, h⟩ := bind_eq_ok.1 h
    cases h
    exact ⟨disk, hrun, rfl⟩
  · cases h

theorem loadPage_eq_ok (h : area.loadPage slot buffer = .ok (result, buffer', after)) :
    ∃ disk, area.disk.readRun slot.startSector slotSectors buffer = .ok (result, buffer', disk) ∧
      after = area.withDisk disk := by
  simp only [loadPage_def] at h
  split at h
  · obtain ⟨⟨_, _, disk⟩, hrun, h⟩ := bind_eq_ok.1 h
    cases h
    exact ⟨disk, hrun, rfl⟩
  · cases h

end SwapArea

namespace SwapSlot

/-- What the slot holds on a device with these contents. -/
def page (contents : SectorNumber → Sector) (slot : SwapSlot) : Page :=
  ⟨sectorsFrom contents slot.startSector slotSectors, by
    rw [length_sectorsFrom, slotSectors_mul_sectorSize]⟩

/-- All sectors of the slot have numbers. -/
def Addressable (slot : SwapSlot) : Prop := (slot.index + 1) * slotSectors ≤ 0x100000000

instance (slot : SwapSlot) : Decidable slot.Addressable :=
  inferInstanceAs (Decidable ((slot.index + 1) * slotSectors ≤ 0x100000000))

/-- The slots of a device of any size. -/
theorem addressable_of_lt {slot : SwapSlot} {size : SectorNumber}
    (h : slot.index < size.toNat / slotSectors) : slot.Addressable := by
  have hsize := size.toNat_lt
  simp only [Addressable, slotSectors] at *
  omega

theorem toNat_startSector_add {slot : SwapSlot} {i : Nat} (hslot : slot.Addressable)
    (hi : i < slotSectors) :
    (slot.startSector + UInt32.ofNat i).toNat = slot.index * slotSectors + i := by
  simp only [Addressable, slotSectors] at hslot hi
  simp only [startSector, slotSectors, UInt32.toNat_add, UInt32.toNat_ofNat']
  omega

theorem startSector_add_ne {slot other : SwapSlot} {i j : Nat} (hne : slot ≠ other)
    (hslot : slot.Addressable) (hother : other.Addressable) (hi : i < slotSectors)
    (hj : j < slotSectors) :
    slot.startSector + UInt32.ofNat i ≠ other.startSector + UInt32.ofNat j := by
  intro heq
  have hnat := congrArg UInt32.toNat heq
  rw [toNat_startSector_add hslot hi, toNat_startSector_add hother hj] at hnat
  apply hne
  obtain ⟨index⟩ := slot
  obtain ⟨otherIndex⟩ := other
  simp only [slotSectors] at *
  congr 1
  omega

end SwapSlot

theorem SwapArea.IsLowestFree.addressable {δ : Type} {area : SwapArea δ} {slot : SwapSlot}
    (h : area.IsLowestFree slot) : slot.Addressable :=
  SwapSlot.addressable_of_lt h.lt_slotCount

namespace BlockDevice

variable {δ : Type} [BlockDriver δ] [SectorStore δ] {device after : BlockDevice δ}
  {slot other : SwapSlot} {buffer buffer' data : List UInt8}
  {result : Except TransferError Unit}

/-- What the device holds in a slot. -/
def slotPage (device : BlockDevice δ) (slot : SwapSlot) : Page := slot.page (stored device.driver)

theorem slotPage_of_readRun
    (h : device.readRun slot.startSector slotSectors buffer = .ok (result, buffer', after))
    (other : SwapSlot) : after.slotPage other = device.slotPage other := by
  rw [slotPage, slotPage, stored_of_readRun h]

theorem buffer_of_readRun_slot
    (h : device.readRun slot.startSector slotSectors buffer = .ok (.ok (), buffer', after))
    (hlength : buffer.length = pageSize) : buffer' = (device.slotPage slot).toList :=
  buffer_of_readRun h (by rw [hlength, slotSectors_mul_sectorSize])

theorem slotPage_of_writeRun
    (h : device.writeRun slot.startSector slotSectors data = .ok (.ok (), after))
    (hlength : data.length = pageSize) : (after.slotPage slot).toList = data :=
  sectorsFrom_of_writeRun h (by rw [hlength, slotSectors_mul_sectorSize])
    (by decide)

/-- A write to a slot, complete or not, does not reach the others. -/
theorem slotPage_of_writeRun_ne
    (h : device.writeRun slot.startSector slotSectors data = .ok (result, after))
    (hne : slot ≠ other) (hslot : slot.Addressable) (hother : other.Addressable) :
    after.slotPage other = device.slotPage other := by
  apply Bytes.ext
  apply sectorsFrom_congr
  intro j hj
  apply stored_of_writeRun h
  intro i hi
  exact SwapSlot.startSector_add_ne hne hslot hother hi hj

end BlockDevice

end DemandPaging
