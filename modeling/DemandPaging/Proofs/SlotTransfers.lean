import DemandPaging.Proofs.BadSectors
import DemandPaging.Proofs.FailureCount

/-!
Transfers of whole pages. They ask for the sectors of their slot in order and for no others, and on
a disk with bad sectors they get as far as the first one that fails.
-/
namespace DemandPaging

open SectorStore (stored)

/-- A driver that notes which sectors it is asked for. -/
structure Noting (δ : Type) where
  driver : δ
  asked : List SectorNumber

instance {δ : Type} [BlockDriver δ] : BlockDriver (Noting δ) where
  read noting sector buffer :=
    let (result, buffer, driver) := BlockDriver.read noting.driver sector buffer
    (result, buffer, ⟨driver, noting.asked ++ [sector]⟩)
  write noting sector data :=
    let (result, driver) := BlockDriver.write noting.driver sector data
    (result, ⟨driver, noting.asked ++ [sector]⟩)

/-- The numbers of `count` sectors in a row. -/
def sectorRun (sector : SectorNumber) (count : Nat) : List SectorNumber :=
  (List.range count).map fun i => sector + UInt32.ofNat i

theorem sectorRun_succ (sector : SectorNumber) (count : Nat) :
    sectorRun sector (count + 1) = sector :: sectorRun (sector + 1) count := by
  simp only [sectorRun, List.range_succ_eq_map, List.map_cons, List.map_map, Function.comp_def,
    sector_add_succ]
  simp

theorem mem_sectorRun {sector other : SectorNumber} {count : Nat} :
    other ∈ sectorRun sector count ↔ ∃ i < count, sector + UInt32.ofNat i = other := by
  simp [sectorRun]

/-- The sector `i` of a row holds the bytes from `i * 512` on. -/
theorem slice_sectorsFrom (contents : SectorNumber → Sector) (sector : SectorNumber)
    {i count : Nat} (h : i < count) :
    ((sectorsFrom contents sector count).drop (i * sectorSize)).take sectorSize =
      (contents (sector + UInt32.ofNat i)).toList := by
  induction i generalizing sector count with
  | zero =>
      obtain ⟨count, rfl⟩ := Nat.exists_eq_add_of_lt h
      simp [sectorsFrom]
  | succ i ih =>
      obtain ⟨count, rfl⟩ := Nat.exists_eq_add_of_le' (Nat.zero_lt_of_lt h)
      have hbehind := ih (sector + 1) (Nat.lt_of_succ_lt_succ h)
      rw [sector_add_succ] at hbehind
      rw [← hbehind, sectorsFrom, Nat.succ_mul, Nat.add_comm, ← List.drop_drop,
        List.drop_left' (Bytes.length_toList _)]

namespace BlockDevice

section Asked

variable {δ : Type} [BlockDriver δ] {device after : BlockDevice δ} {sector : SectorNumber}
  {buffer buffer' data : List UInt8} {result : Except TransferError Unit} {count : Nat}

/-- The device with a driver that notes sectors, behind those that were noted before. -/
def noting (device : BlockDevice δ) (asked : List SectorNumber) : BlockDevice (Noting δ) where
  index := device.index
  name := device.name
  type := device.type
  size := device.size
  driver := ⟨device.driver, asked⟩
  reads := device.reads
  writes := device.writes

theorem write_noting (hsector : sector < device.size) (hlength : data.length = sectorSize)
    (asked : List SectorNumber) :
    (device.noting asked).write sector data =
      (device.write sector data).map fun reply =>
        (reply.1, reply.2.noting (asked ++ [sector])) := by
  by_cases hforeign : device.type = .foreign
  · simp only [write_def, noting, if_pos hsector, dif_pos hlength, hforeign, if_true]
    rfl
  · simp only [write_def, noting, if_pos hsector, dif_pos hlength, hforeign, if_false,
      BlockDriver.write]
    obtain ⟨_ | _, driver⟩ := BlockDriver.write device.driver sector ⟨data, hlength⟩
    · rfl
    · cases nextCount device.writes <;> rfl

theorem read_noting (hsector : sector < device.size) (hlength : buffer.length = sectorSize)
    (asked : List SectorNumber) :
    (device.noting asked).read sector buffer =
      (device.read sector buffer).map fun reply =>
        (reply.1, reply.2.1, reply.2.2.noting (asked ++ [sector])) := by
  simp only [read_def, noting, if_pos hsector, dif_pos hlength, BlockDriver.read]
  obtain ⟨_ | _, chunk, driver⟩ := BlockDriver.read device.driver sector ⟨buffer, hlength⟩
  · rfl
  · cases nextCount device.reads <;> rfl

/-- The sectors of a run are asked for in order, all of them unless one fails. -/
theorem writeRun_noting (hsectors : ∀ i < count, sector + UInt32.ofNat i < device.size)
    (hlength : data.length = count * sectorSize)
    (h : device.writeRun sector count data = .ok (result, after)) (asked : List SectorNumber) :
    ∃ tried ≤ count, (result = .ok () → tried = count) ∧
      (device.noting asked).writeRun sector count data =
        .ok (result, after.noting (asked ++ sectorRun sector tried)) := by
  induction count generalizing device sector data asked with
  | zero =>
      cases h
      exact ⟨0, Nat.le_refl 0, fun _ => rfl, by simp [writeRun_zero, sectorRun]⟩
  | succ count ih =>
      rw [writeRun_succ] at h ⊢
      obtain ⟨⟨first, mid⟩, hwrite, h⟩ := bind_eq_ok.1 h
      have hsector : sector < device.size := by simpa using hsectors 0 (Nat.succ_pos count)
      have htake : (data.take sectorSize).length = sectorSize := by simp [hlength, Nat.add_mul]
      have hnoted := write_noting hsector htake asked
      rw [hwrite] at hnoted
      cases first with
      | error error =>
          cases h
          refine ⟨1, by omega, nofun, bind_eq_ok.2 ⟨_, hnoted, ?_⟩⟩
          simp [sectorRun, pure, Except.pure]
      | ok =>
          have hbehind : ∀ i < count, sector + 1 + UInt32.ofNat i < mid.size := by
            intro i hi
            rw [sector_add_succ, size_of_write hwrite]
            exact hsectors (i + 1) (Nat.succ_lt_succ hi)
          obtain ⟨tried, hle, hall, hrest⟩ :=
            ih hbehind (by simp [hlength, Nat.add_mul]) h (asked ++ [sector])
          rw [List.append_assoc, List.singleton_append, ← sectorRun_succ] at hrest
          exact ⟨tried + 1, Nat.succ_le_succ hle, fun hok => congrArg (· + 1) (hall hok),
            bind_eq_ok.2 ⟨_, hnoted, hrest⟩⟩

theorem readRun_noting (hsectors : ∀ i < count, sector + UInt32.ofNat i < device.size)
    (hlength : buffer.length = count * sectorSize)
    (h : device.readRun sector count buffer = .ok (result, buffer', after))
    (asked : List SectorNumber) :
    ∃ tried ≤ count, (result = .ok () → tried = count) ∧
      (device.noting asked).readRun sector count buffer =
        .ok (result, buffer', after.noting (asked ++ sectorRun sector tried)) := by
  induction count generalizing device sector buffer result buffer' after asked with
  | zero =>
      cases h
      exact ⟨0, Nat.le_refl 0, fun _ => rfl, by simp [readRun_zero, sectorRun]⟩
  | succ count ih =>
      rw [readRun_succ] at h ⊢
      obtain ⟨⟨first, chunk, mid⟩, hread, h⟩ := bind_eq_ok.1 h
      have hsector : sector < device.size := by simpa using hsectors 0 (Nat.succ_pos count)
      have htake : (buffer.take sectorSize).length = sectorSize := by
        simp [hlength, Nat.add_mul]
      have hnoted := read_noting hsector htake asked
      rw [hread] at hnoted
      cases first with
      | error error =>
          cases h
          refine ⟨1, by omega, nofun, bind_eq_ok.2 ⟨_, hnoted, ?_⟩⟩
          simp [sectorRun, pure, Except.pure]
      | ok =>
          obtain ⟨⟨last, rest, final⟩, hlast, h⟩ := bind_eq_ok.1 h
          cases h
          have hbehind : ∀ i < count, sector + 1 + UInt32.ofNat i < mid.size := by
            intro i hi
            rw [sector_add_succ, size_of_read hread]
            exact hsectors (i + 1) (Nat.succ_lt_succ hi)
          obtain ⟨tried, hle, hall, hrest⟩ :=
            ih hbehind (by simp [hlength, Nat.add_mul]) hlast (asked ++ [sector])
          rw [List.append_assoc, List.singleton_append, ← sectorRun_succ] at hrest
          exact ⟨tried + 1, Nat.succ_le_succ hle, fun hok => congrArg (· + 1) (hall hok),
            bind_eq_ok.2 ⟨_, hnoted, bind_eq_ok.2 ⟨_, hrest, rfl⟩⟩⟩

theorem reads_of_read (h : device.read sector buffer = .ok (.ok (), buffer', after)) :
    after.reads = device.reads + 1 := by
  simp only [read_def] at h
  split at h
  · split at h
    · split at h
      · cases h
      · obtain ⟨reads, hcount, h⟩ := bind_eq_ok.1 h
        cases h
        exact nextCount_eq_ok hcount
    · cases h
  · cases h

theorem exists_read (device : BlockDevice δ) (sector : SectorNumber) (buffer : List UInt8)
    (hroom : device.reads + 1 < 0x100000000) : ∃ reply, device.read sector buffer = .ok reply := by
  simp only [read_def, nextCount, if_pos hroom]
  split
  · split
    · split <;> exact ⟨_, rfl⟩
    · exact ⟨_, rfl⟩
  · exact ⟨_, rfl⟩

/-- Where the counter has room for a run of reads, the run ends. -/
theorem exists_readRun (device : BlockDevice δ) (sector : SectorNumber) (buffer : List UInt8)
    (hroom : device.reads + count < 0x100000000) :
    ∃ reply, device.readRun sector count buffer = .ok reply := by
  induction count generalizing device sector buffer with
  | zero => exact ⟨_, rfl⟩
  | succ count ih =>
      rw [readRun_succ]
      obtain ⟨⟨first, chunk, mid⟩, hread⟩ :=
        device.exists_read sector (buffer.take sectorSize) (by omega)
      cases first with
      | error error => exact ⟨_, bind_eq_ok.2 ⟨_, hread, rfl⟩⟩
      | ok =>
          have hreads := reads_of_read hread
          obtain ⟨reply, hrest⟩ := ih mid (sector + 1) (buffer.drop sectorSize) (by omega)
          exact ⟨_, bind_eq_ok.2 ⟨_, hread, bind_eq_ok.2 ⟨_, hrest, rfl⟩⟩⟩

end Asked

section Faults

variable {device after : BlockDevice FaultyDisk} {sector : SectorNumber}
  {buffer buffer' data : List UInt8} {result : Except TransferError Unit} {count done : Nat}
  {fault? : SectorNumber → Option TransferError}

/-- Why a sector cannot be written, if it cannot. -/
def writeFault? (device : BlockDevice FaultyDisk) (sector : SectorNumber) :
    Option TransferError :=
  if sector < device.size then
    if device.driver.writeFails sector then some .writeError
    else if sector < device.driver.disk.sectors then none
    else some .sectorOutOfBounds
  else
    some .sectorOutOfBounds

/-- The device once `done` more sectors were written, and holds this now. -/
def wroteOn (device : BlockDevice FaultyDisk) (bytes : PackedBytes device.driver.disk.length)
    (done : Nat) : BlockDevice FaultyDisk :=
  { device with
    driver := { device.driver with disk := { device.driver.disk with data := bytes } }
    writes := device.writes + done }

theorem wroteOn_wroteOn (device : BlockDevice FaultyDisk)
    (bytes bytes' : PackedBytes device.driver.disk.length) (done rest : Nat) :
    (device.wroteOn bytes done).wroteOn bytes' rest = device.wroteOn bytes' (rest + done) := by
  simp only [wroteOn, Nat.add_assoc, Nat.add_comm done]

theorem write_eq (hwritable : device.type ≠ .foreign) (sector : SectorNumber)
    (hlength : data.length = sectorSize) :
    device.write sector data =
      match device.writeFault? sector with
      | some error => .ok (.error error, device)
      | none => (nextCount device.writes).map fun _ => (.ok (), device.wroteOn
          (device.driver.disk.data.overwrite (sector.toNat * sectorSize) data) 1) := by
  simp only [write_def, writeFault?, dif_pos hlength, if_neg hwritable, FaultyDisk.driver_write_eq]
  by_cases hsize : sector < device.size
  · by_cases hfails : device.driver.writeFails sector = true
    · simp [hsize, hfails]
    · by_cases hbound : sector < device.driver.disk.sectors
      · simp only [hsize, hfails, hbound, if_true]
        cases hcount : nextCount device.writes with
        | error halt => rfl
        | ok writes =>
            obtain rfl := nextCount_eq_ok hcount
            rfl
      · simp [hsize, hfails, hbound]
  · simp [hsize]

/-- How far a run of `count` sectors gets, and how it ends there. -/
inductive Progress (fault? : SectorNumber → Option TransferError) (sector : SectorNumber)
    (count : Nat) : Nat → Except TransferError Unit → Prop where
  | complete : (∀ i < count, fault? (sector + UInt32.ofNat i) = none) →
      Progress fault? sector count count (.ok ())
  | stopped {done : Nat} {error : TransferError} : done < count →
      (∀ i < done, fault? (sector + UInt32.ofNat i) = none) →
      fault? (sector + UInt32.ofNat done) = some error →
      Progress fault? sector count done (.error error)

theorem exists_progress (fault? : SectorNumber → Option TransferError) (sector : SectorNumber)
    (count : Nat) : ∃ done result, Progress fault? sector count done result := by
  cases hfirst : firstBelow? (fun i => (fault? (sector + UInt32.ofNat i)).isSome) count with
  | none =>
      refine ⟨_, _, .complete fun i hi => ?_⟩
      simpa using firstBelow?_eq_none_iff.1 hfirst i hi
  | some done =>
      obtain ⟨hlt, hbad, hgood⟩ := firstBelow?_eq_some_iff.1 hfirst
      obtain ⟨error, herror⟩ := Option.isSome_iff_exists.1 hbad
      exact ⟨_, _, .stopped hlt (fun i hi => by simpa using hgood i hi) herror⟩

theorem Progress.done_le (h : Progress fault? sector count done result) : done ≤ count := by
  cases h with
  | complete => exact Nat.le_refl count
  | stopped hlt => exact Nat.le_of_lt hlt

/-- The first sector fails, or the rest of the run is one of its own. -/
theorem Progress.of_succ (h : Progress fault? sector (count + 1) done result) :
    (∃ error, fault? sector = some error ∧ done = 0 ∧ result = .error error) ∨
      ∃ rest, fault? sector = none ∧ done = rest + 1 ∧
        Progress fault? (sector + 1) count rest result := by
  cases h with
  | complete hgood =>
      refine .inr ⟨count, by simpa using hgood 0 (Nat.succ_pos count), rfl, .complete ?_⟩
      intro i hi
      rw [sector_add_succ]
      exact hgood (i + 1) (Nat.succ_lt_succ hi)
  | @stopped done error hlt hgood hbad =>
      cases done with
      | zero => exact .inl ⟨error, by simpa using hbad, rfl, rfl⟩
      | succ done =>
          refine .inr ⟨done, by simpa using hgood 0 (Nat.succ_pos done), rfl,
            .stopped (Nat.lt_of_succ_lt_succ hlt) (fun i hi => ?_) ?_⟩
          · rw [sector_add_succ]
            exact hgood (i + 1) (Nat.succ_lt_succ hi)
          · rwa [sector_add_succ]

/-- A run of reads fills the buffer up to the sector that fails. -/
theorem readRun_of_progress (h : Progress device.readFault? sector count done result)
    (hlength : buffer.length = count * sectorSize) (hroom : device.reads + done < 0x100000000) :
    device.readRun sector count buffer =
      .ok (result,
        sectorsFrom (stored device.driver) sector done ++ buffer.drop (done * sectorSize),
        device.readOn done) := by
  induction count generalizing device sector buffer done with
  | zero =>
      cases h with
      | complete => simp [readRun_zero, readOn, sectorsFrom]
      | stopped hlt => exact absurd hlt (Nat.not_lt_zero _)
  | succ count ih =>
      rw [readRun_succ]
      have htake : (buffer.take sectorSize).length = sectorSize := by simp [hlength, Nat.add_mul]
      have hread := device.read_eq sector htake
      obtain ⟨error, hfault, rfl, rfl⟩ | ⟨rest, hfault, rfl, hprogress⟩ := h.of_succ
      · rw [hfault] at hread
        refine bind_eq_ok.2 ⟨_, hread, ?_⟩
        simp [readOn, sectorsFrom, pure, Except.pure]
      · rw [hfault] at hread
        dsimp only at hread
        rw [nextCount_of_lt (by omega)] at hread
        have hroom' : (device.readOn 1).reads + rest < 0x100000000 := by
          simp only [readOn]
          omega
        have hrest : (device.readOn 1).readRun (sector + 1) count (buffer.drop sectorSize) = _ :=
          ih hprogress (by simp [hlength, Nat.add_mul]) hroom'
        refine bind_eq_ok.2 ⟨_, hread, bind_eq_ok.2 ⟨_, hrest, ?_⟩⟩
        rw [readOn_readOn, List.drop_drop, Nat.add_comm sectorSize, ← Nat.succ_mul, sectorsFrom,
          List.append_assoc]
        rfl

/-- A run of writes that stops early is one that was no longer, and went well. -/
theorem writeRun_of_progress (hwritable : device.type ≠ .foreign)
    (h : Progress device.writeFault? sector count done result)
    (hlength : data.length = count * sectorSize) (hroom : device.writes + done < 0x100000000) :
    ∃ bytes, device.writeRun sector count data = .ok (result, device.wroteOn bytes done) ∧
      device.writeRun sector done (data.take (done * sectorSize)) =
        .ok (.ok (), device.wroteOn bytes done) := by
  induction count generalizing device sector data done with
  | zero =>
      cases h with
      | complete => exact ⟨device.driver.disk.data, rfl, rfl⟩
      | stopped hlt => exact absurd hlt (Nat.not_lt_zero _)
  | succ count ih =>
      have htake : (data.take sectorSize).length = sectorSize := by simp [hlength, Nat.add_mul]
      have hwrite := write_eq hwritable sector htake
      obtain ⟨error, hfault, rfl, rfl⟩ | ⟨rest, hfault, rfl, hprogress⟩ := h.of_succ
      · rw [hfault] at hwrite
        refine ⟨device.driver.disk.data, ?_, rfl⟩
        rw [writeRun_succ]
        exact bind_eq_ok.2 ⟨_, hwrite, rfl⟩
      · rw [hfault] at hwrite
        dsimp only at hwrite
        rw [nextCount_of_lt (by omega)] at hwrite
        have hroom' : device.writes + 1 + rest < 0x100000000 := by omega
        have hdrop : (data.drop sectorSize).length = count * sectorSize := by
          simp [hlength, Nat.add_mul]
        obtain ⟨first, hfirst⟩ : ∃ first, device.write sector (data.take sectorSize) =
            .ok (.ok (), device.wroteOn first 1) := ⟨_, hwrite⟩
        -- A write changes no fault, so the sectors behind fail as they did before.
        have hprogress' : Progress (device.wroteOn first 1).writeFault? (sector + 1) count rest
            result := hprogress
        have hwritable' : (device.wroteOn first 1).type ≠ .foreign := hwritable
        obtain ⟨bytes, hrun, hshort⟩ := ih hwritable' hprogress' hdrop hroom'
        rw [device.wroteOn_wroteOn first bytes 1 rest] at hrun hshort
        refine ⟨bytes, (device.writeRun_succ ..).trans (bind_eq_ok.2 ⟨_, hfirst, hrun⟩), ?_⟩
        rw [writeRun_succ, List.take_take, Nat.succ_mul, Nat.min_eq_left (Nat.le_add_left _ _),
          List.drop_take, Nat.add_sub_cancel]
        exact bind_eq_ok.2 ⟨_, hfirst, hshort⟩

end Faults

end BlockDevice

namespace SwapSlot

variable {slot other : SwapSlot} {size : SectorNumber}

/-- The sectors of a slot, by number. -/
theorem toNat_sectorRun (h : slot.Addressable) :
    (sectorRun slot.startSector slotSectors).map (·.toNat) =
      List.range' (slot.index * slotSectors) slotSectors := by
  rw [List.range'_eq_map_range, sectorRun, List.map_map]
  refine List.map_congr_left fun i hi => ?_
  exact toNat_startSector_add h (List.mem_range.1 hi)

theorem disjoint_sectorRun (hne : slot ≠ other) (h : slot.Addressable) (h' : other.Addressable) :
    (sectorRun slot.startSector slotSectors).Disjoint
      (sectorRun other.startSector slotSectors) := by
  intro sector hmem hmem'
  obtain ⟨i, hi, rfl⟩ := mem_sectorRun.1 hmem
  obtain ⟨j, hj, heq⟩ := mem_sectorRun.1 hmem'
  exact startSector_add_ne hne h h' hi hj heq.symm

end SwapSlot

namespace SwapArea

/-- Transfers of a page ask for the sectors of its slot, in order and for no others. -/
structure KeepsToSlot {δ : Type} [BlockDriver δ] (area : SwapArea δ) (slot : SwapSlot) : Prop where
  sectors : (sectorRun slot.startSector slotSectors).map (·.toNat) =
    List.range' (slot.index * slotSectors) slotSectors
  fits : slot.index * slotSectors + slotSectors ≤ area.disk.size.toNat
  disjoint : ∀ other : SwapSlot, other.index < area.slotCount → slot ≠ other →
    (sectorRun slot.startSector slotSectors).Disjoint (sectorRun other.startSector slotSectors)
  stores : ∀ {page : Page} {result : Except TransferError Unit} {after : SwapArea δ},
    area.storePage slot page.toList = .ok (result, after) → ∀ asked,
      ∃ tried ≤ slotSectors, (result = .ok () → tried = slotSectors) ∧
        SwapArea.storePage ⟨area.disk.noting asked, area.taken⟩ slot page.toList =
          .ok (result, ⟨after.disk.noting (asked ++ sectorRun slot.startSector tried), after.taken⟩)
  loads : ∀ {buffer : Page} {result : Except TransferError Unit} {buffer' : List UInt8}
    {after : SwapArea δ}, area.loadPage slot buffer.toList = .ok (result, buffer', after) →
      ∀ asked, ∃ tried ≤ slotSectors, (result = .ok () → tried = slotSectors) ∧
        SwapArea.loadPage ⟨area.disk.noting asked, area.taken⟩ slot buffer.toList =
          .ok (result, buffer',
            ⟨after.disk.noting (asked ++ sectorRun slot.startSector tried), after.taken⟩)
  storeEnds : area.disk.writes + slotSectors < 0x100000000 →
    ∀ page : Page, ∃ reply, area.storePage slot page.toList = .ok reply
  loadEnds : area.disk.reads + slotSectors < 0x100000000 →
    ∀ buffer : Page, ∃ reply, area.loadPage slot buffer.toList = .ok reply

section AnyDriver

variable {δ : Type} [BlockDriver δ] {area : SwapArea δ} {slot : SwapSlot}

theorem keepsToSlot (hwritable : area.disk.type ≠ .foreign) (hslot : slot.index < area.slotCount) :
    area.KeepsToSlot slot where
  sectors := SwapSlot.toNat_sectorRun (SwapSlot.addressable_of_lt hslot)
  fits := by
    simp only [slotCount, slotSectors] at *
    omega
  disjoint other hother hne := SwapSlot.disjoint_sectorRun hne (SwapSlot.addressable_of_lt hslot)
    (SwapSlot.addressable_of_lt hother)
  stores {page _ _} h asked := by
    have hlength : page.toList.length = slotSectors * sectorSize := page.length_toList
    obtain ⟨disk, hrun, rfl⟩ := storePage_eq_ok h
    obtain ⟨tried, hle, hall, hnoted⟩ := BlockDevice.writeRun_noting
      (fun i hi => SwapSlot.startSector_add_lt hslot hi) hlength hrun asked
    refine ⟨tried, hle, hall, ?_⟩
    rw [storePage_def, if_pos page.length_toList]
    exact bind_eq_ok.2 ⟨_, hnoted, rfl⟩
  loads {buffer _ _ _} h asked := by
    have hlength : buffer.toList.length = slotSectors * sectorSize := buffer.length_toList
    obtain ⟨disk, hrun, rfl⟩ := loadPage_eq_ok h
    obtain ⟨tried, hle, hall, hnoted⟩ := BlockDevice.readRun_noting
      (fun i hi => SwapSlot.startSector_add_lt hslot hi) hlength hrun asked
    refine ⟨tried, hle, hall, ?_⟩
    rw [loadPage_def, if_pos buffer.length_toList]
    exact bind_eq_ok.2 ⟨_, hnoted, rfl⟩
  storeEnds hroom page := by
    refine ((area.haltsOnly_storePage hwritable slot page.length_toList).mono ?_).exists_ok
    rintro halt ⟨-, hend⟩
    omega
  loadEnds hroom buffer := by
    obtain ⟨⟨result, buffer', disk⟩, hrun⟩ :=
      area.disk.exists_readRun slot.startSector buffer.toList hroom
    rw [loadPage_def, if_pos buffer.length_toList]
    exact ⟨_, bind_eq_ok.2 ⟨_, hrun, rfl⟩⟩

end AnyDriver

variable {area : SwapArea FaultyDisk} {slot : SwapSlot} {page buffer : Page} {done : Nat}
  {result : Except TransferError Unit}

/-- The first `done` sectors of a slot hold the bytes of a page; of all else only the count of
writes has changed. -/
structure StoredUpTo (area : SwapArea FaultyDisk) (slot : SwapSlot) (page : Page) (done : Nat)
    (after : SwapArea FaultyDisk) : Prop where
  rest : ∃ bytes, after = area.withDisk (area.disk.wroteOn bytes done)
  sectors : ∀ i < done,
    (stored after.disk.driver (slot.startSector + UInt32.ofNat i)).toList =
      page.slice (i * sectorSize) sectorSize
  others : ∀ sector, sector ∉ sectorRun slot.startSector done →
    stored after.disk.driver sector = stored area.disk.driver sector

theorem storePage_of_progress (hwritable : area.disk.type ≠ .foreign)
    (h : BlockDevice.Progress area.disk.writeFault? slot.startSector slotSectors done result)
    (hroom : area.disk.writes + done < 0x100000000) :
    ∃ after, area.storePage slot page.toList = .ok (result, after) ∧
      StoredUpTo area slot page done after := by
  have hlength : page.toList.length = slotSectors * sectorSize := page.length_toList
  obtain ⟨bytes, hrun, hshort⟩ := BlockDevice.writeRun_of_progress hwritable h hlength hroom
  have hdone := h.done_le
  have htake : (page.toList.take (done * sectorSize)).length = done * sectorSize := by
    rw [List.length_take, hlength, Nat.min_eq_left (Nat.mul_le_mul_right sectorSize hdone)]
  refine ⟨area.withDisk (area.disk.wroteOn bytes done), ?_, ⟨bytes, rfl⟩, fun i hi => ?_,
    fun sector hother => ?_⟩
  · rw [storePage_def, if_pos page.length_toList]
    exact bind_eq_ok.2 ⟨_, hrun, rfl⟩
  · have hcount : done ≤ 0x100000000 := by
      simp only [slotSectors] at hdone
      omega
    rw [withDisk, ← slice_sectorsFrom _ _ hi,
      BlockDevice.sectorsFrom_of_writeRun hshort htake hcount, List.drop_take, List.take_take,
      ← Nat.sub_mul, Nat.min_eq_left (Nat.le_mul_of_pos_left _ (Nat.sub_pos_of_lt hi)), Bytes.slice]
  · exact BlockDevice.stored_of_writeRun hshort fun i hi heq =>
      hother (mem_sectorRun.2 ⟨i, hi, heq⟩)

theorem loadPage_of_progress
    (h : BlockDevice.Progress area.disk.readFault? slot.startSector slotSectors done result)
    (hroom : area.disk.reads + done < 0x100000000) :
    area.loadPage slot buffer.toList = .ok (result,
      (area.disk.slotPage slot).toList.take (done * sectorSize) ++
        buffer.toList.drop (done * sectorSize),
      area.withDisk (area.disk.readOn done)) := by
  have hlength : buffer.toList.length = slotSectors * sectorSize := buffer.length_toList
  have hslot : (area.disk.slotPage slot).toList.take (done * sectorSize) =
      sectorsFrom (stored area.disk.driver) slot.startSector done :=
    take_sectorsFrom _ _ h.done_le
  rw [hslot, loadPage_def, if_pos buffer.length_toList]
  exact bind_eq_ok.2 ⟨_, BlockDevice.readRun_of_progress h hlength hroom, rfl⟩

/-- Transfers of a page get up to the first sector of the slot that fails, and only that far. -/
structure EndsAtFault (area : SwapArea FaultyDisk) (slot : SwapSlot) : Prop where
  progresses : ∀ fault?, ∃ done result,
    BlockDevice.Progress fault? slot.startSector slotSectors done result
  stores : ∀ {done result},
    BlockDevice.Progress area.disk.writeFault? slot.startSector slotSectors done result →
    area.disk.writes + done < 0x100000000 → ∀ page : Page, ∃ after,
      area.storePage slot page.toList = .ok (result, after) ∧ StoredUpTo area slot page done after
  loads : ∀ {done result},
    BlockDevice.Progress area.disk.readFault? slot.startSector slotSectors done result →
    area.disk.reads + done < 0x100000000 → ∀ buffer : Page,
      area.loadPage slot buffer.toList = .ok (result,
        (area.disk.slotPage slot).toList.take (done * sectorSize) ++
          buffer.toList.drop (done * sectorSize),
        area.withDisk (area.disk.readOn done))
  /-- A page that was stored comes back if its sectors can be read. -/
  comesBack : ∀ {page : Page} {mid : SwapArea FaultyDisk},
    area.storePage slot page.toList = .ok (.ok (), mid) →
    (∀ i < slotSectors, mid.disk.readFault? (slot.startSector + UInt32.ofNat i) = none) →
    mid.disk.reads + slotSectors < 0x100000000 → ∀ buffer : Page,
      mid.loadPage slot buffer.toList =
        .ok (.ok (), page.toList, mid.withDisk (mid.disk.readOn slotSectors))

theorem endsAtFault (hwritable : area.disk.type ≠ .foreign) : area.EndsAtFault slot where
  progresses fault? := BlockDevice.exists_progress fault? _ _
  stores h hroom _ := storePage_of_progress hwritable h hroom
  loads h hroom _ := loadPage_of_progress h hroom
  comesBack {page mid} hstore hreadable hroom buffer := by
    obtain ⟨disk, hrun, rfl⟩ := storePage_eq_ok hstore
    have hslot : ((area.withDisk disk).disk.slotPage slot).toList = page.toList :=
      BlockDevice.slotPage_of_writeRun hrun page.length_toList
    refine (loadPage_of_progress (.complete hreadable) hroom).trans ?_
    rw [hslot, slotSectors_mul_sectorSize,
      List.take_of_length_le (Nat.le_of_eq page.length_toList),
      List.drop_of_length_le (Nat.le_of_eq buffer.length_toList), List.append_nil]

/-- A transfer of a page touches its slot and nothing else, and of that no more than it gets to. -/
theorem slot_transfers :
    (∀ {δ : Type} [BlockDriver δ] {area : SwapArea δ} {slot : SwapSlot},
      area.disk.type ≠ .foreign → slot.index < area.slotCount → area.KeepsToSlot slot) ∧
    ∀ {area : SwapArea FaultyDisk} {slot : SwapSlot},
      area.disk.type ≠ .foreign → area.EndsAtFault slot :=
  ⟨keepsToSlot, endsAtFault⟩

/-- A device with as many sectors as have numbers. -/
def vast : SwapArea FaultyDisk :=
  .new ⟨0, "hda", .swap, 0xFFFFFFFF, .sound (.new 0xFFFFFFFF), 0, 0⟩

/-- Three slots, and the third sector of slot 1 cannot be written. -/
def pitted : SwapArea FaultyDisk :=
  .new ⟨0, "hda", .swap, 24,
    (FaultyDisk.sound (.new 24)).withFaults (fun _ => false) (· == 10), 0, 0⟩

theorem slot_transfers_pitted :
    vast.disk.type ≠ .foreign ∧ 536870910 < vast.slotCount ∧ vast.KeepsToSlot ⟨536870910⟩ ∧
      pitted.disk.type ≠ .foreign ∧ ∃ after,
        pitted.storePage ⟨1⟩ ((default : Page).overwrite 600 [1, 2, 3]).toList =
          .ok (.error .writeError, after) ∧
        StoredUpTo pitted ⟨1⟩ ((default : Page).overwrite 600 [1, 2, 3]) 2 after := by
  have hvast : vast.disk.type ≠ .foreign := by decide
  have hslot : 536870910 < vast.slotCount := by decide
  have hpitted : pitted.disk.type ≠ .foreign := by decide
  have hprogress : BlockDevice.Progress pitted.disk.writeFault? (SwapSlot.startSector ⟨1⟩)
      slotSectors 2 (.error .writeError) :=
    .stopped (by decide) (by decide) (by decide)
  exact ⟨hvast, hslot, slot_transfers.1 hvast hslot, hpitted,
    (slot_transfers.2 hpitted).stores hprogress (by decide) _⟩

end SwapArea

end DemandPaging
