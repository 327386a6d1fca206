import DemandPaging.Proofs.SwapArea

/-!
Runs of sectors on a disk with bad sectors. A run gets as far as the first sector that fails, and
what it moved by then stays moved.
-/
namespace DemandPaging

open SectorStore (stored)

theorem take_sectorsFrom (contents : SectorNumber → Sector) (sector : SectorNumber)
    {done count : Nat} (h : done ≤ count) :
    (sectorsFrom contents sector count).take (done * sectorSize) =
      sectorsFrom contents sector done := by
  induction done generalizing sector count with
  | zero => simp [sectorsFrom]
  | succ done ih =>
      obtain ⟨count, rfl⟩ := Nat.exists_eq_add_of_le' h
      rw [sectorsFrom, ← Nat.add_assoc, sectorsFrom, Nat.succ_mul, Nat.add_comm, List.take_append,
        Bytes.length_toList, Nat.add_sub_cancel_left, List.take_of_length_le (by simp),
        ih _ (Nat.le_add_left done count)]

namespace BlockDevice

variable {device after : BlockDevice FaultyDisk} {sector : SectorNumber}
  {buffer buffer' : List UInt8} {result : Except TransferError Unit} {count : Nat}

/-- Why a sector cannot be read, if it cannot. -/
def readFault? (device : BlockDevice FaultyDisk) (sector : SectorNumber) : Option TransferError :=
  if sector < device.size then
    if device.driver.readFails sector then some .readError
    else if sector < device.driver.disk.sectors then none
    else some .sectorOutOfBounds
  else
    some .sectorOutOfBounds

theorem read_eq (device : BlockDevice FaultyDisk) (sector : SectorNumber)
    (hlength : buffer.length = sectorSize) :
    device.read sector buffer =
      match device.readFault? sector with
      | some error => .ok (.error error, buffer, device)
      | none => (nextCount device.reads).map fun reads =>
          (.ok (), (stored device.driver sector).toList, { device with reads }) := by
  simp only [read_def, readFault?, dif_pos hlength, FaultyDisk.driver_read_eq]
  by_cases hsize : sector < device.size
  · by_cases hfails : device.driver.readFails sector = true
    · simp [hsize, hfails]
    · by_cases hbound : sector < device.driver.disk.sectors
      · simp only [hsize, hfails, hbound, if_true]
        rfl
      · simp [hsize, hfails, hbound]
  · simp [hsize]

/-- The device once `done` more sectors were read. -/
def readOn (device : BlockDevice FaultyDisk) (done : Nat) : BlockDevice FaultyDisk :=
  { device with reads := device.reads + done }

theorem readOn_readOn (device : BlockDevice FaultyDisk) (done rest : Nat) :
    (device.readOn done).readOn rest = device.readOn (rest + done) := by
  simp only [readOn, Nat.add_assoc, Nat.add_comm done]

/-- How a run of reads ends. -/
inductive ReadEnd (device : BlockDevice FaultyDisk) (sector : SectorNumber) (count : Nat)
    (buffer : List UInt8) :
    Except TransferError Unit → List UInt8 → BlockDevice FaultyDisk → Prop where
  | complete : (∀ i < count, device.readFault? (sector + UInt32.ofNat i) = none) →
      ReadEnd device sector count buffer (.ok ()) (sectorsFrom (stored device.driver) sector count)
        (device.readOn count)
  /-- The sectors before the one that fails are in the buffer. -/
  | stopped {done : Nat} {error : TransferError} : done < count →
      (∀ i < done, device.readFault? (sector + UInt32.ofNat i) = none) →
      device.readFault? (sector + UInt32.ofNat done) = some error →
      ReadEnd device sector count buffer (.error error)
        (sectorsFrom (stored device.driver) sector done ++ buffer.drop (done * sectorSize))
        (device.readOn done)

theorem readRun_cases (h : device.readRun sector count buffer = .ok (result, buffer', after))
    (hlength : buffer.length = count * sectorSize) :
    ReadEnd device sector count buffer result buffer' after := by
  induction count generalizing device sector buffer result buffer' after with
  | zero =>
      cases h
      obtain rfl := List.eq_nil_of_length_eq_zero (by simpa using hlength)
      exact .complete fun i hi => absurd hi (Nat.not_lt_zero i)
  | succ count ih =>
      have htake : (buffer.take sectorSize).length = sectorSize := by
        rw [List.length_take, hlength, Nat.succ_mul]
        omega
      have hdrop : (buffer.drop sectorSize).length = count * sectorSize := by
        rw [List.length_drop, hlength, Nat.succ_mul]
        omega
      rw [readRun_succ] at h
      obtain ⟨⟨first, chunk, mid⟩, hread, h⟩ := bind_eq_ok.1 h
      rw [read_eq device sector htake] at hread
      cases hfault : device.readFault? sector with
      | some error =>
          rw [hfault] at hread
          cases hread
          cases h
          have hstopped : ReadEnd device sector (count + 1) buffer _ _ _ :=
            .stopped (Nat.succ_pos count) (fun i hi => absurd hi (Nat.not_lt_zero i))
              (by simpa using hfault)
          simpa [sectorsFrom, readOn] using hstopped
      | none =>
          rw [hfault] at hread
          obtain ⟨reads, hreads, hread⟩ := map_eq_ok.1 hread
          cases hread
          obtain rfl := nextCount_eq_ok hreads
          obtain ⟨⟨last, rest, final⟩, hrest, h⟩ := bind_eq_ok.1 h
          cases h
          -- A read changes no fault, so the sectors behind fail as they did before.
          have hbehind {done : Nat}
              (hgood : ∀ i < done, device.readFault? (sector + 1 + UInt32.ofNat i) = none) :
              ∀ i < done + 1, device.readFault? (sector + UInt32.ofNat i) = none := by
            intro i hi
            cases i with
            | zero => simpa using hfault
            | succ i => exact sector_add_succ sector i ▸ hgood i (Nat.lt_of_succ_lt_succ hi)
          have hend : ReadEnd (device.readOn 1) (sector + 1) count (buffer.drop sectorSize) result
              rest after := ih hrest hdrop
          cases hend with
          | complete hgood =>
              rw [readOn_readOn]
              exact .complete (hbehind hgood)
          | @stopped done error hlt hgood hbad =>
              have hstopped : ReadEnd device sector (count + 1) buffer _ _ _ :=
                .stopped (Nat.succ_lt_succ hlt) (hbehind hgood) (sector_add_succ sector done ▸ hbad)
              rw [readOn_readOn]
              rw [sectorsFrom, List.append_assoc] at hstopped
              rwa [List.drop_drop, Nat.add_comm sectorSize, ← Nat.succ_mul]

end BlockDevice

end DemandPaging
