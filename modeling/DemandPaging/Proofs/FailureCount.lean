import DemandPaging.Proofs.SwapArea

/-!
Drivers under watch. A failure counter on top of a driver tells whether every transfer of a run went
well, and with it how far the device has counted.
-/
namespace DemandPaging

/-- A driver whose failed transfers are counted. -/
structure Watched (δ : Type) where
  driver : δ
  failures : Nat

namespace Watched

variable {δ : Type} [BlockDriver δ]

instance : BlockDriver (Watched δ) where
  read watched sector buffer :=
    match BlockDriver.read watched.driver sector buffer with
    | (.ok (), buffer, driver) => (.ok (), buffer, { watched with driver })
    | (.error error, buffer, driver) => (.error error, buffer, ⟨driver, watched.failures + 1⟩)
  write watched sector data :=
    match BlockDriver.write watched.driver sector data with
    | (.ok (), driver) => (.ok (), { watched with driver })
    | (.error error, driver) => (.error error, ⟨driver, watched.failures + 1⟩)

omit [BlockDriver δ] in
/-- The driver may be another one now, but no transfer has failed. -/
def Drifts (before after : Watched δ) : Prop := after.failures = before.failures

theorem failures_of_read {watched after : Watched δ} {sector : SectorNumber}
    {buffer buffer' : Sector} {result : Except TransferError Unit}
    (h : BlockDriver.read watched sector buffer = (result, buffer', after)) :
    result = .ok () ∧ after.failures = watched.failures ∨
      (∃ error, result = .error error) ∧ after.failures = watched.failures + 1 := by
  simp only [BlockDriver.read] at h
  split at h <;> cases h
  · exact .inl ⟨rfl, rfl⟩
  · exact .inr ⟨⟨_, rfl⟩, rfl⟩

theorem failures_of_write {watched after : Watched δ} {sector : SectorNumber} {data : Sector}
    {result : Except TransferError Unit}
    (h : BlockDriver.write watched sector data = (result, after)) :
    result = .ok () ∧ after.failures = watched.failures ∨
      (∃ error, result = .error error) ∧ after.failures = watched.failures + 1 := by
  simp only [BlockDriver.write] at h
  split at h <;> cases h
  · exact .inl ⟨rfl, rfl⟩
  · exact .inr ⟨⟨_, rfl⟩, rfl⟩

end Watched

namespace BlockDevice

variable {δ : Type} {device mid after : BlockDevice (Watched δ)}

def failures (device : BlockDevice (Watched δ)) : Nat := device.driver.failures

/-- A transfer is complete and all of its sectors are counted, or a failure is. -/
inductive Tallied (device after : BlockDevice (Watched δ)) (reads writes : Nat) :
    Except TransferError Unit → Prop where
  | complete : after.failures = device.failures → after.reads = device.reads + reads →
      after.writes = device.writes + writes → Tallied device after reads writes (.ok ())
  | failed {error : TransferError} : device.failures < after.failures →
      Tallied device after reads writes (.error error)

variable {sector : SectorNumber} {buffer buffer' data : List UInt8}
  {result : Except TransferError Unit} {count reads writes reads' writes' : Nat}

theorem Tallied.trans (h : Tallied device mid reads writes (.ok ()))
    (h' : Tallied mid after reads' writes' result) :
    Tallied device after (reads + reads') (writes + writes') result := by
  cases h with
  | complete hfailures hreads hwrites =>
      cases h' with
      | complete hfailures' hreads' hwrites' =>
          exact .complete (hfailures'.trans hfailures) (by omega) (by omega)
      | failed hlt => exact .failed (hfailures ▸ hlt)

variable [BlockDriver δ]

theorem tallied_of_read (hsector : sector < device.size) (hlength : buffer.length = sectorSize)
    (h : device.read sector buffer = .ok (result, buffer', after)) :
    Tallied device after 1 0 result := by
  rw [read_def, if_pos hsector, dif_pos hlength] at h
  split at h
  · rename_i hread
    cases h
    obtain ⟨hok, -⟩ | ⟨-, hfailures⟩ := Watched.failures_of_read hread
    · cases hok
    · exact .failed (Nat.lt_of_lt_of_eq (Nat.lt_succ_self _) hfailures.symm)
  · rename_i hread
    obtain ⟨reads, hcount, h⟩ := bind_eq_ok.1 h
    cases h
    obtain ⟨-, hfailures⟩ | ⟨⟨_, herror⟩, -⟩ := Watched.failures_of_read hread
    · exact .complete hfailures (nextCount_eq_ok hcount) rfl
    · cases herror

theorem tallied_of_write (hsector : sector < device.size) (hlength : data.length = sectorSize)
    (h : device.write sector data = .ok (result, after)) : Tallied device after 0 1 result := by
  rw [write_def, if_pos hsector, dif_pos hlength] at h
  split at h
  · cases h
  split at h
  · rename_i hwrite
    cases h
    obtain ⟨hok, -⟩ | ⟨-, hfailures⟩ := Watched.failures_of_write hwrite
    · cases hok
    · exact .failed (Nat.lt_of_lt_of_eq (Nat.lt_succ_self _) hfailures.symm)
  · rename_i hwrite
    obtain ⟨writes, hcount, h⟩ := bind_eq_ok.1 h
    cases h
    obtain ⟨-, hfailures⟩ | ⟨⟨_, herror⟩, -⟩ := Watched.failures_of_write hwrite
    · exact .complete hfailures rfl (nextCount_eq_ok hcount)
    · cases herror

theorem tallied_of_readRun (hsectors : ∀ i < count, sector + UInt32.ofNat i < device.size)
    (hlength : buffer.length = count * sectorSize)
    (h : device.readRun sector count buffer = .ok (result, buffer', after)) :
    Tallied device after count 0 result := by
  induction count generalizing device sector buffer result buffer' after with
  | zero =>
      cases h
      exact .complete rfl rfl rfl
  | succ count ih =>
      rw [readRun_succ] at h
      obtain ⟨⟨first, chunk, mid⟩, hread, h⟩ := bind_eq_ok.1 h
      have hsector : sector < device.size := by simpa using hsectors 0 (by omega)
      have hfirst := tallied_of_read hsector (by simp [hlength, Nat.add_mul]) hread
      cases first with
      | error error =>
          cases h
          cases hfirst with
          | failed hlt => exact .failed hlt
      | ok =>
          obtain ⟨⟨last, rest, final⟩, hrest, h⟩ := bind_eq_ok.1 h
          cases h
          have hrest := ih (fun i hi => ?_) (by simp [hlength, Nat.add_mul]) hrest
          · rw [Nat.add_comm count]
            exact hfirst.trans hrest
          · rw [sector_add_succ, size_of_read hread]
            exact hsectors (i + 1) (by omega)

theorem tallied_of_writeRun (hsectors : ∀ i < count, sector + UInt32.ofNat i < device.size)
    (hlength : data.length = count * sectorSize)
    (h : device.writeRun sector count data = .ok (result, after)) :
    Tallied device after 0 count result := by
  induction count generalizing device sector data result with
  | zero =>
      cases h
      exact .complete rfl rfl rfl
  | succ count ih =>
      rw [writeRun_succ] at h
      obtain ⟨⟨first, mid⟩, hwrite, h⟩ := bind_eq_ok.1 h
      have hsector : sector < device.size := by simpa using hsectors 0 (by omega)
      have hfirst := tallied_of_write hsector (by simp [hlength, Nat.add_mul]) hwrite
      cases first with
      | error error =>
          cases h
          cases hfirst with
          | failed hlt => exact .failed hlt
      | ok =>
          have hrest := ih (fun i hi => ?_) (by simp [hlength, Nat.add_mul]) h
          · rw [Nat.add_comm count]
            exact hfirst.trans hrest
          · rw [sector_add_succ, size_of_write hwrite]
            exact hsectors (i + 1) (by omega)

end BlockDevice

namespace SwapSlot

/-- All sectors of a slot are sectors of the device. -/
theorem startSector_add_lt {slot : SwapSlot} {size : SectorNumber}
    (hslot : slot.index < size.toNat / slotSectors) {i : Nat} (hi : i < slotSectors) :
    slot.startSector + UInt32.ofNat i < size := by
  rw [UInt32.lt_iff_toNat_lt, toNat_startSector_add (addressable_of_lt hslot) hi]
  simp only [slotSectors] at *
  omega

end SwapSlot

end DemandPaging
