import Mathlib.Logic.Relation
import DemandPaging.Proofs.SectorStore

/-!
What transfers do to the device itself. They move the driver and the counters on and change nothing
else, and a counter at its end is all that stops them.
-/
namespace DemandPaging.BlockDevice

variable {δ : Type} [BlockDriver δ] {device after : BlockDevice δ} {sector : SectorNumber}
  {buffer buffer' data : List UInt8} {result : Except TransferError Unit} {count : Nat}

/-- A transfer leaves alone what the device is, also where it halts. -/
theorem identity_attemptRead (device : BlockDevice δ) (sector : SectorNumber)
    (buffer : List UInt8) :
    (device.attemptRead sector buffer).2.2.identity = device.identity := by
  rw [attemptRead]
  split
  · split
    · split
      · rfl
      · cases nextCount device.reads <;> rfl
    · rfl
  · rfl

theorem identity_attemptWrite (device : BlockDevice δ) (sector : SectorNumber)
    (data : List UInt8) : (device.attemptWrite sector data).2.identity = device.identity := by
  rw [attemptWrite]
  split
  · split
    · split
      · rfl
      · split
        · rfl
        · cases nextCount device.writes <;> rfl
    · rfl
  · rfl

theorem identity_attemptReadRun (device : BlockDevice δ) (sector : SectorNumber) (count : Nat)
    (buffer : List UInt8) :
    (device.attemptReadRun sector count buffer).2.2.identity = device.identity := by
  induction count generalizing device sector buffer with
  | zero => rfl
  | succ count ih =>
      have hfirst := identity_attemptRead device sector (buffer.take sectorSize)
      simp only [attemptReadRun]
      split
      · rename_i hread
        rw [hread] at hfirst
        exact (ih _ _ _).trans hfirst
      · rename_i hread
        rwa [hread] at hfirst

theorem identity_attemptWriteRun (device : BlockDevice δ) (sector : SectorNumber) (count : Nat)
    (data : List UInt8) :
    (device.attemptWriteRun sector count data).2.identity = device.identity := by
  induction count generalizing device sector data with
  | zero => rfl
  | succ count ih =>
      have hfirst := identity_attemptWrite device sector (data.take sectorSize)
      simp only [attemptWriteRun]
      split
      · rename_i hwrite
        rw [hwrite] at hfirst
        exact (ih _ _ _).trans hfirst
      · exact hfirst

/-- One sector was transferred, or was tried. -/
inductive Transfer (device : BlockDevice δ) : BlockDevice δ → Prop where
  | read {after : BlockDevice δ} {sector : SectorNumber} {buffer buffer' : List UInt8}
      {result : Except TransferError Unit} :
      device.read sector buffer = .ok (result, buffer', after) → Transfer device after
  | written {after : BlockDevice δ} {sector : SectorNumber} {data : List UInt8}
      {result : Except TransferError Unit} :
      device.write sector data = .ok (result, after) → Transfer device after

abbrev Transfers : BlockDevice δ → BlockDevice δ → Prop := Relation.ReflTransGen Transfer

theorem transfers_of_readRun
    (h : device.readRun sector count buffer = .ok (result, buffer', after)) :
    device.Transfers after := by
  induction count generalizing device sector buffer result buffer' after with
  | zero =>
      cases h
      exact .refl
  | succ count ih =>
      rw [readRun_succ] at h
      obtain ⟨⟨first, chunk, mid⟩, hread, h⟩ := bind_eq_ok.1 h
      cases first with
      | error error =>
          cases h
          exact .single (.read hread)
      | ok =>
          obtain ⟨⟨last, rest, final⟩, hrest, h⟩ := bind_eq_ok.1 h
          cases h
          exact (ih hrest).head (.read hread)

theorem transfers_of_writeRun (h : device.writeRun sector count data = .ok (result, after)) :
    device.Transfers after := by
  induction count generalizing device sector data result after with
  | zero =>
      cases h
      exact .refl
  | succ count ih =>
      rw [writeRun_succ] at h
      obtain ⟨⟨first, mid⟩, hwrite, h⟩ := bind_eq_ok.1 h
      cases first with
      | error error =>
          cases h
          exact .single (.written hwrite)
      | ok => exact (ih h).head (.written hwrite)

/-- What no transfer changes, no number of them changes. -/
theorem Transfers.keeps {α : Type} {f : BlockDevice δ → α}
    (hstep : ∀ {device after : BlockDevice δ}, device.Transfer after → f after = f device)
    (h : device.Transfers after) : f after = f device := by
  induction h with
  | refl => rfl
  | tail _ hlast ih => exact (hstep hlast).trans ih

theorem Transfer.identity_eq (h : device.Transfer after) : after.identity = device.identity := by
  cases h with
  | read hread => exact (read_eq_ok hread).1
  | written hwrite => exact (write_eq_ok hwrite).1

theorem Transfers.identity_eq (h : device.Transfers after) : after.identity = device.identity :=
  h.keeps Transfer.identity_eq

/-- A counter of the device has no next value. -/
def CountedOut (device : BlockDevice δ) : Prop :=
  0x100000000 ≤ device.reads + 1 ∨ 0x100000000 ≤ device.writes + 1

/-- What stops a transfer: on the way a counter comes to its end. -/
def Overflows (device : BlockDevice δ) (halt : Halt) : Prop :=
  halt = .transferCountOverflow ∧ ∃ last, device.Transfers last ∧ last.CountedOut

theorem Overflows.of_transfers {halt : Halt} (hbefore : device.Transfers after)
    (h : after.Overflows halt) : device.Overflows halt := by
  obtain ⟨hhalt, last, hlast, hcount⟩ := h
  exact ⟨hhalt, last, hbefore.trans hlast, hcount⟩

omit [BlockDriver δ] in
theorem nextCount_eq_ok {count next : Nat} (h : nextCount count = .ok next) : next = count + 1 := by
  simp only [nextCount] at h
  split at h <;> cases h
  rfl

omit [BlockDriver δ] in
theorem nextCount_of_lt {n : Nat} (h : n + 1 < 0x100000000) : nextCount n = .ok (n + 1) := by
  rw [nextCount, if_pos h]

omit [BlockDriver δ] in
theorem haltsOnly_nextCount (count : Nat) :
    HaltsOnly (fun halt => halt = .transferCountOverflow ∧ 0x100000000 ≤ count + 1)
      (nextCount count) := by
  simp only [nextCount]
  split
  · exact .ok _
  · rename_i hend
    exact .error ⟨rfl, by omega⟩

theorem haltsOnly_read (device : BlockDevice δ) (sector : SectorNumber) (buffer : List UInt8) :
    HaltsOnly device.Overflows (device.read sector buffer) := by
  simp only [read_def]
  split
  · split
    · split
      · exact .ok _
      · refine .bind ((haltsOnly_nextCount device.reads).mono ?_) fun _ _ => .ok _
        intro halt hend
        exact ⟨hend.1, device, .refl, .inl hend.2⟩
    · exact .ok _
  · exact .ok _

theorem haltsOnly_readRun (device : BlockDevice δ) (sector : SectorNumber) (count : Nat)
    (buffer : List UInt8) :
    HaltsOnly device.Overflows (device.readRun sector count buffer) := by
  induction count generalizing device sector buffer with
  | zero => exact .ok _
  | succ count ih =>
      rw [readRun_succ]
      refine .bind (haltsOnly_read device sector _) fun ⟨first, chunk, mid⟩ hread => ?_
      cases first with
      | error error => exact .ok _
      | ok =>
          refine .bind ((ih mid _ _).mono fun halt hstop => ?_) fun _ _ => .ok _
          exact hstop.of_transfers (.single (.read hread))

theorem haltsOnly_write (hwritable : device.type ≠ .foreign) (sector : SectorNumber)
    (data : List UInt8) :
    HaltsOnly (fun halt => device.Overflows halt ∧ 0x100000000 ≤ device.writes + 1)
      (device.write sector data) := by
  simp only [write_def, if_neg hwritable]
  split
  · split
    · split
      · exact .ok _
      · refine .bind ((haltsOnly_nextCount device.writes).mono ?_) fun _ _ => .ok _
        intro halt hend
        exact ⟨⟨hend.1, device, .refl, .inr hend.2⟩, hend.2⟩
    · exact .ok _
  · exact .ok _

/-- Only writes that succeed are counted. -/
theorem writes_of_write (h : device.write sector data = .ok (.ok (), after)) :
    after.writes = device.writes + 1 := by
  simp only [write_def] at h
  split at h
  · split at h
    · split at h
      · cases h
      · split at h
        · cases h
        · obtain ⟨writes, hcount, h⟩ := bind_eq_ok.1 h
          cases h
          exact nextCount_eq_ok hcount
    · cases h
  · cases h

theorem haltsOnly_writeRun (hwritable : device.type ≠ .foreign) (sector : SectorNumber)
    (count : Nat) (data : List UInt8) :
    HaltsOnly (fun halt => device.Overflows halt ∧ 0x100000000 ≤ device.writes + count)
      (device.writeRun sector count data) := by
  induction count generalizing device sector data with
  | zero => exact .ok _
  | succ count ih =>
      rw [writeRun_succ]
      refine .bind ((haltsOnly_write hwritable sector _).mono fun _ h => ⟨h.1, by omega⟩)
        fun ⟨first, mid⟩ hwrite => ?_
      cases first with
      | error error => exact .ok _
      | ok =>
          have htype : mid.type = device.type := congrArg (·.type) (write_eq_ok hwrite).1
          have hcount := writes_of_write hwrite
          refine (ih (htype ▸ hwritable) _ _).mono fun halt hstop => ?_
          exact ⟨hstop.1.of_transfers (.single (.written hwrite)), by omega⟩

theorem writes_of_writeRun (h : device.writeRun sector count data = .ok (.ok (), after)) :
    after.writes = device.writes + count := by
  induction count generalizing device sector data with
  | zero =>
      cases h
      rfl
  | succ count ih =>
      rw [writeRun_succ] at h
      obtain ⟨⟨first, mid⟩, hwrite, h⟩ := bind_eq_ok.1 h
      cases first with
      | error error => cases h
      | ok =>
          rw [ih h, writes_of_write hwrite]
          omega

end DemandPaging.BlockDevice
