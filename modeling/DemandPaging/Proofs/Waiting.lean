import DemandPaging.Proofs.Swapping

/-!
Operations that do not wait. Nothing that frames, tables and slots do can wait for anybody, so that
a machine that waits for ever does so for a page or in one of its own loops.
-/
namespace DemandPaging

/-- An operation that may halt, but not because it would wait or try again for ever. -/
abbrev NeverWaits {α : Type} (outcome : Except Halt α) : Prop :=
  HaltsOnly (· ≠ .waitsForever) outcome

theorem NeverWaits.ne {α : Type} {outcome : Except Halt α} (h : NeverWaits outcome) :
    outcome ≠ .error .waitsForever :=
  fun hwaits => h _ hwaits rfl

namespace FramePool

variable (pool : FramePool) (number : FrameNumber)

theorem neverWaits_frame : NeverWaits (pool.frame number) := by
  simp only [frame]
  split
  · exact .ok _
  · exact .error (by simp)

theorem neverWaits_alloc {φ : Type} [Placement φ] (placement : φ) (owner : UserPage) :
    NeverWaits (pool.alloc placement owner) := by
  simp only [alloc]
  split
  · exact .ok _
  split
  · exact .ok _
  · refine .bind (pool.neverWaits_frame _) fun frame _ => ?_
    split
    · exact .error (by simp)
    · exact .ok _

theorem neverWaits_free : NeverWaits (pool.free number) := by
  refine .bind (pool.neverWaits_frame number) fun frame _ => ?_
  split
  · exact .error (by simp)
  split
  · exact .error (by simp)
  · exact .ok _

theorem neverWaits_unpin : NeverWaits (pool.unpin number) :=
  .bind (pool.neverWaits_frame number) fun _ _ => .ok _

theorem neverWaits_setContents (contents : Page) : NeverWaits (pool.setContents number contents) :=
  .bind (pool.neverWaits_frame number) fun _ _ => .ok _

theorem neverWaits_writeBytes (start : Nat) (data : List UInt8) :
    NeverWaits (pool.writeBytes number start data) := by
  refine .bind (pool.neverWaits_frame number) fun frame _ => ?_
  split
  · exact .ok _
  · exact .error (by simp)

end FramePool

theorem AddressSpaces.neverWaits_map (spaces : AddressSpaces) (pid : Pid) (addr : Nat)
    (frame : FrameNumber) (writable : Bool) :
    NeverWaits (spaces.map pid addr frame writable) := by
  simp only [map]
  split
  · exact .ok _
  · refine .bind ?_ fun mapped _ => ?_
    · simp only [PageDirectory.map?]
      split
      · exact .ok _
      · refine .bind ?_ fun _ _ => .ok _
        simp only [PageTableEntry.frameField]
        split
        · exact .ok _
        · exact .error (by simp)
    · cases mapped <;> exact .ok _

section Transfers

variable {δ : Type} [BlockDriver δ]

theorem BlockDevice.Overflows.ne {device : BlockDevice δ} {halt : Halt}
    (h : device.Overflows halt) : halt ≠ .waitsForever := by
  rw [h.1]
  simp

theorem BlockDevice.neverWaits_writeRun (device : BlockDevice δ) (sector : SectorNumber)
    (count : Nat) (data : List UInt8) : NeverWaits (device.writeRun sector count data) := by
  induction count generalizing device sector data with
  | zero => exact .ok _
  | succ count ih =>
      rw [writeRun_succ]
      refine .bind ?_ fun written _ => ?_
      · by_cases hwritable : device.type ≠ .foreign
        · exact (haltsOnly_write hwritable sector _).mono fun _ hend => hend.1.ne
        · simp only [write_def, if_pos (not_not.1 hwritable)]
          split
          · split
            · exact .error (by simp)
            · exact .ok _
          · exact .ok _
      · obtain ⟨result, mid⟩ := written
        cases result with
        | error error => exact .ok _
        | ok => exact ih mid _ _

variable (area : SwapArea δ) (slot : SwapSlot)

omit [BlockDriver δ] in
theorem SwapArea.neverWaits_release : NeverWaits (area.release slot) := by
  simp only [release_def]
  split
  · exact .ok _
  · exact .error (by simp)

omit [BlockDriver δ] in
theorem SwapArea.neverWaits_acquire : NeverWaits area.acquire := by
  simp only [acquire_def]
  split
  · exact .ok _
  · exact .error (by simp)

theorem SwapArea.neverWaits_storePage (data : List UInt8) :
    NeverWaits (area.storePage slot data) := by
  simp only [storePage_def]
  split
  · exact .bind (BlockDevice.neverWaits_writeRun _ _ _ _) fun _ _ => .ok _
  · exact .error (by simp)

theorem SwapArea.neverWaits_loadPage (buffer : List UInt8) :
    NeverWaits (area.loadPage slot buffer) := by
  simp only [loadPage_def]
  split
  · refine .bind ?_ fun _ _ => .ok _
    exact (BlockDevice.haltsOnly_readRun _ _ _ _).mono fun _ hend => hend.ne
  · exact .error (by simp)

theorem AnonPage.neverWaits_pageOut (page : AnonPage) (store : PageStore δ) :
    NeverWaits (page.pageOut store) := by
  simp only [pageOut]
  split
  · exact .ok _
  · refine .bind store.swap.neverWaits_acquire fun taken _ => ?_
    refine .bind (store.pool.neverWaits_frame _) fun frame _ => ?_
    refine .bind (SwapArea.neverWaits_storePage _ _ _) fun stored _ => ?_
    split
    · exact .bind (SwapArea.neverWaits_release _ _) fun _ _ => .ok _
    · exact .bind (store.pool.neverWaits_free _) fun _ _ => .ok _

theorem AnonPage.neverWaits_pageIn (page : AnonPage) (store : PageStore δ) (number : FrameNumber) :
    NeverWaits (page.pageIn store number) := by
  simp only [pageIn]
  split
  · exact .ok _
  · refine .bind (store.pool.neverWaits_frame number) fun frame _ => ?_
    refine .bind (store.swap.neverWaits_loadPage _ _) fun loaded _ => ?_
    refine .bind (store.pool.neverWaits_setContents number _) fun pool _ => ?_
    split
    · exact .ok _
    · exact .bind (SwapArea.neverWaits_release _ _) fun _ _ => .ok _

end Transfers

end DemandPaging
