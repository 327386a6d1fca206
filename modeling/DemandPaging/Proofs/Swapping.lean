import DemandPaging.AnonPage.Swapping
import DemandPaging.Proofs.FramePool
import DemandPaging.Proofs.PageTable
import DemandPaging.Proofs.SwapArea

/-!
The ways in which moving a page can end, each with the store it leaves behind, and what can stop
it. What holds of every move is read off these cases, and the operations are not opened again.
-/
namespace DemandPaging

attribute [ext] PageStore

namespace AnonPage

variable {δ : Type} [BlockDriver δ] {page after : AnonPage} {store store' : PageStore δ}

/-- The tables when the page of `key` has left its frame. -/
def hidden (tables : AddressSpaces) (key : UserPage) : AddressSpaces :=
  (tables.setFlag .present key.owner key.base false).setFlag .dirty key.owner key.base false

@[simp] theorem contains_hidden (tables : AddressSpaces) (key : UserPage) (pid : Pid) :
    (hidden tables key).contains pid = tables.contains pid := by
  simp [hidden]

theorem translation?_hidden (tables : AddressSpaces) (key other : UserPage) :
    (hidden tables key).translation? other =
      if key = other then
        (tables.translation? other).map fun meaning =>
          { meaning with present := false, dirty := false }
      else tables.translation? other := by
  simp only [hidden, AddressSpaces.translation?_setFlag, UserPage.containing_base]
  split
  · cases tables.translation? other <;> rfl
  · rfl

inductive PagedOut (page : AnonPage) (store : PageStore δ) :
    Except PagingError SwapSlot → AnonPage → PageStore δ → Prop where
  | notResident {slot : SwapSlot} : page.location = .swappedOut slot →
      PagedOut page store (.error .notResident) page store
  /-- The slot is given back; some of its sectors may have been written. -/
  | failed {number : FrameNumber} {frame : Frame} {slot : SwapSlot} {error : TransferError}
      {disk : BlockDevice δ} :
      page.location = .resident number → store.pool.frame? number = some frame →
      store.swap.IsLowestFree slot →
      store.swap.disk.writeRun slot.startSector slotSectors frame.contents.toList =
        .ok (.error error, disk) →
      PagedOut page store (.error (.block error)) page
        { store with swap := store.swap.withDisk disk }
  | moved {number : FrameNumber} {frame : Frame} {slot : SwapSlot} {disk : BlockDevice δ} :
      page.location = .resident number → store.pool.frame? number = some frame →
      frame.status.allocated = true → store.swap.IsLowestFree slot →
      store.swap.disk.writeRun slot.startSector slotSectors frame.contents.toList =
        .ok (.ok (), disk) →
      PagedOut page store (.ok slot) { page with location := .swappedOut slot }
        { swap := { disk, taken := store.swap.taken.insert slot.index }
          pool := store.pool.release number frame
          tables := hidden store.tables page.key }

theorem pageOut_cases {result : Except PagingError SwapSlot}
    (h : page.pageOut store = .ok (result, after, store')) :
    PagedOut page store result after store' := by
  simp only [pageOut] at h
  split at h
  · rename_i hlocation
    cases h
    exact .notResident hlocation
  · rename_i number hlocation
    obtain ⟨⟨slot, swap⟩, hacquire, h⟩ := bind_eq_ok.1 h
    obtain ⟨frame, hframe, h⟩ := bind_eq_ok.1 h
    obtain ⟨⟨transfer, written⟩, hstore, h⟩ := bind_eq_ok.1 h
    obtain ⟨hslot, rfl⟩ := SwapArea.acquire_eq_ok hacquire
    obtain ⟨disk, hrun, rfl⟩ := SwapArea.storePage_eq_ok hstore
    have hframe := FramePool.frame_eq_ok.1 hframe
    cases transfer with
    | error error =>
        obtain ⟨swap, hrelease, h⟩ := bind_eq_ok.1 h
        obtain ⟨-, rfl⟩ := SwapArea.release_eq_ok hrelease
        cases h
        have hswap : ({ disk, taken := (store.swap.taken.insert slot.index).erase slot.index } :
            SwapArea δ) = store.swap.withDisk disk := by
          rw [SwapArea.erase_insert_of_free hslot.free]
          rfl
        have hfailed := PagedOut.failed hlocation hframe hslot hrun
        rwa [← hswap] at hfailed
    | ok =>
        obtain ⟨pool, hfree, h⟩ := bind_eq_ok.1 h
        obtain ⟨found, hfound, hallocated, rfl⟩ := FramePool.free_eq_ok hfree
        cases h
        cases hframe.symm.trans hfound
        exact .moved hlocation hframe hallocated hslot hrun

inductive PagedIn (page : AnonPage) (store : PageStore δ) (number : FrameNumber) :
    Except PagingError Unit → AnonPage → PageStore δ → Prop where
  | notSwappedOut {other : FrameNumber} : page.location = .resident other →
      PagedIn page store number (.error .notSwappedOut) page store
  | failed {slot : SwapSlot} {frame : Frame} {data : List UInt8} {error : TransferError}
      {disk : BlockDevice δ} :
      page.location = .swappedOut slot → store.pool.frame? number = some frame →
      store.swap.disk.readRun slot.startSector slotSectors frame.contents.toList =
        .ok (.error error, data, disk) →
      PagedIn page store number (.error (.block error)) page
        { store with swap := store.swap.withDisk disk
                     pool := store.pool.replace number (frame.filled data) }
  | moved {slot : SwapSlot} {frame : Frame} {data : List UInt8} {disk : BlockDevice δ} :
      page.location = .swappedOut slot → store.pool.frame? number = some frame →
      store.swap.isTaken slot = true →
      store.swap.disk.readRun slot.startSector slotSectors frame.contents.toList =
        .ok (.ok (), data, disk) →
      PagedIn page store number (.ok ()) { page with location := .resident number }
        { store with swap := { disk, taken := store.swap.taken.erase slot.index }
                     pool := store.pool.replace number (frame.filled data) }

theorem pageIn_cases {number : FrameNumber} {result : Except PagingError Unit}
    (h : page.pageIn store number = .ok (result, after, store')) :
    PagedIn page store number result after store' := by
  simp only [pageIn] at h
  split at h
  · rename_i hlocation
    cases h
    exact .notSwappedOut hlocation
  · rename_i slot hlocation
    obtain ⟨frame, hframe, h⟩ := bind_eq_ok.1 h
    obtain ⟨⟨transfer, data, swap⟩, hload, h⟩ := bind_eq_ok.1 h
    obtain ⟨pool, hset, h⟩ := bind_eq_ok.1 h
    obtain ⟨disk, hrun, rfl⟩ := SwapArea.loadPage_eq_ok hload
    have hframe := FramePool.frame_eq_ok.1 hframe
    obtain ⟨found, hfound, rfl⟩ := FramePool.setContents_eq_ok hset
    cases hframe.symm.trans hfound
    cases transfer with
    | error error =>
        cases h
        exact .failed hlocation hframe hrun
    | ok =>
        obtain ⟨swap, hrelease, h⟩ := bind_eq_ok.1 h
        obtain ⟨htaken, rfl⟩ := SwapArea.release_eq_ok hrelease
        cases h
        exact .moved hlocation hframe htaken hrun

inductive Destroyed (page : AnonPage) (store : PageStore δ) : PageStore δ → Prop where
  | resident {number : FrameNumber} {frame : Frame} :
      page.location = .resident number → store.pool.frame? number = some frame →
      frame.status.allocated = true →
      Destroyed page store { store with pool := store.pool.release number frame }
  | swappedOut {slot : SwapSlot} :
      page.location = .swappedOut slot → store.swap.isTaken slot = true →
      Destroyed page store
        { store with swap := { store.swap with taken := store.swap.taken.erase slot.index } }

omit [BlockDriver δ] in
theorem destroy_cases (h : page.destroy store = .ok store') : Destroyed page store store' := by
  simp only [destroy] at h
  split at h
  · rename_i number hlocation
    obtain ⟨pool, hfree, h⟩ := bind_eq_ok.1 h
    obtain ⟨frame, hframe, hallocated, rfl⟩ := FramePool.free_eq_ok hfree
    cases h
    exact .resident hlocation hframe hallocated
  · rename_i slot hlocation
    obtain ⟨swap, hrelease, h⟩ := bind_eq_ok.1 h
    obtain ⟨htaken, rfl⟩ := SwapArea.release_eq_ok hrelease
    cases h
    exact .swappedOut hlocation htaken

section Halts

theorem haltsOnly_pageOut (store : PageStore δ) {number : FrameNumber} {frame : Frame}
    (hlocation : page.location = .resident number) (hsound : store.pool.Sound)
    (hframe : store.pool.frame? number = some frame) (hallocated : frame.status.allocated = true)
    (hbounded : store.swap.Bounded) (hwritable : store.swap.disk.type ≠ .foreign) :
    HaltsOnly store.swap.Stops (page.pageOut store) := by
  simp only [pageOut, hlocation]
  refine .bind ((SwapArea.haltsOnly_acquire hbounded).mono ?_) fun taken hacquire => ?_
  · rintro _ ⟨rfl, hfull⟩
    exact .exhausted hfull
  obtain ⟨slot, swap⟩ := taken
  obtain ⟨hslot, rfl⟩ := SwapArea.acquire_eq_ok hacquire
  refine .bind (FramePool.haltsOnly_frame hframe) fun contents _ => ?_
  have hstore := SwapArea.haltsOnly_storePage
    { store.swap with taken := store.swap.taken.insert slot.index } hwritable slot
    (Bytes.length_toList contents.contents)
  refine .bind (hstore.mono ?_) fun written hwritten => ?_
  · intro halt hend
    exact .uncounted hend.1 hend.2 (hslot.size_taken_lt hbounded)
  obtain ⟨transfer, swap⟩ := written
  obtain ⟨disk, -, rfl⟩ := SwapArea.storePage_eq_ok hwritten
  cases transfer with
  | error error =>
      have htaken := SwapArea.isTaken_insert store.swap disk slot slot
      exact .bind (SwapArea.haltsOnly_release (htaken.trans (by simp))) fun _ _ => .ok _
  | ok => exact .bind (hsound.haltsOnly_free hframe hallocated) fun _ _ => .ok _

theorem haltsOnly_pageIn (store : PageStore δ) {number : FrameNumber} {frame : Frame}
    {slot : SwapSlot} (hlocation : page.location = .swappedOut slot)
    (htaken : store.swap.isTaken slot = true) (hframe : store.pool.frame? number = some frame) :
    HaltsOnly store.swap.disk.Overflows (page.pageIn store number) := by
  simp only [pageIn, hlocation]
  refine .bind (FramePool.haltsOnly_frame hframe) fun _ _ => ?_
  refine .bind (SwapArea.haltsOnly_loadPage _ slot (Bytes.length_toList _)) ?_
  intro ⟨transfer, data, swap⟩ hload
  obtain ⟨disk, -, rfl⟩ := SwapArea.loadPage_eq_ok hload
  refine .bind (FramePool.haltsOnly_setContents hframe _) fun _ _ => ?_
  cases transfer with
  | error error => exact .ok _
  | ok => exact .bind (SwapArea.haltsOnly_release htaken) fun _ _ => .ok _

omit [BlockDriver δ] in
theorem haltsOnly_destroy {allowed : Halt → Prop} (hsound : store.pool.Sound)
    (hresident : ∀ number, page.location = .resident number →
      ∃ frame, store.pool.frame? number = some frame ∧ frame.status.allocated = true)
    (hswapped : ∀ slot, page.location = .swappedOut slot → store.swap.isTaken slot = true) :
    HaltsOnly allowed (page.destroy store) := by
  cases hlocation : page.location with
  | resident number =>
      obtain ⟨frame, hframe, hallocated⟩ := hresident number hlocation
      simp only [destroy, hlocation]
      exact .bind (hsound.haltsOnly_free hframe hallocated) fun _ _ => .ok _
  | swappedOut slot =>
      simp only [destroy, hlocation]
      exact .bind (SwapArea.haltsOnly_release (hswapped slot hlocation)) fun _ _ => .ok _

end Halts

end AnonPage

end DemandPaging
