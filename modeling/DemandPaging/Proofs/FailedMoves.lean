import DemandPaging.Proofs.BadSectors
import DemandPaging.Proofs.Swapping

/-!
A page that could not be moved is where it was, and so is everything else: slots, frames and
mappings. Only sectors of a slot that nobody has, or bytes of the frame that the page was to be read
into, may have changed.
-/
namespace DemandPaging

open SectorStore (stored)

namespace AnonPage

variable {page after : AnonPage} {store store' : PageStore FaultyDisk} {number : FrameNumber}
  {error : PagingError}

/-- Nothing came of writing a page out. -/
structure StayedIn (page : AnonPage) (store : PageStore FaultyDisk) (error : PagingError)
    (after : AnonPage) (store' : PageStore FaultyDisk) : Prop where
  page_eq : after = page
  taken_eq : store'.swap.taken = store.swap.taken
  identity_eq : store'.swap.disk.identity = store.swap.disk.identity
  pool_eq : store'.pool = store.pool
  tables_eq : store'.tables = store.tables
  /-- Only the slot that was to be taken may have been written to. -/
  sectors : ∀ sector, stored store'.swap.disk.driver sector ≠ stored store.swap.disk.driver sector →
    ∃ slot, store.swap.IsLowestFree slot ∧
      ∃ i < slotSectors, sector.toNat = slot.index * slotSectors + i
  cause : error = .notResident ∧ store' = store ∨ ∃ cause, error = .block cause

/-- A read of a slot stops at the sector `i` of it. -/
structure StopsAt (disk : BlockDevice FaultyDisk) (slot : SwapSlot) (i : Nat)
    (cause : TransferError) : Prop where
  lt : i < slotSectors
  readable : ∀ j < i, disk.readFault? (slot.startSector + UInt32.ofNat j) = none
  fault : disk.readFault? (slot.startSector + UInt32.ofNat i) = some cause

/-- Nothing came of reading a page back into the frame `number`. -/
structure StayedOut (page : AnonPage) (store : PageStore FaultyDisk) (number : FrameNumber)
    (error : PagingError) (after : AnonPage) (store' : PageStore FaultyDisk) : Prop where
  page_eq : after = page
  taken_eq : store'.swap.taken = store.swap.taken
  identity_eq : store'.swap.disk.identity = store.swap.disk.identity
  tables_eq : store'.tables = store.tables
  stored_eq : stored store'.swap.disk.driver = stored store.swap.disk.driver
  /-- What was read by then is in the frame. -/
  cause : error = .notSwappedOut ∧ store' = store ∨
    ∃ cause slot frame i, error = .block cause ∧ page.location = .swappedOut slot ∧
      store.pool.frame? number = some frame ∧ StopsAt store.swap.disk slot i cause ∧
      store'.pool = store.pool.replace number
        (frame.filled ((store.swap.disk.slotPage slot).toList.take (i * sectorSize)))

theorem stayedIn_of_pageOut (h : page.pageOut store = .ok (.error error, after, store')) :
    StayedIn page store error after store' := by
  cases pageOut_cases h with
  | notResident =>
      exact ⟨rfl, rfl, rfl, rfl, rfl, fun _ hchanged => absurd rfl hchanged, .inl ⟨rfl, rfl⟩⟩
  | @failed number frame slot cause disk _ _ hslot hrun =>
      have hidentity := (BlockDevice.transfers_of_writeRun hrun).identity_eq
      refine ⟨rfl, rfl, hidentity, rfl, rfl, fun sector hchanged => ⟨slot, hslot, ?_⟩,
        .inr ⟨cause, rfl⟩⟩
      by_contra houtside
      refine hchanged (BlockDevice.stored_of_writeRun hrun fun i hi heq => houtside ⟨i, hi, ?_⟩)
      rw [← heq, SwapSlot.toNat_startSector_add hslot.addressable hi]

theorem stayedOut_of_pageIn
    (h : page.pageIn store number = .ok (.error error, after, store')) :
    StayedOut page store number error after store' := by
  cases pageIn_cases h with
  | notSwappedOut => exact ⟨rfl, rfl, rfl, rfl, rfl, .inl ⟨rfl, rfl⟩⟩
  | @failed slot frame data cause disk hlocation hframe hrun =>
      have hlength : frame.contents.toList.length = slotSectors * sectorSize := by
        rw [Bytes.length_toList, slotSectors_mul_sectorSize]
      refine ⟨rfl, rfl, (BlockDevice.transfers_of_readRun hrun).identity_eq, rfl,
        BlockDevice.stored_of_readRun hrun, .inr ?_⟩
      cases BlockDevice.readRun_cases hrun hlength with
      | @stopped done _ hlt hgood hbad =>
          refine ⟨cause, slot, frame, done, rfl, hlocation, hframe, ⟨hlt, hgood, hbad⟩, ?_⟩
          have hread := length_sectorsFrom (stored store.swap.disk.driver) slot.startSector done
          have hle : done * sectorSize ≤ pageSize := by
            rw [← slotSectors_mul_sectorSize]
            exact Nat.mul_le_mul_right sectorSize (Nat.le_of_lt hlt)
          have hslot : (store.swap.disk.slotPage slot).toList.take (done * sectorSize) =
              sectorsFrom (stored store.swap.disk.driver) slot.startSector done :=
            take_sectorsFrom _ _ (Nat.le_of_lt hlt)
          rw [hslot, ← hread, frame.filled_append_drop (hread ▸ hle)]

/-- What a page that cannot be moved leaves behind, and when it cannot be for the place it is in. -/
structure Retained (page : AnonPage) (store : PageStore FaultyDisk) : Prop where
  pageOut : ∀ error after store', page.pageOut store = .ok (.error error, after, store') →
    StayedIn page store error after store'
  pageIn : ∀ number error after store',
    page.pageIn store number = .ok (.error error, after, store') →
    StayedOut page store number error after store'
  notResident : (∃ after store', page.pageOut store = .ok (.error .notResident, after, store')) ↔
    ∃ slot, page.location = .swappedOut slot
  notSwappedOut : ∀ number,
    (∃ after store', page.pageIn store number = .ok (.error .notSwappedOut, after, store')) ↔
      ∃ frame, page.location = .resident frame

/-- Moves that fail leave the page and all that it holds as they were. -/
theorem retained_of_failure (page : AnonPage) (store : PageStore FaultyDisk) :
    page.Retained store := by
  refine ⟨fun _ _ _ => stayedIn_of_pageOut, fun _ _ _ _ => stayedOut_of_pageIn, ?_,
    fun number => ?_⟩
  · constructor
    · rintro ⟨after, store', h⟩
      cases pageOut_cases h with
      | notResident hlocation => exact ⟨_, hlocation⟩
    · rintro ⟨slot, hlocation⟩
      exact ⟨page, store, by rw [AnonPage.pageOut, hlocation]⟩
  · constructor
    · rintro ⟨after, store', h⟩
      cases pageIn_cases h with
      | notSwappedOut hlocation => exact ⟨_, hlocation⟩
    · rintro ⟨frame, hlocation⟩
      exact ⟨page, store, by rw [AnonPage.pageIn, hlocation]⟩

/-- One page is in frame 0 and one is in slot 0. A sector of that slot cannot be read, and a sector
of the free slot behind it cannot be written. -/
def torn : PageStore FaultyDisk where
  swap :=
    { disk := ⟨0, "hda", .swap, 16, ⟨.new 16, (· = 3), (· = 10)⟩, 0, 0⟩
      taken := {0} }
  pool :=
    { frames := #[.backing ⟨1, 0⟩ default, .granted ⟨1, 1⟩ default]
      queue := [⟨0⟩, ⟨1⟩]
      allocatedCount := 2 }
  tables := .empty

theorem retained_of_failure_torn :
    ((⟨⟨1, 0⟩, true, .ordinary, .resident ⟨0⟩⟩ : AnonPage).pageOut torn).map (·.1) =
        .ok (.error (.block .writeError)) ∧
      ((⟨⟨1, 1⟩, true, .stack, .swappedOut ⟨0⟩⟩ : AnonPage).pageIn torn ⟨1⟩).map (·.1) =
        .ok (.error (.block .readError)) ∧
      (⟨⟨1, 0⟩, true, .ordinary, .resident ⟨0⟩⟩ : AnonPage).Retained torn ∧
      (⟨⟨1, 1⟩, true, .stack, .swappedOut ⟨0⟩⟩ : AnonPage).Retained torn :=
  ⟨by decide +kernel, by decide +kernel, retained_of_failure _ _, retained_of_failure _ _⟩

end AnonPage

end DemandPaging
