import Mathlib.Logic.Relation
import DemandPaging.Proofs.Swapping
import DemandPaging.Proofs.VirtualMemory.PageMap

/-!
What happens while a frame is looked for. A search for a victim and the loop around it are
sequences of a few kinds of steps, so that whatever each step keeps is kept by all of it.
-/
namespace DemandPaging

/-- Errors that come from the machine below. They say nothing about the request. -/
def MemoryError.isInternal : MemoryError → Bool
  | outOfFrames | swap _ => true
  | _ => false

namespace VirtualMemory

variable {δ φ π : Type} {vm after : VirtualMemory δ φ π} {key other : UserPage}
  {page : AnonPage} {number : FrameNumber}

variable [BlockDriver δ]

/-- What a policy does before a victim is tried: it is asked, and a frame whose page is out of
reach goes to the back of the queue. -/
inductive Search [Replacement π] (vm : VirtualMemory δ φ π) : VirtualMemory δ φ π → Prop where
  | consulted {choice : Choice π} :
      Replacement.choose vm.policy vm.pool vm.tables = .ok choice →
      Search vm { vm with policy := choice.policy, tables := choice.tables }
  | requeued (number : FrameNumber) : Search vm { vm with pool := vm.pool.moveToBack number }

/-- How the search for a victim ends. -/
inductive Attempt (vm : VirtualMemory δ φ π) :
    Except MemoryError SwapSlot → VirtualMemory δ φ π → Prop where
  | exhausted : Attempt vm (.error .outOfFrames) vm
  | failed {key : UserPage} {page : AnonPage} {number : FrameNumber} {frame : Frame}
      {slot : SwapSlot} {error : TransferError} {disk : BlockDevice δ} :
      vm.cell? key = some ⟨false, some page⟩ → page.location = .resident number →
      vm.pool.frame? number = some frame → vm.swap.IsLowestFree slot →
      vm.swap.disk.writeRun slot.startSector slotSectors frame.contents.toList =
        .ok (.error error, disk) →
      Attempt vm (.error (.swap (.block error))) { vm with swap := vm.swap.withDisk disk }
  | moved {key : UserPage} {page : AnonPage} {number : FrameNumber} {frame : Frame}
      {slot : SwapSlot} {disk : BlockDevice δ} :
      vm.cell? key = some ⟨false, some page⟩ → page.location = .resident number →
      vm.pool.frame? number = some frame → frame.status.allocated = true →
      vm.swap.IsLowestFree slot →
      vm.swap.disk.writeRun slot.startSector slotSectors frame.contents.toList =
        .ok (.ok (), disk) →
      Attempt vm (.ok slot)
        ({ vm with
            swap := { disk, taken := vm.swap.taken.insert slot.index }
            pool := vm.pool.release number frame
            tables := AnonPage.hidden vm.tables page.key
            pageOuts := vm.pageOuts + 1 }.putPage key { page with location := .swappedOut slot })

theorem pageOutPage_cases {result : Except MemoryError SwapSlot}
    (hcell : vm.cell? key = some ⟨false, some page⟩) (hlocation : page.location = .resident number)
    (h : vm.pageOutPage key page = .ok (result, after)) : Attempt vm result after := by
  obtain ⟨⟨outcome, page', store⟩, hout, h⟩ := bind_eq_ok.1 h
  cases AnonPage.pageOut_cases hout with
  | notResident hswapped => rw [hlocation] at hswapped; cases hswapped
  | failed hfrom hframe hslot hrun =>
      rename_i disk
      cases h
      have hsame : { vm with swap := vm.swap.withDisk disk }.putPage key page = _ :=
        putPage_self hcell
      rw [hsame]
      exact .failed hcell hfrom hframe hslot hrun
  | moved hfrom hframe hallocated hslot hrun =>
      cases h
      exact .moved hcell hfrom hframe hallocated hslot hrun

theorem Attempt.isInternal {error : MemoryError} (h : Attempt vm (.error error) after) :
    error.isInternal = true := by
  cases h <;> rfl

variable [Replacement π]

theorem evictWithin_cases {attempts : Nat} {result : Except MemoryError SwapSlot}
    (h : vm.evictWithin attempts = .ok (result, after)) :
    ∃ mid, Relation.ReflTransGen Search vm mid ∧ Attempt mid result after := by
  induction attempts generalizing vm with
  | zero =>
      cases h
      exact ⟨_, .refl, .exhausted⟩
  | succ attempts ih =>
      obtain ⟨choice, hchoice, h⟩ := bind_eq_ok.1 h
      have hasked := Search.consulted hchoice
      simp only at h
      split at h
      · cases h
        exact ⟨_, .single hasked, .exhausted⟩
      · rename_i victim hvictim
        obtain ⟨frame, -, h⟩ := bind_eq_ok.1 h
        split at h
        · obtain ⟨mid, hsearch, hattempt⟩ := ih h
          exact ⟨mid, hsearch.head hasked, hattempt⟩
        · split at h
          · obtain ⟨mid, hsearch, hattempt⟩ := ih h
            exact ⟨mid, (hsearch.head (.requeued victim)).head hasked, hattempt⟩
          · rename_i hresident
            obtain ⟨hcell, hlocation⟩ := residentIn?_eq_some hresident
            exact ⟨_, .single hasked, pageOutPage_cases hcell hlocation h⟩

/-- A step of getting a frame, up to the allocation that succeeds. -/
inductive ReclaimStep (vm : VirtualMemory δ φ π) : VirtualMemory δ φ π → Prop where
  | placed (placement : φ) : ReclaimStep vm { vm with placement }
  | searched {after : VirtualMemory δ φ π} : Search vm after → ReclaimStep vm after
  | attempted {result : Except MemoryError SwapSlot} {after : VirtualMemory δ φ π} :
      Attempt vm result after → ReclaimStep vm after

abbrev Reclaims : VirtualMemory δ φ π → VirtualMemory δ φ π → Prop :=
  Relation.ReflTransGen ReclaimStep

theorem Reclaims.of_evictWithin {attempts : Nat} {result : Except MemoryError SwapSlot}
    (h : vm.evictWithin attempts = .ok (result, after)) : Reclaims vm after := by
  obtain ⟨mid, hsearch, hattempt⟩ := evictWithin_cases h
  exact (hsearch.lift id fun _ _ => .searched).tail (.attempted hattempt)

variable [Placement φ]

/-- A round of looking for a frame that does not end it: no frame is found, and a page is evicted
to make one free. -/
inductive Round (vm : VirtualMemory δ φ π) : VirtualMemory δ φ π → Prop where
  | evicted {owner : UserPage} {placement : φ} {slot : SwapSlot} {after : VirtualMemory δ φ π} :
      vm.pool.alloc vm.placement owner = .ok (none, vm.pool, placement) →
      { vm with placement }.evictPage = .ok (.ok slot, after) → Round vm after

abbrev Rounds : VirtualMemory δ φ π → VirtualMemory δ φ π → Prop := Relation.ReflTransGen Round

theorem Round.reclaims (h : Round vm after) : Reclaims vm after := by
  cases h with
  | evicted _ hevict => exact (Reclaims.of_evictWithin hevict).head (.placed _)

theorem Rounds.reclaims (h : Rounds vm after) : Reclaims vm after := by
  induction h with
  | refl => exact .refl
  | tail _ hround ih => exact ih.trans hround.reclaims

/-- How the last round of looking for a frame for `owner` ends. -/
inductive Obtained (vm : VirtualMemory δ φ π) (owner : UserPage) :
    Except MemoryError FrameNumber → VirtualMemory δ φ π → Prop where
  | failed {placement : φ} {error : MemoryError} {after : VirtualMemory δ φ π} :
      vm.pool.alloc vm.placement owner = .ok (none, vm.pool, placement) →
      { vm with placement }.evictPage = .ok (.error error, after) →
      Obtained vm owner (.error error) after
  | taken {number : FrameNumber} {frame : Frame} {placement : φ} :
      Placement.place vm.placement vm.pool.coreMap = (some number.index, placement) →
      vm.pool.frame? number = some frame → frame.status.allocated = false →
      Obtained vm owner (.ok number)
        { vm with pool := vm.pool.take number frame owner, placement }

theorem obtainFrameWithin_cases {owner : UserPage} {evictions : Nat}
    {result : Except MemoryError FrameNumber}
    (h : vm.obtainFrameWithin owner evictions = .ok (result, after)) :
    ∃ mid, Rounds vm mid ∧ Obtained mid owner result after := by
  induction evictions generalizing vm with
  | zero =>
      rw [obtainFrameWithin] at h
      obtain ⟨⟨found, pool, placement⟩, halloc, h⟩ := bind_eq_ok.1 h
      obtain ⟨rfl, rfl, -⟩ | ⟨number, frame, rfl, hplace, hframe, hfree, rfl⟩ :=
        FramePool.alloc_eq_ok halloc
      · cases h
      · cases h
        exact ⟨vm, .refl, .taken hplace hframe hfree⟩
  | succ evictions ih =>
      rw [obtainFrameWithin] at h
      obtain ⟨⟨found, pool, placement⟩, halloc, h⟩ := bind_eq_ok.1 h
      obtain ⟨rfl, rfl, -⟩ | ⟨number, frame, rfl, hplace, hframe, hfree, rfl⟩ :=
        FramePool.alloc_eq_ok halloc
      · obtain ⟨⟨outcome, evicted⟩, hevict, h⟩ := bind_eq_ok.1 h
        cases outcome with
        | error error =>
            cases h
            exact ⟨vm, .refl, .failed halloc hevict⟩
        | ok slot =>
            obtain ⟨mid, hrest, hobtained⟩ := ih h
            exact ⟨mid, hrest.head (.evicted halloc hevict), hobtained⟩
      · cases h
        exact ⟨vm, .refl, .taken hplace hframe hfree⟩

end VirtualMemory

end DemandPaging
