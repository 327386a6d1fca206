import Mathlib.Tactic.IntervalCases
import DemandPaging.Proofs.Selection
import DemandPaging.Proofs.VirtualMemory.Reclaim

/-!
Evicting a page where the books may be in any disorder. A frame is stale if the page it is listed
under is gone, is being worked on or lives elsewhere. The policy may name stale frames first; each
of them goes to the back of the queue, and a frame that can be given up comes before the attempts
run out.
-/
namespace DemandPaging

namespace VirtualMemory

variable {δ φ π : Type} {vm mid after : VirtualMemory δ φ π} {key : UserPage} {page : AnonPage}
  {number : FrameNumber} {distance attempts : Nat}

/-- A frame that can be given up: the page that it is listed under lives in it and is not locked. -/
structure Eligible (vm : VirtualMemory δ φ π) (key : UserPage) (page : AnonPage)
    (number : FrameNumber) : Prop where
  evictable : vm.pool.isEvictable number = true
  owner : vm.pool.owner? number = some key
  cell : vm.cell? key = some ⟨false, some page⟩
  location : page.location = .resident number

/-- What a search for a victim may change: the policy, the order of the queue and accessed bits. -/
inductive SearchedTo (vm : VirtualMemory δ φ π) : VirtualMemory δ φ π → Prop where
  | mk (policy : π) {queue : List FrameNumber} {tables : AddressSpaces} :
      queue.Perm vm.pool.queue → vm.tables.Alike tables →
      SearchedTo vm { vm with policy, tables, pool := { vm.pool with queue } }

namespace SearchedTo

theorem refl (vm : VirtualMemory δ φ π) : vm.SearchedTo vm := .mk vm.policy (.refl _) (.refl _)

theorem trans (h : vm.SearchedTo mid) (h' : mid.SearchedTo after) : vm.SearchedTo after := by
  cases h with
  | mk _ hqueue htables =>
      cases h' with
      | mk policy hqueue' htables' =>
          exact .mk policy (hqueue'.trans hqueue) (htables.trans htables')

theorem consulted [Replacement π] [GentleReplacement π] {choice : Choice π}
    (h : Replacement.choose vm.policy vm.pool vm.tables = .ok choice) :
    vm.SearchedTo { vm with policy := choice.policy, tables := choice.tables } :=
  .mk choice.policy (.refl _) (GentleReplacement.alike h)

theorem requeued (vm : VirtualMemory δ φ π) (number : FrameNumber) :
    vm.SearchedTo { vm with pool := vm.pool.moveToBack number } := by
  have hpool : vm.pool.moveToBack number =
      { vm.pool with queue := (vm.pool.moveToBack number).queue } := by
    simp only [FramePool.moveToBack]
    split <;> rfl
  rw [hpool]
  exact .mk vm.policy (vm.pool.queue_moveToBack_perm number) (.refl _)

theorem frame?_eq (h : vm.SearchedTo mid) (number : FrameNumber) :
    mid.pool.frame? number = vm.pool.frame? number := by
  cases h
  rfl

theorem eligible_iff (h : vm.SearchedTo mid) :
    mid.Eligible key page number ↔ vm.Eligible key page number := by
  cases h
  exact ⟨fun h => ⟨h.evictable, h.owner, h.cell, h.location⟩,
    fun h => ⟨h.evictable, h.owner, h.cell, h.location⟩⟩

end SearchedTo

variable [BlockDriver δ]

/-- A page that lives in a frame leaves it or fails at the device, and no other frame is touched. -/
theorem pageOutPage_frames {result : Except MemoryError SwapSlot}
    (hlocation : page.location = .resident number)
    (h : vm.pageOutPage key page = .ok (result, after)) :
    (∃ slot frame, result = .ok slot ∧ vm.pool.frame? number = some frame ∧
        after.pool = vm.pool.release number frame) ∨
      ∃ error, result = .error (.swap (.block error)) ∧ after.pool = vm.pool := by
  obtain ⟨⟨outcome, page', store⟩, hout, h⟩ := bind_eq_ok.1 h
  cases AnonPage.pageOut_cases hout with
  | notResident hswapped =>
      rw [hlocation] at hswapped
      cases hswapped
  | failed =>
      cases h
      exact .inr ⟨_, rfl, rfl⟩
  | moved hfrom hframe =>
      cases h
      cases hlocation.symm.trans hfrom
      exact .inl ⟨_, _, rfl, hframe, rfl⟩

theorem pageOutPage_eq_error {halt : Halt} :
    vm.pageOutPage key page = .error halt ↔ page.pageOut vm.toPageStore = .error halt := by
  rw [pageOutPage]
  cases page.pageOut vm.toPageStore with
  | error cause =>
      constructor
      · rintro ⟨⟩
        rfl
      · rintro ⟨⟩
        rfl
  | ok moved =>
      obtain ⟨result, page', store⟩ := moved
      cases result with
      | error error => exact ⟨nofun, nofun⟩
      | ok slot => exact ⟨nofun, nofun⟩

variable [Replacement π] [PersistentReplacement π] [GentleReplacement π]

/-- Every attempt that meets a stale frame brings the policy closer to a frame it is due to name. -/
theorem evictWithin_of_due (hlisted : vm.pool.Listed) (heligible : vm.Eligible key page number)
    (hdue : PersistentReplacement.Due vm.policy vm.pool vm.tables number distance)
    (hlt : distance < attempts) :
    ∃ key page number mid, vm.Eligible key page number ∧ vm.SearchedTo mid ∧
      vm.evictWithin attempts = mid.pageOutPage key page := by
  induction attempts generalizing vm distance with
  | zero => cases hlt
  | succ attempts ih =>
      obtain ⟨choice, victim, hchoice, hvictim, hevictable, hend⟩ :=
        PersistentReplacement.choose_due hlisted hdue
      have hasked := SearchedTo.consulted hchoice
      obtain ⟨frame, owner, hframe, howner⟩ := hlisted.exists_owner hevictable
      rw [evictWithin, hchoice]
      simp only [bind, Except.bind, hvictim, FramePool.frame_eq_ok.2 hframe, howner]
      cases hresident : ({ vm with policy := choice.policy, tables := choice.tables } :
          VirtualMemory δ φ π).residentIn? owner victim with
      | some found =>
          obtain ⟨hcell, hlocation⟩ := residentIn?_eq_some hresident
          exact ⟨owner, found, victim, _,
            ⟨hevictable, by simpa [FramePool.owner?, hframe] using howner, hcell, hlocation⟩,
            hasked, rfl⟩
      | none =>
          have hsteps := hasked.trans (.requeued _ victim)
          -- The page of the frame that is due could be moved, so the victim is another one.
          have hstale : victim ≠ number := by
            rintro rfl
            have hsame := heligible.owner
            rw [FramePool.owner?, hframe, Option.bind_some, howner, Option.some.injEq] at hsame
            subst hsame
            have hfound := residentIn?_of_cell? (hasked.eligible_iff.2 heligible).cell
              heligible.location
            rw [hresident] at hfound
            cases hfound
          obtain ⟨less, hless, hlater⟩ := hend.resolve_left hstale
          obtain ⟨key, page, number, mid, hfound, hsearched, heq⟩ :=
            ih (hlisted.moveToBack victim) (hsteps.eligible_iff.2 heligible) hlater (by omega)
          exact ⟨key, page, number, mid, hsteps.eligible_iff.1 hfound, hsteps.trans hsearched, heq⟩

/-- The eviction is that of `page` from the frame `number`, after a search. -/
structure EvictsFrom (vm mid : VirtualMemory δ φ π) (key : UserPage) (page : AnonPage)
    (number : FrameNumber) : Prop where
  eligible : vm.Eligible key page number
  searched : vm.SearchedTo mid
  evictPage_eq : vm.evictPage = mid.pageOutPage key page
  halts : ∀ halt, vm.evictPage = .error halt ↔ page.pageOut mid.toPageStore = .error halt
  freed : ∀ slot after, vm.evictPage = .ok (.ok slot, after) →
    ∃ frame, vm.pool.frame? number = some frame ∧
      ∀ other, after.pool.frame? other =
        if number = other then some ⟨.free, none, frame.contents⟩ else vm.pool.frame? other
  failed : ∀ error after, vm.evictPage = .ok (.error error, after) →
    (∃ cause, error = .swap (.block cause)) ∧
      ∀ other, after.pool.frame? other = vm.pool.frame? other

/-- However many frames are stale, an eviction comes to one that can be given up. -/
theorem evicts_past_stale_frames {vm : VirtualMemory δ φ StandardReplacement}
    (hlisted : vm.pool.Listed) (heligible : vm.Eligible key page number) :
    ∃ mid key page number, vm.EvictsFrom mid key page number := by
  obtain ⟨distance, hle, hdue⟩ :=
    PersistentReplacement.exists_due vm.policy vm.tables hlisted heligible.evictable
  obtain ⟨key, page, number, mid, heligible, hsearched, heq⟩ :=
    evictWithin_of_due hlisted heligible hdue (Nat.lt_succ_of_le hle)
  refine ⟨mid, key, page, number, heligible, hsearched, heq, fun halt => ?_,
    fun slot after hevict => ?_, fun error after hevict => ?_⟩
  · rw [evictPage, heq]
    exact pageOutPage_eq_error
  · rw [evictPage, heq] at hevict
    obtain ⟨_, frame, -, hframe, hpool⟩ | ⟨_, hresult, -⟩ :=
      pageOutPage_frames heligible.location hevict
    · refine ⟨frame, (hsearched.frame?_eq number).symm.trans hframe, fun other => ?_⟩
      rw [hpool, FramePool.frame?_release hframe, hsearched.frame?_eq]
    · cases hresult
  · rw [evictPage, heq] at hevict
    obtain ⟨_, _, hresult, -⟩ | ⟨cause, hresult, hpool⟩ :=
      pageOutPage_frames heligible.location hevict
    · cases hresult
    · cases hresult
      refine ⟨⟨cause, rfl⟩, fun other => ?_⟩
      rw [hpool, hsearched.frame?_eq]

/-- The page in the last of five frames, accessed since the clock last came by. -/
def survivor : AnonPage := ⟨⟨1, 4⟩, true, .ordinary, .resident ⟨4⟩⟩

/-- A machine with four stale frames. Their pages are missing, locked, destroyed and swapped out. -/
def littered : VirtualMemory MemoryDisk StandardPlacement StandardReplacement where
  swap := { SwapArea.new ⟨0, "hda", .swap, 16, .new 16, 0, 0⟩ with taken := {0} }
  pool :=
    { frames := #[.backing ⟨1, 0⟩ default, .backing ⟨1, 1⟩ default, .backing ⟨1, 2⟩ default,
        .backing ⟨1, 3⟩ default, .backing ⟨1, 4⟩ default]
      queue := [⟨2⟩, ⟨0⟩, ⟨3⟩, ⟨4⟩, ⟨1⟩]
      allocatedCount := 5 }
  tables := ⟨(∅ : Std.ExtTreeMap Pid PageDirectory).insert 1
    ⟨(∅ : Std.ExtTreeMap Nat PageTableEntry).insert 4
      ((PageTableEntry.mapping 4 true).withFlag .accessed true)⟩⟩
  placement := .ofName .firstFit
  policy := .clock ⟨4⟩
  pages := (∅ : Std.ExtTreeMap UserPage PageCell)
    |>.insert ⟨1, 1⟩ ⟨true, some ⟨⟨1, 1⟩, true, .ordinary, .resident ⟨1⟩⟩⟩
    |>.insert ⟨1, 2⟩ ⟨false, none⟩
    |>.insert ⟨1, 3⟩ ⟨false, some ⟨⟨1, 3⟩, true, .stack, .swappedOut ⟨0⟩⟩⟩
    |>.insert ⟨1, 4⟩ ⟨false, some survivor⟩
  stackLimit := 0
  pageIns := 0
  pageOuts := 0

theorem evicts_past_stale_frames_littered :
    littered.pool.Listed ∧ littered.Eligible ⟨1, 4⟩ survivor ⟨4⟩ ∧
      littered.evictPage.map (fun ending => ending.1) = .ok (.ok ⟨1⟩) ∧
      ∃ mid key page number, littered.EvictsFrom mid key page number := by
  have hlisted : littered.pool.Listed := by
    have hbacking {number frame} (hframe : littered.pool.frame? number = some frame) :
        ∃ key, frame = .backing key default := by
      have hmem := Array.mem_of_getElem? hframe
      simp only [littered, List.mem_toArray, List.mem_cons, List.not_mem_nil, or_false] at hmem
      obtain rfl | rfl | rfl | rfl | rfl := hmem <;> exact ⟨_, rfl⟩
    refine ⟨fun hframe => ?_, fun number => ⟨fun hmem => ?_, fun hframe => ?_⟩, by decide⟩
    · obtain ⟨key, rfl⟩ := hbacking hframe
      simp [Frame.backing]
    · simp only [littered, List.mem_cons, List.not_mem_nil, or_false] at hmem
      obtain rfl | rfl | rfl | rfl | rfl := hmem <;> exact ⟨_, rfl, by decide⟩
    · obtain ⟨frame, hframe, -⟩ := hframe
      obtain ⟨index⟩ := number
      have hlt : index < 5 := FramePool.index_lt_size hframe
      interval_cases index <;> decide
  have heligible : littered.Eligible ⟨1, 4⟩ survivor ⟨4⟩ :=
    ⟨by decide, rfl, by decide +kernel, rfl⟩
  exact ⟨hlisted, heligible, by decide +kernel, evicts_past_stale_frames hlisted heligible⟩

end VirtualMemory

end DemandPaging
