import DemandPaging.Proofs.VirtualMemory.Ownership

/-!
How many pages there are. Each of them takes a frame or a slot, and moving them between frames and
slots does not change their number.
-/
namespace DemandPaging.VirtualMemory

variable {δ φ π : Type} {vm mid after : VirtualMemory δ φ π} {key : UserPage} {page : AnonPage}

/-- Every page takes a frame or a slot. -/
theorem Accounted.size_pages (h : vm.Accounted none) :
    vm.pages.size = vm.pool.allocatedCount + vm.swap.taken.size := by
  have hswapped : vm.swappedOutPages =
      vm.pages.keys.filter fun key => !((vm.held? key).bind (·.frame?)).isSome := by
    refine List.filter_congr fun key hkey => ?_
    obtain ⟨cell, hcell⟩ := Option.ne_none_iff_exists'.1 (mem_keys.1 hkey)
    obtain ⟨page, rfl⟩ := h.exists_page hcell
    rw [held?_of_cell? hcell]
    cases hlocation : page.location <;> simp [AnonPage.frame?, AnonPage.slot?, hlocation]
  rw [← h.length_residentPages, ← h.length_swappedOutPages, hswapped, residentPages,
    ← List.length_eq_length_filter_add, Std.ExtTreeMap.length_keys]

/-- Where there are more pages than frames, one of them is swapped out. -/
theorem Accounted.exists_swappedOut (h : vm.Accounted none)
    (hpages : vm.pool.size < vm.pages.size) :
    ∃ key page slot, vm.held? key = some page ∧ page.location = .swappedOut slot := by
  have hcount := h.size_pages
  have hallocated := h.sound.allocatedCount_le_size
  have hpos : 0 < vm.swappedOutPages.length := by
    rw [h.length_swappedOutPages]
    omega
  obtain ⟨key, hmem⟩ := List.exists_mem_of_length_pos hpos
  obtain ⟨slot, hslot⟩ := Option.isSome_iff_exists.1 (List.mem_filter.1 hmem).2
  obtain ⟨page, hheld, hlocation⟩ := home?_eq_some.1 (home?_eq_swappedOut.2 hslot)
  exact ⟨key, page, slot, hheld, hlocation⟩

theorem size_putPage (hmapped : vm.cell? key ≠ none) (page : AnonPage) :
    (vm.putPage key page).pages.size = vm.pages.size := by
  rw [putPage, Std.ExtTreeMap.size_insert, if_pos (contains_pages.2 hmapped)]

theorem size_lock (hmapped : vm.cell? key ≠ none) (page? : Option AnonPage) :
    (vm.lock key page?).pages.size = vm.pages.size := by
  rw [lock, Std.ExtTreeMap.size_insert, if_pos (contains_pages.2 hmapped)]

theorem size_lock_of_vacant (hvacant : vm.cell? key = none) (page? : Option AnonPage) :
    (vm.lock key page?).pages.size = vm.pages.size + 1 := by
  rw [lock, Std.ExtTreeMap.size_insert, if_neg (contains_pages.not.2 (not_not.2 hvacant))]

variable [BlockDriver δ]

theorem Attempt.size_pages {result : Except MemoryError SwapSlot} (h : Attempt vm result after) :
    after.pages.size = vm.pages.size := by
  cases h with
  | exhausted => rfl
  | failed => rfl
  | moved hcell => exact size_putPage (Option.ne_none_iff_exists'.2 ⟨_, hcell⟩) _

variable [Replacement π]

theorem Reclaims.size_pages (h : Reclaims vm after) : after.pages.size = vm.pages.size := by
  induction h with
  | refl => rfl
  | tail _ hstep ih =>
      refine Eq.trans ?_ ih
      cases hstep with
      | placed => rfl
      | searched hsearch => cases hsearch <;> rfl
      | attempted hattempt => exact hattempt.size_pages

/-- The page that was locked comes back to its place. -/
theorem Reclaims.size_putPage_of_lock {page? : Option AnonPage}
    (h : Reclaims (vm.lock key page?) mid) (hpages : after.pages = mid.pages) (page : AnonPage) :
    (after.putPage key page).pages.size = (vm.lock key page?).pages.size := by
  have hlocked := h.cell?_of_locked ((cell?_lock vm key key page?).trans (if_pos rfl))
  have hmapped : after.cell? key ≠ none := by
    rw [cell?_congr hpages, hlocked]
    simp
  rw [size_putPage hmapped, hpages, h.size_pages]

variable [Placement φ] {result : Except MemoryError Unit} {pid : Pid} {addr : Nat} {write : Bool}

theorem MapZero.size_pages {kind : PageKind} {writable : Bool}
    (hcases : MapZero vm pid addr kind writable (.ok ()) after) :
    after.pages.size = vm.pages.size + 1 := by
  cases hcases with
  | made _ hmappable hgranted =>
      rw [hgranted.reclaims.size_putPage_of_lock (by rfl), size_lock_of_vacant hmappable.vacant]

theorem BringBack.size_pages {slot : SwapSlot}
    (hcases : BringBack vm key page slot result after) (hmapped : vm.cell? key ≠ none) :
    after.pages.size = vm.pages.size := by
  refine Eq.trans ?_ (size_lock hmapped (some page))
  cases hcases with
  | noFrame hdenied => exact hdenied.reclaims.size_putPage_of_lock rfl page
  | notRead _ hgranted => exact hgranted.reclaims.size_putPage_of_lock (by rfl) page
  | unmapped _ hgranted => exact hgranted.reclaims.size_putPage_of_lock (by rfl) _
  | done _ hgranted => exact hgranted.reclaims.size_putPage_of_lock (by rfl) _

/-- Without a stack pointer no stack grows. -/
theorem ResolveFault.size_pages {fault : FaultReport}
    (hcases : ResolveFault vm pid fault result after) (hpointer : fault.stackPointer = none) :
    after.pages.size = vm.pages.size := by
  cases hcases with
  | notUserAddress => rfl
  | grown _ _ hgrows =>
      rw [FaultReport.growsStack, hpointer, Option.any_none, Bool.and_false] at hgrows
      cases hgrows
  | notMapped => rfl
  | unfinished => rfl
  | writeProtected => rfl
  | resident => rfl
  | broughtBack _ hcell _ _ hback =>
      exact hback.size_pages (Option.ne_none_iff_exists'.2 ⟨_, hcell⟩)

theorem Access.size_pages {found : Except MemoryError FrameNumber}
    (hcases : Access pid addr write vm found after) : after.pages.size = vm.pages.size := by
  induction hcases with
  | touched htouched => cases htouched <;> rfl
  | unresolved _ hresolve => exact hresolve.size_pages rfl
  | resolved _ hresolve _ ih => exact ih.trans (hresolve.size_pages rfl)

theorem size_pages_of_access {found : Except MemoryError FrameNumber}
    (haccess : vm.access pid addr write = .ok (found, after)) :
    after.pages.size = vm.pages.size := by
  obtain ⟨-, -, rfl⟩ | ⟨-, hcases⟩ := access_cases haccess
  · rfl
  · exact hcases.size_pages

end DemandPaging.VirtualMemory
