import DemandPaging.Proofs.Outcome
import DemandPaging.VirtualMemory.Mapping

/-!
The page map: what a change of one cell means for all keys, and which of them hold a page.
-/
namespace DemandPaging.VirtualMemory

variable {δ φ π : Type} {vm after : VirtualMemory δ φ π} {key other : UserPage} {page : AnonPage}
  {cell : PageCell} {number : FrameNumber}

theorem cell?_congr (hpages : after.pages = vm.pages) (key : UserPage) :
    after.cell? key = vm.cell? key :=
  congrArg (·[key]?) hpages

/-- Puts a locked cell into the map. -/
def lock (vm : VirtualMemory δ φ π) (key : UserPage) (page? : Option AnonPage) :
    VirtualMemory δ φ π :=
  { vm with pages := vm.pages.insert key ⟨true, page?⟩ }

/-- Drops the cell of `key`. -/
def forget (vm : VirtualMemory δ φ π) (key : UserPage) : VirtualMemory δ φ π :=
  { vm with pages := vm.pages.erase key }

theorem cell?_lock (vm : VirtualMemory δ φ π) (key other : UserPage) (page? : Option AnonPage) :
    (vm.lock key page?).cell? other =
      if key = other then some ⟨true, page?⟩ else vm.cell? other := by
  by_cases h : key = other <;> simp [lock, cell?, Std.ExtTreeMap.getElem?_insert, h]

theorem cell?_forget (vm : VirtualMemory δ φ π) (key other : UserPage) :
    (vm.forget key).cell? other = if key = other then none else vm.cell? other := by
  by_cases h : key = other <;> simp [forget, cell?, Std.ExtTreeMap.getElem?_erase, h]

/-- The page of `key` in the map, whether its cell is locked or not. -/
def held? (vm : VirtualMemory δ φ π) (key : UserPage) : Option AnonPage :=
  (vm.cell? key).bind (·.page?)

theorem held?_of_cell? {cell : PageCell} (h : vm.cell? key = some cell) :
    vm.held? key = cell.page? := by
  simp [held?, h]

theorem held?_congr (hcell : after.cell? key = vm.cell? key) :
    after.held? key = vm.held? key :=
  congrArg (·.bind (·.page?)) hcell

theorem held?_putPage (vm : VirtualMemory δ φ π) (key other : UserPage) (page : AnonPage) :
    (vm.putPage key page).held? other = if key = other then some page else vm.held? other := by
  simp only [held?, cell?_putPage]
  split <;> rfl

theorem pages_eq_of_cell? (h : ∀ key, after.cell? key = vm.cell? key) : after.pages = vm.pages :=
  Std.ExtTreeMap.ext_getElem? h

theorem pages_putPage_self (h : vm.cell? key = some ⟨false, some page⟩) :
    (vm.putPage key page).pages = vm.pages := by
  apply pages_eq_of_cell?
  intro other
  rw [cell?_putPage]
  split
  · rename_i heq
    rw [← heq, h]
  · rfl

theorem putPage_self (h : vm.cell? key = some ⟨false, some page⟩) : vm.putPage key page = vm := by
  have hpages : vm.pages.insert key ⟨false, some page⟩ = vm.pages := pages_putPage_self h
  simp [putPage, hpages]

theorem held?_lock (vm : VirtualMemory δ φ π) (key other : UserPage) (page? : Option AnonPage) :
    (vm.lock key page?).held? other = if key = other then page? else vm.held? other := by
  simp only [held?, cell?_lock]
  split <;> rfl

theorem held?_forget (vm : VirtualMemory δ φ π) (key other : UserPage) :
    (vm.forget key).held? other = if key = other then none else vm.held? other := by
  simp only [held?, cell?_forget]
  split <;> rfl

/-- A key that was not in the map is out of it again. -/
theorem pages_forget_of_lock {mid : VirtualMemory δ φ π} {page? : Option AnonPage}
    (hpages : mid.pages = (vm.lock key page?).pages) (hvacant : vm.cell? key = none) :
    (mid.forget key).pages = vm.pages := by
  apply pages_eq_of_cell?
  intro other
  rw [cell?_forget, cell?_congr hpages, cell?_lock]
  split
  · rename_i heq
    rw [← heq, hvacant]
  · rfl

/-- A page whose cell was locked is in its cell again. -/
theorem pages_putPage_of_lock {mid : VirtualMemory δ φ π} {page? : Option AnonPage}
    (hpages : mid.pages = (vm.lock key page?).pages)
    (hcell : vm.cell? key = some ⟨false, some page⟩) :
    (mid.putPage key page).pages = vm.pages := by
  apply pages_eq_of_cell?
  intro other
  rw [cell?_putPage, cell?_congr hpages, cell?_lock]
  split
  · rename_i heq
    rw [← heq, hcell]
  · rfl

/-- Putting what the cell of `key` holds back into it changes nothing that is held. -/
theorem held?_of_put_back {page? : Option AnonPage} (hpage : vm.held? key = page?)
    (hheld : ∀ other, after.held? other = if key = other then page? else vm.held? other)
    (other : UserPage) : after.held? other = vm.held? other := by
  rw [hheld]
  split
  · rename_i heq
    rw [← heq, hpage]
  · rfl

theorem contains_pages : vm.pages.contains key = true ↔ vm.cell? key ≠ none := by
  rw [Std.ExtTreeMap.contains_eq_isSome_getElem?, Option.isSome_iff_ne_none, cell?]

theorem mem_keys : key ∈ vm.pages.keys ↔ vm.cell? key ≠ none := by
  rw [Std.ExtTreeMap.mem_keys, ← Std.ExtTreeMap.contains_iff_mem, contains_pages]

theorem mem_keysOf {pid : Pid} : key ∈ vm.keysOf pid ↔ key.owner = pid ∧ vm.cell? key ≠ none := by
  simp [keysOf, cell?, and_comm]

theorem nodup_keysOf (pid : Pid) : (vm.keysOf pid).Nodup :=
  vm.pages.nodup_keys.filter _

theorem waitFor_eq_ok {page? : Option AnonPage} (h : waitFor cell = .ok page?) :
    cell = ⟨false, page?⟩ := by
  obtain ⟨locked, held⟩ := cell
  simp only [waitFor] at h
  split at h
  · cases h
  · rename_i hunlocked
    cases h
    simpa using hunlocked

theorem residentIn?_eq_some
    (h : vm.residentIn? key number = some page) :
    vm.cell? key = some ⟨false, some page⟩ ∧ page.location = .resident number := by
  simp only [residentIn?] at h
  split at h
  · cases h
  · rename_i cell hcell
    obtain ⟨locked, page?⟩ := cell
    split at h
    · cases h
    · rename_i hunlocked
      obtain ⟨hpage, hframe⟩ := Option.filter_eq_some_iff.1 h
      simp only [Bool.not_eq_true] at hunlocked
      simp only at hpage hunlocked
      subst hpage hunlocked
      refine ⟨hcell, ?_⟩
      obtain ⟨_, _, _, location⟩ := page
      cases location <;> simp_all [AnonPage.frame?]

theorem residentIn?_of_cell? (hcell : vm.cell? key = some ⟨false, some page⟩)
    (hlocation : page.location = .resident number) : vm.residentIn? key number = some page := by
  simp [residentIn?, hcell, AnonPage.frame?, hlocation]

theorem not_resident_of_swappedOut {slot : SwapSlot}
    (hlocation : page.location = .swappedOut slot) :
    ∀ held ∈ some page, ∀ number, held.location ≠ .resident number := by
  rintro _ ⟨⟩ number
  simp [hlocation]

end DemandPaging.VirtualMemory
