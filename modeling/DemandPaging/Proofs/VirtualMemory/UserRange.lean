import DemandPaging.Proofs.VirtualMemory.Coherence

/-!
Pages lie in user space, so that those of one process are a range of the page map: from the page of
its first address to the page of any address behind user space.
-/
namespace DemandPaging

theorem inUserSpace_pageStart {addr : Nat} (h : inUserSpace addr = true) :
    inUserSpace (pageStart addr) = true := by
  have hlt : addr < userLimit := of_decide_eq_true h
  exact decide_eq_true (Nat.lt_of_le_of_lt (Nat.sub_le _ _) hlt)

namespace UserPage

theorem isLE_compare {a b : UserPage} :
    (compare a b).isLE = true ↔ a.owner < b.owner ∨ a.owner = b.owner ∧ a.number ≤ b.number := by
  change ((compare a.owner b.owner).then (compare a.number b.number)).isLE = true ↔ _
  rw [Ordering.isLE_then_iff_or, Nat.compare_eq_lt, Nat.compare_eq_eq, Nat.isLE_compare]

end UserPage

namespace VirtualMemory

variable {δ φ π : Type} {vm mid after : VirtualMemory δ φ π} {key : UserPage} {page : AnonPage}
  {pid : Pid} {addr : Nat} {write : Bool} {result : Except MemoryError Unit}

/-- All pages of the map lie in user space. -/
def UserOnly (vm : VirtualMemory δ φ π) : Prop :=
  ∀ key, vm.cell? key ≠ none → inUserSpace key.base = true

/-- The keys from one page to another, both of them included. -/
def keysBetween (vm : VirtualMemory δ φ π) (first last : UserPage) : List UserPage :=
  vm.pages.keys.filter fun key => (compare first key).isLE && (compare key last).isLE

/-- The pages of a process are all those between its first page and one that no page lies behind. -/
theorem UserOnly.keysOf_eq (h : vm.UserOnly) (pid : Pid) {last : Nat}
    (hlast : userLimit ≤ last + 1) :
    vm.keysOf pid = vm.keysBetween (.containing pid 0) (.containing pid last) := by
  refine List.filter_congr fun key hkey => ?_
  have huser := h key (mem_keys.1 hkey)
  have hnumber : key.number ≤ pageNumber last := by
    have hlt : key.number * pageSize < userLimit := of_decide_eq_true huser
    exact (Nat.le_div_iff_mul_le pageSize_pos).2 (by omega)
  rw [Bool.eq_iff_iff, decide_eq_true_iff, Bool.and_eq_true, UserPage.isLE_compare,
    UserPage.isLE_compare]
  simp only [UserPage.containing]
  constructor
  · rintro rfl
    exact ⟨.inr ⟨rfl, by simp [pageNumber]⟩, .inr ⟨rfl, hnumber⟩⟩
  · rintro ⟨hlow | ⟨heq, -⟩, hhigh | ⟨heq', -⟩⟩
    · exact absurd hlow (Nat.lt_asymm hhigh)
    · exact heq'
    · exact heq.symm
    · exact heq.symm

/-- The cell of one key changes, and it is a page of user space. -/
theorem UserOnly.of_cell? (h : vm.UserOnly) {cell? : Option PageCell}
    (hkey : inUserSpace key.base = true)
    (hcell : ∀ other, after.cell? other = if key = other then cell? else vm.cell? other) :
    after.UserOnly := by
  intro other hother
  rw [hcell] at hother
  split at hother
  · rename_i heq
    exact heq ▸ hkey
  · exact h other hother

theorem UserOnly.of_pages_eq (h : vm.UserOnly) (hpages : after.pages = vm.pages) :
    after.UserOnly := by
  intro key hkey
  rw [cell?_congr hpages] at hkey
  exact h key hkey

theorem Discarded.userOnly (hcases : Discarded vm key after) (h : vm.UserOnly) :
    after.UserOnly := by
  intro other hother
  rw [hcases.cell?_eq] at hother
  split at hother
  · exact absurd rfl hother
  · exact h other hother

theorem DiscardedAll.userOnly {keys : List UserPage} (hcases : DiscardedAll vm keys after)
    (h : vm.UserOnly) : after.UserOnly := by
  induction hcases with
  | nil => exact h
  | cons hfirst _ ih => exact ih (hfirst.userOnly h)

variable [BlockDriver δ] [Replacement π]

theorem Reclaims.userOnly (hsteps : Reclaims vm after) (h : vm.UserOnly) : after.UserOnly := by
  induction hsteps with
  | refl => exact h
  | tail _ hstep ih =>
      cases hstep with
      | placed => exact ih.of_pages_eq rfl
      | searched hsearch => cases hsearch <;> exact ih.of_pages_eq rfl
      | attempted hattempt =>
          cases hattempt with
          | exhausted => exact ih
          | failed => exact ih.of_pages_eq rfl
          | moved hcell =>
              have hkey := ih _ (Option.ne_none_iff_exists'.2 ⟨_, hcell⟩)
              exact ih.of_cell? hkey fun other => cell?_putPage _ _ other _

theorem Reclaims.userOnly_of_lock {page? : Option AnonPage}
    (hsteps : Reclaims (vm.lock key page?) mid) (h : vm.UserOnly)
    (hkey : inUserSpace key.base = true) : mid.UserOnly :=
  hsteps.userOnly (h.of_cell? hkey fun other => cell?_lock vm key other page?)

variable [Placement φ]

theorem MapZero.userOnly {kind : PageKind} {writable : Bool}
    (hcases : MapZero vm pid addr kind writable result after) (h : vm.UserOnly) :
    after.UserOnly := by
  have hkey : ∀ {vm : VirtualMemory δ φ π}, vm.Mappable pid addr →
      inUserSpace (UserPage.containing pid addr).base = true := by
    intro vm hmappable
    rw [UserPage.base_containing]
    exact inUserSpace_pageStart hmappable.inUserSpace
  cases hcases with
  | notUserAddress => exact h
  | noAddressSpace => exact h
  | alreadyMapped => exact h
  | noFrame hmappable hdenied =>
      exact (hdenied.reclaims.userOnly_of_lock h (hkey hmappable)).of_cell? (hkey hmappable)
        fun other => cell?_forget _ _ other
  | abandoned _ hmappable hgranted =>
      exact (hgranted.reclaims.userOnly_of_lock h (hkey hmappable)).of_cell? (hkey hmappable)
        fun other => cell?_forget _ _ other
  | made _ hmappable hgranted =>
      exact (hgranted.reclaims.userOnly_of_lock h (hkey hmappable)).of_cell? (hkey hmappable)
        fun other => cell?_putPage _ _ other _

theorem BringBack.userOnly {slot : SwapSlot} (hcases : BringBack vm key page slot result after)
    (h : vm.UserOnly) (hmapped : vm.cell? key ≠ none) : after.UserOnly := by
  have hkey := h key hmapped
  cases hcases with
  | noFrame hdenied =>
      exact (hdenied.reclaims.userOnly_of_lock h hkey).of_cell? hkey
        fun other => cell?_putPage _ _ other _
  | notRead _ hgranted =>
      exact (hgranted.reclaims.userOnly_of_lock h hkey).of_cell? hkey
        fun other => cell?_putPage _ _ other _
  | unmapped _ hgranted =>
      exact (hgranted.reclaims.userOnly_of_lock h hkey).of_cell? hkey
        fun other => cell?_putPage _ _ other _
  | done _ hgranted =>
      exact (hgranted.reclaims.userOnly_of_lock h hkey).of_cell? hkey
        fun other => cell?_putPage _ _ other _

theorem ResolveFault.userOnly {fault : FaultReport}
    (hcases : ResolveFault vm pid fault result after) (h : vm.UserOnly) : after.UserOnly := by
  cases hcases with
  | notUserAddress => exact h
  | grown _ _ _ hmapped => exact hmapped.userOnly h
  | notMapped => exact h
  | unfinished => exact h
  | writeProtected => exact h
  | resident => exact h
  | broughtBack _ hcell _ _ hback =>
      exact hback.userOnly h (Option.ne_none_iff_exists'.2 ⟨_, hcell⟩)

theorem Access.userOnly {found : Except MemoryError FrameNumber}
    (hcases : Access pid addr write vm found after) (h : vm.UserOnly) : after.UserOnly := by
  induction hcases with
  | touched htouched => cases htouched <;> exact h.of_pages_eq rfl
  | unresolved _ hresolve => exact hresolve.userOnly h
  | resolved _ hresolve _ ih => exact ih (hresolve.userOnly h)

theorem userOnly_of_access {found : Except MemoryError FrameNumber}
    (haccess : vm.access pid addr write = .ok (found, after)) (h : vm.UserOnly) :
    after.UserOnly := by
  obtain ⟨-, -, rfl⟩ | ⟨-, hcases⟩ := access_cases haccess
  · exact h
  · exact hcases.userOnly h

theorem CopyIn.userOnly {data : List UInt8} {moved : Nat}
    (hcases : CopyIn pid vm addr data result moved after) (h : vm.UserOnly) : after.UserOnly := by
  induction hcases with
  | done => exact h
  | stopped _ haccess => exact userOnly_of_access haccess h
  | chunk _ haccess _ _ _ ih => exact ih ((userOnly_of_access haccess h).of_pages_eq rfl)

theorem CopyOut.userOnly {buffer got : List UInt8} {moved : Nat}
    (hcases : CopyOut pid vm addr buffer result got moved after) (h : vm.UserOnly) :
    after.UserOnly := by
  induction hcases with
  | done => exact h
  | stopped _ haccess => exact userOnly_of_access haccess h
  | chunk _ haccess _ _ _ ih => exact ih (userOnly_of_access haccess h)

theorem Performed.userOnly {call : MemoryCall} {reply : MemoryReply}
    (hcases : Performed vm call reply after) (h : vm.UserOnly) : after.UserOnly := by
  cases hcases with
  | createSpace hcall =>
      simp only [VirtualMemory.createSpace] at hcall
      split at hcall <;> cases hcall <;> exact h.of_pages_eq rfl
  | destroySpace hcall =>
      obtain ⟨mid, hdiscarded, ⟨-, -, rfl⟩ | ⟨-, -, rfl⟩⟩ := destroySpace_cases hcall
      · exact (hdiscarded.userOnly h).of_pages_eq rfl
      · exact hdiscarded.userOnly h
  | mapZero hcall => exact (mapZero_cases hcall).userOnly h
  | unmap hcall =>
      obtain ⟨-, -, rfl⟩ | ⟨-, hdiscarded⟩ := unmap_cases hcall
      · exact h
      · exact hdiscarded.userOnly h
  | resolveFault hcall => exact (resolveFault_cases hcall).userOnly h
  | evictPage hcall => exact (Reclaims.of_evictWithin hcall).userOnly h
  | copyFromUser hcall =>
      obtain ⟨_, hcopied⟩ := copyFromUser_cases hcall
      exact hcopied.userOnly h
  | copyToUser hcall =>
      obtain ⟨_, hcopied⟩ := copyToUser_cases hcall
      exact hcopied.userOnly h
  | location => exact h
  | kind => exact h
  | usage => exact h

theorem Run.userOnly {drift : δ → δ → Prop} {trace : List (MemoryCall × MemoryReply)}
    (hrun : Run drift vm trace after) (h : vm.UserOnly) : after.UserOnly := by
  refine hrun.invariant (fun vm => vm.UserOnly) ?_ ?_ h
  · intro vm driver h _
    exact h.of_pages_eq rfl
  · intro vm after call reply h hcall
    exact (perform_cases hcall).userOnly h

omit [BlockDriver δ] [Replacement π] [Placement φ] in
theorem userOnly_new (swap : SwapArea δ) (pool : FramePool) (placement : φ) (policy : π)
    (stackLimit : Nat) : (new swap pool placement policy stackLimit).UserOnly := by
  intro key hkey
  simp [new, cell?] at hkey

end VirtualMemory

end DemandPaging
