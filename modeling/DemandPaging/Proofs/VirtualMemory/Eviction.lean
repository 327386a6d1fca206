import DemandPaging.Proofs.Selection
import DemandPaging.Proofs.VirtualMemory.Parts
import DemandPaging.Proofs.VirtualMemory.Accounting

/-!
Evicting a page where the books are in order and the algorithms are sound. The first victim is a
page that can be moved, so the policy is asked once, and after one eviction a frame is free.
-/
namespace DemandPaging.VirtualMemory

variable {δ φ π : Type} {vm mid after : VirtualMemory δ φ π} {busy : Option UserPage}
  {key owner : UserPage} {page : AnonPage} {number : FrameNumber} {frame : Frame}

/-- The books are in order, and the page that an operation is at work on is locked and has no
frame. -/
structure Searching (vm : VirtualMemory δ φ π) (busy : Option UserPage) : Prop where
  accounted : vm.Accounted busy
  waiting : ∀ key ∈ busy, ∃ page?, vm.cell? key = some ⟨true, page?⟩ ∧
    ∀ page ∈ page?, ∀ number, page.location ≠ .resident number

theorem Accounted.searching (h : vm.Accounted none) : vm.Searching none := ⟨h, nofun⟩

theorem Accounted.searching_lock (h : vm.Accounted none) {page? : Option AnonPage}
    (hpage : vm.held? key = page?)
    (habsent : ∀ page ∈ page?, ∀ number, page.location ≠ .resident number) :
    (vm.lock key page?).Searching (some key) := by
  refine ⟨h.lock page? hpage, ?_⟩
  rintro _ ⟨⟩
  exact ⟨page?, (cell?_lock vm key key page?).trans (if_pos rfl), habsent⟩

/-- The page behind an allocated frame is there to be moved. -/
theorem Searching.exists_page (h : vm.Searching busy) (hframe : vm.pool.frame? number = some frame)
    (hallocated : frame.status.allocated = true) :
    ∃ key page, frame.owner = some key ∧ vm.cell? key = some ⟨false, some page⟩ ∧
      page.location = .resident number := by
  obtain ⟨key, howner⟩ := (h.accounted.sound.allocated_iff hframe).1 hallocated
  have hhome := h.accounted.owner?_eq_some.1 howner
  obtain ⟨page, hheld, hlocation⟩ := Option.map_eq_some_iff.1 hhome
  obtain ⟨cell, hcell, -⟩ := Option.bind_eq_some_iff.1 hheld
  have hidle : busy ≠ some key := by
    intro heq
    obtain ⟨page?, hlocked, habsent⟩ := h.waiting key heq
    exact habsent page ((held?_of_cell? hlocked).symm.trans hheld) number hlocation
  obtain ⟨found, rfl⟩ := h.accounted.finished hcell hidle
  cases hheld.symm.trans (held?_of_cell? hcell)
  refine ⟨key, page, ?_, hcell, hlocation⟩
  simpa [FramePool.owner?, hframe] using howner

/-- The machine after its policy was asked. -/
def consulted (vm : VirtualMemory δ φ π) (choice : Choice π) : VirtualMemory δ φ π :=
  { vm with policy := choice.policy, tables := choice.tables }

theorem Accounted.withPlacement (h : vm.Accounted busy) (placement : φ) :
    { vm with placement }.Accounted busy :=
  h.of_same h.sound h.unpinned (fun _ => rfl) rfl rfl (fun _ => rfl) h.finished

theorem Searching.withPlacement (h : vm.Searching busy) (placement : φ) :
    { vm with placement }.Searching busy :=
  ⟨h.accounted.withPlacement placement, h.waiting⟩

variable [BlockDriver δ] [Replacement π]

theorem Searching.of_reclaims (h : vm.Searching busy) (hsteps : Reclaims vm after) :
    after.Searching busy := by
  refine ⟨hsteps.accounted h.accounted, fun key hkey => ?_⟩
  obtain ⟨page?, hlocked, habsent⟩ := h.waiting key hkey
  exact ⟨page?, hsteps.cell?_of_locked hlocked, habsent⟩

/-- What evicting a page comes to: the policy is asked once, and its victim, if it has one, is a
page that can be moved. -/
inductive Eviction (vm : VirtualMemory δ φ π) :
    Except Halt (Except MemoryError SwapSlot × VirtualMemory δ φ π) → Prop where
  | exhausted {choice : Choice π} : Replacement.choose vm.policy vm.pool vm.tables = .ok choice →
      choice.victim = none → Eviction vm (.ok (.error .outOfFrames, vm.consulted choice))
  | chosen {choice : Choice π} {key : UserPage} {page : AnonPage} {number : FrameNumber} :
      Replacement.choose vm.policy vm.pool vm.tables = .ok choice →
      choice.victim = some number → vm.cell? key = some ⟨false, some page⟩ →
      page.location = .resident number →
      Eviction vm ((vm.consulted choice).pageOutPage key page)

variable [ValidReplacement π]

theorem Searching.eviction (h : vm.Searching busy) : Eviction vm vm.evictPage := by
  obtain ⟨choice, hchoice, hvictims⟩ :=
    ValidReplacement.exists_choice vm.policy vm.tables h.accounted.sound
  rw [evictPage, evictWithin, hchoice]
  cases hvictim : choice.victim with
  | none =>
      simp only [bind, Except.bind, hvictim]
      exact .exhausted hchoice hvictim
  | some number =>
      obtain ⟨frame, hframe, hevictable⟩ := hvictims number hvictim
      have hallocated : frame.status.allocated = true := (Bool.and_eq_true_iff.1 hevictable).1
      obtain ⟨key, page, howner, hcell, hlocation⟩ := h.exists_page hframe hallocated
      have hresident : ({ vm with policy := choice.policy, tables := choice.tables } :
          VirtualMemory δ φ π).residentIn? key number = some page :=
        residentIn?_of_cell? hcell hlocation
      simp only [bind, Except.bind, hvictim, FramePool.frame_eq_ok.2 hframe, howner, hresident]
      exact .chosen hchoice hvictim hcell hlocation

/-- Where all frames are taken there is a victim. -/
theorem Searching.eviction_of_full [DecisiveReplacement π] (h : vm.Searching busy)
    (hframes : 0 < vm.pool.size) (hfull : vm.pool.allocatedCount = vm.pool.size) :
    ∃ choice key page number, vm.cell? key = some ⟨false, some page⟩ ∧
      page.location = .resident number ∧
      vm.evictPage = (vm.consulted choice).pageOutPage key page := by
  have hsound := h.accounted.sound
  have hevictable := hsound.evictable_of_full h.accounted.unpinned hfull
  have heviction := h.eviction
  generalize vm.evictPage = outcome at heviction
  cases heviction with
  | exhausted hchoice hnone =>
      obtain ⟨victim, hvictim⟩ :=
        DecisiveReplacement.victim_eq_some hsound hframes hevictable hchoice
      rw [hnone] at hvictim
      cases hvictim
  | chosen _ _ hcell hlocation => exact ⟨_, _, _, _, hcell, hlocation, rfl⟩

/-- An eviction is one attempt. -/
theorem Searching.exists_attempt (h : vm.Searching busy) {result : Except MemoryError SwapSlot}
    (hevict : vm.evictPage = .ok (result, after)) :
    ∃ choice, Replacement.choose vm.policy vm.pool vm.tables = .ok choice ∧
      Attempt (vm.consulted choice) result after := by
  have heviction := h.eviction
  rw [hevict] at heviction
  generalize houtcome : (.ok (result, after) : Except Halt _) = outcome at heviction
  cases heviction with
  | exhausted hchoice hvictim =>
      cases houtcome
      exact ⟨_, hchoice, .exhausted⟩
  | chosen hchoice hvictim hcell hlocation =>
      rename_i choice key page number
      have hcell : (vm.consulted choice).cell? key = some ⟨false, some page⟩ := hcell
      exact ⟨_, hchoice, pageOutPage_cases hcell hlocation houtcome.symm⟩

omit [Replacement π] [ValidReplacement π] in
/-- An eviction that succeeds frees a frame and takes a slot. -/
theorem Attempt.allocatedCount_eq {slot : SwapSlot} (h : Attempt vm (.ok slot) after)
    (hsound : vm.pool.Sound) : after.pool.allocatedCount + 1 = vm.pool.allocatedCount := by
  cases h with
  | moved _ _ hframe hallocated =>
      exact Nat.sub_add_cancel (hsound.allocatedCount_pos hframe hallocated)

section Rounds

variable [Placement φ]

theorem Searching.not_full_of_evictPage (h : vm.Searching busy) {slot : SwapSlot}
    (hevict : vm.evictPage = .ok (.ok slot, after)) :
    after.pool.allocatedCount ≠ after.pool.size := by
  obtain ⟨choice, -, hattempt⟩ := h.exists_attempt hevict
  have hcount := hattempt.allocatedCount_eq h.accounted.sound
  have hle := h.accounted.sound.allocatedCount_le_size
  have hsize : after.pool.size = vm.pool.size := hattempt.keepsParts.frames
  have hsame : (vm.consulted choice).pool.allocatedCount = vm.pool.allocatedCount := rfl
  omega

variable [CompletePlacement φ] [ValidPlacement φ]

omit [ValidReplacement π] in
/-- A page is evicted only where all frames are taken. -/
theorem Searching.round_eq (h : vm.Searching busy) (hround : Round vm after) :
    vm.pool.allocatedCount = vm.pool.size ∧ ∃ slot, vm.evictPage = .ok (.ok slot, after) := by
  cases hround with
  | evicted halloc hevict =>
      have hfull := h.accounted.sound.full_of_alloc halloc
      rw [FramePool.alloc_of_full hfull] at halloc
      cases halloc
      exact ⟨hfull, _, hevict⟩

/-- One eviction is enough. -/
theorem Searching.rounds_cases (h : vm.Searching busy) (hrounds : Rounds vm mid) :
    mid = vm ∨ vm.pool.allocatedCount = vm.pool.size ∧
      ∃ slot, vm.evictPage = .ok (.ok slot, mid) := by
  cases hrounds.cases_head with
  | inl heq => exact .inl heq.symm
  | inr hhead =>
      obtain ⟨first, hround, hrest⟩ := hhead
      have hfirst := h.round_eq hround
      obtain ⟨hfull, slot, hevict⟩ := hfirst
      cases hrest.cases_head with
      | inl heq =>
          subst heq
          exact .inr ⟨hfull, slot, hevict⟩
      | inr hsecond =>
          -- A second round would have to find all frames taken again.
          obtain ⟨second, hagain, -⟩ := hsecond
          have hstill := ((h.of_reclaims hround.reclaims).round_eq hagain).1
          exact absurd hstill (h.not_full_of_evictPage hevict)

theorem Granted.cases {placement : φ} (hgranted : Granted vm mid number frame placement)
    (h : vm.Searching busy) :
    mid = vm ∧ vm.pool.allocatedCount ≠ vm.pool.size ∨
      vm.pool.allocatedCount = vm.pool.size ∧ ∃ slot, vm.evictPage = .ok (.ok slot, mid) := by
  cases h.rounds_cases hgranted.rounds with
  | inl heq =>
      subst heq
      refine .inl ⟨rfl, fun hfull => ?_⟩
      have hallocated := h.accounted.sound.allocated_of_full hfull hgranted.frame?_eq
      rw [hgranted.free] at hallocated
      cases hallocated
  | inr hevicted => exact .inr hevicted

theorem Denied.evictPage_eq {error : MemoryError} (hdenied : Denied vm mid error)
    (h : vm.Searching busy) :
    vm.pool.allocatedCount = vm.pool.size ∧ vm.evictPage = .ok (.error error, mid) := by
  cases hdenied with
  | notEvicted hrounds halloc hevict =>
      have hlast := h.of_reclaims hrounds.reclaims
      have hfull := hlast.accounted.sound.full_of_alloc halloc
      rw [FramePool.alloc_of_full hfull] at halloc
      cases halloc
      cases h.rounds_cases hrounds with
      | inl heq =>
          subst heq
          exact ⟨hfull, hevict⟩
      | inr hevicted =>
          obtain ⟨-, slot, hfirst⟩ := hevicted
          exact absurd hfull (h.not_full_of_evictPage hfirst)

end Rounds

end DemandPaging.VirtualMemory
