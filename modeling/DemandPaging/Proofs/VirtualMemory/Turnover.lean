import DemandPaging.Proofs.FrameQueue
import DemandPaging.Proofs.VirtualMemory.History

/-!
How the pages that live in frames change where pages are evicted in the order of arrival. Whatever
fails on the way, a call lets the first of them go, adds one at the end or takes some out.
-/
namespace DemandPaging.VirtualMemory

variable {δ φ π : Type} {vm mid after : VirtualMemory δ φ π} {busy : Option UserPage}
  {key oldest : UserPage} {page : AnonPage} {number : FrameNumber} {frame : Frame}
  {rest : List UserPage}

/-- The pages that live in frames, in the order of the queue. -/
def residents (vm : VirtualMemory δ φ π) : List UserPage := vm.pool.owners

theorem Accounted.mem_residents (h : vm.Accounted busy) :
    key ∈ vm.residents ↔ vm.isResident key = true := by
  rw [residents, h.sound.mem_owners, isResident_iff]
  exact exists_congr fun number => h.owner?_eq_some

theorem Accounted.not_mem_residents (h : vm.Accounted busy) (habsent : vm.NotInMemory key) :
    key ∉ vm.residents := by
  rw [h.mem_residents, habsent.isResident_eq]
  exact Bool.false_ne_true

theorem residents_patchFrame (hframe : vm.pool.frame? number = some frame) {start : Nat}
    {data : List UInt8} : (vm.patchFrame number frame start data).residents = vm.residents :=
  FramePool.owners_replace_contents hframe _

/-- How the pages that live in frames change in one call. -/
inductive Turnover (vm after : VirtualMemory δ φ π) : Prop where
  | arrived (fresh : Option UserPage) : after.residents = vm.residents ++ fresh.toList →
      (∀ key ∈ fresh, key ∉ vm.residents) → Turnover vm after
  | evicted {oldest : UserPage} {rest : List UserPage} (fresh : Option UserPage) :
      vm.residents = oldest :: rest → after.residents = rest ++ fresh.toList →
      (∀ key ∈ fresh, key ∉ vm.residents) → Turnover vm after
  | discarded : after.residents.Sublist vm.residents →
      (∀ key ∈ vm.residents, key ∉ after.residents → after.cell? key = none) → Turnover vm after

theorem Turnover.of_eq (h : after.residents = vm.residents) : Turnover vm after :=
  .arrived none (by simp [h]) (by simp)

theorem Turnover.of_cons {oldest : UserPage} (h : vm.residents = oldest :: after.residents) :
    Turnover vm after :=
  .evicted none h (by simp) (by simp)

/-- The tables have no part in it. -/
theorem Turnover.withTables (h : Turnover vm mid) (tables : AddressSpaces) :
    Turnover vm { mid with tables } := by
  cases h with
  | arrived fresh hresidents hfresh => exact .arrived fresh hresidents hfresh
  | evicted fresh hfirst hresidents hfresh => exact .evicted fresh hfirst hresidents hfresh
  | discarded hsublist hgone => exact .discarded hsublist hgone

theorem Discarded.residents_sublist (hcases : Discarded vm key after) (h : vm.Accounted none) :
    after.residents.Sublist vm.residents := by
  cases hcases with
  | unfinished => exact .refl _
  | destroyed _ hdestroyed =>
      cases hdestroyed with
      | resident _ hframe => exact h.sound.owners_release_sublist hframe
      | swappedOut => exact .refl _

theorem DiscardedAll.residents_sublist {keys : List UserPage} (hcases : DiscardedAll vm keys after)
    (h : vm.Accounted none) : after.residents.Sublist vm.residents := by
  induction hcases with
  | nil => exact .refl _
  | cons hfirst _ ih => exact (ih (hfirst.accounted h)).trans (hfirst.residents_sublist h)

/-- Pages that are discarded leave the map. -/
theorem Turnover.of_sublist (hsublist : after.residents.Sublist vm.residents)
    (hbooks : vm.Accounted none) (hafter : after.Accounted none)
    (hcell : ∀ key, after.cell? key = none ∨ after.cell? key = vm.cell? key) :
    Turnover vm after := by
  refine .discarded hsublist fun key hkey hgone => ?_
  obtain hnone | hsame := hcell key
  · exact hnone
  · rw [hafter.mem_residents, isResident_congr (held?_congr hsame), ← hbooks.mem_residents]
      at hgone
    exact absurd hkey hgone

theorem Discarded.turnover (hcases : Discarded vm key after) (h : vm.Accounted none) :
    Turnover vm after := by
  refine .of_sublist (hcases.residents_sublist h) h (hcases.accounted h) fun other => ?_
  rw [hcases.cell?_eq]
  exact ite_eq_or_eq ..

theorem DiscardedAll.turnover {keys : List UserPage} (hcases : DiscardedAll vm keys after)
    (h : vm.Accounted none) : Turnover vm after := by
  refine .of_sublist (hcases.residents_sublist h) h (hcases.accounted h) fun other => ?_
  rw [hcases.cell?_eq]
  exact ite_eq_or_eq ..

section Evicting

variable [BlockDriver δ]

theorem pageOutPage_pool {result : Except MemoryError SwapSlot}
    (hlocation : page.location = .resident number)
    (h : vm.pageOutPage key page = .ok (result, after)) :
    (∃ error, result = .error error ∧ after.pool = vm.pool) ∨ ∃ slot frame, result = .ok slot ∧
      vm.pool.frame? number = some frame ∧ after.pool = vm.pool.release number frame := by
  obtain ⟨⟨outcome, page', store⟩, hout, h⟩ := bind_eq_ok.1 h
  cases AnonPage.pageOut_cases hout with
  | notResident =>
      cases h
      exact .inl ⟨_, rfl, rfl⟩
  | failed =>
      cases h
      exact .inl ⟨_, rfl, rfl⟩
  | moved hfrom hframe =>
      cases h
      cases hlocation.symm.trans hfrom
      exact .inr ⟨_, _, rfl, hframe, rfl⟩

section Fifo

variable {vm after : VirtualMemory δ φ StandardReplacement}

/-- First in, first out evicts the page that has its frame longest. -/
inductive FifoEviction (vm : VirtualMemory δ φ StandardReplacement) :
    Except Halt (Except MemoryError SwapSlot × VirtualMemory δ φ StandardReplacement) → Prop where
  | exhausted : vm.residents = [] → FifoEviction vm (.ok (.error .outOfFrames, vm))
  | tried {oldest : UserPage} {rest : List UserPage} {page : AnonPage} {number : FrameNumber} :
      vm.residents = oldest :: rest → vm.cell? oldest = some ⟨false, some page⟩ →
      page.location = .resident number → vm.pool.queue.head? = some number →
      FifoEviction vm (vm.pageOutPage oldest page)

theorem Searching.fifoEviction (h : vm.Searching busy) (hfifo : vm.policy = .fifo ⟨⟩) :
    FifoEviction vm vm.evictPage := by
  have hhead := Fifo.victim?_eq_head? h.accounted.unpinned
  have hsame {choice : Choice StandardReplacement}
      (hchoice : Replacement.choose vm.policy vm.pool vm.tables = .ok choice) :
      choice.victim = vm.pool.queue.head? ∧ vm.consulted choice = vm := by
    rw [hfifo] at hchoice
    cases hchoice
    refine ⟨hhead, ?_⟩
    simp only [consulted]
    rw [← hfifo]
  have heviction := h.eviction
  generalize vm.evictPage = outcome at heviction ⊢
  cases heviction with
  | exhausted hchoice hvictim =>
      obtain ⟨hfirst, hvm⟩ := hsame hchoice
      rw [hvm]
      refine .exhausted ?_
      rw [residents, FramePool.owners, List.head?_eq_none_iff.1 (hfirst.symm.trans hvictim)]
      rfl
  | chosen hchoice hvictim hcell hlocation =>
      rename_i key page number
      obtain ⟨hfirst, hvm⟩ := hsame hchoice
      have hqueue := hfirst.symm.trans hvictim
      obtain ⟨behind, hlist⟩ := List.head?_eq_some_iff.1 hqueue
      obtain ⟨oldest, howner, howners⟩ := h.accounted.sound.owners_eq_cons hlist
      have hhome := home?_of_location (held?_of_cell? hcell) hlocation
      cases (h.accounted.owner?_eq_some.2 hhome).symm.trans howner
      rw [hvm]
      exact .tried howners hcell hlocation hqueue

theorem Searching.residents_of_evictPage (h : vm.Searching busy) (hfifo : vm.policy = .fifo ⟨⟩)
    {result : Except MemoryError SwapSlot} (hevict : vm.evictPage = .ok (result, after)) :
    (∃ error, result = .error error ∧ after.residents = vm.residents) ∨
      ∃ slot oldest, result = .ok slot ∧ vm.residents = oldest :: after.residents := by
  have heviction := h.fifoEviction hfifo
  rw [hevict] at heviction
  generalize houtcome : (.ok (result, after) : Except Halt _) = outcome at heviction
  cases heviction with
  | exhausted =>
      cases houtcome
      exact .inl ⟨_, rfl, rfl⟩
  | tried hresidents hcell hlocation hhead =>
      obtain ⟨behind, hqueue⟩ := List.head?_eq_some_iff.1 hhead
      obtain ⟨error, rfl, hpool⟩ | ⟨slot, frame, rfl, hframe, hpool⟩ :=
        pageOutPage_pool hlocation houtcome.symm
      · exact .inl ⟨error, rfl, congrArg FramePool.owners hpool⟩
      · obtain ⟨oldest, -, howners⟩ := h.accounted.sound.owners_eq_cons_release hqueue hframe
        rw [← hpool] at howners
        exact .inr ⟨slot, oldest, rfl, howners⟩

end Fifo

end Evicting

variable [BlockDriver δ] [Placement φ]

theorem Readied.keepsParts [Replacement π] (hready : Readied vm after) : vm.KeepsParts after := by
  cases hready with
  | idle => exact .refl vm
  | faulted hresolve => exact hresolve.keepsParts

/-- Asking a policy that is first in, first out leaves it so. -/
theorem KeepsParts.fifo {vm after : VirtualMemory δ φ StandardReplacement} (h : vm.KeepsParts after)
    (hfifo : vm.policy = .fifo ⟨⟩) : after.policy = .fifo ⟨⟩ := by
  have huse := h.policy
  rw [hfifo] at huse
  generalize after.policy = policy at huse ⊢
  induction huse with
  | refl => rfl
  | tail _ hstep ih =>
      obtain ⟨pool, tables, choice, -, hchoice, rfl⟩ := hstep
      rw [ih] at hchoice
      cases hchoice
      rfl

section Searches

variable {vm mid after : VirtualMemory δ φ StandardReplacement} [CompletePlacement φ]
  [ValidPlacement φ]

/-- A search for a frame lets the first page go, or none. -/
inductive Spent (vm mid : VirtualMemory δ φ StandardReplacement) : Prop where
  | none : mid.residents = vm.residents → Spent vm mid
  | one {oldest : UserPage} : vm.residents = oldest :: mid.residents → Spent vm mid

variable {page? : Option AnonPage}

theorem Granted.spent {placement : φ}
    (hgranted : Granted (vm.lock key page?) mid number frame placement)
    (h : (vm.lock key page?).Searching busy) (hfifo : vm.policy = .fifo ⟨⟩) : Spent vm mid := by
  obtain ⟨rfl, -⟩ | ⟨-, slot, hevict⟩ := hgranted.cases h
  · exact .none rfl
  · obtain ⟨error, herror, -⟩ | ⟨_, oldest, -, hresidents⟩ := h.residents_of_evictPage hfifo hevict
    · cases herror
    · exact .one hresidents

theorem Denied.turnover {error : MemoryError} (hdenied : Denied (vm.lock key page?) mid error)
    (h : (vm.lock key page?).Searching busy) (hfifo : vm.policy = .fifo ⟨⟩)
    (hpool : after.pool = mid.pool) : Turnover vm after := by
  obtain ⟨_, -, hsame⟩ | ⟨slot, _, hok, -⟩ :=
    h.residents_of_evictPage hfifo (hdenied.evictPage_eq h).2
  · exact .of_eq ((congrArg FramePool.owners hpool).trans hsame)
  · cases hok

omit [BlockDriver δ] [Placement φ] [CompletePlacement φ] [ValidPlacement φ] in
/-- After the search a page comes in, or none. -/
theorem Spent.turnover (h : Spent vm mid) (fresh : Option UserPage)
    (hresidents : after.residents = mid.residents ++ fresh.toList)
    (hfresh : ∀ key ∈ fresh, key ∉ vm.residents) : Turnover vm after := by
  cases h with
  | none hsame => exact .arrived fresh (hsame ▸ hresidents) hfresh
  | one hfirst => exact .evicted fresh hfirst hresidents hfresh

theorem Granted.turnover_giveBack {placement : φ} {owner : UserPage} {contents : Page}
    (hgranted : Granted (vm.lock key page?) mid number frame placement)
    (h : (vm.lock key page?).Searching busy) (hfifo : vm.policy = .fifo ⟨⟩)
    (hpool : after.pool = mid.pool.giveBack number frame owner contents) : Turnover vm after := by
  have hsound := (hgranted.reclaims.accounted h.accounted).sound
  refine (hgranted.spent h hfifo).turnover none ?_ (by simp)
  rw [residents, hpool, hsound.owners_giveBack hgranted.frame?_eq hgranted.free]
  simp [residents]

theorem Granted.turnover_occupy {placement : φ} {owner : UserPage} {contents : Page}
    (hgranted : Granted (vm.lock key page?) mid number frame placement)
    (h : (vm.lock key page?).Searching busy) (hfifo : vm.policy = .fifo ⟨⟩)
    (habsent : owner ∉ vm.residents)
    (hpool : after.pool = mid.pool.occupy number frame owner contents) : Turnover vm after := by
  have hsound := (hgranted.reclaims.accounted h.accounted).sound
  refine (hgranted.spent h hfifo).turnover (some owner) ?_ ?_
  · rw [residents, hpool, hsound.owners_occupy hgranted.frame?_eq hgranted.free]
    rfl
  · rintro _ ⟨⟩
    exact habsent

section Faults

variable {result : Except MemoryError Unit} {pid : Pid} {addr : Nat}

theorem MapZero.turnover {kind : PageKind} {writable : Bool}
    (hcases : MapZero vm pid addr kind writable result after) (h : vm.Accounted none)
    (hfifo : vm.policy = .fifo ⟨⟩) : Turnover vm after := by
  have hsearching (hmappable : Mappable vm pid addr) :
      (vm.lock (.containing pid addr) none).Searching (some (.containing pid addr)) :=
    h.searching_lock hmappable.held?_eq_none nofun
  cases hcases with
  | notUserAddress => exact .of_eq rfl
  | noAddressSpace => exact .of_eq rfl
  | alreadyMapped => exact .of_eq rfl
  | noFrame hmappable hdenied => exact hdenied.turnover (hsearching hmappable) hfifo rfl
  | abandoned _ hmappable hgranted =>
      exact hgranted.turnover_giveBack (hsearching hmappable) hfifo rfl
  | made _ hmappable hgranted =>
      have habsent := h.not_mem_residents hmappable.notInMemory
      exact hgranted.turnover_occupy (hsearching hmappable) hfifo habsent rfl

theorem BringBack.turnover {slot : SwapSlot} (hcases : BringBack vm key page slot result after)
    (h : vm.Accounted none) (hfifo : vm.policy = .fifo ⟨⟩)
    (hcell : vm.cell? key = some ⟨false, some page⟩)
    (hlocation : page.location = .swappedOut slot) : Turnover vm after := by
  have hsearching :=
    h.searching_lock (held?_of_cell? hcell) (not_resident_of_swappedOut hlocation)
  have habsent := h.not_mem_residents (notInMemory_of_swappedOut hcell hlocation)
  cases hcases with
  | noFrame hdenied => exact hdenied.turnover hsearching hfifo rfl
  | notRead _ hgranted => exact hgranted.turnover_giveBack hsearching hfifo rfl
  | unmapped _ hgranted => exact hgranted.turnover_occupy hsearching hfifo habsent rfl
  | done _ hgranted => exact hgranted.turnover_occupy hsearching hfifo habsent rfl

theorem ResolveFault.turnover {fault : FaultReport}
    (hcases : ResolveFault vm pid fault result after) (h : vm.Accounted none)
    (hfifo : vm.policy = .fifo ⟨⟩) : Turnover vm after := by
  cases hcases with
  | notUserAddress => exact .of_eq rfl
  | grown _ _ _ hmapped => exact hmapped.turnover h hfifo
  | notMapped => exact .of_eq rfl
  | unfinished => exact .of_eq rfl
  | writeProtected => exact .of_eq rfl
  | resident => exact .of_eq rfl
  | broughtBack _ hcell _ hlocation hback => exact hback.turnover h hfifo hcell hlocation

end Faults

theorem Readied.turnover (hready : Readied vm after) (h : vm.Accounted none)
    (hfifo : vm.policy = .fifo ⟨⟩) : Turnover vm after := by
  cases hready with
  | idle => exact .of_eq rfl
  | faulted hresolve => exact hresolve.turnover h hfifo

theorem Performed.turnover {call : MemoryCall} {reply : MemoryReply}
    (hcases : Performed vm call reply after) (hcopy : call.isCopy = false) (h : vm.Accounted none)
    (hfifo : vm.policy = .fifo ⟨⟩) : Turnover vm after := by
  cases hcases with
  | createSpace hcall =>
      simp only [VirtualMemory.createSpace] at hcall
      split at hcall <;> cases hcall <;> exact .of_eq rfl
  | destroySpace hcall =>
      obtain ⟨mid, hdiscarded, ⟨-, -, rfl⟩ | ⟨-, -, rfl⟩⟩ := destroySpace_cases hcall
      · exact (hdiscarded.turnover h).withTables _
      · exact hdiscarded.turnover h
  | mapZero hcall => exact (mapZero_cases hcall).turnover h hfifo
  | unmap hcall =>
      obtain ⟨-, -, rfl⟩ | ⟨-, hdiscarded⟩ := unmap_cases hcall
      · exact .of_eq rfl
      · exact hdiscarded.turnover h
  | resolveFault hcall => exact (resolveFault_cases hcall).turnover h hfifo
  | evictPage hcall =>
      obtain ⟨error, -, hsame⟩ | ⟨slot, oldest, -, hresidents⟩ :=
        h.searching.residents_of_evictPage hfifo hcall
      · exact .of_eq hsame
      · exact .of_cons hresidents
  | copyFromUser => cases hcopy
  | copyToUser => cases hcopy
  | location => exact .of_eq rfl
  | kind => exact .of_eq rfl
  | usage => exact .of_eq rfl

end Searches

end DemandPaging.VirtualMemory
