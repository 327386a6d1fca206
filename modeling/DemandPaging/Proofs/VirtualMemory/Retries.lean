import DemandPaging.FramePool.Script
import DemandPaging.Proofs.VirtualMemory.Halting
import DemandPaging.Proofs.VirtualMemory.Translation
import DemandPaging.Proofs.Waiting

/-!
The loops that try again. With standard algorithms one eviction is enough to find a frame and one
fault to make a page present, so that more rounds than these change nothing. Where a placement
overlooks free frames the search ends as well, when there is nothing left to evict.
-/
namespace DemandPaging.VirtualMemory

variable {δ φ π : Type} {vm mid after : VirtualMemory δ φ π} {busy : Option UserPage}
  {key owner : UserPage} {page : AnonPage} {number : FrameNumber} {evictions rounds : Nat}
  {pid : Pid} {addr : Nat} {write : Bool}

section Frames

variable [BlockDriver δ] [Replacement π] [ValidReplacement π]

omit [Replacement π] [ValidReplacement π] in
theorem neverWaits_pageOutPage (vm : VirtualMemory δ φ π) (key : UserPage) (page : AnonPage) :
    NeverWaits (vm.pageOutPage key page) := by
  refine .bind (page.neverWaits_pageOut vm.toPageStore) fun moved _ => ?_
  obtain ⟨result, page, store⟩ := moved
  cases result <;> exact .ok _

omit [Replacement π] [ValidReplacement π] in
/-- A page that is chosen goes out, or the device fails. -/
theorem pageOutPage_ne_outOfFrames :
    vm.pageOutPage key page ≠ .ok (.error .outOfFrames, after) := by
  intro hout
  obtain ⟨⟨result, page', store⟩, -, hout⟩ := bind_eq_ok.1 hout
  cases result <;> cases hout

theorem Searching.neverWaits_evictPage (h : vm.Searching busy) : NeverWaits vm.evictPage := by
  have heviction := h.eviction
  generalize vm.evictPage = outcome at heviction
  cases heviction with
  | exhausted => exact .ok _
  | chosen => exact neverWaits_pageOutPage _ _ _

theorem Searching.allocatedCount_of_evictPage (h : vm.Searching busy) {slot : SwapSlot}
    (hevict : vm.evictPage = .ok (.ok slot, after)) :
    after.pool.allocatedCount + 1 = vm.pool.allocatedCount := by
  obtain ⟨choice, -, hattempt⟩ := h.exists_attempt hevict
  exact hattempt.allocatedCount_eq h.accounted.sound

variable [Placement φ]

/-- Every eviction frees a frame, so a search ends with one more than there are allocated. -/
theorem Searching.neverWaits_obtainFrameWithin (h : vm.Searching busy) (owner : UserPage)
    (henough : vm.pool.allocatedCount < evictions) :
    NeverWaits (vm.obtainFrameWithin owner evictions) := by
  induction evictions generalizing vm with
  | zero => omega
  | succ evictions ih =>
      rw [obtainFrameWithin]
      refine .bind (vm.pool.neverWaits_alloc vm.placement owner) fun allocated halloc => ?_
      obtain ⟨found, pool, placement⟩ := allocated
      obtain ⟨rfl, rfl, -⟩ | ⟨number, frame, rfl, -⟩ := FramePool.alloc_eq_ok halloc
      · have hplaced := h.withPlacement placement
        refine .bind hplaced.neverWaits_evictPage fun evicted hevict => ?_
        obtain ⟨result, mid⟩ := evicted
        cases result with
        | error error => exact .ok _
        | ok slot =>
            have hfewer := hplaced.allocatedCount_of_evictPage hevict
            apply ih (hplaced.of_reclaims (Reclaims.of_evictWithin hevict))
            simp only at hfewer
            omega
      · exact .ok _

omit [ValidReplacement π] in
/-- More evictions do not change a search that has come to its end. -/
theorem obtainFrameWithin_of_le {more : Nat} (hle : evictions ≤ more)
    (hends : vm.obtainFrameWithin owner evictions ≠ .error .waitsForever) :
    vm.obtainFrameWithin owner more = vm.obtainFrameWithin owner evictions := by
  induction evictions generalizing vm more with
  | zero =>
      rw [obtainFrameWithin] at hends ⊢
      rw [obtainFrameWithin]
      cases halloc : vm.pool.alloc vm.placement owner with
      | error halt => rfl
      | ok allocated =>
          obtain ⟨found, pool, placement⟩ := allocated
          cases found with
          | some number => rfl
          | none =>
              rw [halloc] at hends
              exact absurd rfl hends
  | succ evictions ih =>
      obtain ⟨more, rfl⟩ := Nat.exists_eq_add_of_le' hle
      rw [← Nat.add_assoc] at hle ⊢
      rw [obtainFrameWithin] at hends ⊢
      rw [obtainFrameWithin]
      cases halloc : vm.pool.alloc vm.placement owner with
      | error halt => rfl
      | ok allocated =>
          obtain ⟨found, pool, placement⟩ := allocated
          cases found with
          | some number => rfl
          | none =>
              rw [halloc] at hends
              simp only [bind, Except.bind] at hends ⊢
              cases hevict : ({ vm with pool, placement } : VirtualMemory δ φ π).evictPage with
              | error halt => rfl
              | ok evicted =>
                  obtain ⟨result, mid⟩ := evicted
                  cases result with
                  | error error => rfl
                  | ok slot =>
                      rw [hevict] at hends
                      exact ih (Nat.le_of_succ_le_succ hle) hends

omit [Placement φ] in
/-- The frames that are allocated are the evictions that are left to a search. -/
theorem Searching.pageOuts_of_evictPage (h : vm.Searching busy)
    {result : Except MemoryError SwapSlot} (hevict : vm.evictPage = .ok (result, after)) :
    after.pageOuts + after.pool.allocatedCount = vm.pageOuts + vm.pool.allocatedCount ∧
      after.pageOuts ≤ vm.pageOuts + 1 := by
  obtain ⟨choice, -, hattempt⟩ := h.exists_attempt hevict
  cases hattempt with
  | exhausted => exact ⟨rfl, Nat.le_succ _⟩
  | failed => exact ⟨rfl, Nat.le_succ _⟩
  | moved =>
      have hfewer := h.allocatedCount_of_evictPage hevict
      refine ⟨?_, Nat.le_refl _⟩
      simp only [putPage, consulted] at hfewer ⊢
      omega

theorem Rounds.pageOuts_add_allocatedCount (hrounds : Rounds vm mid) (h : vm.Searching busy) :
    mid.pageOuts + mid.pool.allocatedCount = vm.pageOuts + vm.pool.allocatedCount := by
  induction hrounds with
  | refl => rfl
  | tail hrest hround ih =>
      rw [← ih]
      cases hround with
      | evicted _ hevict =>
          have hlast := (h.of_reclaims (Rounds.reclaims hrest)).withPlacement
          exact ((hlast _).pageOuts_of_evictPage hevict).1

/-- No search makes more evictions than there are allocated frames. -/
theorem Searching.pageOuts_le (h : vm.Searching busy) {result : Except MemoryError FrameNumber}
    (hobtain : vm.obtainFrameWithin owner evictions = .ok (result, after)) :
    after.pageOuts ≤ vm.pageOuts + vm.pool.allocatedCount := by
  obtain ⟨mid, hrounds, hobtained⟩ := obtainFrameWithin_cases hobtain
  have hleft := hrounds.pageOuts_add_allocatedCount h
  cases hobtained with
  | failed _ hevict =>
      have hlast := ((h.of_reclaims hrounds.reclaims).withPlacement _).pageOuts_of_evictPage hevict
      simp only at hlast
      omega
  | taken =>
      simp only
      omega

section Standard

variable [CompletePlacement φ] [ValidPlacement φ]

/-- After one eviction there is a frame. -/
theorem Searching.neverWaits_one (h : vm.Searching busy) (owner : UserPage) :
    NeverWaits (vm.obtainFrameWithin owner 1) := by
  by_cases hfull : vm.pool.allocatedCount = vm.pool.size
  · rw [obtainFrameWithin, FramePool.alloc_of_full hfull]
    refine .bind (.ok _) fun allocated halloc => ?_
    cases halloc
    refine .bind h.neverWaits_evictPage fun evicted hevict => ?_
    obtain ⟨result, mid⟩ := evicted
    cases result with
    | error error => exact .ok _
    | ok slot =>
        have hmid := (h.of_reclaims (Reclaims.of_evictWithin hevict)).accounted.sound
        exact haltsOnly_obtainFrameWithin hmid (h.not_full_of_evictPage hevict) owner 0
  · exact haltsOnly_obtainFrameWithin h.accounted.sound hfull owner 1

theorem Searching.obtainFrameWithin_eq (h : vm.Searching busy) (owner : UserPage)
    (hsome : 0 < evictions) : vm.obtainFrameWithin owner evictions = vm.obtainFrame owner := by
  have hone := (h.neverWaits_one owner).ne
  calc vm.obtainFrameWithin owner evictions
    _ = vm.obtainFrameWithin owner 1 := obtainFrameWithin_of_le hsome hone
    _ = vm.obtainFrame owner := (obtainFrameWithin_of_le (Nat.le_add_left 1 _) hone).symm

theorem Searching.neverWaits_obtainFrame (h : vm.Searching busy) (owner : UserPage) :
    NeverWaits (vm.obtainFrame owner) := by
  rw [← h.obtainFrameWithin_eq owner Nat.one_pos]
  exact h.neverWaits_one owner

/-- A search makes at most one eviction. -/
theorem Searching.pageOuts_of_obtainFrame (h : vm.Searching busy)
    {result : Except MemoryError FrameNumber}
    (hobtain : vm.obtainFrame owner = .ok (result, after)) :
    after.pageOuts ≤ vm.pageOuts + 1 := by
  obtain ⟨error, rfl, hdenied⟩ | ⟨number, frame, mid, placement, rfl, hgranted, rfl⟩ :=
    obtainFrame_cases hobtain
  · exact (h.pageOuts_of_evictPage (hdenied.evictPage_eq h).2).2
  · obtain ⟨rfl, -⟩ | ⟨-, slot, hevict⟩ := hgranted.cases h
    · exact Nat.le_succ _
    · exact (h.pageOuts_of_evictPage hevict).2

/-- Where there are frames there is one that can be freed. -/
theorem Searching.size_eq_zero [DecisiveReplacement π] (h : vm.Searching busy)
    (hobtain : vm.obtainFrame owner = .ok (.error .outOfFrames, after)) : vm.pool.size = 0 := by
  by_contra hframes
  obtain ⟨error, herror, hdenied⟩ | ⟨number, frame, mid, placement, hgot, -⟩ :=
    obtainFrame_cases hobtain
  · cases herror
    obtain ⟨hfull, hevict⟩ := hdenied.evictPage_eq h
    obtain ⟨choice, key, page, number, -, -, heviction⟩ :=
      h.eviction_of_full (Nat.pos_of_ne_zero hframes) hfull
    exact pageOutPage_ne_outOfFrames (heviction ▸ hevict)
  · cases hgot

end Standard

end Frames

theorem neverWaits_abandon (vm : VirtualMemory δ φ π) (key : UserPage) (number : FrameNumber)
    (error : MemoryError) : NeverWaits (vm.abandon key number error) :=
  .bind (vm.pool.neverWaits_free number) fun _ _ => .ok _

section Faults

variable [BlockDriver δ] [Placement φ] [CompletePlacement φ] [ValidPlacement φ] [Replacement π]
  [ValidReplacement π]

theorem Accounted.neverWaits_mapZero (h : vm.Accounted none) (pid : Pid) (addr : Nat)
    (kind : PageKind) (writable : Bool) : NeverWaits (vm.mapZero pid addr kind writable) := by
  simp only [mapZero]
  split
  · exact .ok _
  split
  · exact .ok _
  split
  · exact .ok _
  rename_i hvacant
  have hvacant : vm.held? (.containing pid addr) = none := by
    rw [held?, not_not.1 (contains_pages.not.1 hvacant), Option.bind_none]
  have hsearching := h.searching_lock hvacant (by simp)
  refine .bind (hsearching.neverWaits_obtainFrame _) fun obtained _ => ?_
  obtain ⟨found, mid⟩ := obtained
  cases found with
  | error error => exact .ok _
  | ok number =>
      refine .bind (mid.tables.neverWaits_map _ _ _ _) fun mapped _ => ?_
      cases mapped with
      | noSpace => exact neverWaits_abandon _ _ _ _
      | alreadyPresent => exact neverWaits_abandon _ _ _ _
      | done tables =>
          refine .bind (mid.pool.neverWaits_setContents _ _) fun filled _ => ?_
          exact .bind (filled.neverWaits_unpin _) fun _ _ => .ok _

theorem Accounted.neverWaits_bringBack (h : vm.Accounted none)
    (hcell : vm.cell? key = some ⟨false, some page⟩) {slot : SwapSlot}
    (hlocation : page.location = .swappedOut slot) : NeverWaits (vm.bringBack key page) := by
  have hsearching := h.searching_lock (held?_of_cell? hcell)
    (not_resident_of_swappedOut hlocation)
  refine .bind (hsearching.neverWaits_obtainFrame key) fun obtained _ => ?_
  obtain ⟨found, mid⟩ := obtained
  cases found with
  | error error => exact .ok _
  | ok number =>
      refine .bind (page.neverWaits_pageIn _ _) fun moved _ => ?_
      obtain ⟨result, page, store⟩ := moved
      cases result with
      | error error => exact .bind (store.pool.neverWaits_free _) fun _ _ => .ok _
      | ok =>
          refine .bind (AddressSpaces.neverWaits_map _ _ _ _ _) fun mapped _ => ?_
          refine .bind (FramePool.neverWaits_unpin _ _) fun pool _ => ?_
          cases mapped <;> exact .ok _

theorem Accounted.neverWaits_resolveFault (h : vm.Accounted none) (pid : Pid)
    (fault : FaultReport) : NeverWaits (vm.resolveFault pid fault) := by
  simp only [resolveFault]
  split
  · exact .ok _
  split
  · simp only [extendStack]
    split
    · refine .bind (h.neverWaits_mapZero pid fault.addr .stack true) fun reply _ => ?_
      split <;> exact .ok _
    · exact .ok _
  · rename_i cell hcell
    obtain ⟨page, rfl⟩ := h.exists_page hcell
    refine .bind (.ok _) fun page? hwait => ?_
    cases hwait
    simp only
    split
    · exact .ok _
    · cases hlocation : page.location with
      | resident number =>
          rw [if_pos (by simp [AnonPage.inMemory, AnonPage.frame?, hlocation])]
          exact .ok _
      | swappedOut slot =>
          rw [if_neg (by simp [AnonPage.inMemory, AnonPage.frame?, hlocation])]
          exact h.neverWaits_bringBack hcell hlocation

end Faults

section Accesses

variable [BlockDriver δ] [Placement φ] [Replacement π]

/-- More rounds do not change an access that has come to its end. -/
theorem accessWithin_of_le {more : Nat} (hle : rounds ≤ more)
    (hends : vm.accessWithin pid addr write rounds ≠ .error .waitsForever) :
    vm.accessWithin pid addr write more = vm.accessWithin pid addr write rounds := by
  induction rounds generalizing vm more with
  | zero => exact absurd rfl hends
  | succ rounds ih =>
      obtain ⟨more, rfl⟩ := Nat.exists_eq_add_of_le' hle
      rw [← Nat.add_assoc] at hle ⊢
      simp only [accessWithin] at hends ⊢
      cases htouch : vm.touch? pid addr write with
      | some reply => rfl
      | none =>
          rw [htouch] at hends
          simp only [bind, Except.bind] at hends ⊢
          cases hresolve : vm.resolveFault pid ⟨addr, write, none⟩ with
          | error halt => rfl
          | ok resolved =>
              obtain ⟨result, mid⟩ := resolved
              cases result with
              | error error => rfl
              | ok =>
                  rw [hresolve] at hends
                  exact ih (Nat.le_of_succ_le_succ hle) hends

variable [GentleReplacement π]

/-- A fault that was resolved leaves a page that is present. -/
theorem Coherent.present_of_resolveFault (h : vm.Coherent) (hbooks : vm.Accounted none)
    {fault : FaultReport} (hresolve : vm.resolveFault pid fault = .ok (.ok (), after)) :
    ∃ number, after.tables.frame? pid fault.addr = some number := by
  have hcases := resolveFault_cases hresolve
  obtain ⟨page, number, hheld, hlocation⟩ := hcases.exists_resident hbooks h
  exact ⟨number, (hcases.coherent hbooks h).frame?_eq_some.2 (home?_of_location hheld hlocation)⟩

variable [CompletePlacement φ] [ValidPlacement φ] [ValidReplacement π]

/-- A second round finds what the fault of the first left behind. -/
theorem Accounted.neverWaits_accessWithin (hbooks : vm.Accounted none) (h : vm.Coherent)
    (pid : Pid) (addr : Nat) (write : Bool) : NeverWaits (vm.accessWithin pid addr write 2) := by
  rw [accessWithin]
  split
  · exact .ok _
  · refine .bind (hbooks.neverWaits_resolveFault pid _) fun resolved hresolve => ?_
    obtain ⟨result, mid⟩ := resolved
    cases result with
    | error error => exact .ok _
    | ok =>
        have hcases := resolveFault_cases hresolve
        obtain ⟨page, number, hheld, hlocation⟩ := hcases.exists_resident hbooks h
        obtain ⟨reply, htouch⟩ := (hcases.coherent hbooks h).exists_touch hheld hlocation write
        simp only [accessWithin, htouch]
        exact .ok _

theorem Accounted.neverWaits_access (hbooks : vm.Accounted none) (h : vm.Coherent)
    (pid : Pid) (addr : Nat) (write : Bool) : NeverWaits (vm.access pid addr write) := by
  simp only [access]
  split
  · exact hbooks.neverWaits_accessWithin h pid addr write
  · exact .ok _

theorem Accounted.neverWaits_copyToUser (hbooks : vm.Accounted none) (h : vm.Coherent)
    (pid : Pid) (addr : Nat) (data : List UInt8) :
    NeverWaits (vm.copyToUser pid addr data) := by
  induction hlength : data.length using Nat.strongRecOn generalizing vm addr data with
  | ind length ih =>
      cases data with
      | nil =>
          rw [copyToUser]
          exact .ok _
      | cons byte bytes =>
          have hlt := length_drop_chunkLength_lt addr byte bytes
          rw [copyToUser]
          refine .bind (hbooks.neverWaits_access h pid addr true) fun accessed haccess => ?_
          obtain ⟨result, mid⟩ := accessed
          cases result with
          | error error => exact .ok _
          | ok number =>
              refine .bind (mid.pool.neverWaits_writeBytes _ _ _) fun pool hwrite => ?_
              obtain ⟨frame, hframe, -, rfl⟩ := FramePool.writeBytes_eq_ok hwrite
              have hpatched := (accounted_of_access hbooks haccess).patchFrame hframe
              have hcoherent := coherent_of_access hbooks h haccess
              exact ih _ (hlength ▸ hlt) (hpatched _ _)
                (hcoherent.of_alike (fun _ => rfl) (.refl _)) _ _ rfl

theorem Accounted.neverWaits_copyFromUser (hbooks : vm.Accounted none) (h : vm.Coherent)
    (pid : Pid) (addr : Nat) (buffer : List UInt8) :
    NeverWaits (vm.copyFromUser pid addr buffer) := by
  induction hlength : buffer.length using Nat.strongRecOn generalizing vm addr buffer with
  | ind length ih =>
      cases buffer with
      | nil =>
          rw [copyFromUser]
          exact .ok _
      | cons byte bytes =>
          have hlt := length_drop_chunkLength_lt addr byte bytes
          rw [copyFromUser]
          refine .bind (hbooks.neverWaits_access h pid addr false) fun accessed haccess => ?_
          obtain ⟨result, mid⟩ := accessed
          cases result with
          | error error => exact .ok _
          | ok number =>
              refine .bind (mid.pool.neverWaits_frame number) fun _ _ => .bind ?_ fun _ _ => .ok _
              exact ih _ (hlength ▸ hlt) (accounted_of_access hbooks haccess)
                (coherent_of_access hbooks h haccess) _ _ rfl

end Accesses

/-- The page of `key`, if it is in the map, has no frame. -/
def NotInMemory (vm : VirtualMemory δ φ π) (key : UserPage) : Prop :=
  ∀ page ∈ vm.held? key, ∀ number, page.location ≠ .resident number

/-- The machine as it looks for a frame for `key`, whose cell is locked meanwhile. -/
def seeking (vm : VirtualMemory δ φ π) (key : UserPage) : VirtualMemory δ φ π :=
  vm.lock key (vm.held? key)

theorem Accounted.searching_seeking (h : vm.Accounted none) (habsent : vm.NotInMemory key) :
    (vm.seeking key).Searching (some key) :=
  h.searching_lock rfl habsent

section Bounds

variable [BlockDriver δ] [Placement φ] [Replacement π]

/-- Whatever the placement overlooks, a search for a frame ends. -/
structure SearchEnds (vm : VirtualMemory δ φ π) : Prop where
  neverWaits : ∀ {key evictions}, vm.NotInMemory key → vm.pool.size < evictions →
    NeverWaits ((vm.seeking key).obtainFrameWithin key evictions)
  obtainFrameWithin_eq : ∀ {key evictions}, vm.NotInMemory key → vm.pool.size < evictions →
    (vm.seeking key).obtainFrameWithin key evictions = (vm.seeking key).obtainFrame key
  pageOuts_le : ∀ {key result after}, vm.NotInMemory key →
    (vm.seeking key).obtainFrame key = .ok (result, after) →
    after.pageOuts ≤ vm.pageOuts + vm.pool.size

/-- One eviction ends a search for a frame, and two rounds end an access. -/
structure RetriesEnd (vm : VirtualMemory δ φ π) : Prop where
  neverWaits_search : ∀ {key}, vm.NotInMemory key →
    NeverWaits ((vm.seeking key).obtainFrame key)
  obtainFrameWithin_eq : ∀ {key evictions}, vm.NotInMemory key → 0 < evictions →
    (vm.seeking key).obtainFrameWithin key evictions = (vm.seeking key).obtainFrame key
  pageOuts_le : ∀ {key result after}, vm.NotInMemory key →
    (vm.seeking key).obtainFrame key = .ok (result, after) → after.pageOuts ≤ vm.pageOuts + 1
  size_eq_zero : ∀ {key after}, vm.NotInMemory key →
    (vm.seeking key).obtainFrame key = .ok (.error .outOfFrames, after) → vm.pool.size = 0
  present : ∀ {pid fault after}, vm.resolveFault pid fault = .ok (.ok (), after) →
    ∃ number, after.tables.frame? pid fault.addr = some number
  accessWithin_eq : ∀ {rounds} pid addr write, 2 ≤ rounds →
    vm.accessWithin pid addr write rounds = vm.accessWithin pid addr write 2
  neverWaits_access : ∀ pid addr write, NeverWaits (vm.access pid addr write)
  neverWaits_copyFromUser : ∀ pid addr buffer, NeverWaits (vm.copyFromUser pid addr buffer)
  neverWaits_copyToUser : ∀ pid addr data, NeverWaits (vm.copyToUser pid addr data)

theorem Accounted.searchEnds [ValidReplacement π] (h : vm.Accounted none) : vm.SearchEnds := by
  have hle : vm.pool.allocatedCount ≤ vm.pool.size := h.sound.allocatedCount_le_size
  have hends {key : UserPage} {evictions : Nat} (habsent : vm.NotInMemory key)
      (henough : vm.pool.allocatedCount < evictions) :
      NeverWaits ((vm.seeking key).obtainFrameWithin key evictions) :=
    (h.searching_seeking habsent).neverWaits_obtainFrameWithin key henough
  refine ⟨fun habsent henough => hends habsent (by omega), ?_, ?_⟩
  · intro key evictions habsent henough
    have hlast : (vm.seeking key).obtainFrame key ≠ .error .waitsForever :=
      (hends habsent (Nat.lt_succ_self _)).ne
    exact obtainFrameWithin_of_le (Nat.lt_of_le_of_lt hle henough) hlast
  · intro key result after habsent hobtain
    have hbound := (h.searching_seeking habsent).pageOuts_le hobtain
    exact Nat.le_trans hbound (Nat.add_le_add_left hle _)

theorem Accounted.retriesEnd [CompletePlacement φ] [ValidPlacement φ] [ValidReplacement π]
    [DecisiveReplacement π] [GentleReplacement π] (hbooks : vm.Accounted none)
    (h : vm.Coherent) : vm.RetriesEnd where
  neverWaits_search habsent := (hbooks.searching_seeking habsent).neverWaits_obtainFrame _
  obtainFrameWithin_eq habsent hsome :=
    (hbooks.searching_seeking habsent).obtainFrameWithin_eq _ hsome
  pageOuts_le habsent hobtain := (hbooks.searching_seeking habsent).pageOuts_of_obtainFrame hobtain
  size_eq_zero habsent hobtain := (hbooks.searching_seeking habsent).size_eq_zero hobtain
  present hresolve := h.present_of_resolveFault hbooks hresolve
  accessWithin_eq pid addr write hrounds :=
    accessWithin_of_le hrounds (hbooks.neverWaits_accessWithin h pid addr write).ne
  neverWaits_access := hbooks.neverWaits_access h
  neverWaits_copyFromUser := hbooks.neverWaits_copyFromUser h
  neverWaits_copyToUser := hbooks.neverWaits_copyToUser h

end Bounds

/-- With standard algorithms no loop of the machine tries again more than once, whatever the device
does; and with any other placement a search for a frame ends when nothing is left to evict. -/
theorem retries_end [BlockDriver δ] {count stackLimit : Nat} {pool : FramePool}
    {disk : BlockDevice δ} {policy : StandardReplacement} {trace : List (MemoryCall × MemoryReply)}
    (hpool : FramePool.new count = .ok pool) :
    (∀ {placement : StandardPlacement} {vm},
      Run (fun _ _ => True) (new (.new disk) pool placement policy stackLimit) trace vm →
        ∀ driver, (vm.withDriver driver).RetriesEnd) ∧
    ∀ {φ : Type} [Placement φ] {placement : φ} {vm},
      Run (fun _ _ => True) (new (.new disk) pool placement policy stackLimit) trace vm →
        ∀ driver, (vm.withDriver driver).SearchEnds := by
  constructor
  · intro placement vm hrun driver
    have hnew := accounted_new disk hpool placement policy stackLimit
    have hcoherent := hrun.coherent hnew (coherent_new disk pool placement policy stackLimit)
    have hbooks := (hrun.accounted hnew).withDriver driver
    exact hbooks.retriesEnd (hcoherent.of_alike (fun _ => rfl) (.refl _))
  · intro φ _ placement vm hrun driver
    have hnew := accounted_new disk hpool placement policy stackLimit
    exact ((hrun.accounted hnew).withDriver driver).searchEnds

/-- A machine with a single frame and one slot whose sectors cannot be read. -/
def oneFrame : VirtualMemory FaultyDisk StandardPlacement StandardReplacement :=
  new (.new ⟨0, "hda", .swap, 8, ⟨.new 8, fun _ => true, fun _ => false⟩, 0, 0⟩)
    ⟨.replicate 1 .blank, [], 0⟩ (.ofName .nextFit) (.ofName .fifo) 0

/-- A machine on the same disk that overlooks its second frame. -/
def shortSighted : VirtualMemory FaultyDisk PlacementScript StandardReplacement :=
  new (.new ⟨0, "hda", .swap, 8, ⟨.new 8, fun _ => true, fun _ => false⟩, 0, 0⟩)
    ⟨.replicate 2 .blank, [], 0⟩ ⟨[some 0]⟩ (.ofName .fifo) 0

/-- Both machines evict the first page for the second one; only one of them finds a frame. -/
theorem retries_end_two_pages :
    (∃ trace vm, trace.map (·.1) =
        [.createSpace 1, .mapZero 1 0 .ordinary true, .mapZero 1 4096 .ordinary true] ∧
      Run (fun _ _ => True) oneFrame trace vm ∧ vm.pageOuts = 1 ∧ vm.RetriesEnd) ∧
    ∃ trace vm, trace.map (·.1) =
        [.createSpace 1, .mapZero 1 0 .ordinary true, .mapZero 1 4096 .ordinary true] ∧
      Run (fun _ _ => True) shortSighted trace vm ∧ vm.pageOuts = 1 ∧
      vm.pool.allocatedCount = 0 ∧ vm.SearchEnds := by
  have hone : FramePool.new 1 = .ok ⟨.replicate 1 .blank, [], 0⟩ := rfl
  have htwo : FramePool.new 2 = .ok ⟨.replicate 2 .blank, [], 0⟩ := rfl
  have hfound : (oneFrame.run [.createSpace 1, .mapZero 1 0 .ordinary true,
      .mapZero 1 4096 .ordinary true]).map (·.2.pageOuts) = .ok 1 := by
    decide +kernel
  have hfailed : (shortSighted.run [.createSpace 1, .mapZero 1 0 .ordinary true,
      .mapZero 1 4096 .ordinary true]).map
        (fun outcome => (outcome.2.pageOuts, outcome.2.pool.allocatedCount)) = .ok (1, 0) := by
    decide +kernel
  obtain ⟨⟨replies, vm⟩, hcalls, houts⟩ := map_eq_ok.1 hfound
  obtain ⟨⟨replies', vm'⟩, hcalls', hcounts⟩ := map_eq_ok.1 hfailed
  obtain ⟨trace, hnames, hrun⟩ := exists_run_of_run (fun _ _ => True) (fun _ => trivial) hcalls
  obtain ⟨trace', hnames', hrun'⟩ := exists_run_of_run (fun _ _ => True) (fun _ => trivial) hcalls'
  obtain ⟨houts', hleft⟩ := Prod.ext_iff.1 hcounts
  exact ⟨⟨trace, vm, hnames, hrun, houts, (retries_end hone).1 hrun _⟩,
    trace', vm', hnames', hrun', houts', hleft, (retries_end htwo).2 hrun' _⟩

end DemandPaging.VirtualMemory
