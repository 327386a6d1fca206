import DemandPaging.Proofs.VirtualMemory.Reclaim

/-!
The ways in which pages come into the map and leave it. A page that is mapped has its cell locked
until a frame is found for it, and pages that leave together leave one by one.
-/
namespace DemandPaging.VirtualMemory

variable {δ φ π : Type} {vm mid after : VirtualMemory δ φ π} {key : UserPage}
  {cell : PageCell} {number : FrameNumber} {frame : Frame}

section Mapping

variable [BlockDriver δ] [Placement φ] [Replacement π]

/-- The search for a frame has led to `mid`, where frame `number` is free and is chosen. -/
structure Granted (vm mid : VirtualMemory δ φ π) (number : FrameNumber) (frame : Frame)
    (placement : φ) : Prop where
  rounds : Rounds vm mid
  place_eq : Placement.place mid.placement mid.pool.coreMap = (some number.index, placement)
  frame?_eq : mid.pool.frame? number = some frame
  free : frame.status.allocated = false

/-- The search for a frame has led to `mid` and failed. -/
inductive Denied (vm mid : VirtualMemory δ φ π) (error : MemoryError) : Prop where
  | notEvicted {last : VirtualMemory δ φ π} {owner : UserPage} {placement : φ} :
      Rounds vm last → last.pool.alloc last.placement owner = .ok (none, last.pool, placement) →
      { last with placement }.evictPage = .ok (.error error, mid) → Denied vm mid error

theorem Granted.reclaims {placement : φ} (h : Granted vm mid number frame placement) :
    Reclaims vm mid :=
  h.rounds.reclaims

theorem Denied.reclaims {error : MemoryError} (h : Denied vm mid error) : Reclaims vm mid := by
  cases h with
  | notEvicted hrounds _ hevict =>
      exact hrounds.reclaims.trans ((Reclaims.of_evictWithin hevict).head (.placed _))

theorem Denied.internal {error : MemoryError} (h : Denied vm mid error) :
    error.isInternal = true := by
  cases h with
  | notEvicted _ _ hevict =>
      obtain ⟨_, -, hattempt⟩ := evictWithin_cases hevict
      exact hattempt.isInternal

/-- Nothing speaks against a new page at `addr`. -/
structure Mappable (vm : VirtualMemory δ φ π) (pid : Pid) (addr : Nat) : Prop where
  inUserSpace : inUserSpace addr = true
  contains : vm.tables.contains pid = true
  vacant : vm.cell? (.containing pid addr) = none

inductive MapZero (vm : VirtualMemory δ φ π) (pid : Pid) (addr : Nat) (kind : PageKind)
    (writable : Bool) : Except MemoryError Unit → VirtualMemory δ φ π → Prop where
  | notUserAddress : inUserSpace addr = false →
      MapZero vm pid addr kind writable (.error .notUserAddress) vm
  | noAddressSpace : inUserSpace addr = true → vm.tables.contains pid = false →
      MapZero vm pid addr kind writable (.error .noAddressSpace) vm
  | alreadyMapped {cell : PageCell} : inUserSpace addr = true →
      vm.tables.contains pid = true → vm.cell? (.containing pid addr) = some cell →
      MapZero vm pid addr kind writable (.error .alreadyMapped) vm
  | noFrame {mid : VirtualMemory δ φ π} {error : MemoryError} : Mappable vm pid addr →
      Denied (vm.lock (.containing pid addr) none) mid error →
      MapZero vm pid addr kind writable (.error error) (mid.forget (.containing pid addr))
  /-- The tables do not take the page, and its frame goes back. -/
  | abandoned {mid : VirtualMemory δ φ π} {number : FrameNumber} {frame : Frame}
      {mapped : AddressSpaces.Mapped} {error : MemoryError} (placement : φ) :
      Mappable vm pid addr →
      Granted (vm.lock (.containing pid addr) none) mid number frame placement →
      mid.tables.map pid (UserPage.containing pid addr).base number writable = .ok mapped →
      (∀ tables, mapped ≠ .done tables) → error.isInternal = false →
      MapZero vm pid addr kind writable (.error error)
        ({ mid with
            placement
            pool := mid.pool.giveBack number frame (.containing pid addr) frame.contents }.forget
          (.containing pid addr))
  | made {mid : VirtualMemory δ φ π} {number : FrameNumber} {frame : Frame}
      {tables : AddressSpaces} (placement : φ) :
      Mappable vm pid addr →
      Granted (vm.lock (.containing pid addr) none) mid number frame placement →
      mid.tables.map pid (UserPage.containing pid addr).base number writable =
        .ok (.done tables) →
      MapZero vm pid addr kind writable (.ok ())
        ({ mid with
            placement, tables
            pool := mid.pool.occupy number frame (.containing pid addr) (.zero pageSize) }.putPage
          (.containing pid addr)
          ⟨.containing pid addr, writable, kind, .resident number⟩)

theorem obtainFrame_cases {owner : UserPage} {result : Except MemoryError FrameNumber}
    (h : vm.obtainFrame owner = .ok (result, after)) :
    (∃ error, result = .error error ∧ Denied vm after error) ∨
      ∃ number frame mid placement, result = .ok number ∧
        Granted vm mid number frame placement ∧
        after = { mid with pool := mid.pool.take number frame owner, placement } := by
  obtain ⟨mid, hrounds, hobtained⟩ := obtainFrameWithin_cases h
  cases hobtained with
  | failed halloc hevict => exact .inl ⟨_, rfl, .notEvicted hrounds halloc hevict⟩
  | taken hplace hframe hfree =>
      exact .inr ⟨_, _, mid, _, rfl, ⟨hrounds, hplace, hframe, hfree⟩, rfl⟩

omit [BlockDriver δ] [Placement φ] [Replacement π] in
theorem abandon_eq_ok {error : MemoryError} {result : Except MemoryError Unit} {placement : φ}
    {owner : UserPage} (hframe : mid.pool.frame? number = some frame)
    (h : { mid with pool := mid.pool.take number frame owner, placement }.abandon key number
      error = .ok (result, after)) :
    result = .error error ∧ after =
      { mid with placement, pool := mid.pool.giveBack number frame owner frame.contents }.forget
        key := by
  obtain ⟨pool, hfree, h⟩ := bind_eq_ok.1 h
  cases h
  obtain ⟨found, hfound, -, rfl⟩ := FramePool.free_eq_ok hfree
  cases (FramePool.frame?_take_self hframe owner).symm.trans hfound
  exact ⟨rfl, rfl⟩

theorem mapZero_cases {pid : Pid} {addr : Nat} {kind : PageKind} {writable : Bool}
    {result : Except MemoryError Unit}
    (h : vm.mapZero pid addr kind writable = .ok (result, after)) :
    MapZero vm pid addr kind writable result after := by
  simp only [mapZero] at h
  split at h
  · rename_i huser
    cases h
    exact .notUserAddress (by simpa using huser)
  rename_i huser
  have huser : inUserSpace addr = true := by simpa using huser
  split at h
  · rename_i hspace
    cases h
    exact .noAddressSpace huser (by simpa using hspace)
  rename_i hspace
  have hspace : vm.tables.contains pid = true := by simpa using hspace
  split at h
  · rename_i hmapped
    cases h
    rw [Std.ExtTreeMap.contains_eq_isSome_getElem?] at hmapped
    obtain ⟨cell, hcell⟩ := Option.isSome_iff_exists.1 hmapped
    exact .alreadyMapped huser hspace hcell
  rename_i hvacant
  have hmappable : Mappable vm pid addr := ⟨huser, hspace, by simpa [cell?] using hvacant⟩
  obtain ⟨⟨found, obtained⟩, hobtain, h⟩ := bind_eq_ok.1 h
  change (vm.lock _ none).obtainFrame _ = _ at hobtain
  obtain ⟨error, rfl, hdenied⟩ | ⟨number, frame, mid, placement, rfl, hgranted, rfl⟩ :=
    obtainFrame_cases hobtain
  · cases h
    exact .noFrame hmappable hdenied
  · obtain ⟨mapped, hmap, h⟩ := bind_eq_ok.1 h
    cases mapped with
    | noSpace =>
        obtain ⟨rfl, rfl⟩ := abandon_eq_ok hgranted.frame?_eq h
        have habandoned : MapZero vm pid addr kind writable (.error .noAddressSpace) _ :=
          .abandoned placement hmappable hgranted hmap (by simp) rfl
        exact habandoned
    | alreadyPresent =>
        obtain ⟨rfl, rfl⟩ := abandon_eq_ok hgranted.frame?_eq h
        have habandoned : MapZero vm pid addr kind writable (.error .alreadyMapped) _ :=
          .abandoned placement hmappable hgranted hmap (by simp) rfl
        exact habandoned
    | done tables =>
        obtain ⟨filled, hset, h⟩ := bind_eq_ok.1 h
        obtain ⟨pool, hunpin, h⟩ := bind_eq_ok.1 h
        cases h
        obtain ⟨found, hfound, rfl⟩ := FramePool.setContents_eq_ok hset
        have htaken := FramePool.frame?_take_self hgranted.frame?_eq (.containing pid addr)
        cases htaken.symm.trans hfound
        obtain ⟨found, hfound, hpool⟩ := FramePool.unpin_eq_ok hunpin
        cases (FramePool.frame?_replace_self htaken _).symm.trans hfound
        obtain rfl : pool = mid.pool.occupy number frame (.containing pid addr) (.zero pageSize) :=
          hpool.trans (FramePool.replace_replace _ _ _ _)
        have hmade : MapZero vm pid addr kind writable (.ok ()) _ :=
          .made placement hmappable hgranted hmap
        exact hmade

end Mapping

/-- What becomes of the machine when the page of `key` is discarded. -/
inductive Discarded (vm : VirtualMemory δ φ π) (key : UserPage) : VirtualMemory δ φ π → Prop where
  | unfinished : vm.cell? key = some ⟨false, none⟩ → Discarded vm key (vm.forget key)
  | destroyed {page : AnonPage} {store : PageStore δ} : vm.cell? key = some ⟨false, some page⟩ →
      page.Destroyed { vm.toPageStore with tables := vm.tables.unmap key.owner key.base } store →
      Discarded vm key ({ vm with toPageStore := store }.forget key)

inductive DiscardedAll : VirtualMemory δ φ π → List UserPage → VirtualMemory δ φ π → Prop where
  | nil {vm : VirtualMemory δ φ π} : DiscardedAll vm [] vm
  | cons {vm mid after : VirtualMemory δ φ π} {key : UserPage} {keys : List UserPage} :
      Discarded vm key mid → DiscardedAll mid keys after → DiscardedAll vm (key :: keys) after

variable [BlockDriver δ]

theorem dispose_cases (hcell : vm.cell? key = some cell)
    (h : (vm.forget key).dispose key cell = .ok after) : Discarded vm key after := by
  obtain ⟨page?, hwait, hrest⟩ := bind_eq_ok.1 h
  obtain rfl := waitFor_eq_ok hwait
  cases page? with
  | none =>
      cases hrest
      exact .unfinished hcell
  | some page =>
      obtain ⟨store, hdestroy, hrest⟩ := bind_eq_ok.1 hrest
      cases hrest
      exact .destroyed hcell (AnonPage.destroy_cases hdestroy)

/-- Disposing of a page does not look at the map. -/
theorem dispose_withPages (vm : VirtualMemory δ φ π) (pages : Std.ExtTreeMap UserPage PageCell)
    (key : UserPage) (cell : PageCell) :
    { vm with pages }.dispose key cell =
      (vm.dispose key cell).map fun mid => { mid with pages } := by
  simp only [dispose]
  cases waitFor cell with
  | error halt => rfl
  | ok page? =>
      cases page? with
      | none => rfl
      | some page =>
          simp only [bind, Except.bind]
          cases page.destroy { vm.toPageStore with
            tables := vm.tables.unmap key.owner key.base } <;> rfl

theorem pages_of_dispose (h : vm.dispose key cell = .ok mid) : mid.pages = vm.pages := by
  obtain ⟨page?, -, h⟩ := bind_eq_ok.1 h
  cases page? with
  | none =>
      cases h
      rfl
  | some page =>
      obtain ⟨store, -, h⟩ := bind_eq_ok.1 h
      cases h
      rfl

/-- Pages that leave together leave one by one. -/
theorem disposeAll_cons {keys : List UserPage} (hnot : key ∉ keys)
    (hcell : vm.cell? key = some cell) :
    (vm.detachAll (key :: keys)).2.disposeAll (vm.detachAll (key :: keys)).1 =
      (vm.forget key).dispose key cell >>= fun mid =>
        (mid.detachAll keys).2.disposeAll (mid.detachAll keys).1 := by
  have hdoomed : (vm.detachAll (key :: keys)).1 =
      (key, cell) :: keys.filterMap fun other => (vm.cell? other).map (other, ·) := by
    rw [detachAll, List.filterMap_cons_some (by rw [hcell]; rfl)]
  have hrest : (vm.detachAll (key :: keys)).2 =
      { vm.forget key with pages := keys.foldl (·.erase ·) (vm.forget key).pages } := rfl
  rw [hdoomed, hrest, disposeAll, List.foldlM_cons]
  dsimp only
  rw [dispose_withPages]
  cases hdispose : (vm.forget key).dispose key cell with
  | error halt => rfl
  | ok mid =>
      have hpages := pages_of_dispose hdispose
      -- The other cells are still what they were when all were taken out.
      have hcells : ∀ other ∈ keys, vm.cell? other = mid.cell? other := by
        intro other hother
        have hne : key ≠ other := fun heq => hnot (heq ▸ hother)
        rw [cell?_congr hpages, cell?_forget, if_neg hne]
      have hsame : (mid.detachAll keys).1 =
          keys.filterMap fun other => (vm.cell? other).map (other, ·) := by
        refine List.filterMap_congr fun other hother => ?_
        rw [hcells other hother]
      change ({ mid with pages := keys.foldl (·.erase ·) (vm.forget key).pages }).disposeAll _ = _
      simp only [bind, Except.bind, hsame, ← hpages]
      rfl

theorem disposeAll_cases {keys : List UserPage} (hnodup : keys.Nodup)
    (hmem : ∀ key ∈ keys, vm.cell? key ≠ none)
    (h : (vm.detachAll keys).2.disposeAll (vm.detachAll keys).1 = .ok after) :
    DiscardedAll vm keys after := by
  induction keys generalizing vm with
  | nil =>
      cases h
      exact .nil
  | cons key keys ih =>
      obtain ⟨hnot, hnodup⟩ := List.nodup_cons.1 hnodup
      obtain ⟨cell, hcell⟩ := Option.ne_none_iff_exists'.1 (hmem key (by simp))
      rw [disposeAll_cons hnot hcell] at h
      obtain ⟨mid, hmid, h⟩ := bind_eq_ok.1 h
      refine .cons (dispose_cases hcell hmid) (ih hnodup ?_ h)
      intro other hother
      have hne : key ≠ other := fun heq => hnot (heq ▸ hother)
      rw [cell?_congr (pages_of_dispose hmid), cell?_forget, if_neg hne]
      exact hmem other (List.mem_cons_of_mem _ hother)

theorem unmap_cases {pid : Pid} {addr : Nat} {result : Except MemoryError Unit}
    (h : vm.unmap pid addr = .ok (result, after)) :
    (vm.cell? (.containing pid addr) = none ∧ result = .error .notMapped ∧ after = vm) ∨
      (result = .ok () ∧ Discarded vm (.containing pid addr) after) := by
  simp only [unmap, detach?] at h
  cases hcell : vm.cell? (.containing pid addr) with
  | none =>
      rw [hcell] at h
      cases h
      exact .inl ⟨rfl, rfl, rfl⟩
  | some cell =>
      rw [hcell] at h
      obtain ⟨_, hdispose, h⟩ := bind_eq_ok.1 h
      cases h
      exact .inr ⟨rfl, dispose_cases hcell hdispose⟩

/-- The address space goes after its pages, if there is one. -/
theorem destroySpace_cases {pid : Pid} {result : Except MemoryError Unit}
    (h : vm.destroySpace pid = .ok (result, after)) :
    ∃ mid, DiscardedAll vm (vm.keysOf pid) mid ∧
      ((mid.tables.contains pid = true ∧ result = .ok () ∧
          after = { mid with tables := mid.tables.destroy pid }) ∨
        (mid.tables.contains pid = false ∧ result = .error .noAddressSpace ∧ after = mid)) := by
  obtain ⟨mid, hdispose, h⟩ := bind_eq_ok.1 h
  refine ⟨mid, disposeAll_cases (nodup_keysOf pid) ?_ hdispose, ?_⟩
  · intro key hkey
    exact (mem_keysOf.1 hkey).2
  · split at h
    · rename_i hspace
      cases h
      exact .inl ⟨hspace, rfl, rfl⟩
    · rename_i hspace
      cases h
      exact .inr ⟨by simpa using hspace, rfl, rfl⟩

end DemandPaging.VirtualMemory
