import DemandPaging.BlockDevice.FaultyDisk
import DemandPaging.Proofs.VirtualMemory.Halting
import DemandPaging.Proofs.VirtualMemory.UserRange

/-!
The end of an address space is the end of its pages, one by one and in any order. What pages leave
behind that are gone depends on which pages they were and not on the order in which they went.
-/
namespace DemandPaging

/-- The frame after the pages of `keys` are gone. -/
def Frame.vacated (frame : Frame) (keys : List UserPage) : Frame :=
  if frame.owner.any (· ∈ keys) then ⟨.free, none, frame.contents⟩ else frame

theorem any_mem_singleton (owner? : Option UserPage) (key : UserPage) :
    owner?.any (· ∈ [key]) = decide (owner? = some key) := by
  cases owner? <;> simp

theorem Frame.vacated_of_owner {frame : Frame} {key : UserPage} (h : frame.owner = some key) :
    frame.vacated [key] = ⟨.free, none, frame.contents⟩ := by
  simp [vacated, h]

theorem Frame.vacated_of_ne {frame : Frame} {key : UserPage} (h : frame.owner ≠ some key) :
    frame.vacated [key] = frame := by
  rw [vacated, any_mem_singleton]
  simp [h]

namespace FramePool

variable {pool : FramePool} {number : FrameNumber} {frame : Frame} {key : UserPage}

/-- The frame of a page that is gone is released, and it is the only one of that page. -/
theorem frame?_release_eq (hframe : pool.frame? number = some frame)
    (howner : ∀ other, pool.owner? other = some key ↔ number = other) (other : FrameNumber) :
    (pool.release number frame).frame? other = (pool.frame? other).map (·.vacated [key]) := by
  have hkey := howner other
  rw [frame?_release hframe]
  by_cases heq : number = other
  · subst heq
    rw [owner?, hframe, Option.bind_some] at hkey
    rw [if_pos rfl, hframe, Option.map_some, Frame.vacated_of_owner (hkey.2 rfl)]
  · rw [if_neg heq]
    cases hfound : pool.frame? other with
    | none => rfl
    | some found =>
        rw [owner?, hfound, Option.bind_some] at hkey
        rw [Option.map_some, Frame.vacated_of_ne fun howned => heq (hkey.1 howned)]

theorem queue_release_eq (hnodup : pool.queue.Nodup)
    (howner : ∀ other, pool.owner? other = some key ↔ number = other) :
    (pool.release number frame).queue =
      pool.queue.filter fun other => !(pool.owner? other).any (· ∈ [key]) := by
  refine (hnodup.erase_eq_filter number).trans (List.filter_congr fun other _ => ?_)
  rw [any_mem_singleton]
  by_cases heq : number = other
  · simp [heq, (howner other).2 heq]
  · simp [Ne.symm heq, (howner other).not.2 heq]

end FramePool

namespace VirtualMemory

variable {δ φ π : Type} {vm mid after other : VirtualMemory δ φ π} {key : UserPage}
  {keys keys' : List UserPage} {pid : Pid}

section Vacating

/-- The pages of `keys` are gone, their frames and slots are free, and nothing else has changed. -/
structure Vacated (vm after : VirtualMemory δ φ π) (keys : List UserPage) : Prop where
  cell?_eq : ∀ key, after.cell? key = if key ∈ keys then none else vm.cell? key
  frame?_eq : ∀ number, after.pool.frame? number =
    (vm.pool.frame? number).map (·.vacated keys)
  queue_eq : after.pool.queue =
    vm.pool.queue.filter fun number => !(vm.pool.owner? number).any (· ∈ keys)
  count : after.pool.allocatedCount = after.pool.queue.length
  isTaken_iff : ∀ slot, after.swap.isTaken slot = true ↔ vm.swap.isTaken slot = true ∧
    ∀ key ∈ keys, vm.home? key ≠ some (.swappedOut slot)
  disk_eq : after.swap.disk = vm.swap.disk
  contains_eq : ∀ pid, after.tables.contains pid = vm.tables.contains pid
  entry?_eq : ∀ key : UserPage, after.tables.entry? key.owner key.base =
    if key ∈ keys then none else vm.tables.entry? key.owner key.base
  rest_eq : after = { vm with toPageStore := after.toPageStore, pages := after.pages }

/-- Nothing is left open. -/
theorem Vacated.unique (h : vm.Vacated after keys) (h' : vm.Vacated other keys')
    (hkeys : ∀ key, key ∈ keys ↔ key ∈ keys') : after = other := by
  have hframe (frame : Frame) : frame.vacated keys = frame.vacated keys' := by
    simp only [Frame.vacated, hkeys]
  have hpool : after.pool = other.pool := by
    have hframes : after.pool.frames = other.pool.frames := by
      refine Array.ext_getElem? fun index => ?_
      have hafter := h.frame?_eq ⟨index⟩
      have hother := h'.frame?_eq ⟨index⟩
      simp only [hframe] at hafter
      exact hafter.trans hother.symm
    have hqueue : after.pool.queue = other.pool.queue := by
      rw [h.queue_eq, h'.queue_eq]
      simp only [hkeys]
    have hcount : after.pool.allocatedCount = other.pool.allocatedCount := by
      rw [h.count, h'.count, hqueue]
    exact FramePool.ext hframes hqueue hcount
  have hswap : after.swap = other.swap := by
    have hdisk := h.disk_eq.trans h'.disk_eq.symm
    have htaken : after.swap.taken = other.swap.taken := by
      refine Std.ExtTreeSet.ext_mem fun index => ?_
      have hafter := h.isTaken_iff ⟨index⟩
      simp only [hkeys] at hafter
      exact hafter.trans (h'.isTaken_iff ⟨index⟩).symm
    exact SwapArea.ext hdisk htaken
  have htables : after.tables = other.tables := by
    refine AddressSpaces.ext fun pid => AddressSpaces.directory?_congr ?_ fun key _ => ?_
    · rw [h.contains_eq, h'.contains_eq]
    · rw [h.entry?_eq, h'.entry?_eq]
      simp only [hkeys]
  have hpages : after.pages = other.pages := by
    refine pages_eq_of_cell? fun key => ?_
    rw [h.cell?_eq, h'.cell?_eq]
    simp only [hkeys]
  have hstore : after.toPageStore = other.toPageStore := PageStore.ext hswap hpool htables
  rw [h.rest_eq, h'.rest_eq, hstore, hpages]

theorem Vacated.refl (hbooks : vm.Accounted none) : vm.Vacated vm [] := by
  refine ⟨?_, ?_, ?_, hbooks.sound.count, ?_, rfl, fun _ => rfl, ?_, rfl⟩
  · simp
  · simp [Frame.vacated]
  · simp
  · simp
  · simp

theorem Vacated.home?_eq (h : vm.Vacated after keys) (key : UserPage) :
    after.home? key = if key ∈ keys then none else vm.home? key := by
  rw [home?, held?, h.cell?_eq]
  split <;> rfl

theorem Vacated.owner?_eq (h : vm.Vacated after keys) (number : FrameNumber) :
    after.pool.owner? number =
      if (vm.pool.owner? number).any (· ∈ keys) then none else vm.pool.owner? number := by
  rw [FramePool.owner?, FramePool.owner?, h.frame?_eq]
  cases vm.pool.frame? number with
  | none => rfl
  | some frame =>
      simp only [Option.map_some, Option.bind_some, Frame.vacated]
      split <;> rfl

/-- Pages that go later are added to those that went before. -/
theorem Vacated.trans (h : vm.Vacated mid keys) (h' : mid.Vacated after keys') :
    vm.Vacated after (keys ++ keys') := by
  refine ⟨?_, ?_, ?_, h'.count, ?_, h'.disk_eq.trans h.disk_eq,
    fun pid => (h'.contains_eq pid).trans (h.contains_eq pid), ?_, ?_⟩
  · intro key
    rw [h'.cell?_eq, h.cell?_eq]
    by_cases hfirst : key ∈ keys <;> by_cases hlast : key ∈ keys' <;> simp [hfirst, hlast]
  · intro number
    rw [h'.frame?_eq, h.frame?_eq, Option.map_map]
    refine congrArg (Option.map · (vm.pool.frame? number)) (funext fun frame => ?_)
    cases howner : frame.owner with
    | none => simp [Frame.vacated, howner]
    | some key =>
        by_cases hfirst : key ∈ keys <;> by_cases hlast : key ∈ keys' <;>
          simp [Frame.vacated, howner, hfirst, hlast]
  · rw [h'.queue_eq, h.queue_eq, List.filter_filter]
    refine List.filter_congr fun number _ => ?_
    rw [h.owner?_eq]
    cases vm.pool.owner? number with
    | none => rfl
    | some key =>
        by_cases hfirst : key ∈ keys <;> by_cases hlast : key ∈ keys' <;> simp [hfirst, hlast]
  · intro slot
    rw [h'.isTaken_iff, h.isTaken_iff]
    constructor
    · rintro ⟨⟨htaken, hfirst⟩, hlast⟩
      refine ⟨htaken, fun key hkey => ?_⟩
      by_cases hmem : key ∈ keys
      · exact hfirst key hmem
      · have hafter := hlast key ((List.mem_append.1 hkey).resolve_left hmem)
        rwa [h.home?_eq, if_neg hmem] at hafter
    · rintro ⟨htaken, hall⟩
      refine ⟨⟨htaken, fun key hkey => hall key (List.mem_append_left _ hkey)⟩, fun key hkey => ?_⟩
      rw [h.home?_eq]
      split
      · exact nofun
      · exact hall key (List.mem_append_right _ hkey)
  · intro key
    rw [h'.entry?_eq, h.entry?_eq]
    by_cases hfirst : key ∈ keys <;> by_cases hlast : key ∈ keys' <;> simp [hfirst, hlast]
  · rw [h'.rest_eq, h.rest_eq]

theorem Discarded.vacated (hcases : Discarded vm key after) (hbooks : vm.Accounted none) :
    vm.Vacated after [key] := by
  have hcell (other : UserPage) : after.cell? other = if other ∈ [key] then none
      else vm.cell? other := by
    simp only [hcases.cell?_eq, List.mem_singleton, eq_comm]
  have hafter := hcases.accounted hbooks
  cases hcases with
  | unfinished hnone => exact absurd hnone hbooks.cell?_ne_unfinished
  | destroyed hheld hdestroyed =>
      rename_i page store
      have hheld := held?_of_cell? hheld
      have hentry (other : UserPage) :
          AddressSpaces.entry? (vm.tables.unmap key.owner key.base) other.owner other.base =
            if other ∈ [key] then none else vm.tables.entry? other.owner other.base := by
        simp only [AddressSpaces.entry?_unmap, UserPage.containing_base, List.mem_singleton,
          eq_comm]
      cases hdestroyed with
      | resident hlocation hframe hallocated =>
          rename_i number frame
          have hhome := home?_of_location hheld hlocation
          -- Among all frames only this one belongs to the page.
          have howner (other : FrameNumber) : vm.pool.owner? other = some key ↔ number = other := by
            rw [hbooks.owner?_eq_some, hhome, Option.some.injEq, PageLocation.resident.injEq]
          refine ⟨hcell, FramePool.frame?_release_eq hframe howner,
            FramePool.queue_release_eq hbooks.sound.nodup howner, hafter.sound.count, ?_, rfl,
            fun pid => AddressSpaces.contains_unmap _ _ pid _, hentry, rfl⟩
          intro slot
          simp [forget, SwapArea.isTaken, hhome]
      | swappedOut hlocation htaken =>
          rename_i slot
          have hhome := home?_of_location hheld hlocation
          have hnone (number : FrameNumber) : vm.pool.owner? number ≠ some key := by
            rw [Ne, hbooks.owner?_eq_some, hhome]
            simp
          refine ⟨hcell, ?_, ?_, hafter.sound.count, ?_, rfl,
            fun pid => AddressSpaces.contains_unmap _ _ pid _, hentry, rfl⟩
          · intro number
            have hnone := hnone number
            cases hframe : vm.pool.frame? number with
            | none => exact hframe
            | some frame =>
                rw [FramePool.owner?, hframe, Option.bind_some] at hnone
                rw [Option.map_some, Frame.vacated_of_ne hnone]
                exact hframe
          · refine (List.filter_eq_self.2 fun number _ => ?_).symm
            rw [any_mem_singleton]
            simp [hnone]
          · intro other
            simp [forget, SwapArea.isTaken_erase, hhome, and_comm]

theorem DiscardedAll.vacated (hcases : DiscardedAll vm keys after) (hbooks : vm.Accounted none) :
    vm.Vacated after keys := by
  induction hcases with
  | nil => exact .refl hbooks
  | cons hfirst _ ih => exact (hfirst.vacated hbooks).trans (ih (hfirst.accounted hbooks))

end Vacating

section Unmapping

variable [BlockDriver δ]

/-- The pages at these addresses are unmapped one after the other, and none of the requests is
turned down. -/
inductive UnmapsAll (pid : Pid) :
    VirtualMemory δ φ π → List Nat → VirtualMemory δ φ π → Prop where
  | nil {vm : VirtualMemory δ φ π} : UnmapsAll pid vm [] vm
  | cons {vm mid after : VirtualMemory δ φ π} {addr : Nat} {addrs : List Nat} :
      vm.unmap pid addr = .ok (.ok (), mid) → UnmapsAll pid mid addrs after →
      UnmapsAll pid vm (addr :: addrs) after

theorem UnmapsAll.discardedAll {addrs : List Nat} (h : UnmapsAll pid vm addrs after) :
    DiscardedAll vm (addrs.map (.containing pid)) after := by
  induction h with
  | nil => exact .nil
  | cons hunmap _ ih =>
      obtain ⟨-, herror, -⟩ | ⟨-, hdiscarded⟩ := unmap_cases hunmap
      · cases herror
      · exact .cons hdiscarded ih

/-- A page that is mapped can be unmapped. -/
theorem Accounted.exists_unmap (hbooks : vm.Accounted none) {addr : Nat}
    (hmapped : vm.cell? (.containing pid addr) ≠ none) :
    ∃ after, vm.unmap pid addr = .ok (.ok (), after) := by
  obtain ⟨⟨result, after⟩, hunmap⟩ := (hbooks.haltsOnly_unmap pid addr).exists_ok
  obtain ⟨hnone, -, -⟩ | ⟨rfl, -⟩ := unmap_cases hunmap
  · exact absurd hnone hmapped
  · exact ⟨after, hunmap⟩

theorem Accounted.exists_unmapsAll (hbooks : vm.Accounted none) {addrs : List Nat}
    (hnodup : (addrs.map (UserPage.containing pid)).Nodup)
    (hmapped : ∀ addr ∈ addrs, vm.cell? (.containing pid addr) ≠ none) :
    ∃ after, UnmapsAll pid vm addrs after := by
  induction addrs generalizing vm with
  | nil => exact ⟨vm, .nil⟩
  | cons addr addrs ih =>
      obtain ⟨hnot, hnodup⟩ := List.nodup_cons.1 hnodup
      obtain ⟨mid, hunmap⟩ := hbooks.exists_unmap (hmapped addr (by simp))
      obtain ⟨-, herror, -⟩ | ⟨-, hdiscarded⟩ := unmap_cases hunmap
      · cases herror
      have hrest : ∀ other ∈ addrs, mid.cell? (.containing pid other) ≠ none := by
        intro other hother
        have hne : UserPage.containing pid addr ≠ .containing pid other :=
          fun heq => hnot (heq ▸ List.mem_map_of_mem hother)
        rw [hdiscarded.cell?_eq, if_neg hne]
        exact hmapped other (List.mem_cons_of_mem _ hother)
      obtain ⟨after, hunmaps⟩ := ih (hdiscarded.accounted hbooks) hnodup hrest
      exact ⟨after, .cons hunmap hunmaps⟩

end Unmapping

section Space

/-- The address space of `pid` is gone with its pages. It is as if they had been unmapped before, in
whatever order, and nothing else has changed. -/
structure TornDown [BlockDriver δ] (vm after : VirtualMemory δ φ π) (pid : Pid) : Prop where
  unmapsAll : ∀ {addrs : List Nat}, (addrs.map (UserPage.containing pid)).Nodup →
    (∀ key, key ∈ addrs.map (UserPage.containing pid) ↔
      key.owner = pid ∧ vm.cell? key ≠ none) →
    ∃ mid, UnmapsAll pid vm addrs mid ∧ after = { mid with tables := mid.tables.destroy pid }
  cell?_eq : ∀ key, after.cell? key = if key.owner = pid then none else vm.cell? key
  frame?_freed : ∀ {number frame key}, vm.pool.frame? number = some frame →
    frame.owner = some key → key.owner = pid →
    after.pool.frame? number = some ⟨.free, none, frame.contents⟩
  frame?_kept : ∀ {number}, (∀ key ∈ vm.pool.owner? number, key.owner ≠ pid) →
    after.pool.frame? number = vm.pool.frame? number
  queue_eq : after.pool.queue =
    vm.pool.queue.filter fun number => !(vm.pool.owner? number).any (·.owner = pid)
  isTaken_iff : ∀ slot, after.swap.isTaken slot = true ↔ vm.swap.isTaken slot = true ∧
    ∀ key, key.owner = pid → vm.home? key ≠ some (.swappedOut slot)
  disk_eq : after.swap.disk = vm.swap.disk
  directory?_eq : ∀ other, after.tables.directory? other =
    if pid = other then none else vm.tables.directory? other
  rest_eq : after = { vm with toPageStore := after.toPageStore, pages := after.pages }

theorem Accounted.mem_keysOf_of_owner? (hbooks : vm.Accounted none) {number : FrameNumber}
    (howner : vm.pool.owner? number = some key) : key ∈ vm.keysOf pid ↔ key.owner = pid := by
  rw [mem_keysOf, and_iff_left]
  exact mem_keys.1 (mem_keys_of_home? (hbooks.owner?_eq_some.1 howner))

/-- What a destroyed address space leaves behind. -/
theorem Vacated.tornDown [BlockDriver δ] (h : vm.Vacated mid (vm.keysOf pid))
    (hbooks : vm.Accounted none) :
    vm.TornDown { mid with tables := mid.tables.destroy pid } pid := by
  refine ⟨?_, ?_, ?_, ?_, ?_, ?_, h.disk_eq, ?_, ?_⟩
  · intro addrs hnodup hmem
    obtain ⟨other, hunmaps⟩ := hbooks.exists_unmapsAll hnodup fun addr haddr =>
      ((hmem _).1 (List.mem_map_of_mem haddr)).2
    have hother := hunmaps.discardedAll.vacated hbooks
    refine ⟨other, hunmaps, ?_⟩
    rw [h.unique hother fun key => mem_keysOf.trans (hmem key).symm]
  · intro key
    refine (h.cell?_eq key).trans ?_
    simp only [mem_keysOf]
    by_cases howner : key.owner = pid
    · by_cases hcell : vm.cell? key = none <;> simp [howner, hcell]
    · simp [howner]
  · intro number frame key hframe howner hpid
    have hkey : vm.pool.owner? number = some key := by
      rw [FramePool.owner?, hframe, Option.bind_some, howner]
    have hmem : key ∈ vm.keysOf pid := (hbooks.mem_keysOf_of_owner? hkey).2 hpid
    refine (h.frame?_eq number).trans ?_
    simp [hframe, Frame.vacated, howner, hmem]
  · intro number hkept
    refine (h.frame?_eq number).trans ?_
    cases hframe : vm.pool.frame? number with
    | none => rfl
    | some frame =>
        rw [FramePool.owner?, hframe, Option.bind_some] at hkept
        cases howner : frame.owner with
        | none => simp [Frame.vacated, howner]
        | some key =>
            have hnot : key ∉ vm.keysOf pid :=
              fun hmem => hkept key howner (mem_keysOf.1 hmem).1
            simp [Frame.vacated, howner, hnot]
  · refine h.queue_eq.trans (List.filter_congr fun number _ => ?_)
    cases howner : vm.pool.owner? number with
    | none => rfl
    | some key => simp [hbooks.mem_keysOf_of_owner? howner]
  · intro slot
    refine (h.isTaken_iff slot).trans (and_congr_right fun _ => forall_congr' fun key => ?_)
    rw [mem_keysOf]
    constructor
    · intro hnot hpid hhome
      exact hnot ⟨hpid, mem_keys.1 (mem_keys_of_home? hhome)⟩ hhome
    · intro hnot hmem
      exact hnot hmem.1
  · intro other
    refine (AddressSpaces.directory?_destroy mid.tables pid other).trans ?_
    split
    · rfl
    · rename_i hne
      refine AddressSpaces.directory?_congr (h.contains_eq other) fun key howner => ?_
      rw [h.entry?_eq, if_neg]
      intro hmem
      exact hne ((mem_keysOf.1 hmem).1.symm.trans howner)
  · rw [h.rest_eq]

/-- With a standard policy, to destroy an address space is to unmap its pages and to drop its
directory, and without one nothing happens. Its pages are a range of the page map. -/
theorem teardown_unmaps_all [BlockDriver δ] [Placement φ] {count stackLimit : Nat}
    {pool : FramePool} {disk : BlockDevice δ} {placement : φ} {policy : StandardReplacement}
    {trace : List (MemoryCall × MemoryReply)} {vm : VirtualMemory δ φ StandardReplacement}
    (hpool : FramePool.new count = .ok pool)
    (hrun : Run (fun _ _ => True) (new (.new disk) pool placement policy stackLimit) trace vm)
    (pid : Pid) :
    (vm.tables.contains pid = true →
      ∃ after, vm.destroySpace pid = .ok (.ok (), after) ∧ vm.TornDown after pid) ∧
    (vm.tables.contains pid = false →
      vm.destroySpace pid = .ok (.error .noAddressSpace, vm)) ∧
    ∀ last, userLimit ≤ last + 1 →
      vm.keysOf pid = vm.keysBetween (.containing pid 0) (.containing pid last) := by
  have hnew := accounted_new disk hpool placement policy stackLimit
  have hbooks := hrun.accounted hnew
  have hcoherent := hrun.coherent hnew (coherent_new disk pool placement policy stackLimit)
  have huser := hrun.userOnly (userOnly_new _ pool placement policy stackLimit)
  obtain ⟨⟨result, after⟩, hcall⟩ := (hbooks.haltsOnly_destroySpace pid).exists_ok
  obtain ⟨mid, hdiscarded, hend⟩ := destroySpace_cases hcall
  have hvacated := hdiscarded.vacated hbooks
  refine ⟨fun hspace => ?_, fun hspace => ?_, fun last hlast => huser.keysOf_eq pid hlast⟩
  · obtain ⟨-, rfl, rfl⟩ | ⟨hnone, -, -⟩ := hend
    · exact ⟨_, hcall, hvacated.tornDown hbooks⟩
    · rw [hvacated.contains_eq, hspace] at hnone
      cases hnone
  · obtain ⟨hsome, -, -⟩ | ⟨-, rfl, rfl⟩ := hend
    · rw [hvacated.contains_eq, hspace] at hsome
      cases hsome
    · rw [hcoherent.keysOf_eq_nil hbooks hspace] at hdiscarded
      cases hdiscarded
      exact hcall

/-- A machine with a single frame and two slots. -/
def crowded : VirtualMemory FaultyDisk StandardPlacement StandardReplacement :=
  new (.new ⟨0, "hda", .swap, 16, .sound (.new 16), 0, 0⟩) ⟨.replicate 1 .blank, [], 0⟩
    (.ofName .nextFit) (.ofName .clock) 0

/-- Process 0 has a page in the frame and another in a slot, process 65535 has one in the other
slot. -/
theorem teardown_unmaps_all_crowded :
    ∃ trace vm, trace.map (·.1) = [.createSpace 0, .createSpace 65535, .mapZero 0 0 .ordinary true,
        .mapZero 65535 0 .ordinary true, .mapZero 0 4096 .ordinary true] ∧
      Run (fun _ _ => True) crowded trace vm ∧
      (∃ after, vm.destroySpace 0 = .ok (.ok (), after) ∧ vm.TornDown after 0) ∧
      vm.destroySpace 1 = .ok (.error .noAddressSpace, vm) ∧
      vm.keysOf 65535 = vm.keysBetween (.containing 65535 0) (.containing 65535 0xFFFFFFFF) := by
  have hspaces : (crowded.run [.createSpace 0, .createSpace 65535, .mapZero 0 0 .ordinary true,
      .mapZero 65535 0 .ordinary true, .mapZero 0 4096 .ordinary true]).map
        (fun outcome => (outcome.2.tables.contains 0, outcome.2.tables.contains 1)) =
      .ok (true, false) := by
    decide +kernel
  obtain ⟨⟨replies, vm⟩, hcalls, hspaces⟩ := map_eq_ok.1 hspaces
  obtain ⟨trace, hnames, hrun⟩ := exists_run_of_run (fun _ _ => True) (fun _ => trivial) hcalls
  simp only [Prod.mk.injEq] at hspaces
  have hpool : FramePool.new 1 = .ok ⟨.replicate 1 .blank, [], 0⟩ := rfl
  exact ⟨trace, vm, hnames, hrun, (teardown_unmaps_all hpool hrun 0).1 hspaces.1,
    (teardown_unmaps_all hpool hrun 1).2.1 hspaces.2,
    (teardown_unmaps_all hpool hrun 65535).2.2 _ (by decide)⟩

end Space

end VirtualMemory

end DemandPaging
