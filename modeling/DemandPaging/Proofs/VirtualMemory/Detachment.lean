import DemandPaging.Proofs.VirtualMemory.Ownership
import DemandPaging.Proofs.VirtualMemory.Translation

/-!
Calls that come between the two halves of an unmapping. The page has left the map then, but not yet
its frame or slot. Nothing is leaked and no translation leads astray, but the entry of a page that
was mapped to the same key meanwhile goes with the old page.
-/
namespace DemandPaging.VirtualMemory

variable {δ φ π : Type} {vm mid after parted : VirtualMemory δ φ π} {key other : UserPage}
  {cell : PageCell} {page : AnonPage}

theorem detach?_eq_some (h : vm.detach? key = some (cell, parted)) :
    vm.cell? key = some cell ∧ parted = vm.forget key := by
  obtain ⟨found, hfound, heq⟩ := Option.map_eq_some_iff.1 h
  cases heq
  exact ⟨hfound, rfl⟩

theorem strays_some {location : PageLocation} :
    Strays (some page) key location ↔ page.key = key ∧ page.location = location := by
  simp [Strays]

/-- Two pages do not share a home. -/
theorem Accounted.eq_of_home? {busy : Option UserPage} {adrift : Option AnonPage}
    {location : PageLocation} (h : vm.Accounted busy adrift) (hkey : vm.home? key = some location)
    (hother : vm.home? other = some location) : key = other := by
  cases location with
  | resident number => exact h.eq_of_resident hkey hother
  | swappedOut slot => exact h.alone hkey hother

/-- A page that leaves the map keeps its frame or slot. -/
theorem Accounted.forget (h : vm.Accounted none)
    (hcell : vm.cell? key = some ⟨false, some page⟩) :
    (vm.forget key).Accounted none (some page) := by
  have hheld := held?_of_cell? hcell
  have hkeyed : page.key = key := h.keyed hheld
  have hhome (other : UserPage) : (vm.forget key).home? other =
      if key = other then none else vm.home? other := by
    rw [home?, held?_forget]
    split <;> rfl
  -- Out of the map the page lives on as the one adrift.
  have hlives (other : UserPage) (location : PageLocation) :
      (vm.forget key).Lives (some page) other location ↔ vm.home? other = some location := by
    rw [Lives, hhome, strays_some, hkeyed]
    by_cases heq : key = other
    · subst heq
      simp [home?_of_held? hheld]
    · simp [heq]
  refine ⟨h.sound, h.unpinned, h.bounded, ?_, ?_, ?_, ?_, ?_, ?_⟩
  · intro other cell hother hidle
    rw [cell?_forget] at hother
    split at hother
    · cases hother
    · exact h.finished hother hidle
  · intro other page hother
    rw [held?_forget] at hother
    split at hother
    · cases hother
    · exact h.keyed hother
  · intro number other
    exact h.owner?_eq_some.trans (hlives other _).symm
  · intro slot
    exact h.isTaken_iff.trans (exists_congr fun other => (hlives other _).symm)
  · intro slot a b ha hb
    rw [hhome] at ha hb
    split at ha
    · cases ha
    · split at hb
      · cases hb
      · exact h.alone ha hb
  · intro other stray location hstray hother
    obtain ⟨-, hlocation⟩ := strays_some.1 hstray
    rw [hhome] at hother
    split at hother
    · cases hother
    · rename_i hne
      exact hne (h.eq_of_home? (home?_of_location hheld hlocation) hother)

/-- The entry of a page that leaves the map stays behind. -/
theorem Coherent.forget (h : vm.Coherent) (hcell : vm.cell? key = some ⟨false, some page⟩)
    (hkeyed : page.key = key) : (vm.forget key).Coherent (some page) := by
  constructor
  · intro other
    rw [held?_forget]
    split
    · rename_i heq
      subst heq
      have hfits := h.fits key
      rw [held?_of_cell? hcell] at hfits
      exact .stray rfl hkeyed hfits
    · exact .held (h.fits other)
  · intro other page hother
    rw [held?_forget] at hother
    split at hother
    · cases hother
    · exact h.spaced hother

/-- The page that was adrift has given its home back. -/
theorem Accounted.settle (h : vm.Accounted none (some page)) (hsound : after.pool.Sound)
    (hunpinned : after.pool.Unpinned) (hbounded : after.swap.Bounded)
    (hpages : after.pages = vm.pages)
    (howner : ∀ number, after.pool.owner? number =
      if page.location = .resident number then none else vm.pool.owner? number)
    (htaken : ∀ slot, after.swap.isTaken slot = true ↔
      vm.swap.isTaken slot = true ∧ page.location ≠ .swappedOut slot) :
    after.Accounted none := by
  have hcell (key : UserPage) : after.cell? key = vm.cell? key := cell?_congr hpages key
  have hheld (key : UserPage) : after.held? key = vm.held? key := held?_congr (hcell key)
  have hhome (key : UserPage) : after.home? key = vm.home? key := home?_congr (hheld key)
  -- What is in the map is what lives, without the page that was adrift.
  have hlives (key : UserPage) (location : PageLocation) : vm.home? key = some location ↔
      vm.Lives (some page) key location ∧ page.location ≠ location := by
    rw [Lives, strays_some]
    constructor
    · intro hat
      exact ⟨.inl hat, fun hsame => h.apart (strays_some.2 ⟨rfl, hsame⟩) hat⟩
    · rintro ⟨hat, hne⟩
      exact hat.resolve_right fun hstray => hne hstray.2
  refine ⟨hsound, hunpinned, hbounded, ?_, ?_, ?_, ?_, ?_, ?_⟩
  · intro key cell hfound hidle
    exact h.finished ((hcell key).symm.trans hfound) hidle
  · intro key page hfound
    exact h.keyed ((hheld key).symm.trans hfound)
  · intro number key
    rw [howner, lives_none, hhome, hlives, ← h.owner?_iff_lives]
    split <;> simp [*]
  · intro slot
    rw [htaken, h.isTaken_iff_lives]
    simp only [lives_none, hhome, hlives, exists_and_right]
  · intro slot a b ha hb
    rw [hhome] at ha hb
    exact h.alone ha hb
  · rintro key other location ⟨stray, hstray, -⟩
    cases hstray

/-- What disposing of a page comes to that is out of the map. -/
structure Disposed (vm : VirtualMemory δ φ π) (page : AnonPage) (after : VirtualMemory δ φ π) :
    Prop where
  accounted : after.Accounted none
  pages : after.pages = vm.pages
  tables : after.tables = vm.tables.unmap page.key.owner page.key.base

theorem Accounted.disposed (h : vm.Accounted none (some page)) {store : PageStore δ}
    (hdestroyed : page.Destroyed { vm.toPageStore with
      tables := vm.tables.unmap page.key.owner page.key.base } store) :
    vm.Disposed page { vm with toPageStore := store } := by
  cases hdestroyed with
  | resident hlocation hframe hallocated =>
      refine ⟨h.settle (h.sound.release hframe hallocated) (h.unpinned.release hframe) h.bounded rfl
        ?_ ?_, rfl, rfl⟩
      · intro other
        simp [FramePool.owner?_release hframe, hlocation]
      · intro slot
        simp [SwapArea.isTaken, hlocation]
  | swappedOut hlocation htaken =>
      refine ⟨h.settle h.sound h.unpinned (h.bounded.erase _ rfl) rfl ?_ ?_, rfl, rfl⟩
      · intro other
        simp [hlocation]
      · intro slot
        simp [SwapArea.isTaken_erase, hlocation, and_comm]

/-- Whatever has happened since it left the map, a page can be disposed of. -/
theorem Accounted.exists_disposed [BlockDriver δ] (h : vm.Accounted none (some page)) :
    ∃ after, vm.dispose page.key ⟨false, some page⟩ = .ok after ∧ vm.Disposed page after := by
  have hstrays {location : PageLocation} (hlocation : page.location = location) :
      vm.Lives (some page) page.key location := .inr (strays_some.2 ⟨rfl, hlocation⟩)
  have hdestroy : HaltsOnly (fun _ => False) (page.destroy { vm.toPageStore with
      tables := vm.tables.unmap page.key.owner page.key.base }) :=
    AnonPage.haltsOnly_destroy h.sound
      (fun number hlocation => h.frame_of_lives (hstrays hlocation))
      (fun slot hlocation => h.isTaken_iff_lives.2 ⟨_, hstrays hlocation⟩)
  obtain ⟨store, hstore⟩ := hdestroy.exists_ok
  refine ⟨{ vm with toPageStore := store }, ?_, h.disposed (AnonPage.destroy_cases hstore)⟩
  exact bind_eq_ok.2 ⟨_, rfl, bind_eq_ok.2 ⟨_, hstore, rfl⟩⟩

/-- Entries fit their pages, save that the page of `key` has none. -/
structure CoherentBut (vm : VirtualMemory δ φ π) (key : UserPage) : Prop where
  fits : ∀ other, key ≠ other → Fits (vm.held? other) (vm.tables.translation? other)
  translation?_eq : vm.tables.translation? key = none
  spaced : ∀ {other page}, vm.held? other = some page → vm.tables.contains other.owner = true

theorem Coherent.disposed (h : vm.Coherent (some page)) (hdisposed : vm.Disposed page after) :
    after.CoherentBut page.key := by
  have hheld (key : UserPage) : after.held? key = vm.held? key :=
    held?_congr (cell?_congr hdisposed.pages key)
  refine ⟨?_, ?_, ?_⟩
  · intro other hne
    have hkey := h.fitsKey other
    rw [hheld, hdisposed.tables, AddressSpaces.translation?_unmap, UserPage.containing_base,
      if_neg hne]
    generalize vm.held? other = page? at hkey ⊢
    cases hkey with
    | held hfits => exact hfits
    | stray hadrift hkeyed =>
        cases hadrift
        exact absurd hkeyed hne
  · rw [hdisposed.tables, AddressSpaces.translation?_unmap, UserPage.containing_base, if_pos rfl]
  · intro other page hfound
    rw [hdisposed.tables, AddressSpaces.contains_unmap]
    exact h.spaced ((hheld other).symm.trans hfound)

/-- Without a resident page of `key` there is no entry to be missed. -/
theorem CoherentBut.coherent (h : vm.CoherentBut key)
    (habsent : ∀ page ∈ vm.held? key, ∀ number, page.location ≠ .resident number) :
    vm.Coherent := by
  refine ⟨fun other => .held ?_, h.spaced⟩
  by_cases heq : key = other
  · subst heq
    rw [h.translation?_eq]
    cases hheld : vm.held? key with
    | none => exact .absent
    | some page =>
        cases hlocation : page.location with
        | resident number => exact absurd hlocation (habsent page hheld number)
        | swappedOut slot => exact .swappedOut hlocation nofun
  · exact h.fits other heq

/-- All is in order but for the page of `key`: where that is resident it has no translation. -/
structure Stripped (vm : VirtualMemory δ φ π) (key : UserPage) : Prop where
  owned : vm.Owned
  page_of_frame? : ∀ {pid addr number}, vm.tables.frame? pid addr = some number →
    ∃ page, vm.page? pid addr = .ok (some page) ∧ page.location = .resident number
  frame?_of_page : ∀ {pid addr page number}, key ≠ .containing pid addr →
    vm.page? pid addr = .ok (some page) → page.location = .resident number →
    vm.tables.frame? pid addr = some number
  entry?_eq : ∀ {pid addr}, key = .containing pid addr → vm.tables.entry? pid addr = none
  translated_iff : vm.Translated ↔
    ∀ page number, vm.held? key = some page → page.location ≠ .resident number

theorem CoherentBut.frame?_eq_none (h : vm.CoherentBut key) {pid : Pid} {addr : Nat}
    (hkey : key = .containing pid addr) : vm.tables.frame? pid addr = none := by
  rw [AddressSpaces.frame?_eq, ← hkey, h.translation?_eq]
  rfl

theorem CoherentBut.frame?_eq_some (h : vm.CoherentBut key) {pid : Pid} {addr : Nat}
    {number : FrameNumber} (hne : key ≠ .containing pid addr) :
    vm.tables.frame? pid addr = some number ↔
      vm.home? (.containing pid addr) = some (.resident number) := by
  rw [AddressSpaces.frame?_eq, home?]
  exact (h.fits _ hne).frame_eq_some

theorem CoherentBut.stripped (h : vm.CoherentBut key) (hbooks : vm.Accounted none) :
    vm.Stripped key := by
  refine ⟨hbooks.owned, ?_, ?_, ?_, ?_, ?_⟩
  · intro pid addr number hframe
    have hne : key ≠ .containing pid addr := by
      intro hkey
      rw [h.frame?_eq_none hkey] at hframe
      cases hframe
    simp only [hbooks.page?_eq_some]
    exact home?_eq_some.1 ((h.frame?_eq_some hne).1 hframe)
  · intro pid addr page number hne hpage hlocation
    rw [h.frame?_eq_some hne]
    exact home?_of_location (hbooks.page?_eq_some.1 hpage) hlocation
  · intro pid addr hkey
    have hnone := h.translation?_eq
    rw [hkey, AddressSpaces.translation?_containing] at hnone
    exact Option.map_eq_none_iff.1 hnone
  · intro htranslated page number hheld hlocation
    have hpage : vm.page? key.owner key.base = .ok (some page) := by
      rw [hbooks.page?_eq_some, UserPage.containing_base, hheld]
    have hframe := htranslated.frame?_eq_some.2 ⟨page, hpage, hlocation⟩
    rw [h.frame?_eq_none (UserPage.containing_base key).symm] at hframe
    cases hframe
  · intro habsent
    exact (h.coherent fun page hheld number => habsent page number hheld).translated hbooks

variable [BlockDriver δ] [Placement φ]

/-- A fault on a resident page that has no translation is taken to be resolved, so an access to it
tries for ever. -/
theorem CoherentBut.access_of_resident [Replacement π] {pid : Pid} {addr : Nat}
    {number : FrameNumber} (h : vm.CoherentBut (.containing pid addr))
    (hcell : vm.cell? (.containing pid addr) = some ⟨false, some page⟩)
    (hlocation : page.location = .resident number) (huser : inUserSpace addr = true) :
    vm.access pid addr false = .error .waitsForever := by
  have htouch : vm.touch? pid addr false = none := by
    have hspace : (vm.tables.directory? pid).isSome = true := h.spaced (held?_of_cell? hcell)
    obtain ⟨directory, hdirectory⟩ := Option.isSome_iff_exists.1 hspace
    have hframe := h.frame?_eq_none rfl
    rw [AddressSpaces.frame?, hdirectory, Option.bind_some] at hframe
    simp only [touch?, hdirectory, hframe]
  have hfault : vm.resolveFault pid ⟨addr, false, none⟩ = .ok (.ok (), vm) := by
    simp [resolveFault, huser, hcell, waitFor, bind, Except.bind, AnonPage.inMemory,
      AnonPage.frame?, hlocation, pure, Except.pure]
  rw [access, if_pos huser]
  simp only [accessWithin, htouch, hfault, bind, Except.bind]

/-- Calls between the two halves of an unmapping cannot keep the second one from coming to its end,
nor make it leak anything or leave a translation behind. It costs a page its translation, though,
that was mapped in the place of the old one. -/
theorem delayed_disposal {count stackLimit : Nat} {pool : FramePool} {disk : BlockDevice δ}
    {placement : φ} {policy : StandardReplacement}
    {vm parted mid : VirtualMemory δ φ StandardReplacement}
    {trace between : List (MemoryCall × MemoryReply)} (hpool : FramePool.new count = .ok pool)
    (hrun : Run (fun _ _ => True) (new (.new disk) pool placement policy stackLimit) trace vm)
    (hdetach : vm.detach? key = some (cell, parted))
    (hbetween : Run (fun _ _ => True) parted between mid) :
    ∃ after, mid.dispose key cell = .ok after ∧ after.Stripped key := by
  have hnew := accounted_new disk hpool placement policy stackLimit
  have hbooks := hrun.accounted hnew
  have hcoherent := hrun.coherent hnew (coherent_new disk pool placement policy stackLimit)
  obtain ⟨hcell, rfl⟩ := detach?_eq_some hdetach
  obtain ⟨page, rfl⟩ := hbooks.exists_page hcell
  have hkeyed : page.key = key := hbooks.keyed (held?_of_cell? hcell)
  subst hkeyed
  have hparted := hbooks.forget hcell
  have hmid := hbetween.accounted hparted
  obtain ⟨after, hdispose, hdisposed⟩ := hmid.exists_disposed
  have hbut := (hbetween.coherent hparted (hcoherent.forget hcell rfl)).disposed hdisposed
  exact ⟨after, hdispose, hbut.stripped hdisposed.accounted⟩

/-- Unmaps the page of `key`, with other calls between the two halves. -/
def unmapAround [Replacement π] (vm : VirtualMemory δ φ π) (key : UserPage)
    (calls : List MemoryCall) : Except Halt (Option (VirtualMemory δ φ π)) := do
  match vm.detach? key with
  | none => return none
  | some (cell, parted) =>
    let (_, mid) ← parted.run calls
    return some (← mid.dispose key cell)

/-- With no calls in between it is what unmapping does. -/
theorem unmap_eq_unmapAround [Replacement π] (vm : VirtualMemory δ φ π) (pid : Pid) (addr : Nat) :
    vm.unmap pid addr = (vm.unmapAround (.containing pid addr) []).map fun
      | none => (.error .notMapped, vm)
      | some after => (.ok (), after) := by
  simp only [unmap, unmapAround]
  cases vm.detach? (.containing pid addr) with
  | none => rfl
  | some detached =>
      obtain ⟨cell, parted⟩ := detached
      simp only [run, bind, Except.bind]
      cases parted.dispose (.containing pid addr) cell <;> rfl

theorem unmapAround_eq_some [Replacement π] {vm after : VirtualMemory δ φ π}
    {calls : List MemoryCall} (h : vm.unmapAround key calls = .ok (some after)) :
    ∃ cell parted between mid, vm.detach? key = some (cell, parted) ∧
      between.map (·.1) = calls ∧ Run (fun _ _ => True) parted between mid ∧
      mid.dispose key cell = .ok after := by
  simp only [unmapAround] at h
  split at h
  · cases h
  · rename_i cell parted hdetach
    obtain ⟨⟨replies, mid⟩, hrun, h⟩ := bind_eq_ok.1 h
    obtain ⟨_, hdispose, h⟩ := bind_eq_ok.1 h
    cases h
    obtain ⟨between, hcalls, hbetween⟩ :=
      exists_run_of_run (fun _ _ => True) (fun _ => trivial) hrun
    exact ⟨cell, parted, between, mid, hdetach, hcalls, hbetween, hdispose⟩

/-- A machine with a single frame and two slots. -/
def single : VirtualMemory MemoryDisk StandardPlacement StandardReplacement :=
  new (.new ⟨0, "hda", .swap, 16, .new 16, 0, 0⟩) ⟨.replicate 1 .blank, [], 0⟩
    (.ofName .firstFit) (.ofName .fifo) 0

/-- The new page is swapped out when the old one is disposed of, and nothing is amiss. -/
theorem delayed_disposal_single :
    ∃ trace vm cell parted between mid after,
      trace.map (·.1) = [.createSpace 1, .mapZero 1 0 .ordinary true, .evictPage] ∧
      Run (fun _ _ => True) single trace vm ∧
      vm.detach? (.containing 1 0) = some (cell, parted) ∧
      between.map (·.1) = [.mapZero 1 0 .ordinary true, .evictPage] ∧
      Run (fun _ _ => True) parted between mid ∧
      mid.dispose (.containing 1 0) cell = .ok after ∧ after.Stripped (.containing 1 0) := by
  have hok : ((single.run [.createSpace 1, .mapZero 1 0 .ordinary true, .evictPage]).bind
      fun outcome => (outcome.2.unmapAround (.containing 1 0)
        [.mapZero 1 0 .ordinary true, .evictPage]).map (·.isSome)) = .ok true := by
    decide +kernel
  obtain ⟨⟨replies, vm⟩, hcalls, hok⟩ := bind_eq_ok.1 hok
  obtain ⟨trace, hnames, hrun⟩ := exists_run_of_run (fun _ _ => True) (fun _ => trivial) hcalls
  have hpool : FramePool.new 1 = .ok ⟨.replicate 1 .blank, [], 0⟩ := rfl
  obtain ⟨_, hunmap, hsome⟩ := map_eq_ok.1 hok
  obtain ⟨after, rfl⟩ := Option.isSome_iff_exists.1 hsome
  obtain ⟨cell, parted, between, mid, hdetach, hbetween, hrest, hdispose⟩ :=
    unmapAround_eq_some hunmap
  obtain ⟨_, hsame, hstripped⟩ := delayed_disposal hpool hrun hdetach hrest
  cases hdispose.symm.trans hsame
  exact ⟨trace, vm, cell, parted, between, mid, after, hnames, hrun, hdetach, hbetween, hrest,
    hdispose, hstripped⟩

/-- A page that is mapped between the halves is resident and without a translation in the end, and
reading it does not end. -/
theorem not_translated_of_remapped :
    ∃ trace vm cell parted between mid after,
      trace.map (·.1) = [.createSpace 1, .mapZero 1 0 .ordinary true, .evictPage] ∧
      Run (fun _ _ => True) single trace vm ∧
      vm.detach? (.containing 1 0) = some (cell, parted) ∧
      between.map (·.1) = [.mapZero 1 0 .ordinary true] ∧
      Run (fun _ _ => True) parted between mid ∧
      mid.dispose (.containing 1 0) cell = .ok after ∧ ¬ after.Translated ∧
      after.copyFromUser 1 0 [0] = .error .waitsForever := by
  have hcomputed : ((single.run [.createSpace 1, .mapZero 1 0 .ordinary true, .evictPage]).bind
      fun outcome => (outcome.2.unmapAround (.containing 1 0) [.mapZero 1 0 .ordinary true]).bind
        fun after? => after?.elim (.error .waitsForever) fun after => .ok (after.tables.frame? 1 0,
          after.location? 1 0, (after.copyFromUser 1 0 [0]).map (·.1))) =
      .ok (none, .ok (some (.resident ⟨0⟩)), .error .waitsForever) := by
    decide +kernel
  obtain ⟨⟨replies, vm⟩, hcalls, hcomputed⟩ := bind_eq_ok.1 hcomputed
  obtain ⟨trace, hnames, hrun⟩ := exists_run_of_run (fun _ _ => True) (fun _ => trivial) hcalls
  obtain ⟨after?, hunmap, hcomputed⟩ := bind_eq_ok.1 hcomputed
  cases after? with
  | none => cases hcomputed
  | some after =>
      obtain ⟨cell, parted, between, mid, hdetach, hbetween, hrest, hdispose⟩ :=
        unmapAround_eq_some hunmap
      obtain ⟨hframe, hseen⟩ := Prod.mk.inj (Except.ok.inj hcomputed)
      obtain ⟨hlocation, hcopied⟩ := Prod.mk.inj hseen
      refine ⟨trace, vm, cell, parted, between, mid, after, hnames, hrun, hdetach, hbetween, hrest,
        hdispose, ?_, ?_⟩
      · intro htranslated
        obtain ⟨page?, hpage, hhome⟩ := map_eq_ok.1 hlocation
        obtain ⟨page, rfl, hresident⟩ := Option.map_eq_some_iff.1 hhome
        have hpresent := htranslated.frame?_eq_some.2 ⟨page, hpage, hresident⟩
        rw [hframe] at hpresent
        cases hpresent
      · exact map_eq_error.1 hcopied

end DemandPaging.VirtualMemory
