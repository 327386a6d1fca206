import DemandPaging.Proofs.Replacement
import DemandPaging.Proofs.VirtualMemory.Accounting

/-!
The page tables tell the same story as the page map. An entry that is present leads to the frame of
its page; one that is not is left over from the time before its page was swapped out. A page on its
way out may have left its entry behind.
-/
namespace DemandPaging.VirtualMemory

variable {δ φ π : Type} {vm mid after : VirtualMemory δ φ π} {busy : Option UserPage}
  {adrift : Option AnonPage} {key other : UserPage} {page : AnonPage} {number : FrameNumber}
  {frame : Frame}

/-- The entries that a page may have. -/
inductive Fits : Option AnonPage → Option Translation → Prop where
  | absent : Fits none none
  | resident {page : AnonPage} {number : FrameNumber} (dirty : Bool) :
      page.location = .resident number →
      Fits (some page) (some ⟨true, page.writable, dirty, number⟩)
  | swappedOut {page : AnonPage} {slot : SwapSlot} {meaning? : Option Translation} :
      page.location = .swappedOut slot →
      (∀ meaning ∈ meaning?, meaning.present = false ∧ meaning.dirty = false) →
      Fits (some page) meaning?

/-- The entries that a key may have. Where no page is in the map it may be that of a page adrift. -/
inductive FitsKey (adrift : Option AnonPage) (key : UserPage) :
    Option AnonPage → Option Translation → Prop where
  | held {page? : Option AnonPage} {meaning? : Option Translation} : Fits page? meaning? →
      FitsKey adrift key page? meaning?
  | stray {page : AnonPage} {meaning? : Option Translation} : adrift = some page →
      page.key = key → Fits (some page) meaning? → FitsKey adrift key none meaning?

/-- Every entry fits its key, and every page has an address space. -/
structure Coherent (vm : VirtualMemory δ φ π) (adrift : Option AnonPage := none) : Prop where
  fitsKey : ∀ key, FitsKey adrift key (vm.held? key) (vm.tables.translation? key)
  spaced : ∀ {key page}, vm.held? key = some page → vm.tables.contains key.owner = true

theorem Coherent.fits (h : vm.Coherent) (key : UserPage) :
    Fits (vm.held? key) (vm.tables.translation? key) := by
  have hkey := h.fitsKey key
  generalize vm.held? key = page? at hkey ⊢
  cases hkey with
  | held hfits => exact hfits
  | stray hadrift => cases hadrift

theorem Fits.exists_page {page? : Option AnonPage} {meaning : Translation}
    (h : Fits page? (some meaning)) : ∃ page, page? = some page := by
  cases h <;> exact ⟨_, rfl⟩

theorem Fits.of_present {page? : Option AnonPage} {meaning : Translation}
    (h : Fits page? (some meaning)) (hpresent : meaning.present = true) :
    ∃ page, page? = some page ∧ page.location = .resident meaning.frame ∧
      page.writable = meaning.writable := by
  cases h with
  | resident _ hlocation => exact ⟨_, rfl, hlocation, rfl⟩
  | swappedOut _ hmeaning =>
      rw [(hmeaning meaning rfl).1] at hpresent
      cases hpresent

theorem Fits.of_not_present {page? : Option AnonPage} {meaning : Translation}
    (h : Fits page? (some meaning)) (hpresent : meaning.present = false) :
    meaning.dirty = false ∧ ∃ page slot, page? = some page ∧ page.location = .swappedOut slot := by
  cases h with
  | resident => cases hpresent
  | swappedOut hlocation hmeaning => exact ⟨(hmeaning meaning rfl).2, _, _, rfl, hlocation⟩

/-- An entry that is present stays one of its page when the page is used. -/
theorem Fits.withDirty {page? : Option AnonPage} {meaning : Translation}
    (h : Fits page? (some meaning)) (hpresent : meaning.present = true) (dirty : Bool) :
    Fits page? (some { meaning with dirty }) := by
  obtain ⟨page, rfl, hlocation, hwritable⟩ := h.of_present hpresent
  rw [hpresent, ← hwritable]
  exact .resident dirty hlocation

theorem FitsKey.withDirty {page? : Option AnonPage} {meaning : Translation}
    (h : FitsKey adrift key page? (some meaning)) (hpresent : meaning.present = true)
    (dirty : Bool) : FitsKey adrift key page? (some { meaning with dirty }) := by
  cases h with
  | held hfits => exact .held (hfits.withDirty hpresent dirty)
  | stray hadrift hkey hfits => exact .stray hadrift hkey (hfits.withDirty hpresent dirty)

theorem Coherent.exists_resident (h : vm.Coherent) {meaning : Translation}
    (hmeaning : vm.tables.translation? key = some meaning) (hpresent : meaning.present = true) :
    ∃ page, vm.held? key = some page ∧ page.location = .resident meaning.frame ∧
      page.writable = meaning.writable := by
  have hfits := h.fits key
  rw [hmeaning] at hfits
  exact hfits.of_present hpresent

/-- Pages have an address space, so where there is none there is no page. -/
theorem Coherent.keysOf_eq_nil (h : vm.Coherent) (hbooks : vm.Accounted none) {pid : Pid}
    (hspace : vm.tables.contains pid = false) : vm.keysOf pid = [] := by
  rw [List.eq_nil_iff_forall_not_mem]
  intro key hkey
  obtain ⟨rfl, hmapped⟩ := mem_keysOf.1 hkey
  obtain ⟨cell, hcell⟩ := Option.ne_none_iff_exists'.1 hmapped
  obtain ⟨page, rfl⟩ := hbooks.exists_page hcell
  rw [h.spaced (held?_of_cell? hcell)] at hspace
  cases hspace

theorem Coherent.of_alike (h : vm.Coherent adrift) (hheld : ∀ key, after.held? key = vm.held? key)
    (htables : vm.tables.Alike after.tables) : after.Coherent adrift := by
  constructor
  · intro key
    rw [hheld, htables.translation?]
    exact h.fitsKey key
  · intro key page hpage
    rw [htables.contains]
    exact h.spaced ((hheld key).symm.trans hpage)

/-- Page and entry of `key` change together. -/
theorem Coherent.update (h : vm.Coherent adrift) (page? : Option AnonPage)
    (meaning? : Option Translation)
    (hheld : ∀ other, after.held? other = if key = other then page? else vm.held? other)
    (htranslation : ∀ other, after.tables.translation? other =
      if key = other then meaning? else vm.tables.translation? other)
    (hcontains : ∀ pid, after.tables.contains pid = vm.tables.contains pid)
    (hfits : FitsKey adrift key page? meaning?)
    (hspace : ∀ page ∈ page?, vm.tables.contains key.owner = true) : after.Coherent adrift := by
  constructor
  · intro other
    rw [hheld, htranslation]
    split
    · rename_i heq
      exact heq ▸ hfits
    · exact h.fitsKey other
  · intro other page hpage
    rw [hcontains]
    rw [hheld] at hpage
    split at hpage
    · rename_i heq
      rw [← heq]
      exact hspace page hpage
    · exact h.spaced hpage

/-- A key can be mapped whose page is not resident, be it in the map or adrift. -/
theorem Coherent.map_done (h : vm.Coherent adrift) (hsound : vm.pool.Sound)
    (hspace : vm.tables.contains key.owner = true)
    (habsent : ∀ page ∈ vm.held? key, ∀ number, page.location ≠ .resident number)
    (hstray : vm.held? key = none → ∀ page ∈ adrift, page.key ≠ key)
    (hframe : vm.pool.frame? number = some frame) {writable : Bool} {mapped : AddressSpaces.Mapped}
    (hmap : vm.tables.map key.owner key.base number writable = .ok mapped) :
    ∃ tables, mapped = .done tables := by
  obtain ⟨installed, hinstalled, hcases⟩ :=
    vm.tables.map_installed key (hsound.index_lt_limit hframe) writable
  cases hmap.symm.trans hinstalled
  cases hcases with
  | noSpace hnone =>
      rw [hspace] at hnone
      cases hnone
  | alreadyPresent _ hpresent =>
      obtain ⟨meaning, hmeaning, hpresent⟩ := (Option.any_eq_true _ _).1 hpresent
      have hkey := h.fitsKey key
      rw [hmeaning] at hkey
      generalize vm.held? key = page? at hkey habsent hstray
      cases hkey with
      | held hfits =>
          obtain ⟨page, rfl, hlocation, -⟩ := hfits.of_present hpresent
          exact absurd hlocation (habsent page rfl _)
      | stray hadrift hkey => exact absurd hkey (hstray rfl _ hadrift)
  | done => exact ⟨_, rfl⟩

theorem Discarded.coherent (hcases : Discarded vm key after) (hbooks : vm.Accounted none adrift)
    (h : vm.Coherent adrift) : after.Coherent adrift := by
  cases hcases with
  | unfinished hcell => exact absurd hcell hbooks.cell?_ne_unfinished
  | destroyed hcell hdestroyed =>
      rename_i page store
      have htables : store.tables = vm.tables.unmap key.owner key.base := by
        cases hdestroyed <;> rfl
      refine h.update none none (held?_forget _ key) ?_ ?_ (.held .absent) nofun
      · intro other
        simp [forget, htables, AddressSpaces.translation?_unmap]
      · intro pid
        simp [forget, htables]

theorem DiscardedAll.coherent {keys : List UserPage} (hcases : DiscardedAll vm keys after)
    (hbooks : vm.Accounted none adrift) (h : vm.Coherent adrift) : after.Coherent adrift := by
  induction hcases with
  | nil => exact h
  | cons hfirst _ ih => exact ih (hfirst.accounted hbooks) (hfirst.coherent hbooks h)

theorem Discarded.cell?_eq (hcases : Discarded vm key after) (other : UserPage) :
    after.cell? other = if key = other then none else vm.cell? other := by
  cases hcases with
  | unfinished => exact cell?_forget vm key other
  | destroyed => exact cell?_forget _ key other

theorem DiscardedAll.cell?_eq {keys : List UserPage} (hcases : DiscardedAll vm keys after)
    (other : UserPage) : after.cell? other = if other ∈ keys then none else vm.cell? other := by
  induction hcases with
  | nil => simp
  | cons hfirst _ ih =>
      rename_i key keys _
      rw [ih, hfirst.cell?_eq]
      by_cases heq : key = other
      · simp [heq]
      · simp [heq, Ne.symm heq]

/-- No page of a destroyed address space is left. -/
theorem DiscardedAll.cell?_of_owner {pid : Pid} (hcases : DiscardedAll vm (vm.keysOf pid) after)
    (howner : key.owner = pid) : after.cell? key = none := by
  rw [hcases.cell?_eq]
  split
  · rfl
  · rename_i hnot
    by_cases hcell : vm.cell? key = none
    · exact hcell
    · exact absurd (mem_keysOf.2 ⟨howner, hcell⟩) hnot

theorem coherent_destroySpace [BlockDriver δ] {pid : Pid} {result : Except MemoryError Unit}
    (hcall : vm.destroySpace pid = .ok (result, after)) (hbooks : vm.Accounted none adrift)
    (h : vm.Coherent adrift) : after.Coherent adrift := by
  obtain ⟨mid, hdiscarded, ⟨-, -, rfl⟩ | ⟨-, -, rfl⟩⟩ := destroySpace_cases hcall
  · have hmid := hdiscarded.coherent hbooks h
    have hgone : ∀ {key}, key.owner = pid → mid.held? key = none := by
      intro key howner
      simp [held?, hdiscarded.cell?_of_owner howner]
    constructor
    · intro key
      change FitsKey adrift key (mid.held? key) ((mid.tables.destroy pid).translation? key)
      rw [AddressSpaces.translation?_destroy]
      split
      · rename_i howner
        rw [hgone howner.symm]
        exact .held .absent
      · exact hmid.fitsKey key
    · intro key page hpage
      change mid.held? key = some page at hpage
      have hne : pid ≠ key.owner := by
        intro howner
        rw [hgone howner.symm] at hpage
        cases hpage
      simp [AddressSpaces.contains_destroy, hne, hmid.spaced hpage]
  · exact hdiscarded.coherent hbooks h

theorem coherent_createSpace {pid : Pid} {fresh : Bool}
    (hcall : vm.createSpace pid = (fresh, after)) (h : vm.Coherent adrift) :
    after.Coherent adrift := by
  simp only [createSpace] at hcall
  split at hcall
  · cases hcall
    exact h
  · rename_i tables hcreate
    cases hcall
    obtain ⟨-, hcontains, htranslation⟩ := AddressSpaces.create?_eq_some hcreate
    constructor
    · intro key
      rw [htranslation]
      exact h.fitsKey key
    · intro key page hpage
      simp [hcontains, h.spaced hpage]

variable [BlockDriver δ]

theorem Attempt.coherent {result : Except MemoryError SwapSlot} (hstep : Attempt vm result after)
    (hbooks : vm.Accounted busy adrift) (h : vm.Coherent adrift) : after.Coherent adrift := by
  cases hstep with
  | exhausted => exact h
  | failed => exact h.of_alike (fun _ => rfl) (.refl _)
  | moved hcell hlocation hframe hallocated hslot hrun =>
      rename_i key page number frame slot disk
      have hkeyed : page.key = key := hbooks.keyed (held?_of_cell? hcell)
      refine h.update (some { page with location := .swappedOut slot })
        ((vm.tables.translation? key).map fun meaning =>
          { meaning with present := false, dirty := false })
        (fun other => held?_putPage _ key other _) ?_ ?_ ?_ ?_
      · intro other
        simp only [putPage, hkeyed, AnonPage.translation?_hidden]
        split
        · rename_i heq
          rw [heq]
        · rfl
      · intro pid
        simp [putPage]
      · refine .held (.swappedOut rfl ?_)
        intro meaning hmeaning
        obtain ⟨old, -, rfl⟩ := Option.map_eq_some_iff.1 hmeaning
        exact ⟨rfl, rfl⟩
      · intro _ _
        exact h.spaced (held?_of_cell? hcell)

variable [Replacement π] [GentleReplacement π]

omit [BlockDriver δ] in
theorem Search.coherent (hstep : Search vm after) (h : vm.Coherent adrift) :
    after.Coherent adrift := by
  cases hstep with
  | consulted hchoice => exact h.of_alike (fun _ => rfl) (GentleReplacement.alike hchoice)
  | requeued => exact h.of_alike (fun _ => rfl) (.refl _)

theorem Reclaims.coherent (hsteps : Reclaims vm after) (hbooks : vm.Accounted busy adrift)
    (h : vm.Coherent adrift) : after.Coherent adrift := by
  induction hsteps with
  | refl => exact h
  | tail hbefore hstep ih =>
      cases hstep with
      | placed => exact ih.of_alike (fun _ => rfl) (.refl _)
      | searched hsearch => exact hsearch.coherent ih
      | attempted hattempt => exact hattempt.coherent (Reclaims.accounted hbefore hbooks) ih

/-- No address space comes or goes while a frame is looked for. -/
theorem Reclaims.contains_tables (hsteps : Reclaims vm after) (pid : Pid) :
    after.tables.contains pid = vm.tables.contains pid := by
  induction hsteps with
  | refl => rfl
  | tail _ hstep ih =>
      refine Eq.trans ?_ ih
      cases hstep with
      | placed => rfl
      | searched hsearch =>
          cases hsearch with
          | consulted hchoice => exact (GentleReplacement.alike hchoice).contains pid
          | requeued => rfl
      | attempted hattempt =>
          cases hattempt with
          | exhausted => rfl
          | failed => rfl
          | moved => exact AnonPage.contains_hidden _ _ pid

variable [Placement φ] {result : Except MemoryError Unit}

omit [BlockDriver δ] [Replacement π] [GentleReplacement π] [Placement φ] in
theorem Coherent.lock (h : vm.Coherent adrift) {page? : Option AnonPage}
    (hpage : vm.held? key = page?) : (vm.lock key page?).Coherent adrift :=
  h.of_alike (held?_of_put_back hpage fun other => held?_lock vm key other page?) (.refl _)

omit [BlockDriver δ] [Replacement π] [GentleReplacement π] [Placement φ] in
/-- The cell of `key` changes, but not what it holds. -/
theorem Coherent.unlock (h : mid.Coherent adrift) {page? : Option AnonPage}
    (hpage : mid.held? key = page?)
    (hheld : ∀ other, after.held? other = if key = other then page? else mid.held? other)
    (htables : after.tables = mid.tables) : after.Coherent adrift :=
  h.of_alike (held?_of_put_back hpage hheld) (htables ▸ .refl _)

/-- Tables take a page for which a frame was found, as it was nowhere resident before. -/
theorem Granted.map_done {page? : Option AnonPage} {writable : Bool} {placement : φ}
    {mapped : AddressSpaces.Mapped}
    (hgranted : Granted (vm.lock key page?) mid number frame placement)
    (hbooks : vm.Accounted none adrift) (h : vm.Coherent adrift) (hpage : vm.held? key = page?)
    (habsent : ∀ page ∈ page?, ∀ number, page.location ≠ .resident number)
    (hstray : page? = none → ∀ page ∈ adrift, page.key ≠ key)
    (hspace : mid.tables.contains key.owner = true)
    (hmap : mid.tables.map key.owner key.base number writable = .ok mapped) :
    ∃ tables, mapped = .done tables := by
  have hlocked := hbooks.lock page? hpage
  have hheld := hgranted.reclaims.held?_of_lock
  exact (hgranted.reclaims.coherent hlocked (h.lock hpage)).map_done
    (hgranted.reclaims.accounted hlocked).sound hspace (hheld ▸ habsent) (hheld ▸ hstray)
    hgranted.frame?_eq hmap

/-- Tables take a page that nothing speaks against. -/
theorem Granted.map_mappable {pid : Pid} {addr : Nat} {placement : φ} {writable : Bool}
    {mapped : AddressSpaces.Mapped}
    (hgranted : Granted (vm.lock (.containing pid addr) none) mid number frame placement)
    (hmappable : vm.Mappable pid addr) (hbooks : vm.Accounted none) (h : vm.Coherent)
    (hmap : mid.tables.map pid (UserPage.containing pid addr).base number writable = .ok mapped) :
    ∃ tables, mapped = .done tables := by
  have hspace : mid.tables.contains pid = true :=
    (hgranted.reclaims.contains_tables pid).trans hmappable.contains
  exact hgranted.map_done hbooks h hmappable.held?_eq_none nofun (fun _ => nofun) hspace hmap

/-- A page that is mapped to the frame found for it gets an entry that fits. -/
theorem Granted.coherent_occupy {page? : Option AnonPage} {tables : AddressSpaces} {placement : φ}
    (hgranted : Granted (vm.lock key page?) mid number frame placement) (page : AnonPage)
    (hbooks : vm.Accounted none adrift) (h : vm.Coherent adrift) (hpage : vm.held? key = page?)
    (hlocation : page.location = .resident number)
    (hmap : mid.tables.map key.owner key.base number page.writable = .ok (.done tables))
    (hheld : ∀ other, after.held? other = if key = other then some page else mid.held? other)
    (htables : after.tables = tables) : after.Coherent adrift := by
  have hlocked := hbooks.lock page? hpage
  have hmid := hgranted.reclaims.coherent hlocked (h.lock hpage)
  have hlimit := (hgranted.reclaims.accounted hlocked).sound.index_lt_limit hgranted.frame?_eq
  obtain ⟨hspace, hcontains, htranslation⟩ := AddressSpaces.map_eq_done key hlimit hmap
  subst htables
  exact hmid.update (some page) _ hheld htranslation hcontains (.held (.resident false hlocation))
    fun _ _ => hspace

theorem MapZero.coherent {pid : Pid} {addr : Nat} {kind : PageKind} {writable : Bool}
    (hcases : MapZero vm pid addr kind writable result after) (hbooks : vm.Accounted none adrift)
    (h : vm.Coherent adrift) : after.Coherent adrift := by
  cases hcases with
  | notUserAddress => exact h
  | noAddressSpace => exact h
  | alreadyMapped => exact h
  | noFrame hmappable hdenied =>
      have hvacant := hmappable.held?_eq_none
      have hmid := hdenied.reclaims.coherent (hbooks.lock none hvacant) (h.lock hvacant)
      exact hmid.unlock hdenied.reclaims.held?_of_lock (held?_forget _ _) rfl
  | abandoned placement hmappable hgranted =>
      have hvacant := hmappable.held?_eq_none
      have hmid := hgranted.reclaims.coherent (hbooks.lock none hvacant) (h.lock hvacant)
      exact hmid.unlock hgranted.reclaims.held?_of_lock (held?_forget _ _) rfl
  | made placement hmappable hgranted hmap =>
      rename_i mid number frame tables
      exact hgranted.coherent_occupy ⟨.containing pid addr, writable, kind, .resident number⟩
        hbooks h hmappable.held?_eq_none rfl hmap (fun other => held?_putPage _ _ other _) rfl

theorem BringBack.coherent {slot : SwapSlot} (hcases : BringBack vm key page slot result after)
    (hbooks : vm.Accounted none adrift) (h : vm.Coherent adrift)
    (hcell : vm.cell? key = some ⟨false, some page⟩)
    (hlocation : page.location = .swappedOut slot) : after.Coherent adrift := by
  have hheld := held?_of_cell? hcell
  have hlocked := hbooks.lock (some page) hheld
  have hlock := h.lock hheld
  cases hcases with
  | noFrame hdenied =>
      exact (hdenied.reclaims.coherent hlocked hlock).unlock hdenied.reclaims.held?_of_lock
        (fun other => held?_putPage _ key other page) rfl
  | notRead placement hgranted =>
      exact (hgranted.reclaims.coherent hlocked hlock).unlock hgranted.reclaims.held?_of_lock
        (fun other => held?_putPage _ key other page) rfl
  | unmapped placement hgranted _ _ hmap hfailed =>
      have hmid := hgranted.reclaims.coherent hlocked hlock
      obtain ⟨tables, hdone⟩ := hgranted.map_done hbooks h hheld
        (not_resident_of_swappedOut hlocation) nofun
        (hmid.spaced hgranted.reclaims.held?_of_lock) hmap
      exact absurd hdone (hfailed tables)
  | done placement hgranted _ _ hmap =>
      exact hgranted.coherent_occupy { page with location := .resident _ } hbooks h hheld rfl hmap
        (fun other => held?_putPage _ key other _) rfl

theorem ResolveFault.coherent {pid : Pid} {fault : FaultReport}
    (hcases : ResolveFault vm pid fault result after) (hbooks : vm.Accounted none adrift)
    (h : vm.Coherent adrift) : after.Coherent adrift := by
  cases hcases with
  | notUserAddress => exact h
  | grown _ _ _ hmapped => exact hmapped.coherent hbooks h
  | notMapped => exact h
  | unfinished => exact h
  | writeProtected => exact h
  | resident => exact h
  | broughtBack _ hcell _ hlocation hback => exact hback.coherent hbooks h hcell hlocation

omit [BlockDriver δ] [Replacement π] [GentleReplacement π] [Placement φ] in
theorem Touched.coherent {pid : Pid} {addr : Nat} {write : Bool}
    {result : Except MemoryError FrameNumber} (hcases : Touched vm pid addr write result after)
    (h : vm.Coherent adrift) : after.Coherent adrift := by
  cases hcases with
  | noAddressSpace => exact h
  | writeProtected => exact h
  | reached _ hmeaning hpresent _ =>
      rename_i meaning _ _
      have hfits := h.fitsKey (.containing pid addr)
      rw [hmeaning] at hfits
      refine h.update (vm.held? (.containing pid addr))
        (some { meaning with dirty := meaning.dirty || write }) ?_ ?_ ?_
        (hfits.withDirty hpresent _) fun page hpage => h.spaced hpage
      · intro other
        split
        · rename_i heq
          exact heq ▸ rfl
        · rfl
      · intro other
        rw [AddressSpaces.translation?_marked]
        split
        · rename_i heq
          rw [← heq, hmeaning]
          rfl
        · rfl
      · intro other
        simp

theorem Access.coherent {pid : Pid} {addr : Nat} {write : Bool}
    {result : Except MemoryError FrameNumber} (hcases : Access pid addr write vm result after)
    (hbooks : vm.Accounted none adrift) (h : vm.Coherent adrift) : after.Coherent adrift := by
  induction hcases with
  | touched htouched => exact htouched.coherent h
  | unresolved _ hresolve => exact hresolve.coherent hbooks h
  | resolved _ hresolve _ ih => exact ih (hresolve.accounted hbooks) (hresolve.coherent hbooks h)

theorem coherent_of_access {pid : Pid} {addr : Nat} {write : Bool}
    {result : Except MemoryError FrameNumber} (hbooks : vm.Accounted none adrift)
    (h : vm.Coherent adrift) (haccess : vm.access pid addr write = .ok (result, after)) :
    after.Coherent adrift := by
  obtain ⟨-, -, rfl⟩ | ⟨-, hcases⟩ := access_cases haccess
  · exact h
  · exact hcases.coherent hbooks h

theorem CopyIn.coherent {pid : Pid} {addr : Nat} {data : List UInt8} {moved : Nat}
    (hcases : CopyIn pid vm addr data result moved after) (hbooks : vm.Accounted none adrift)
    (h : vm.Coherent adrift) : after.Coherent adrift := by
  induction hcases with
  | done => exact h
  | stopped _ haccess => exact coherent_of_access hbooks h haccess
  | chunk _ haccess hframe _ _ ih =>
      exact ih ((accounted_of_access hbooks haccess).patchFrame hframe _ _)
        ((coherent_of_access hbooks h haccess).of_alike (fun _ => rfl) (.refl _))

theorem CopyOut.coherent {pid : Pid} {addr : Nat} {buffer got : List UInt8} {moved : Nat}
    (hcases : CopyOut pid vm addr buffer result got moved after) (hbooks : vm.Accounted none adrift)
    (h : vm.Coherent adrift) : after.Coherent adrift := by
  induction hcases with
  | done => exact h
  | stopped _ haccess => exact coherent_of_access hbooks h haccess
  | chunk _ haccess _ _ _ ih =>
      exact ih (accounted_of_access hbooks haccess) (coherent_of_access hbooks h haccess)

theorem Performed.coherent {call : MemoryCall} {reply : MemoryReply}
    (hcases : Performed vm call reply after) (hbooks : vm.Accounted none adrift)
    (h : vm.Coherent adrift) : after.Coherent adrift := by
  cases hcases with
  | createSpace hcall => exact coherent_createSpace hcall h
  | destroySpace hcall => exact coherent_destroySpace hcall hbooks h
  | mapZero hcall => exact (mapZero_cases hcall).coherent hbooks h
  | unmap hcall =>
      obtain ⟨-, -, rfl⟩ | ⟨-, hdiscarded⟩ := unmap_cases hcall
      · exact h
      · exact hdiscarded.coherent hbooks h
  | resolveFault hcall => exact (resolveFault_cases hcall).coherent hbooks h
  | evictPage hcall => exact (Reclaims.of_evictWithin hcall).coherent hbooks h
  | copyFromUser hcall =>
      obtain ⟨_, hcopied⟩ := copyFromUser_cases hcall
      exact hcopied.coherent hbooks h
  | copyToUser hcall =>
      obtain ⟨_, hcopied⟩ := copyToUser_cases hcall
      exact hcopied.coherent hbooks h
  | location => exact h
  | kind => exact h
  | usage => exact h

theorem Run.coherent {drift : δ → δ → Prop} {trace : List (MemoryCall × MemoryReply)}
    (hrun : Run drift vm trace after) (hbooks : vm.Accounted none adrift) (h : vm.Coherent adrift) :
    after.Coherent adrift := by
  refine (hrun.invariant (fun vm => vm.Accounted none adrift ∧ vm.Coherent adrift) ?_ ?_
    ⟨hbooks, h⟩).2
  · intro vm driver ⟨hbooks, h⟩ _
    exact ⟨hbooks.withDriver driver, h.of_alike (fun _ => rfl) (.refl _)⟩
  · intro vm after call reply ⟨hbooks, h⟩ hcall
    exact ⟨(perform_cases hcall).accounted hbooks, (perform_cases hcall).coherent hbooks h⟩

omit [BlockDriver δ] [Replacement π] [GentleReplacement π] [Placement φ] in
theorem coherent_new (disk : BlockDevice δ) (pool : FramePool) (placement : φ) (policy : π)
    (stackLimit : Nat) : (new (.new disk) pool placement policy stackLimit).Coherent := by
  constructor
  · intro key
    have hheld : (new (.new disk) pool placement policy stackLimit).held? key = none := by
      simp [new, held?, cell?]
    have hmeaning : AddressSpaces.empty.translation? key = none := by
      simp [AddressSpaces.translation?, AddressSpaces.directory?_empty]
    rw [hheld, new, hmeaning]
    exact .held .absent
  · intro key page hpage
    simp [new, held?, cell?] at hpage

end DemandPaging.VirtualMemory
