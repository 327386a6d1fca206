import DemandPaging.Proofs.PageMarks
import DemandPaging.Proofs.VirtualMemory.History
import DemandPaging.Proofs.VirtualMemory.Translation

/-!
The dirty bit of a page tells whether it was written since it last came to live in a frame, and the
accessed bit tells no more than what was read or written since then. A page that comes to live in a
frame gets a fresh entry, and only chunks of copies set a bit in it.
-/
namespace DemandPaging.VirtualMemory

variable {δ φ : Type} {vm mid after : VirtualMemory δ φ StandardReplacement}
  {busy : Option UserPage} {key : UserPage} {page : AnonPage} {number : FrameNumber} {frame : Frame}

/-- Where tables and pages agree, the resident pages are those that are present. -/
theorem Coherent.isSome_marks? (h : vm.Coherent) (key : UserPage) :
    (vm.tables.marks? key).isSome = vm.isResident key := by
  have hfits := h.fits key
  rw [AddressSpaces.isSome_marks?, isResident]
  generalize vm.held? key = page?, vm.tables.translation? key = meaning? at hfits
  cases hfits with
  | absent => rfl
  | resident _ hlocation => simp [AnonPage.inMemory, AnonPage.frame?, hlocation]
  | swappedOut hlocation hmeaning =>
      cases meaning? with
      | none => simp [AnonPage.inMemory, AnonPage.frame?, hlocation]
      | some meaning =>
          simp [AnonPage.inMemory, AnonPage.frame?, hlocation, (hmeaning meaning rfl).1]

/-- The marks have faded at most, and a machine that evicts in the order of arrival still does. -/
structure Fades (vm after : VirtualMemory δ φ StandardReplacement) : Prop where
  policy : vm.policy = .fifo ⟨⟩ → after.policy = .fifo ⟨⟩
  tables : vm.tables.Fades (vm.policy = .fifo ⟨⟩) after.tables

theorem Fades.trans (h : vm.Fades mid) (h' : mid.Fades after) : vm.Fades after where
  policy hfifo := h'.policy (h.policy hfifo)
  tables := h.tables.trans (AddressSpaces.Fades.mono h'.tables h.policy)

theorem Fades.of_eq (hpolicy : after.policy = vm.policy)
    (htables : ∀ key, after.tables.marks? key = none ∨
      after.tables.marks? key = vm.tables.marks? key) : vm.Fades after :=
  ⟨fun hfifo => hpolicy.trans hfifo, .of_eq htables⟩

theorem Fades.refl (vm : VirtualMemory δ φ StandardReplacement) : vm.Fades vm :=
  .of_eq rfl fun _ => .inr rfl

section Search

theorem Search.fades (hstep : Search vm after) : vm.Fades after := by
  cases hstep with
  | consulted hchoice =>
      obtain ⟨htables, hpolicy⟩ := StandardReplacement.fades_of_choose hchoice
      exact ⟨hpolicy, htables⟩
  | requeued => exact .of_eq rfl fun _ => .inr rfl

variable [BlockDriver δ]

theorem Attempt.fades {result : Except MemoryError SwapSlot} (hstep : Attempt vm result after) :
    vm.Fades after := by
  cases hstep with
  | exhausted => exact .refl vm
  | failed => exact .of_eq rfl fun _ => .inr rfl
  | moved =>
      refine .of_eq rfl fun key => ?_
      simp only [putPage, AddressSpaces.marks?_hidden]
      exact ite_eq_or_eq ..

theorem Reclaims.fades (hsteps : Reclaims vm after) : vm.Fades after := by
  induction hsteps with
  | refl => exact .refl vm
  | tail _ hstep ih =>
      refine ih.trans ?_
      cases hstep with
      | placed => exact .of_eq rfl fun _ => .inr rfl
      | searched hsearch => exact hsearch.fades
      | attempted hattempt => exact hattempt.fades

/-- The lock that a page is under during a search has no part in it. -/
theorem Reclaims.fades_of_lock {page? : Option AnonPage}
    (hsteps : Reclaims (vm.lock key page?) mid) : vm.Fades mid :=
  ⟨hsteps.fades.policy, hsteps.fades.tables⟩

end Search

/-- The marks have faded at most, and a page that was not present before has none. -/
structure Remarked (vm after : VirtualMemory δ φ StandardReplacement) : Prop where
  policy : vm.policy = .fifo ⟨⟩ → after.policy = .fifo ⟨⟩
  tables : ∀ key marks, after.tables.marks? key = some marks →
    (∃ before, vm.tables.marks? key = some before ∧
      before.Fades (vm.policy = .fifo ⟨⟩) marks) ∨
    (vm.tables.marks? key = none ∧ marks = ⟨false, false⟩)

theorem Fades.remarked (h : vm.Fades after) : vm.Remarked after :=
  ⟨h.policy, fun key marks hmarks => .inl (h.tables key marks hmarks)⟩

theorem Remarked.refl (vm : VirtualMemory δ φ StandardReplacement) : vm.Remarked vm :=
  (Fades.refl vm).remarked

theorem Fades.remarked_of_same (h : vm.Fades mid) (hpolicy : after.policy = mid.policy)
    (htables : after.tables = mid.tables) : vm.Remarked after :=
  (h.trans (.of_eq hpolicy fun _ => .inr (by rw [htables]))).remarked

/-- The page of `key`, which was not present, has come into a fresh entry. -/
theorem Fades.remarked_of_map (h : vm.Fades mid) (habsent : vm.tables.marks? key = none)
    {writable : Bool}
    (hmap : mid.tables.map key.owner key.base number writable = .ok (.done after.tables))
    (hpolicy : after.policy = mid.policy) : vm.Remarked after := by
  refine ⟨fun hfifo => hpolicy.trans (h.policy hfifo), fun other marks hmarks => ?_⟩
  rw [AddressSpaces.marks?_map hmap] at hmarks
  split at hmarks
  · rename_i heq
    cases hmarks
    exact .inr ⟨heq ▸ habsent, rfl⟩
  · exact .inl (h.tables other marks hmarks)

theorem Coherent.marks?_eq_none (h : vm.Coherent) (habsent : vm.NotInMemory key) :
    vm.tables.marks? key = none := by
  rw [← Option.not_isSome_iff_eq_none, h.isSome_marks?, habsent.isResident_eq]
  exact Bool.false_ne_true

theorem Discarded.fades (hcases : Discarded vm key after) : vm.Fades after := by
  cases hcases with
  | unfinished => exact .of_eq rfl fun _ => .inr rfl
  | destroyed hcell hdestroyed =>
      rename_i page store
      have htables : store.tables = vm.tables.unmap key.owner key.base := by
        cases hdestroyed <;> rfl
      refine .of_eq rfl fun other => ?_
      simp only [forget, htables, AddressSpaces.marks?_unmap]
      exact ite_eq_or_eq ..

theorem DiscardedAll.fades {keys : List UserPage} (hcases : DiscardedAll vm keys after) :
    vm.Fades after := by
  induction hcases with
  | nil => exact .refl _
  | cons hfirst _ ih => exact hfirst.fades.trans ih

theorem fades_destroySpace [BlockDriver δ] {pid : Pid} {result : Except MemoryError Unit}
    (hcall : vm.destroySpace pid = .ok (result, after)) : vm.Fades after := by
  obtain ⟨mid, hdiscarded, ⟨-, -, rfl⟩ | ⟨-, -, rfl⟩⟩ := destroySpace_cases hcall
  · refine hdiscarded.fades.trans (.of_eq rfl fun key => ?_)
    rw [AddressSpaces.marks?_destroy]
    exact ite_eq_or_eq ..
  · exact hdiscarded.fades

theorem fades_createSpace {pid : Pid} {fresh : Bool}
    (hcall : vm.createSpace pid = (fresh, after)) : vm.Fades after := by
  simp only [createSpace] at hcall
  split at hcall
  · cases hcall
    exact .refl vm
  · rename_i tables hcreate
    cases hcall
    exact .of_eq rfl fun key => .inr (AddressSpaces.marks?_create? hcreate key)

variable [BlockDriver δ] [Placement φ]

section Faults

variable {result : Except MemoryError Unit} {pid : Pid} {addr : Nat}

theorem MapZero.remarked {kind : PageKind} {writable : Bool}
    (hcases : MapZero vm pid addr kind writable result after) (h : vm.Coherent) :
    vm.Remarked after := by
  cases hcases with
  | notUserAddress => exact .refl vm
  | noAddressSpace => exact .refl vm
  | alreadyMapped => exact .refl vm
  | noFrame _ hdenied => exact hdenied.reclaims.fades_of_lock.remarked_of_same rfl rfl
  | abandoned _ _ hgranted => exact hgranted.reclaims.fades_of_lock.remarked_of_same rfl rfl
  | made _ hmappable hgranted hmap =>
      have habsent := h.marks?_eq_none hmappable.notInMemory
      exact hgranted.reclaims.fades_of_lock.remarked_of_map habsent hmap rfl

theorem BringBack.remarked {slot : SwapSlot} (hcases : BringBack vm key page slot result after)
    (h : vm.Coherent) (hcell : vm.cell? key = some ⟨false, some page⟩)
    (hlocation : page.location = .swappedOut slot) : vm.Remarked after := by
  cases hcases with
  | noFrame hdenied => exact hdenied.reclaims.fades_of_lock.remarked_of_same rfl rfl
  | notRead _ hgranted => exact hgranted.reclaims.fades_of_lock.remarked_of_same rfl rfl
  | unmapped _ hgranted => exact hgranted.reclaims.fades_of_lock.remarked_of_same rfl rfl
  | done _ hgranted _ _ hmap =>
      have habsent := h.marks?_eq_none (notInMemory_of_swappedOut hcell hlocation)
      exact hgranted.reclaims.fades_of_lock.remarked_of_map habsent hmap rfl

theorem ResolveFault.remarked {fault : FaultReport}
    (hcases : ResolveFault vm pid fault result after) (h : vm.Coherent) : vm.Remarked after := by
  cases hcases with
  | notUserAddress => exact .refl vm
  | grown _ _ _ hmapped => exact hmapped.remarked h
  | notMapped => exact .refl vm
  | unfinished => exact .refl vm
  | writeProtected => exact .refl vm
  | resident => exact .refl vm
  | broughtBack _ hcell _ hlocation hback => exact hback.remarked h hcell hlocation

end Faults

theorem Performed.remarked {call : MemoryCall} {reply : MemoryReply}
    (hcases : Performed vm call reply after) (hcall : call.isCopy = false) (h : vm.Coherent) :
    vm.Remarked after := by
  cases hcases with
  | createSpace hcall => exact (fades_createSpace hcall).remarked
  | destroySpace hcall => exact (fades_destroySpace hcall).remarked
  | mapZero hcall => exact (mapZero_cases hcall).remarked h
  | unmap hcall =>
      obtain ⟨-, -, rfl⟩ | ⟨-, hdiscarded⟩ := unmap_cases hcall
      · exact .refl _
      · exact hdiscarded.fades.remarked
  | resolveFault hcall => exact (resolveFault_cases hcall).remarked h
  | evictPage hcall => exact (Reclaims.of_evictWithin hcall).fades.remarked
  | copyFromUser => cases hcall
  | copyToUser => cases hcall
  | location => exact .refl vm
  | kind => exact .refl vm
  | usage => exact .refl vm

theorem Readied.remarked (hready : vm.Readied after) (h : vm.Coherent) : vm.Remarked after := by
  cases hready with
  | idle => exact .refl vm
  | faulted hresolve => exact hresolve.remarked h

/-- What the marks of a page tell of what was done to it. -/
structure Tells (exact : Prop) (key : UserPage) (events : List PageEvent) (marks : Marks) :
    Prop where
  dirty_iff : marks.dirty = true ↔ .touched key true ∈ events
  touched : marks.accessed = true → ∃ write, .touched key write ∈ events
  accessed : exact → ∀ {write}, .touched key write ∈ events → marks.accessed = true

/-- The marks of each page tell what was done to it since it came to live in its frame. -/
structure Recorded (exact : Prop) (past : List PageEvent)
    (vm : VirtualMemory δ φ StandardReplacement) : Prop where
  policy : exact → vm.policy = .fifo ⟨⟩
  settled : ∀ {key}, vm.isResident key = true → .settled key ∈ past
  tells : ∀ {key marks}, vm.tables.marks? key = some marks →
    Tells exact key (PageEvent.since past key) marks

variable {exact : Prop} {past events : List PageEvent} {marks : Marks}

omit [BlockDriver δ] [Placement φ] in
/-- Events that are no chunks tell nothing of a page that was there before. -/
theorem mem_since_append_changes {write : Bool} (hresident : vm.isResident key = true) :
    .touched key write ∈ PageEvent.since (past ++ vm.changes after) key ↔
      .touched key write ∈ PageEvent.since past key := by
  have hstays : .settled key ∉ vm.changes after := by
    rw [settled_mem_changes, hresident]
    simp
  rw [PageEvent.since_append, if_neg hstays, List.mem_append, List.mem_reverse]
  exact or_iff_right touched_not_mem_changes

omit [BlockDriver δ] [Placement φ] in
theorem not_mem_since_append_changes {write : Bool} (hsettled : .settled key ∈ vm.changes after) :
    .touched key write ∉ PageEvent.since (past ++ vm.changes after) key := by
  rw [PageEvent.since_append, if_pos hsettled]
  exact fun hmem => touched_not_mem_changes (PageEvent.mem_of_mem_since hmem)

omit [BlockDriver δ] [Placement φ] in
/-- Where no chunk is moved, a page that stays keeps what its marks tell, and a page that comes has
nothing to tell. -/
theorem Recorded.remarked (h : Recorded exact past vm) (hvm : vm.Coherent)
    (hafter : after.Coherent) (hremarked : vm.Remarked after) :
    Recorded exact (past ++ vm.changes after) after := by
  refine ⟨fun hexact => hremarked.policy (h.policy hexact), ?_, ?_⟩
  · intro key hresident
    rw [List.mem_append, settled_mem_changes]
    cases hbefore : vm.isResident key with
    | true => exact .inl (h.settled hbefore)
    | false => exact .inr ⟨hresident, rfl⟩
  · intro key marks hmarks
    have hresident : after.isResident key = true := by
      rw [← hafter.isSome_marks?, hmarks, Option.isSome_some]
    obtain ⟨before, hbefore, hfaded⟩ | ⟨hnone, rfl⟩ := hremarked.tables key marks hmarks
    · have hstayed : vm.isResident key = true := by
        rw [← hvm.isSome_marks?, hbefore, Option.isSome_some]
      have htells := h.tells hbefore
      refine ⟨?_, fun hset => ?_, fun hexact write hmem => ?_⟩
      · rw [hfaded.dirty, htells.dirty_iff, mem_since_append_changes hstayed]
      · obtain ⟨write, hmem⟩ := htells.touched (hfaded.accessed hset)
        exact ⟨write, (mem_since_append_changes hstayed).2 hmem⟩
      · rw [hfaded.same (h.policy hexact)]
        exact htells.accessed hexact ((mem_since_append_changes hstayed).1 hmem)
    · have hcame : vm.isResident key = false := by
        rw [← hvm.isSome_marks?, hnone, Option.isSome_none]
      have hnot {write : Bool} :
          .touched key write ∉ PageEvent.since (past ++ vm.changes after) key :=
        not_mem_since_append_changes (settled_mem_changes.2 ⟨hresident, hcame⟩)
      exact ⟨⟨nofun, fun hmem => absurd hmem hnot⟩, nofun, fun _ _ hmem => absurd hmem hnot⟩

omit [BlockDriver δ] [Placement φ] in
theorem since_concat_touched (past : List PageEvent) (key other : UserPage) (write : Bool) :
    PageEvent.since (past ++ [.touched other write]) key =
      .touched other write :: PageEvent.since past key := by
  rw [PageEvent.since_append, if_neg (by simp)]
  rfl

omit [BlockDriver δ] [Placement φ] in
/-- A chunk sets the marks of its page. -/
theorem Recorded.marked (h : Recorded exact past vm) (pid : Pid) (addr : Nat) (write : Bool) :
    Recorded exact (past ++ [.touched (.containing pid addr) write])
      { vm with tables := vm.tables.marked pid addr write } := by
  refine ⟨h.policy, ?_, ?_⟩
  · intro key hresident
    exact List.mem_append_left _ (h.settled hresident)
  · intro key marks hmarks
    rw [AddressSpaces.marks?_marked] at hmarks
    rw [since_concat_touched]
    split at hmarks
    · rename_i heq
      subst heq
      obtain ⟨before, hbefore, rfl⟩ := Option.map_eq_some_iff.1 hmarks
      have htells := h.tells hbefore
      refine ⟨?_, fun _ => ⟨write, List.mem_cons_self⟩, fun _ _ _ => rfl⟩
      rw [Bool.or_eq_true, htells.dirty_iff, List.mem_cons, or_comm]
      cases write <;> simp
    · rename_i hne
      have hother {mark : Bool} : .touched key mark ∈
          .touched (.containing pid addr) write :: PageEvent.since past key ↔
            .touched key mark ∈ PageEvent.since past key := by
        rw [List.mem_cons]
        refine or_iff_right ?_
        rintro ⟨⟩
        exact hne rfl
      have htells := h.tells hmarks
      refine ⟨htells.dirty_iff.trans hother.symm, fun hset => ?_, fun hexact _ hmem =>
        htells.accessed hexact (hother.1 hmem)⟩
      obtain ⟨mark, hmem⟩ := htells.touched hset
      exact ⟨mark, hother.2 hmem⟩

variable {drift : δ → δ → Prop}

theorem keeps_recorded (exact : Prop) : Keeps drift
    (Recorded exact : List PageEvent → VirtualMemory δ φ StandardReplacement → Prop) where
  drifted h _ := ⟨h.policy, h.settled, h.tells⟩
  called hvm h hcopy hcall := by
    have hremarked := (perform_cases hcall).remarked hcopy hvm.coherent
    exact h.remarked hvm.coherent (hvm.of_perform hcall).coherent hremarked
  readied hvm h hready :=
    h.remarked hvm.coherent (hvm.of_readied hready).coherent (hready.remarked hvm.coherent)
  touched h := h.marked _ _ _
  patched h _ := ⟨h.policy, h.settled, h.tells⟩

omit [BlockDriver δ] [Placement φ] in
theorem recorded_new {exact : Prop} {stackLimit : Nat} {pool : FramePool} {disk : BlockDevice δ}
    {placement : φ} {policy : StandardReplacement} (hpolicy : exact → policy = .fifo ⟨⟩) :
    Recorded exact [] (new (.new disk) pool placement policy stackLimit) := by
  have hempty (key : UserPage) :
      (new (.new disk) pool placement policy stackLimit).isResident key = false := by
    simp [isResident, held?, cell?, new]
  refine ⟨hpolicy, ?_, ?_⟩
  · intro key hresident
    rw [hempty] at hresident
    cases hresident
  · intro key marks hmarks
    have hresident := (coherent_new disk pool placement policy stackLimit).isSome_marks? key
    rw [hmarks, hempty] at hresident
    cases hresident

/-- The bits of the entries are what `events` make of them. No fault sets a dirty bit, whatever the
device does in it, and no access that is refused. -/
structure ExactMarks (vm : VirtualMemory δ φ StandardReplacement) (fifo : Prop)
    (events : List PageEvent) : Prop where
  settled : ∀ {pid addr entry}, vm.tables.entry? pid addr = some entry →
    entry.flag .present = true → .settled (.containing pid addr) ∈ events
  dirty_iff : ∀ {pid addr entry}, vm.tables.entry? pid addr = some entry →
    entry.flag .present = true → (entry.flag .dirty = true ↔
      .touched (.containing pid addr) true ∈ PageEvent.since events (.containing pid addr))
  accessed : ∀ {pid addr entry}, vm.tables.entry? pid addr = some entry →
    entry.flag .present = true → entry.flag .accessed = true →
      ∃ write, .touched (.containing pid addr) write ∈
        PageEvent.since events (.containing pid addr)
  accessed_iff : fifo → ∀ {pid addr entry}, vm.tables.entry? pid addr = some entry →
    entry.flag .present = true → (entry.flag .accessed = true ↔
      ∃ write, .touched (.containing pid addr) write ∈
        PageEvent.since events (.containing pid addr))
  swappedOut : ∀ {pid addr page slot}, vm.page? pid addr = .ok (some page) →
    page.location = .swappedOut slot → vm.tables.isSet .dirty pid addr = false
  resolveFault : ∀ {driver pid fault result after},
    (vm.withDriver driver).resolveFault pid fault = .ok (result, after) → ∀ {owner addr},
      after.tables.isSet .dirty owner addr = true → vm.tables.isSet .dirty owner addr = true
  refused : ∀ {driver pid addr write error after},
    (vm.withDriver driver).access pid addr write = .ok (.error error, after) →
      ∀ {owner place}, after.tables.isSet .dirty owner place = true →
        vm.tables.isSet .dirty owner place = true

omit [BlockDriver δ] [Placement φ] in
theorem Remarked.isSet_dirty (h : vm.Remarked after) (hcoherent : after.Coherent) {pid : Pid}
    {addr : Nat} (hdirty : after.tables.isSet .dirty pid addr = true) :
    vm.tables.isSet .dirty pid addr = true := by
  rw [AddressSpaces.isSet_eq, Option.any_eq_true] at hdirty ⊢
  obtain ⟨entry, hentry, hset⟩ := hdirty
  have hpresent : entry.flag .present = true := by
    by_contra habsent
    have hclean := ((hcoherent.fits_entry hentry).of_not_present (Bool.eq_false_iff.2 habsent)).1
    exact Bool.false_ne_true (hclean.symm.trans hset)
  have hmarks := AddressSpaces.marks?_containing.2 ⟨entry, hentry, hpresent, rfl⟩
  obtain ⟨before, hbefore, hfaded⟩ | ⟨-, hblank⟩ := h.tables _ _ hmarks
  · obtain ⟨earlier, hearlier, -, rfl⟩ := AddressSpaces.marks?_containing.1 hbefore
    exact ⟨earlier, hearlier, hfaded.dirty.symm.trans hset⟩
  · have hclean : entry.flag .dirty = false := congrArg Marks.dirty hblank
    exact absurd (hclean.symm.trans hset) Bool.false_ne_true

theorem Recorded.exactMarks (h : Recorded exact past vm) (hvm : vm.Orderly) :
    vm.ExactMarks exact past := by
  have htells {pid : Pid} {addr : Nat} {entry : PageTableEntry}
      (hentry : vm.tables.entry? pid addr = some entry) (hpresent : entry.flag .present = true) :=
    h.tells (AddressSpaces.marks?_containing.2 ⟨entry, hentry, hpresent, rfl⟩)
  refine ⟨?_, fun hentry hpresent => (htells hentry hpresent).dirty_iff,
    fun hentry hpresent => (htells hentry hpresent).touched, ?_, ?_, ?_, ?_⟩
  · intro pid addr entry hentry hpresent
    refine h.settled ?_
    rw [← hvm.coherent.isSome_marks?,
      AddressSpaces.marks?_containing.2 ⟨entry, hentry, hpresent, rfl⟩, Option.isSome_some]
  · intro hexact pid addr entry hentry hpresent
    have hmarks := htells hentry hpresent
    exact ⟨hmarks.touched, fun ⟨_, hmem⟩ => hmarks.accessed hexact hmem⟩
  · intro pid addr page slot hpage hlocation
    rw [AddressSpaces.isSet_eq, Option.any_eq_false]
    intro entry hentry
    have hheld := hvm.accounted.page?_eq_some.1 hpage
    have hfits := hvm.coherent.fits_entry hentry
    cases hpresent : entry.flag .present with
    | true =>
        obtain ⟨resident, hresident, hframe, -⟩ := hfits.of_present hpresent
        cases hheld.symm.trans hresident
        cases hlocation.symm.trans hframe
    | false => exact (hfits.of_not_present hpresent).1
  · intro driver pid fault result after hcall owner addr
    have hready : (vm.withDriver driver).Readied after := .faulted (resolveFault_cases hcall)
    have hstart := hvm.withDriver driver
    exact (hready.remarked hstart.coherent).isSet_dirty (hstart.of_readied hready).coherent
  · intro driver pid addr write error after haccess owner place
    have hstart := hvm.withDriver driver
    obtain ⟨mid, hready, ⟨_, -, rfl⟩ | ⟨number, hresult, -⟩⟩ := hstart.access_cases haccess
    · exact (hready.remarked hstart.coherent).isSet_dirty (hstart.of_access haccess).coherent
    · cases hresult

/-- The marks tell what the run has done to the pages, whatever the device does. -/
theorem marks_tell_history {count stackLimit : Nat} {pool : FramePool} {disk : BlockDevice δ}
    {placement : φ} {policy : StandardReplacement} {trace : List (MemoryCall × MemoryReply)}
    {vm : VirtualMemory δ φ StandardReplacement} (hpool : FramePool.new count = .ok pool)
    (hrun : Run (fun _ _ => True) (new (.new disk) pool placement policy stackLimit) trace vm) :
    (∃ events, History (fun _ _ => True) (new (.new disk) pool placement policy stackLimit)
      trace events vm) ∧
    ∀ events, History (fun _ _ => True) (new (.new disk) pool placement policy stackLimit)
      trace events vm → vm.ExactMarks (policy = .fifo ⟨⟩) events := by
  refine ⟨hrun.exists_history, fun events hhistory => ?_⟩
  have hnew : Recorded (policy = .fifo ⟨⟩) []
      (new (.new disk) pool placement policy stackLimit) := recorded_new id
  obtain ⟨hrecorded, hvm⟩ := hhistory.invariant (keeps_recorded _) (orderly_new hpool) hnew
  exact hrecorded.exactMarks hvm

/-- A machine with a single frame and room for two pages on its disk. -/
def narrow : VirtualMemory FaultyDisk StandardPlacement StandardReplacement :=
  new (.new ⟨0, "hda", .swap, 16, .sound (.new 16), 0, 0⟩) ⟨.replicate 1 .blank, [], 0⟩
    (.ofName .firstFit) (.ofName .fifo) 0

/-- A page that was written and has been away since is not dirty when it is read. -/
theorem marks_tell_history_narrow :
    ∃ trace vm, trace.map (·.1) = [.createSpace 1, .mapZero 1 0 .ordinary true,
        .copyToUser 1 0 [7], .mapZero 1 4096 .ordinary true, .copyFromUser 1 0 [0]] ∧
      Run (fun _ _ => True) narrow trace vm ∧ vm.tables.isSet .accessed 1 0 = true ∧
      vm.tables.isSet .dirty 1 0 = false ∧
      (∃ events, History (fun _ _ => True) narrow trace events vm) ∧
      ∀ events, History (fun _ _ => True) narrow trace events vm →
        vm.ExactMarks (narrow.policy = .fifo ⟨⟩) events := by
  have hmarks : (narrow.run [.createSpace 1, .mapZero 1 0 .ordinary true, .copyToUser 1 0 [7],
      .mapZero 1 4096 .ordinary true, .copyFromUser 1 0 [0]]).map
        (fun outcome => (outcome.2.tables.isSet .accessed 1 0,
          outcome.2.tables.isSet .dirty 1 0)) = .ok (true, false) := by
    decide +kernel
  have hpool : FramePool.new 1 = .ok ⟨.replicate 1 .blank, [], 0⟩ := rfl
  obtain ⟨⟨replies, vm⟩, hcalls, hbits⟩ := map_eq_ok.1 hmarks
  obtain ⟨haccessed, hdirty⟩ := Prod.ext_iff.1 hbits
  obtain ⟨trace, hnames, hrun⟩ := exists_run_of_run (fun _ _ => True) (fun _ => trivial) hcalls
  exact ⟨trace, vm, hnames, hrun, haccessed, hdirty, marks_tell_history hpool hrun⟩

end DemandPaging.VirtualMemory
