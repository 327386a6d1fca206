import DemandPaging.Proofs.UserMemory
import DemandPaging.Proofs.VirtualMemory.Coherence

/-!
The machine as processes see it. Paging never changes this view, and an operation either changes it
as user memory does or fails in the machine below and leaves it alone.
-/
namespace DemandPaging

/-- The outcome that user memory has, or a failure below that changes nothing. -/
inductive Refines (memory : UserMemory) (spec : Except MemoryError Unit × UserMemory)
    (result : Except MemoryError Unit) (after : UserMemory) : Prop where
  | carriedOut : spec = (result, after) → Refines memory spec result after
  | failed {error : MemoryError} : result = .error error → error.isInternal = true →
      after = memory → Refines memory spec result after

/-- Only the machine below makes an operation differ from what user memory does. -/
theorem Refines.eq_of_external {memory after : UserMemory}
    {spec : Except MemoryError Unit × UserMemory} {result : Except MemoryError Unit}
    (h : Refines memory spec result after)
    (hexternal : ∀ error, result = .error error → error.isInternal = false) :
    spec = (result, after) := by
  cases h with
  | carriedOut heq => exact heq
  | failed hresult hinternal =>
      rw [hexternal _ hresult] at hinternal
      cases hinternal

namespace VirtualMemory

variable {δ φ π : Type} [BlockDriver δ] [SectorStore δ] {vm mid after : VirtualMemory δ φ π}
  {busy : Option UserPage} {key other : UserPage} {page : AnonPage} {number : FrameNumber}
  {frame : Frame}

/-- The bytes of a page that is at home there. -/
def contentsAt (vm : VirtualMemory δ φ π) : PageLocation → Page
  | .resident number => vm.pool.contents number
  | .swappedOut slot => vm.swap.disk.slotPage slot

def logical (vm : VirtualMemory δ φ π) (page : AnonPage) : LogicalPage :=
  ⟨page.kind, page.writable, vm.contentsAt page.location⟩

def user (vm : VirtualMemory δ φ π) : UserMemory where
  contains := vm.tables.contains
  page? key := (vm.held? key).map vm.logical
  stackLimit := vm.stackLimit

@[simp] theorem contains_user (vm : VirtualMemory δ φ π) (pid : Pid) :
    vm.user.contains pid = vm.tables.contains pid := rfl

@[simp] theorem stackLimit_user (vm : VirtualMemory δ φ π) :
    vm.user.stackLimit = vm.stackLimit := rfl

theorem page?_user (vm : VirtualMemory δ φ π) (key : UserPage) :
    vm.user.page? key = (vm.held? key).map vm.logical := rfl

theorem user_new (swap : SwapArea δ) (pool : FramePool) (placement : φ) (policy : π)
    (stackLimit : Nat) :
    (new swap pool placement policy stackLimit).user = .empty stackLimit := by
  refine UserMemory.ext (funext fun pid => ?_) (funext fun key => ?_) rfl
  · simp [new, UserMemory.empty, AddressSpaces.contains, AddressSpaces.directory?_empty]
  · simp [page?_user, new, held?, cell?, UserMemory.empty]

theorem page?_user_of_resident (hheld : vm.held? key = some page)
    (hlocation : page.location = .resident number) (hframe : vm.pool.frame? number = some frame) :
    vm.user.page? key = some ⟨page.kind, page.writable, frame.contents⟩ := by
  rw [page?_user, hheld, Option.map_some, logical, hlocation, contentsAt,
    FramePool.contents_of_frame? hframe]

theorem user_eq_set (key : UserPage) (page? : Option AnonPage)
    (hcontains : ∀ pid, after.tables.contains pid = vm.tables.contains pid)
    (hlimit : after.stackLimit = vm.stackLimit)
    (hheld : ∀ other, after.held? other = if key = other then page? else vm.held? other)
    (hcontents : ∀ other page, key ≠ other → vm.held? other = some page →
      after.contentsAt page.location = vm.contentsAt page.location) :
    after.user = vm.user.set key (page?.map after.logical) := by
  ext1
  · exact funext hcontains
  · funext other
    simp only [user, UserMemory.set, hheld]
    split
    · rfl
    · rename_i hne
      refine Option.map_congr fun page hpage => ?_
      rw [logical, logical, hcontents other page hne hpage]
  · exact hlimit

/-- The page of `key` changes its home, and takes its bytes along. -/
theorem user_congr_at (key : UserPage) {page page' : AnonPage} (hpage : vm.held? key = some page)
    (hcontains : ∀ pid, after.tables.contains pid = vm.tables.contains pid)
    (hlimit : after.stackLimit = vm.stackLimit)
    (hheld : ∀ other, after.held? other = if key = other then some page' else vm.held? other)
    (hcontents : ∀ other page, key ≠ other → vm.held? other = some page →
      after.contentsAt page.location = vm.contentsAt page.location)
    (hlogical : after.logical page' = vm.logical page) : after.user = vm.user := by
  rw [user_eq_set key (some page') hcontains hlimit hheld hcontents, Option.map_some, hlogical]
  apply UserMemory.set_self
  simp [user, hpage]

theorem user_congr (hcontains : ∀ pid, after.tables.contains pid = vm.tables.contains pid)
    (hlimit : after.stackLimit = vm.stackLimit) (hheld : ∀ key, after.held? key = vm.held? key)
    (hcontents : ∀ key page, vm.held? key = some page →
      after.contentsAt page.location = vm.contentsAt page.location) :
    after.user = vm.user := by
  ext1
  · exact funext hcontains
  · funext key
    simp only [user, hheld]
    refine Option.map_congr fun page hpage => ?_
    rw [logical, logical, hcontents key page hpage]
  · exact hlimit

omit [BlockDriver δ] [SectorStore δ] in
/-- A slot in use is none of the free ones. -/
theorem Accounted.slot_ne (h : vm.Accounted busy) {slot used : SwapSlot}
    (hfree : vm.swap.isTaken slot = false) (hheld : vm.held? key = some page)
    (hlocation : page.location = .swappedOut used) :
    slot ≠ used ∧ used.index < vm.swap.slotCount := by
  have hhome := home?_of_location hheld hlocation
  refine ⟨?_, h.bounded used (h.isTaken_iff.2 ⟨key, hhome⟩)⟩
  rintro rfl
  exact h.home?_ne_swappedOut hfree hhome

/-- What happens to a free frame is not seen. -/
theorem Accounted.contentsAt_of_free (h : vm.Accounted busy)
    (hframe : vm.pool.frame? number = some frame) (hfree : frame.status.allocated = false)
    (hpool : ∀ other, number ≠ other → after.pool.contents other = vm.pool.contents other)
    (hdisk : ∀ slot, after.swap.disk.slotPage slot = vm.swap.disk.slotPage slot)
    (hheld : vm.held? key = some page) :
    after.contentsAt page.location = vm.contentsAt page.location := by
  cases hlocation : page.location with
  | resident other =>
      refine hpool other ?_
      rintro rfl
      exact h.home?_ne_resident (h.sound.owner?_eq_none hframe hfree)
        (home?_of_location hheld hlocation)
  | swappedOut slot => exact hdisk slot

/-- Writing to a free slot is not seen, whether it succeeds or not. -/
theorem Accounted.slotPage_of_writeRun (h : vm.Accounted busy) {slot used : SwapSlot}
    {data : List UInt8} {result : Except TransferError Unit} {disk : BlockDevice δ}
    (hslot : vm.swap.IsLowestFree slot)
    (hrun : vm.swap.disk.writeRun slot.startSector slotSectors data = .ok (result, disk))
    (hheld : vm.held? key = some page) (hlocation : page.location = .swappedOut used) :
    disk.slotPage used = vm.swap.disk.slotPage used := by
  obtain ⟨hne, hused⟩ := h.slot_ne hslot.free hheld hlocation
  exact BlockDevice.slotPage_of_writeRun_ne hrun hne hslot.addressable
    (SwapSlot.addressable_of_lt hused)

theorem Attempt.user_eq {result : Except MemoryError SwapSlot} (hstep : Attempt vm result after)
    (h : vm.Accounted busy) : after.user = vm.user := by
  cases hstep with
  | exhausted => rfl
  | failed hcell hlocation hframe hslot hrun =>
      refine user_congr (fun _ => rfl) rfl (fun _ => rfl) fun other page hheld => ?_
      cases hat : page.location with
      | resident number => rfl
      | swappedOut used => exact h.slotPage_of_writeRun hslot hrun hheld hat
  | moved hcell hlocation hframe hallocated hslot hrun =>
      rename_i key page number frame slot disk
      have hwritten : disk.slotPage slot = frame.contents :=
        Bytes.ext (BlockDevice.slotPage_of_writeRun hrun frame.contents.length_toList)
      refine user_congr_at key (held?_of_cell? hcell) ?_ rfl
        (fun other => held?_putPage _ key other _) ?_ ?_
      · intro pid
        simp [putPage]
      · intro other page _ hheld
        cases hat : page.location with
        | resident other => exact FramePool.contents_release hframe other
        | swappedOut used => exact h.slotPage_of_writeRun hslot hrun hheld hat
      · simp only [logical, hlocation, contentsAt, putPage]
        rw [hwritten, FramePool.contents_of_frame? hframe]

/-- The cell of `key` changes, but not what it holds. -/
theorem user_unlock {page? : Option AnonPage} (hpage : mid.held? key = page?)
    (hheld : ∀ other, after.held? other = if key = other then page? else mid.held? other)
    (htables : after.tables = mid.tables) (hlimit : after.stackLimit = mid.stackLimit)
    (hcontents : ∀ other page, mid.held? other = some page →
      after.contentsAt page.location = mid.contentsAt page.location) : after.user = mid.user :=
  user_congr (fun pid => by rw [htables]) hlimit (held?_of_put_back hpage hheld) hcontents

theorem user_lock {page? : Option AnonPage} (hpage : vm.held? key = page?) :
    (vm.lock key page?).user = vm.user :=
  user_unlock hpage (held?_lock vm key · page?) rfl rfl fun _ _ _ => rfl

theorem user_createSpace {pid : Pid} {fresh : Bool} (hcall : vm.createSpace pid = (fresh, after)) :
    vm.user.createSpace pid = (fresh, after.user) := by
  simp only [createSpace] at hcall
  split at hcall
  · rename_i hexists
    cases hcall
    have hspace : vm.tables.contains pid = true := by
      simp only [AddressSpaces.create?] at hexists
      split at hexists
      · assumption
      · cases hexists
    simp [UserMemory.createSpace, hspace]
  · rename_i tables hcreate
    cases hcall
    obtain ⟨hnew, hcontains, -⟩ := AddressSpaces.create?_eq_some hcreate
    simp only [UserMemory.createSpace, contains_user, hnew]
    refine congrArg (Prod.mk true) (UserMemory.ext ?_ rfl rfl)
    exact funext fun other => (hcontains other).symm

theorem Discarded.user_eq (hcases : Discarded vm key after) (hbooks : vm.Accounted none) :
    after.user = vm.user.set key none := by
  cases hcases with
  | unfinished hcell => exact absurd hcell hbooks.cell?_ne_unfinished
  | destroyed hcell hdestroyed =>
      rename_i page store
      refine user_eq_set key none ?_ rfl (held?_forget _ key) ?_
      · intro pid
        cases hdestroyed <;> exact AddressSpaces.contains_unmap vm.tables key.owner pid key.base
      · intro other page _ _
        cases hdestroyed with
        | resident hlocation hframe =>
            cases page.location with
            | resident number => exact FramePool.contents_release hframe number
            | swappedOut slot => rfl
        | swappedOut => cases page.location <;> rfl

theorem DiscardedAll.user_eq {keys : List UserPage} (hcases : DiscardedAll vm keys after)
    (hbooks : vm.Accounted none) :
    after.user =
      { vm.user with page? := fun key => if key ∈ keys then none else vm.user.page? key } := by
  induction hcases with
  | nil => exact UserMemory.ext rfl (funext fun _ => by simp) rfl
  | cons hfirst _ ih =>
      rename_i vm mid after key keys _
      rw [ih (hfirst.accounted hbooks), hfirst.user_eq hbooks]
      refine UserMemory.ext rfl (funext fun other => ?_) rfl
      by_cases heq : key = other
      · simp [UserMemory.set, heq]
      · simp [UserMemory.set, heq, Ne.symm heq]

theorem user_unmap {pid : Pid} {addr : Nat} {result : Except MemoryError Unit}
    (hcall : vm.unmap pid addr = .ok (result, after)) (hbooks : vm.Accounted none) :
    vm.user.unmap pid addr = (result, after.user) := by
  obtain ⟨hcell, rfl, rfl⟩ | ⟨rfl, hdiscarded⟩ := unmap_cases hcall
  · simp [UserMemory.unmap, page?_user, held?, hcell]
  · rw [hdiscarded.user_eq hbooks]
    have hcell : ∃ page, vm.held? (.containing pid addr) = some page := by
      cases hdiscarded with
      | unfinished hcell => exact absurd hcell hbooks.cell?_ne_unfinished
      | destroyed hcell => exact ⟨_, held?_of_cell? hcell⟩
    obtain ⟨page, hheld⟩ := hcell
    simp [UserMemory.unmap, page?_user, hheld]

theorem user_destroySpace {pid : Pid} {result : Except MemoryError Unit}
    (hcall : vm.destroySpace pid = .ok (result, after)) (hbooks : vm.Accounted none) :
    vm.user.destroySpace pid = (result, after.user) := by
  obtain ⟨mid, hdiscarded, hend⟩ := destroySpace_cases hcall
  have hmid := hdiscarded.user_eq hbooks
  have hcontains (other : Pid) : mid.tables.contains other = vm.tables.contains other :=
    congrFun (congrArg (·.contains) hmid) other
  have hpage (key : UserPage) : (if key.owner = pid then none else vm.user.page? key) =
      mid.user.page? key := by
    rw [hmid]
    by_cases howner : key.owner = pid
    · by_cases hcell : vm.cell? key = none
      · simp [mem_keysOf, howner, hcell, page?_user, held?]
      · simp [mem_keysOf, howner, hcell]
    · simp [mem_keysOf, howner]
  have hlimit : mid.stackLimit = vm.stackLimit := congrArg (·.stackLimit) hmid
  obtain ⟨hspace, rfl, rfl⟩ | ⟨hspace, rfl, rfl⟩ := hend
  · simp only [UserMemory.destroySpace, contains_user, ← hcontains, hspace, if_true]
    refine congrArg (Prod.mk _) (UserMemory.ext ?_ (funext hpage) hlimit.symm)
    exact funext fun other => (mid.tables.contains_destroy pid other).symm
  · simp only [UserMemory.destroySpace, contains_user, ← hcontains, hspace]
    refine congrArg (Prod.mk _) (UserMemory.ext ?_ (funext hpage) hlimit.symm)
    funext other
    by_cases heq : pid = other
    · simp [← heq, hspace]
    · simp [heq]

section Reclaiming

variable [Replacement π] [GentleReplacement π]

theorem Search.user_eq (hstep : Search vm after) : after.user = vm.user := by
  cases hstep with
  | consulted hchoice =>
      exact user_congr (GentleReplacement.alike hchoice).contains rfl (fun _ => rfl)
        fun _ _ _ => rfl
  | requeued number =>
      refine user_congr (fun _ => rfl) rfl (fun _ => rfl) fun key page _ => ?_
      cases page.location with
      | resident other => exact FramePool.contents_moveToBack vm.pool number other
      | swappedOut slot => rfl

/-- Processes do not see that a frame is looked for. -/
theorem Reclaims.user_eq (hsteps : Reclaims vm after) (hbooks : vm.Accounted busy) :
    after.user = vm.user := by
  induction hsteps with
  | refl => rfl
  | tail hbefore hstep ih =>
      refine Eq.trans ?_ ih
      cases hstep with
      | placed => rfl
      | searched hsearch => exact hsearch.user_eq
      | attempted hattempt => exact hattempt.user_eq (Reclaims.accounted hbefore hbooks)

theorem Reclaims.user_eq_of_lock {page? : Option AnonPage}
    (hsteps : Reclaims (vm.lock key page?) mid) (hbooks : vm.Accounted none)
    (hpage : vm.held? key = page?) : mid.user = vm.user :=
  (hsteps.user_eq (hbooks.lock page? hpage)).trans (user_lock hpage)

variable [Placement φ] {result : Except MemoryError Unit}

/-- A page that is mapped to the frame found for it brings `contents` there. -/
theorem Granted.user_occupy {page? : Option AnonPage} {contents : Page} {tables : AddressSpaces}
    {placement : φ}
    (hgranted : Granted (vm.lock key page?) mid number frame placement) (page : AnonPage)
    (hbooks : vm.Accounted none) (hpage : vm.held? key = page?)
    (hlocation : page.location = .resident number)
    (hmap : mid.tables.map key.owner key.base number page.writable = .ok (.done tables))
    (htables : after.tables = tables) (hlimit : after.stackLimit = mid.stackLimit)
    (hheld : ∀ other, after.held? other = if key = other then some page else mid.held? other)
    (hpool : after.pool = mid.pool.occupy number frame key contents)
    (hdisk : ∀ slot, after.swap.disk.slotPage slot = mid.swap.disk.slotPage slot) :
    after.user = vm.user.set key (some ⟨page.kind, page.writable, contents⟩) := by
  have hlocked := hgranted.reclaims.accounted (hbooks.lock page? hpage)
  obtain ⟨-, hcontains, -⟩ := AddressSpaces.map_eq_done key
    (hlocked.sound.index_lt_limit hgranted.frame?_eq) hmap
  subst htables
  have hset := user_eq_set key (some page) hcontains hlimit hheld ?_
  · rw [hset, hgranted.reclaims.user_eq_of_lock hbooks hpage, Option.map_some, logical, hlocation]
    simp [contentsAt, hpool, FramePool.contents_occupy hgranted.frame?_eq]
  · intro other page _ hother
    refine hlocked.contentsAt_of_free hgranted.frame?_eq hgranted.free ?_ hdisk hother
    intro other hne
    rw [hpool, FramePool.contents_occupy hgranted.frame?_eq, if_neg hne]

theorem MapZero.refines {pid : Pid} {addr : Nat} {kind : PageKind} {writable : Bool}
    (hcases : MapZero vm pid addr kind writable result after) (hbooks : vm.Accounted none)
    (h : vm.Coherent) :
    Refines vm.user (vm.user.mapZero pid addr kind writable) result after.user := by
  cases hcases with
  | notUserAddress huser => exact .carriedOut (by simp [UserMemory.mapZero, huser])
  | noAddressSpace huser hspace =>
      exact .carriedOut (by simp [UserMemory.mapZero, user, huser, hspace])
  | alreadyMapped huser hspace hcell =>
      obtain ⟨page, rfl⟩ := hbooks.exists_page hcell
      have hheld := held?_of_cell? hcell
      exact .carriedOut (by simp [UserMemory.mapZero, user, huser, hspace, hheld])
  | noFrame hmappable hdenied =>
      have hvacant := hmappable.held?_eq_none
      have hmid := hdenied.reclaims.user_eq_of_lock hbooks hvacant
      have hafter := user_unlock hdenied.reclaims.held?_of_lock (held?_forget _ _) rfl rfl
        fun _ _ _ => rfl
      exact .failed rfl hdenied.internal (hafter.trans hmid)
  | abandoned placement hmappable hgranted hmap hfailed =>
      obtain ⟨tables, hdone⟩ := hgranted.map_mappable hmappable hbooks h hmap
      exact absurd hdone (hfailed tables)
  | made placement hmappable hgranted hmap =>
      rename_i mid number frame tables
      have hvacant := hmappable.held?_eq_none
      have hspec : vm.user.mapZero pid addr kind writable = (.ok (), vm.user.set
          (.containing pid addr) (some ⟨kind, writable, .zero pageSize⟩)) := by
        simp [UserMemory.mapZero, user, hmappable.inUserSpace, hmappable.contains, hvacant]
      refine .carriedOut (hspec.trans (congrArg (Prod.mk _) (Eq.symm ?_)))
      exact hgranted.user_occupy ⟨.containing pid addr, writable, kind, .resident number⟩ hbooks
        hvacant rfl hmap rfl rfl (fun other => held?_putPage _ _ other _) rfl fun _ => rfl

omit [Replacement π] [GentleReplacement π] [Placement φ] in
/-- What is read from a slot is the whole page. -/
theorem contents_of_readRun {slot : SwapSlot} {data : List UInt8} {disk : BlockDevice δ}
    (hread : mid.swap.disk.readRun slot.startSector slotSectors frame.contents.toList =
      .ok (.ok (), data, disk)) :
    (frame.filled data).contents = mid.swap.disk.slotPage slot := by
  obtain rfl := BlockDevice.buffer_of_readRun_slot hread frame.contents.length_toList
  exact Bytes.overwrite_zero _ _

theorem BringBack.user_eq {slot : SwapSlot} (hcases : BringBack vm key page slot result after)
    (hbooks : vm.Accounted none) (h : vm.Coherent)
    (hcell : vm.cell? key = some ⟨false, some page⟩)
    (hlocation : page.location = .swappedOut slot) :
    after.user = vm.user ∧ ∀ error, result = .error error → error.isInternal = true := by
  have hheld := held?_of_cell? hcell
  have hlocked := hbooks.lock (some page) hheld
  cases hcases with
  | noFrame hdenied =>
      have hafter := user_unlock hdenied.reclaims.held?_of_lock
        (fun other => held?_putPage _ key other page) rfl rfl fun _ _ _ => rfl
      refine ⟨hafter.trans (hdenied.reclaims.user_eq_of_lock hbooks hheld), ?_⟩
      rintro _ ⟨⟩
      exact hdenied.internal
  | notRead placement hgranted hread =>
      rename_i mid number frame data error disk
      refine ⟨Eq.trans ?_ (hgranted.reclaims.user_eq_of_lock hbooks hheld), ?_⟩
      · refine user_unlock hgranted.reclaims.held?_of_lock
          (fun other => held?_putPage _ key other page) rfl rfl fun other page hother => ?_
        refine (hgranted.reclaims.accounted hlocked).contentsAt_of_free hgranted.frame?_eq
          hgranted.free ?_ (BlockDevice.slotPage_of_readRun hread) hother
        intro other hne
        exact (FramePool.contents_giveBack hgranted.frame?_eq _ _ other).trans (if_neg hne)
      · rintro _ ⟨⟩
        rfl
  | unmapped placement hgranted _ _ hmap hfailed =>
      have hmid := hgranted.reclaims.coherent hlocked (h.lock hheld)
      obtain ⟨tables, hdone⟩ := hgranted.map_done hbooks h hheld
        (not_resident_of_swappedOut hlocation) nofun
        (hmid.spaced hgranted.reclaims.held?_of_lock) hmap
      exact absurd hdone (hfailed tables)
  | done placement hgranted _ hread hmap =>
      rename_i mid number frame data disk tables _
      -- The page in its slot is the one that was seen all the time.
      have hseen : vm.user.page? key =
          some ⟨page.kind, page.writable, (frame.filled data).contents⟩ := by
        rw [← hgranted.reclaims.user_eq_of_lock hbooks hheld, contents_of_readRun hread]
        simp [user, hgranted.reclaims.held?_of_lock, logical, hlocation, contentsAt]
      refine ⟨Eq.trans ?_ (UserMemory.set_self hseen), nofun⟩
      exact hgranted.user_occupy { page with location := .resident number } hbooks hheld rfl
        hmap rfl rfl (fun other => held?_putPage _ key other _) rfl
        (BlockDevice.slotPage_of_readRun hread)

theorem ResolveFault.refines {pid : Pid} {fault : FaultReport}
    (hcases : ResolveFault vm pid fault result after) (hbooks : vm.Accounted none)
    (h : vm.Coherent) :
    Refines vm.user (vm.user.resolveFault pid fault) result after.user := by
  have hseen {cell? : Option PageCell} (hcell : vm.cell? (.containing pid fault.addr) = cell?) :
      vm.user.page? (.containing pid fault.addr) = (cell?.bind (·.page?)).map vm.logical := by
    rw [page?_user, held?, hcell]
  cases hcases with
  | notUserAddress huser => exact .carriedOut (by simp [UserMemory.resolveFault, huser])
  | grown huser hcell hgrows hmapped =>
      rename_i result
      have hspec : vm.user.resolveFault pid fault = vm.user.mapZero pid fault.addr .stack true := by
        simp [UserMemory.resolveFault, huser, hseen hcell, hgrows]
      rw [hspec]
      have hmade := hmapped.refines hbooks h
      have hfresh : result ≠ .error .alreadyMapped := by
        rintro rfl
        cases hmade with
        | carriedOut hmade => exact UserMemory.mapZero_ne_alreadyMapped (hseen hcell) hmade
        | failed hresult hinternal =>
            cases hresult
            cases hinternal
      rw [grown_eq_self hfresh]
      exact hmade
  | notMapped huser hcell hstays =>
      exact .carriedOut (by simp [UserMemory.resolveFault, huser, hseen hcell, hstays])
  | unfinished _ hcell => exact absurd hcell hbooks.cell?_ne_unfinished
  | writeProtected huser hcell hwrite hwritable =>
      refine .carriedOut ?_
      simp [UserMemory.resolveFault, huser, hseen hcell, logical, hwrite, hwritable]
  | resident huser hcell hallowed _ =>
      refine .carriedOut ?_
      simpa [UserMemory.resolveFault, huser, hseen hcell, logical] using hallowed
  | broughtBack huser hcell hallowed hlocation hback =>
      obtain ⟨hsame, hinternal⟩ := hback.user_eq hbooks h hcell hlocation
      cases result with
      | error error => exact .failed rfl (hinternal error rfl) hsame
      | ok =>
          refine .carriedOut ?_
          rw [hsame]
          simpa [UserMemory.resolveFault, huser, hseen hcell, logical] using hallowed

/-- What an access to the page of `addr` tells of user memory. -/
inductive Reached (memory : UserMemory) (after : VirtualMemory δ φ π) (pid : Pid) (addr : Nat)
    (write : Bool) : Except MemoryError FrameNumber → Prop where
  | granted {page : AnonPage} {number : FrameNumber} : memory.access pid addr write = .ok () →
      after.held? (.containing pid addr) = some page → page.location = .resident number →
      Reached memory after pid addr write (.ok number)
  | refused {error : MemoryError} : memory.access pid addr write = .error error →
      Reached memory after pid addr write (.error error)
  | failed {error : MemoryError} : error.isInternal = true →
      Reached memory after pid addr write (.error error)

variable {pid : Pid} {addr : Nat} {write : Bool} {found : Except MemoryError FrameNumber}

omit [Placement φ] [Replacement π] [GentleReplacement π] in
theorem Touched.seen (hcases : Touched vm pid addr write found after) (h : vm.Coherent)
    (huser : inUserSpace addr = true) :
    after.user = vm.user ∧ Reached vm.user after pid addr write found := by
  cases hcases with
  | noAddressSpace hspace =>
      exact ⟨rfl, .refused (by simp [UserMemory.access, huser, hspace])⟩
  | writeProtected hspace hmeaning hpresent hwrite hwritable =>
      obtain ⟨page, hheld, -, hsame⟩ := h.exists_resident hmeaning hpresent
      refine ⟨rfl, .refused ?_⟩
      simp [UserMemory.access, huser, hspace, page?_user, hheld, logical, hwrite, hsame, hwritable]
  | reached hspace hmeaning hpresent hallowed =>
      obtain ⟨page, hheld, hlocation, hsame⟩ := h.exists_resident hmeaning hpresent
      refine ⟨user_congr (fun _ => by simp) rfl (fun _ => rfl) fun _ _ _ => rfl,
        .granted ?_ hheld hlocation⟩
      simpa [UserMemory.access, huser, hspace, page?_user, hheld, logical, hsame] using hallowed

theorem Access.seen (hcases : Access pid addr write vm found after)
    (hbooks : vm.Accounted none) (h : vm.Coherent) (huser : inUserSpace addr = true) :
    after.user = vm.user ∧ Reached vm.user after pid addr write found := by
  have hresolve {vm after : VirtualMemory δ φ π} {result : Except MemoryError Unit}
      (htouch : vm.touch? pid addr write = none)
      (hresolve : ResolveFault vm pid ⟨addr, write, none⟩ result after)
      (hbooks : vm.Accounted none) (h : vm.Coherent) :
      Refines vm.user (vm.user.access pid addr write, vm.user) result after.user := by
    rw [← UserMemory.resolveFault_of_contains (touch?_eq_none htouch).1]
    exact hresolve.refines hbooks h
  induction hcases with
  | touched htouched => exact htouched.seen h huser
  | unresolved htouch hfailed =>
      cases hresolve htouch hfailed hbooks h with
      | carriedOut heq =>
          obtain ⟨hrefused, hsame⟩ := Prod.mk.inj heq
          exact ⟨hsame.symm, .refused hrefused⟩
      | failed herror hinternal hsame =>
          cases herror
          exact ⟨hsame, .failed hinternal⟩
  | resolved htouch hdone _ ih =>
      obtain ⟨hsame, hreached⟩ := ih (hdone.accounted hbooks) (hdone.coherent hbooks h)
      cases hresolve htouch hdone hbooks h with
      | carriedOut heq =>
          rw [← (Prod.mk.inj heq).2] at hsame hreached
          exact ⟨hsame, hreached⟩
      | failed herror => cases herror

/-- An access changes nothing that processes see, and they see why it ends as it does. -/
theorem reached_of_access (haccess : vm.access pid addr write = .ok (found, after))
    (hbooks : vm.Accounted none) (h : vm.Coherent) :
    after.user = vm.user ∧ Reached vm.user after pid addr write found := by
  obtain ⟨huser, rfl, rfl⟩ | ⟨huser, hcases⟩ := access_cases haccess
  · exact ⟨rfl, .refused (by simp [UserMemory.access, huser])⟩
  · exact hcases.seen hbooks h huser

end Reclaiming

end VirtualMemory

end DemandPaging
