import DemandPaging.Proofs.VirtualMemory.Run
import DemandPaging.Proofs.VirtualMemory.UserCopy

/-!
The books of the machine: which page each frame and each slot belongs to. They stay in order
whatever placement, policy and device do, since no operation believes a policy before it has looked
the page up. They are kept while a page is on its way out, too: one that is out of the map already
but has not given its frame or slot back.
-/
namespace DemandPaging.VirtualMemory

variable {δ φ π : Type} {vm mid after : VirtualMemory δ φ π} {busy busy' : Option UserPage}
  {adrift : Option AnonPage} {key other : UserPage} {page : AnonPage} {number : FrameNumber}
  {frame : Frame}

/-- Where the contents of the page of `key` are. -/
def home? (vm : VirtualMemory δ φ π) (key : UserPage) : Option PageLocation :=
  (vm.held? key).map (·.location)

/-- The page that is adrift is the one of `key` and has its contents there. -/
def Strays (adrift : Option AnonPage) (key : UserPage) (location : PageLocation) : Prop :=
  ∃ page ∈ adrift, page.key = key ∧ page.location = location

/-- A page of `key` has its contents there, in the map or adrift. -/
def Lives (vm : VirtualMemory δ φ π) (adrift : Option AnonPage) (key : UserPage)
    (location : PageLocation) : Prop :=
  vm.home? key = some location ∨ Strays adrift key location

/-- Frames and slots in use are the homes of pages, one page each. An operation may be at work on
the page of `busy`, and every other cell is finished. A page may be `adrift`, out of the map. -/
structure Accounted (vm : VirtualMemory δ φ π) (busy : Option UserPage)
    (adrift : Option AnonPage := none) : Prop where
  sound : vm.pool.Sound
  unpinned : vm.pool.Unpinned
  bounded : vm.swap.Bounded
  finished : ∀ {key cell}, vm.cell? key = some cell → busy ≠ some key →
    ∃ page, cell = ⟨false, some page⟩
  keyed : ∀ {key page}, vm.held? key = some page → page.key = key
  owner?_iff_lives : ∀ {number key},
    vm.pool.owner? number = some key ↔ vm.Lives adrift key (.resident number)
  isTaken_iff_lives : ∀ {slot},
    vm.swap.isTaken slot = true ↔ ∃ key, vm.Lives adrift key (.swappedOut slot)
  alone : ∀ {slot a b}, vm.home? a = some (.swappedOut slot) →
    vm.home? b = some (.swappedOut slot) → a = b
  apart : ∀ {key other location}, Strays adrift other location → vm.home? key ≠ some location

theorem lives_none {location : PageLocation} :
    vm.Lives none key location ↔ vm.home? key = some location := by
  simp [Lives, Strays]

theorem Accounted.owner?_eq_some (h : vm.Accounted busy) :
    vm.pool.owner? number = some key ↔ vm.home? key = some (.resident number) :=
  h.owner?_iff_lives.trans lives_none

theorem Accounted.isTaken_iff (h : vm.Accounted busy) {slot : SwapSlot} :
    vm.swap.isTaken slot = true ↔ ∃ key, vm.home? key = some (.swappedOut slot) :=
  h.isTaken_iff_lives.trans (exists_congr fun _ => lives_none)

/-- Where no operation is at work, every cell holds a page. -/
theorem Accounted.exists_page (h : vm.Accounted none adrift) {cell : PageCell}
    (hcell : vm.cell? key = some cell) : ∃ page, cell = ⟨false, some page⟩ :=
  h.finished hcell (by simp)

theorem Accounted.cell?_ne_unfinished (h : vm.Accounted none adrift) :
    vm.cell? key ≠ some ⟨false, none⟩ := by
  intro hcell
  obtain ⟨page, hpage⟩ := h.exists_page hcell
  cases hpage

/-- Where no operation is at work, looking up a page never waits. -/
theorem Accounted.page?_eq (h : vm.Accounted none adrift) (pid : Pid) (addr : Nat) :
    vm.page? pid addr = .ok (vm.held? (.containing pid addr)) := by
  simp only [page?, held?]
  cases hcell : vm.cell? (.containing pid addr) with
  | none => rfl
  | some cell =>
      obtain ⟨page, rfl⟩ := h.exists_page hcell
      rfl

theorem Accounted.page?_eq_some (h : vm.Accounted none adrift) {pid : Pid} {addr : Nat} :
    vm.page? pid addr = .ok (some page) ↔ vm.held? (.containing pid addr) = some page := by
  rw [h.page?_eq, Except.ok.injEq]

theorem home?_of_held? (h : vm.held? key = some page) : vm.home? key = some page.location := by
  simp [home?, h]

theorem home?_of_location {location : PageLocation} (h : vm.held? key = some page)
    (hlocation : page.location = location) : vm.home? key = some location := by
  rw [home?_of_held? h, hlocation]

theorem home?_congr (h : after.held? key = vm.held? key) : after.home? key = vm.home? key := by
  rw [home?, home?, h]

/-- What it means for all keys that the cell of one is emptied or filled with a page. -/
theorem held?_of_cell?_eq {page? : Option AnonPage} (hcell : ∀ other, after.cell? other =
      if key = other then page?.map (⟨false, some ·⟩) else vm.cell? other) (other : UserPage) :
    after.held? other = if key = other then page? else vm.held? other := by
  rw [held?, hcell]
  split
  · cases page? <;> rfl
  · rfl

theorem Accounted.eq_of_resident (h : vm.Accounted busy adrift)
    (hkey : vm.home? key = some (.resident number))
    (hother : vm.home? other = some (.resident number)) : key = other := by
  have howner := h.owner?_iff_lives.2 (.inl hkey)
  rw [h.owner?_iff_lives.2 (.inl hother)] at howner
  exact (Option.some.inj howner).symm

/-- A frame that a page lives in is there and allocated. -/
theorem Accounted.frame_of_lives (h : vm.Accounted busy adrift)
    (hlives : vm.Lives adrift key (.resident number)) :
    ∃ frame, vm.pool.frame? number = some frame ∧ frame.status.allocated = true := by
  have howner := h.owner?_iff_lives.2 hlives
  obtain ⟨frame, hframe, -⟩ := Option.bind_eq_some_iff.1 howner
  exact ⟨frame, hframe, (h.sound.allocated_iff hframe).2 ⟨key, howner⟩⟩

theorem Accounted.exists_frame (h : vm.Accounted busy adrift) (hheld : vm.held? key = some page)
    (hlocation : page.location = .resident number) :
    ∃ frame, vm.pool.frame? number = some frame ∧ frame.status.allocated = true :=
  h.frame_of_lives (.inl (home?_of_location hheld hlocation))

/-- The slot of a swapped-out page is taken. -/
theorem Accounted.isTaken_of_swappedOut (h : vm.Accounted busy adrift) {slot : SwapSlot}
    (hheld : vm.held? key = some page) (hlocation : page.location = .swappedOut slot) :
    vm.swap.isTaken slot = true :=
  h.isTaken_iff_lives.2 ⟨key, .inl (home?_of_location hheld hlocation)⟩

/-- Nobody lives in a frame without an owner. -/
theorem Accounted.not_lives_resident (h : vm.Accounted busy adrift)
    (hfree : vm.pool.owner? number = none) : ¬ vm.Lives adrift key (.resident number) := by
  intro hlives
  have howner := h.owner?_iff_lives.2 hlives
  rw [hfree] at howner
  cases howner

/-- Nobody lives in a slot that is not taken. -/
theorem Accounted.not_lives_swappedOut (h : vm.Accounted busy adrift) {slot : SwapSlot}
    (hfree : vm.swap.isTaken slot = false) : ¬ vm.Lives adrift key (.swappedOut slot) := by
  intro hlives
  have htaken := h.isTaken_iff_lives.2 ⟨key, hlives⟩
  rw [hfree] at htaken
  cases htaken

theorem Accounted.home?_ne_resident (h : vm.Accounted busy adrift)
    (hfree : vm.pool.owner? number = none) : vm.home? key ≠ some (.resident number) :=
  fun hhome => h.not_lives_resident hfree (.inl hhome)

theorem Accounted.home?_ne_swappedOut (h : vm.Accounted busy adrift) {slot : SwapSlot}
    (hfree : vm.swap.isTaken slot = false) : vm.home? key ≠ some (.swappedOut slot) :=
  fun hhome => h.not_lives_swappedOut hfree (.inl hhome)

theorem Accounted.finished_of_cell?_eq (h : vm.Accounted busy adrift) {page? : Option AnonPage}
    (hcell : ∀ other, after.cell? other =
      if key = other then page?.map (⟨false, some ·⟩) else vm.cell? other)
    (hbusy : ∀ other, busy = some other → busy' = some other ∨ key = other) {cell : PageCell}
    (hother : after.cell? other = some cell) (hidle : busy' ≠ some other) :
    ∃ page, cell = ⟨false, some page⟩ := by
  rw [hcell] at hother
  split at hother
  · obtain ⟨page, -, rfl⟩ := Option.map_eq_some_iff.1 hother
    exact ⟨page, rfl⟩
  · rename_i hne
    refine h.finished hother fun heq => ?_
    obtain hstill | rfl := hbusy other heq
    · exact hidle hstill
    · exact hne rfl

/-- What the machine owns is all that the books are about. -/
theorem Accounted.of_same (h : vm.Accounted busy adrift) (hsound : after.pool.Sound)
    (hunpinned : after.pool.Unpinned)
    (howner : ∀ number, after.pool.owner? number = vm.pool.owner? number)
    (htaken : after.swap.taken = vm.swap.taken)
    (hsize : after.swap.disk.size = vm.swap.disk.size)
    (hheld : ∀ key, after.held? key = vm.held? key)
    (hfinished : ∀ {key cell}, after.cell? key = some cell → busy' ≠ some key →
      ∃ page, cell = ⟨false, some page⟩) :
    after.Accounted busy' adrift := by
  have hhome : ∀ key, after.home? key = vm.home? key := fun key => home?_congr (hheld key)
  have hisTaken : ∀ slot, after.swap.isTaken slot = vm.swap.isTaken slot := by
    intro slot
    rw [SwapArea.isTaken, SwapArea.isTaken, htaken]
  refine ⟨hsound, hunpinned, ?_, hfinished, ?_, ?_, ?_, ?_, ?_⟩
  · intro slot hslot
    rw [SwapArea.slotCount, hsize]
    exact h.bounded slot ((hisTaken slot).symm.trans hslot)
  · intro key page hpage
    exact h.keyed ((hheld key).symm.trans hpage)
  · intro number key
    rw [howner, Lives, hhome]
    exact h.owner?_iff_lives
  · intro slot
    rw [hisTaken, h.isTaken_iff_lives]
    simp only [Lives, hhome]
  · intro slot a b ha hb
    rw [hhome] at ha hb
    exact h.alone ha hb
  · intro key other location hstray
    rw [hhome]
    exact h.apart hstray

/-- The page of `key` moves to a home that was free, comes or goes; frames and slots know. -/
structure Rehomed (vm after : VirtualMemory δ φ π) (key : UserPage)
    (home : Option PageLocation) : Prop where
  home? : ∀ other, after.home? other = if key = other then home else vm.home? other
  owner? : ∀ number, after.pool.owner? number =
    if home = some (.resident number) then some key
    else if vm.home? key = some (.resident number) then none else vm.pool.owner? number
  isTaken : ∀ slot, after.swap.isTaken slot = true ↔ home = some (.swappedOut slot) ∨
    vm.swap.isTaken slot = true ∧ vm.home? key ≠ some (.swappedOut slot)
  freeFrame : ∀ number, home = some (.resident number) → vm.pool.owner? number = none
  freeSlot : ∀ slot, home = some (.swappedOut slot) → vm.swap.isTaken slot = false

namespace Rehomed

variable {home : Option PageLocation}

/-- The new home belongs to the page, the old one to nobody, and the others to whom they did. -/
theorem owner?_iff_lives (hmove : vm.Rehomed after key home) (h : vm.Accounted busy adrift) :
    after.pool.owner? number = some other ↔ after.Lives adrift other (.resident number) := by
  rw [hmove.owner?, Lives, hmove.home?]
  by_cases hnew : home = some (.resident number)
  · have hnone : ¬ vm.Lives adrift other (.resident number) :=
      h.not_lives_resident (hmove.freeFrame number hnew)
    rw [Lives, not_or] at hnone
    by_cases heq : key = other <;> simp [hnew, heq, hnone]
  · by_cases hold : vm.home? key = some (.resident number)
    · rw [if_neg hnew, if_pos hold]
      have hnot : ¬ Strays adrift other (.resident number) := fun hstray => h.apart hstray hold
      by_cases heq : key = other
      · simp [hnew, heq, hnot]
      · have hnone : vm.home? other ≠ some (.resident number) := fun hother =>
          heq (h.eq_of_resident hold hother)
        simp [heq, hnone, hnot]
    · rw [if_neg hnew, if_neg hold, h.owner?_iff_lives, Lives]
      by_cases heq : key = other
      · subst heq
        simp [hnew, hold]
      · simp [heq]

theorem isTaken_iff_lives (hmove : vm.Rehomed after key home) (h : vm.Accounted busy adrift)
    {slot : SwapSlot} :
    after.swap.isTaken slot = true ↔ ∃ key, after.Lives adrift key (.swappedOut slot) := by
  rw [hmove.isTaken]
  constructor
  · rintro (hnew | ⟨hslot, hmoved⟩)
    · exact ⟨key, .inl (by rw [hmove.home?, if_pos rfl, hnew])⟩
    · obtain ⟨other, hother | hstray⟩ := h.isTaken_iff_lives.1 hslot
      · have hne : key ≠ other := fun heq => hmoved (heq ▸ hother)
        exact ⟨other, .inl (by rw [hmove.home?, if_neg hne, hother])⟩
      · exact ⟨other, .inr hstray⟩
  · rintro ⟨other, hother | hstray⟩
    · rw [hmove.home?] at hother
      split at hother
      · exact .inl hother
      · rename_i hne
        exact .inr ⟨h.isTaken_iff_lives.2 ⟨other, .inl hother⟩, fun hold =>
          hne (h.alone hold hother)⟩
    · exact .inr ⟨h.isTaken_iff_lives.2 ⟨other, .inr hstray⟩, h.apart hstray⟩

theorem alone (hmove : vm.Rehomed after key home) (h : vm.Accounted busy adrift)
    {slot : SwapSlot} {a b : UserPage} (ha : after.home? a = some (.swappedOut slot))
    (hb : after.home? b = some (.swappedOut slot)) : a = b := by
  rw [hmove.home?] at ha hb
  split at ha
  · split at hb
    · rename_i heqa heqb
      exact heqa.symm.trans heqb
    · exact absurd hb (h.home?_ne_swappedOut (hmove.freeSlot slot ha))
  · split at hb
    · exact absurd ha (h.home?_ne_swappedOut (hmove.freeSlot slot hb))
    · exact h.alone ha hb

theorem apart (hmove : vm.Rehomed after key home) (h : vm.Accounted busy adrift)
    {stray : UserPage} {location : PageLocation} (hstray : Strays adrift stray location) :
    after.home? other ≠ some location := by
  rw [hmove.home?]
  split
  · intro hnew
    cases location with
    | resident number =>
        exact h.not_lives_resident (hmove.freeFrame number hnew) (.inr hstray)
    | swappedOut slot =>
        exact h.not_lives_swappedOut (hmove.freeSlot slot hnew) (.inr hstray)
  · exact h.apart hstray

end Rehomed

/-- The books stay in order where a page moves to a free home, comes or goes. -/
theorem Accounted.rehome (h : vm.Accounted busy adrift) (page? : Option AnonPage)
    (hsound : after.pool.Sound) (hunpinned : after.pool.Unpinned) (hbounded : after.swap.Bounded)
    (hcell : ∀ other, after.cell? other =
      if key = other then page?.map (⟨false, some ·⟩) else vm.cell? other)
    (hbusy : ∀ other, busy = some other → busy' = some other ∨ key = other)
    (hkey : ∀ page ∈ page?, page.key = key)
    (howner : ∀ number, after.pool.owner? number =
      if page?.map (·.location) = some (.resident number) then some key
      else if vm.home? key = some (.resident number) then none else vm.pool.owner? number)
    (htaken : ∀ slot, after.swap.isTaken slot = true ↔
      page?.map (·.location) = some (.swappedOut slot) ∨
        vm.swap.isTaken slot = true ∧ vm.home? key ≠ some (.swappedOut slot))
    (hfreeFrame : ∀ number, page?.map (·.location) = some (.resident number) →
      vm.pool.owner? number = none)
    (hfreeSlot : ∀ slot, page?.map (·.location) = some (.swappedOut slot) →
      vm.swap.isTaken slot = false) :
    after.Accounted busy' adrift := by
  have hheld := held?_of_cell?_eq hcell
  have hhome : ∀ other, after.home? other =
      if key = other then page?.map (·.location) else vm.home? other := by
    intro other
    rw [home?, hheld]
    split <;> rfl
  have hmove : vm.Rehomed after key (page?.map (·.location)) :=
    ⟨hhome, howner, htaken, hfreeFrame, hfreeSlot⟩
  refine ⟨hsound, hunpinned, hbounded, h.finished_of_cell?_eq hcell hbusy, ?_,
    hmove.owner?_iff_lives h, hmove.isTaken_iff_lives h, hmove.alone h, hmove.apart h⟩
  intro other page hpage
  rw [hheld] at hpage
  split at hpage
  · rename_i heq
    rw [← heq]
    exact hkey page hpage
  · exact h.keyed hpage

/-- Work on the page of `key` is over, and its page is where it was. -/
theorem Accounted.unlock (h : vm.Accounted (some key) adrift) (page? : Option AnonPage)
    (hpage : vm.held? key = page?) (hsound : after.pool.Sound) (hunpinned : after.pool.Unpinned)
    (howner : ∀ number, after.pool.owner? number = vm.pool.owner? number)
    (htaken : after.swap.taken = vm.swap.taken)
    (hsize : after.swap.disk.size = vm.swap.disk.size)
    (hcell : ∀ other, after.cell? other =
      if key = other then page?.map (⟨false, some ·⟩) else vm.cell? other) :
    after.Accounted none adrift := by
  exact h.of_same hsound hunpinned howner htaken hsize
    (held?_of_put_back hpage (held?_of_cell?_eq hcell))
    (h.finished_of_cell?_eq hcell fun _ heq => .inr (Option.some.inj heq))

theorem Accounted.lock (h : vm.Accounted none adrift) (page? : Option AnonPage)
    (hpage : vm.held? key = page?) : (vm.lock key page?).Accounted (some key) adrift := by
  refine h.of_same h.sound h.unpinned (fun _ => rfl) rfl rfl
    (held?_of_put_back hpage fun other => held?_lock vm key other page?) ?_
  intro other cell hother hidle
  rw [cell?_lock] at hother
  split at hother
  · rename_i heq
    exact absurd (congrArg some heq) hidle
  · exact h.exists_page hother

theorem Search.accounted [Replacement π] (hstep : Search vm after)
    (h : vm.Accounted busy adrift) : after.Accounted busy adrift := by
  cases hstep with
  | consulted =>
      exact h.of_same h.sound h.unpinned (fun _ => rfl) rfl rfl (fun _ => rfl) h.finished
  | requeued number =>
      exact h.of_same (h.sound.moveToBack number) (h.unpinned.moveToBack number)
        (fun other => FramePool.owner?_moveToBack vm.pool number other) rfl rfl (fun _ => rfl)
        h.finished

variable [BlockDriver δ]

theorem Attempt.accounted {result : Except MemoryError SwapSlot} (hstep : Attempt vm result after)
    (h : vm.Accounted busy adrift) : after.Accounted busy adrift := by
  cases hstep with
  | exhausted => exact h
  | failed _ _ _ _ hrun =>
      exact h.of_same h.sound h.unpinned (fun _ => rfl) rfl (BlockDevice.size_of_writeRun hrun)
        (fun _ => rfl) h.finished
  | moved hcell hlocation hframe hallocated hslot hrun =>
      rename_i key page number frame slot disk
      have hhome := home?_of_location (held?_of_cell? hcell) hlocation
      refine h.rehome (some { page with location := .swappedOut slot })
        (h.sound.release hframe hallocated) (h.unpinned.release hframe)
        (h.bounded.insert hslot.lt_slotCount (BlockDevice.size_of_writeRun hrun))
        (fun other => cell?_putPage _ key other _) (fun _ => .inl) ?_ ?_ ?_ ?_ ?_
      · rintro _ ⟨⟩
        have hkeyed : page.key = key := h.keyed (held?_of_cell? hcell)
        exact hkeyed
      · intro other
        simp [putPage, FramePool.owner?_release hframe, hhome]
      · intro other
        simp [putPage, SwapArea.isTaken_insert, hhome]
      · rintro _ ⟨⟩
      · rintro _ ⟨⟩
        exact hslot.free

theorem Reclaims.accounted [Replacement π] (hsteps : Reclaims vm after)
    (h : vm.Accounted busy adrift) : after.Accounted busy adrift := by
  induction hsteps with
  | refl => exact h
  | tail _ hstep ih =>
      cases hstep with
      | placed =>
          exact ih.of_same ih.sound ih.unpinned (fun _ => rfl) rfl rfl (fun _ => rfl) ih.finished
      | searched hsearch => exact hsearch.accounted ih
      | attempted hattempt => exact hattempt.accounted ih

/-- A page whose cell is locked stays where it is. -/
theorem Reclaims.cell?_of_locked [Replacement π] (hsteps : Reclaims vm after)
    {page? : Option AnonPage} (hcell : vm.cell? key = some ⟨true, page?⟩) :
    after.cell? key = some ⟨true, page?⟩ := by
  induction hsteps with
  | refl => exact hcell
  | tail _ hstep ih =>
      cases hstep with
      | placed => exact ih
      | searched hsearch => cases hsearch <;> exact ih
      | attempted hattempt =>
          cases hattempt with
          | exhausted => exact ih
          | failed => exact ih
          | moved hother =>
              refine (cell?_putPage _ _ _ _).trans ?_
              split
              · rename_i heq
                rw [heq, ih] at hother
                cases hother
              · exact ih

variable [Placement φ] [Replacement π] {result : Except MemoryError Unit}

omit [Placement φ] in
/-- The page that an operation is at work on waits for it. -/
theorem Reclaims.held?_of_lock {page? : Option AnonPage}
    (hsteps : Reclaims (vm.lock key page?) after) : after.held? key = page? :=
  held?_of_cell? (hsteps.cell?_of_locked ((cell?_lock vm key key page?).trans (if_pos rfl)))

omit [BlockDriver δ] [Placement φ] [Replacement π] in
theorem Mappable.held?_eq_none {pid : Pid} {addr : Nat} (h : vm.Mappable pid addr) :
    vm.held? (.containing pid addr) = none := by
  simp [held?, h.vacant]

/-- The page of `key` settles in the frame that was found for it, and its slot, if it had one, is
free again. -/
theorem Granted.accounted_occupy {page? : Option AnonPage} {placement : φ}
    (hgranted : Granted (vm.lock key page?) mid number frame placement) (page : AnonPage)
    {contents : Page} (h : vm.Accounted none adrift) (hpage : vm.held? key = page?)
    (habsent : ∀ page ∈ page?, ∀ number, page.location ≠ .resident number)
    (hkey : page.key = key) (hlocation : page.location = .resident number)
    (hpool : after.pool = mid.pool.occupy number frame key contents) (hbounded : after.swap.Bounded)
    (htaken : ∀ slot, after.swap.isTaken slot = true ↔
      mid.swap.isTaken slot = true ∧ page?.map (·.location) ≠ some (.swappedOut slot))
    (hcell : ∀ other, after.cell? other =
      if key = other then some ⟨false, some page⟩ else mid.cell? other) :
    after.Accounted none adrift := by
  have hmid := hgranted.reclaims.accounted (h.lock page? hpage)
  have hhome : mid.home? key = page?.map (·.location) := by
    rw [home?, hgranted.reclaims.held?_of_lock]
  have hnew : ∀ other, page?.map (·.location) ≠ some (.resident other) := by
    intro other hresident
    obtain ⟨old, hold, hat⟩ := Option.map_eq_some_iff.1 hresident
    exact habsent old hold other hat
  have hnone := hmid.sound.owner?_eq_none hgranted.frame?_eq hgranted.free
  refine hmid.rehome (some page) ?_ ?_ hbounded hcell (fun _ heq => .inr (Option.some.inj heq))
    ?_ ?_ ?_ ?_ ?_
  · rw [hpool]
    exact hmid.sound.occupy hgranted.frame?_eq hgranted.free _ _
  · rw [hpool]
    exact hmid.unpinned.occupy hgranted.frame?_eq _ _
  · rintro _ ⟨⟩
    exact hkey
  · intro other
    rw [hpool, FramePool.owner?_occupy hgranted.frame?_eq, hhome, if_neg (hnew other)]
    simp [hlocation]
  · intro slot
    rw [htaken, hhome]
    simp [hlocation]
  · intro other hother
    simp [hlocation] at hother
    exact hother ▸ hnone
  · intro slot hslot
    simp [hlocation] at hslot

theorem MapZero.accounted {pid : Pid} {addr : Nat} {kind : PageKind} {writable : Bool}
    (hcases : MapZero vm pid addr kind writable result after) (h : vm.Accounted none adrift) :
    after.Accounted none adrift := by
  cases hcases with
  | notUserAddress => exact h
  | noAddressSpace => exact h
  | alreadyMapped => exact h
  | noFrame hmappable hdenied =>
      have hmid := hdenied.reclaims.accounted (h.lock none hmappable.held?_eq_none)
      exact hmid.unlock none hdenied.reclaims.held?_of_lock hmid.sound hmid.unpinned
        (fun _ => rfl) rfl rfl (cell?_forget _ _)
  | abandoned placement hmappable hgranted =>
      have hmid := hgranted.reclaims.accounted (h.lock none hmappable.held?_eq_none)
      exact hmid.unlock none hgranted.reclaims.held?_of_lock
        (hmid.sound.giveBack hgranted.frame?_eq hgranted.free _ _)
        (hmid.unpinned.giveBack hgranted.frame?_eq _ _)
        (hmid.sound.owner?_giveBack hgranted.frame?_eq hgranted.free _ _) rfl rfl
        (cell?_forget _ _)
  | made placement hmappable hgranted =>
      rename_i mid number frame tables _
      have hvacant := hmappable.held?_eq_none
      refine hgranted.accounted_occupy ⟨.containing pid addr, writable, kind, .resident number⟩ h
        hvacant (by simp) rfl rfl rfl (hgranted.reclaims.accounted (h.lock none hvacant)).bounded ?_
        (fun other => cell?_putPage _ _ other _)
      intro slot
      simp [putPage]

theorem BringBack.accounted {slot : SwapSlot} (hcases : BringBack vm key page slot result after)
    (h : vm.Accounted none adrift) (hcell : vm.cell? key = some ⟨false, some page⟩)
    (hlocation : page.location = .swappedOut slot) : after.Accounted none adrift := by
  have hheld := held?_of_cell? hcell
  have hlocked := h.lock (some page) hheld
  have hkeyed : page.key = key := h.keyed hheld
  have habsent := not_resident_of_swappedOut hlocation
  cases hcases with
  | noFrame hdenied =>
      have hmid := hdenied.reclaims.accounted hlocked
      exact hmid.unlock (some page) hdenied.reclaims.held?_of_lock hmid.sound hmid.unpinned
        (fun _ => rfl) rfl rfl (fun other => cell?_putPage _ _ other _)
  | notRead placement hgranted hread =>
      have hmid := hgranted.reclaims.accounted hlocked
      exact hmid.unlock (some page) hgranted.reclaims.held?_of_lock
        (hmid.sound.giveBack hgranted.frame?_eq hgranted.free _ _)
        (hmid.unpinned.giveBack hgranted.frame?_eq _ _)
        (hmid.sound.owner?_giveBack hgranted.frame?_eq hgranted.free _ _) rfl
        (BlockDevice.size_of_readRun hread) (fun other => cell?_putPage _ _ other _)
  | unmapped placement hgranted _ hread =>
      have hmid := hgranted.reclaims.accounted hlocked
      refine hgranted.accounted_occupy { page with location := .resident _ } h hheld habsent hkeyed
        rfl rfl (hmid.bounded.erase slot (BlockDevice.size_of_readRun hread)) ?_
        (fun other => cell?_putPage _ _ other _)
      intro other
      simp [putPage, SwapArea.isTaken_erase, hlocation, and_comm]
  | done placement hgranted _ hread =>
      have hmid := hgranted.reclaims.accounted hlocked
      refine hgranted.accounted_occupy { page with location := .resident _ } h hheld habsent hkeyed
        rfl rfl (hmid.bounded.erase slot (BlockDevice.size_of_readRun hread)) ?_
        (fun other => cell?_putPage _ _ other _)
      intro other
      simp [putPage, SwapArea.isTaken_erase, hlocation, and_comm]

theorem ResolveFault.accounted {pid : Pid} {fault : FaultReport}
    (hcases : ResolveFault vm pid fault result after) (h : vm.Accounted none adrift) :
    after.Accounted none adrift := by
  cases hcases with
  | notUserAddress => exact h
  | grown _ _ _ hmapped => exact hmapped.accounted h
  | notMapped => exact h
  | unfinished => exact h
  | writeProtected => exact h
  | resident => exact h
  | broughtBack _ hcell _ hlocation hback => exact hback.accounted h hcell hlocation

omit [BlockDriver δ] [Placement φ] [Replacement π] in
/-- The tables are not part of the books. -/
theorem Accounted.withTables (h : vm.Accounted busy adrift) (tables : AddressSpaces) :
    { vm with tables }.Accounted busy adrift :=
  h.of_same h.sound h.unpinned (fun _ => rfl) rfl rfl (fun _ => rfl) h.finished

omit [BlockDriver δ] [Placement φ] [Replacement π] in
theorem Accounted.withDriver (h : vm.Accounted busy adrift) (driver : δ) :
    (vm.withDriver driver).Accounted busy adrift :=
  h.of_same h.sound h.unpinned (fun _ => rfl) rfl rfl (fun _ => rfl) h.finished

theorem Access.accounted {pid : Pid} {addr : Nat} {write : Bool}
    {result : Except MemoryError FrameNumber} (hcases : Access pid addr write vm result after)
    (h : vm.Accounted none adrift) : after.Accounted none adrift := by
  induction hcases with
  | touched htouched =>
      cases htouched with
      | noAddressSpace => exact h
      | writeProtected => exact h
      | reached => exact h.withTables _
  | unresolved _ hresolve => exact hresolve.accounted h
  | resolved _ hresolve _ ih => exact ih (hresolve.accounted h)

omit [BlockDriver δ] [Placement φ] [Replacement π] in
theorem Discarded.accounted (hcases : Discarded vm key after) (h : vm.Accounted none adrift) :
    after.Accounted none adrift := by
  cases hcases with
  | unfinished hcell => exact absurd hcell h.cell?_ne_unfinished
  | destroyed hcell hdestroyed =>
      have hheld := held?_of_cell? hcell
      cases hdestroyed with
      | resident hlocation hframe hallocated =>
          have hhome := home?_of_location hheld hlocation
          refine h.rehome none (h.sound.release hframe hallocated) (h.unpinned.release hframe)
            h.bounded (cell?_forget _ _) nofun nofun ?_ ?_ nofun nofun
          · intro other
            simp [forget, FramePool.owner?_release hframe, hhome]
          · intro slot
            simp [forget, SwapArea.isTaken, hhome]
      | swappedOut hlocation htaken =>
          have hhome := home?_of_location hheld hlocation
          refine h.rehome none h.sound h.unpinned (h.bounded.erase _ rfl) (cell?_forget _ _) nofun
            nofun ?_ ?_ nofun nofun
          · intro other
            simp [forget, hhome]
          · intro slot
            simp [forget, SwapArea.isTaken_erase, hhome, and_comm]

omit [BlockDriver δ] [Placement φ] [Replacement π] in
theorem DiscardedAll.accounted {keys : List UserPage} (hcases : DiscardedAll vm keys after)
    (h : vm.Accounted none adrift) : after.Accounted none adrift := by
  induction hcases with
  | nil => exact h
  | cons hfirst _ ih => exact ih (hfirst.accounted h)

theorem accounted_of_access {pid : Pid} {addr : Nat} {write : Bool}
    {result : Except MemoryError FrameNumber} (h : vm.Accounted none adrift)
    (haccess : vm.access pid addr write = .ok (result, after)) : after.Accounted none adrift := by
  obtain ⟨-, -, rfl⟩ | ⟨-, hcases⟩ := access_cases haccess
  · exact h
  · exact hcases.accounted h

omit [BlockDriver δ] [Placement φ] [Replacement π] in
theorem Accounted.patchFrame (h : vm.Accounted none adrift)
    (hframe : vm.pool.frame? number = some frame) (start : Nat) (data : List UInt8) :
    (vm.patchFrame number frame start data).Accounted none adrift :=
  h.of_same (h.sound.replace hframe rfl (fun hpinned => h.sound.pinned hframe hpinned) rfl)
    (h.unpinned.replace_contents hframe _) (FramePool.owner?_replace_contents hframe _) rfl rfl
    (fun _ => rfl) h.finished

theorem CopyIn.accounted {pid : Pid} {addr : Nat} {data : List UInt8} {moved : Nat}
    (hcases : CopyIn pid vm addr data result moved after) (h : vm.Accounted none adrift) :
    after.Accounted none adrift := by
  induction hcases with
  | done => exact h
  | stopped _ haccess => exact accounted_of_access h haccess
  | chunk _ haccess hframe _ _ ih =>
      exact ih ((accounted_of_access h haccess).patchFrame hframe _ _)

theorem CopyOut.accounted {pid : Pid} {addr : Nat} {buffer got : List UInt8} {moved : Nat}
    (hcases : CopyOut pid vm addr buffer result got moved after) (h : vm.Accounted none adrift) :
    after.Accounted none adrift := by
  induction hcases with
  | done => exact h
  | stopped _ haccess => exact accounted_of_access h haccess
  | chunk _ haccess _ _ _ ih => exact ih (accounted_of_access h haccess)

theorem Performed.accounted {call : MemoryCall} {reply : MemoryReply}
    (hcases : Performed vm call reply after) (h : vm.Accounted none adrift) :
    after.Accounted none adrift := by
  cases hcases with
  | createSpace hcall =>
      simp only [VirtualMemory.createSpace] at hcall
      split at hcall <;> cases hcall
      · exact h
      · exact h.withTables _
  | destroySpace hcall =>
      obtain ⟨mid, hdiscarded, ⟨-, -, rfl⟩ | ⟨-, -, rfl⟩⟩ := destroySpace_cases hcall
      · exact (hdiscarded.accounted h).withTables _
      · exact hdiscarded.accounted h
  | mapZero hcall => exact (mapZero_cases hcall).accounted h
  | unmap hcall =>
      obtain ⟨-, -, rfl⟩ | ⟨-, hdiscarded⟩ := unmap_cases hcall
      · exact h
      · exact hdiscarded.accounted h
  | resolveFault hcall => exact (resolveFault_cases hcall).accounted h
  | evictPage hcall => exact (Reclaims.of_evictWithin hcall).accounted h
  | copyFromUser hcall =>
      obtain ⟨_, hcopied⟩ := copyFromUser_cases hcall
      exact hcopied.accounted h
  | copyToUser hcall =>
      obtain ⟨_, hcopied⟩ := copyToUser_cases hcall
      exact hcopied.accounted h
  | location => exact h
  | kind => exact h
  | usage => exact h

/-- The books of a fresh machine are empty, and no run upsets them. -/
theorem Run.accounted {drift : δ → δ → Prop} {trace : List (MemoryCall × MemoryReply)}
    (hrun : Run drift vm trace after) (h : vm.Accounted none adrift) :
    after.Accounted none adrift := by
  refine hrun.invariant (fun vm => vm.Accounted none adrift) ?_ ?_ h
  · intro vm driver h _
    exact h.withDriver driver
  · intro vm after call reply h hcall
    exact (perform_cases hcall).accounted h

omit [BlockDriver δ] [Placement φ] [Replacement π] in
theorem accounted_new {count : Nat} {pool : FramePool} (disk : BlockDevice δ)
    (hpool : FramePool.new count = .ok pool) (placement : φ) (policy : π) (stackLimit : Nat) :
    (new (.new disk) pool placement policy stackLimit).Accounted none := by
  have hheld : ∀ key, (new (.new disk) pool placement policy stackLimit).held? key = none := by
    simp [new, held?, cell?]
  have hhome : ∀ key, (new (.new disk) pool placement policy stackLimit).home? key = none := by
    simp [home?, hheld]
  refine ⟨.new hpool, .new hpool, SwapArea.bounded_new disk, ?_, ?_, ?_, ?_, ?_, ?_⟩
  · simp [new, cell?]
  · simp [hheld]
  · intro number key
    rw [lives_none, hhome]
    refine ⟨fun howner => ?_, by simp⟩
    obtain ⟨frame, hframe, howner⟩ := Option.bind_eq_some_iff.1 howner
    rw [FramePool.frame?_new hpool hframe] at howner
    cases howner
  · intro slot
    simp only [lives_none, hhome]
    simp [new, SwapArea.isTaken_new]
  · simp [hhome]
  · simp [hhome]

end DemandPaging.VirtualMemory
