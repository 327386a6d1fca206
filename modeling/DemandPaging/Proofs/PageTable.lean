import DemandPaging.PageTable.AddressSpaces
import DemandPaging.Proofs.Outcome
import DemandPaging.UserPage

/-!
What the page tables say of a page, reference bit aside, and how each operation changes it. Pages
are named by their keys here, so that the tables of all processes are one map.
-/
namespace DemandPaging

/-- The meaning of an entry. The accessed bit is left out: it tells of the past, not of where the
page is. -/
structure Translation where
  present : Bool
  writable : Bool
  dirty : Bool
  frame : FrameNumber
deriving DecidableEq, Repr

def Translation.withFlag (meaning : Translation) : EntryFlag → Bool → Translation
  | .present, on => { meaning with present := on }
  | .writable, on => { meaning with writable := on }
  | .dirty, on => { meaning with dirty := on }
  | .user, _ | .accessed, _ => meaning

namespace PageTableEntry

def translation (entry : PageTableEntry) : Translation where
  present := entry.flag .present
  writable := entry.flag .writable
  dirty := entry.flag .dirty
  frame := ⟨entry.frame.toNat⟩

theorem translation_withFlag (entry : PageTableEntry) (flag : EntryFlag) (on : Bool) :
    (entry.withFlag flag on).translation = entry.translation.withFlag flag on := by
  cases flag <;> simp [translation, Translation.withFlag, flag_withFlag, frame_withFlag]

/-- The entry as if its page had never been accessed. -/
def unaccessed (entry : PageTableEntry) : PageTableEntry := entry.withFlag .accessed false

theorem unaccessed_withFlag_accessed (entry : PageTableEntry) (on : Bool) :
    (entry.withFlag .accessed on).unaccessed = entry.unaccessed := by
  have hbits (i : Nat) : BitField.bit (entry.withFlag .accessed on).unaccessed.raw i =
      BitField.bit entry.unaccessed.raw i := by
    simp only [unaccessed, withFlag, BitField.bit_withBit]
    split <;> rfl
  exact congrArg mk (BitVec.eq_of_getLsbD_eq fun i _ => hbits i)

theorem unaccessed_unaccessed (entry : PageTableEntry) :
    entry.unaccessed.unaccessed = entry.unaccessed :=
  unaccessed_withFlag_accessed entry false

theorem any_unaccessed (found : Option PageTableEntry) :
    (found.map (·.unaccessed)).any (·.flag .accessed) = false := by
  cases found <;> simp [unaccessed, flag_withFlag]

theorem translation_unaccessed (entry : PageTableEntry) :
    entry.unaccessed.translation = entry.translation :=
  translation_withFlag entry .accessed false

/-- A flag that is as it should be stays so. -/
theorem withFlag_of_flag {entry : PageTableEntry} {flag : EntryFlag} {on : Bool}
    (h : entry.flag flag = on) : entry.withFlag flag on = entry := by
  have hlt : flag.position < 32 := by cases flag <;> decide
  have hbits (i : Nat) :
      BitField.bit (entry.withFlag flag on).raw i = BitField.bit entry.raw i := by
    rw [withFlag, BitField.bit_withBit]
    split
    · rename_i heq
      rw [← heq, ← h]
      simp [PageTableEntry.flag, hlt]
    · rfl
  exact congrArg mk (BitVec.eq_of_getLsbD_eq fun i _ => hbits i)

theorem translation_mapping (field : BitVec 20) (writable : Bool) :
    (mapping field writable).translation = ⟨true, writable, false, ⟨field.toNat⟩⟩ := by
  have hzero : zero.flag .dirty = false := by decide
  simp [mapping, translation, flag_withFrame, flag_withFlag, frame_withFrame, hzero]

end PageTableEntry

namespace PageDirectory

def translation? (directory : PageDirectory) (number : Nat) : Option Translation :=
  directory.entries[number]?.map (·.translation)

theorem translation?_pageNumber (directory : PageDirectory) (addr : Nat) :
    directory.translation? (pageNumber addr) = (directory.get? addr).map (·.translation) := rfl

theorem translation?_setFlag (directory : PageDirectory) (flag : EntryFlag) (addr number : Nat)
    (on : Bool) :
    (directory.setFlag flag addr on).translation? number =
      if pageNumber addr = number then (directory.translation? number).map (·.withFlag flag on)
      else directory.translation? number := by
  by_cases h : pageNumber addr = number
  · simp [setFlag, translation?, h, Function.comp_def, PageTableEntry.translation_withFlag]
  · simp [setFlag, translation?, Std.ExtTreeMap.getElem?_modify, h]

theorem translation?_unmap (directory : PageDirectory) (addr number : Nat) :
    (directory.unmap addr).translation? number =
      if pageNumber addr = number then none else directory.translation? number := by
  by_cases h : pageNumber addr = number <;>
    simp [unmap, translation?, Std.ExtTreeMap.getElem?_erase, h]

theorem frame?_eq (directory : PageDirectory) (addr : Nat) :
    directory.frame? addr =
      ((directory.translation? (pageNumber addr)).filter (·.present)).map (·.frame) := by
  rw [frame?, translation?_pageNumber]
  cases directory.get? addr with
  | none => rfl
  | some entry =>
      have hpresent : entry.translation.present = entry.flag .present := rfl
      rw [Option.map_some, Option.filter_some, Option.filter_some, hpresent]
      split <;> rfl

theorem isSet_present (directory : PageDirectory) (addr : Nat) :
    directory.isSet .present addr =
      (directory.translation? (pageNumber addr)).any (·.present) := by
  simp [isSet, translation?_pageNumber, PageTableEntry.translation, Option.any_map]

theorem isSet_writable (directory : PageDirectory) (addr : Nat) :
    directory.isSet .writable addr =
      (directory.translation? (pageNumber addr)).any (·.writable) := by
  simp [isSet, translation?_pageNumber, PageTableEntry.translation, Option.any_map]

/-- A frame number below the limit of an entry is stored as it is. -/
theorem map?_eq_ok (directory : PageDirectory) (addr : Nat) {frame : FrameNumber}
    (hframe : frame.index < 0x100000) (writable : Bool) :
    ∃ mapped, directory.map? addr frame writable = .ok mapped ∧
      (mapped = none ↔ (directory.translation? (pageNumber addr)).any (·.present) = true) ∧
      ∀ after ∈ mapped, ∀ number, after.translation? number =
        if pageNumber addr = number then some ⟨true, writable, false, frame⟩
        else directory.translation? number := by
  have hmod : frame.index % 0x100000000 = frame.index := Nat.mod_eq_of_lt (by omega)
  have hfield : (BitVec.ofNat 20 frame.index).toNat = frame.index := Nat.mod_eq_of_lt hframe
  rw [map?, isSet_present, hmod]
  by_cases hpresent : (directory.translation? (pageNumber addr)).any (·.present) = true
  · exact ⟨none, by simp [hpresent], by simp [hpresent], by simp⟩
  · refine ⟨some ⟨directory.entries.insert (pageNumber addr)
      (.mapping (BitVec.ofNat 20 frame.index) writable)⟩, ?_, by simp [hpresent], ?_⟩
    · rw [if_neg hpresent, PageTableEntry.frameField, if_pos hframe]
      rfl
    · intro after hafter number
      cases hafter
      by_cases h : pageNumber addr = number
      · simp only [translation?, h, Std.ExtTreeMap.getElem?_insert_self, Option.map_some,
          PageTableEntry.translation_mapping, hfield, if_true]
      · simp [translation?, Std.ExtTreeMap.getElem?_insert, h]

end PageDirectory

namespace AddressSpaces

def translation? (spaces : AddressSpaces) (key : UserPage) : Option Translation :=
  (spaces.directory? key.owner).bind (·.translation? key.number)

/-- The entry for the page of an address, present or not. -/
def entry? (spaces : AddressSpaces) (pid : Pid) (addr : Nat) : Option PageTableEntry :=
  (spaces.directory? pid).bind (·.get? addr)

theorem entry?_unmap (spaces : AddressSpaces) (pid : Pid) (addr : Nat) (key : UserPage) :
    entry? (spaces.unmap pid addr) key.owner key.base =
      if .containing pid addr = key then none else spaces.entry? key.owner key.base := by
  obtain ⟨owner, number⟩ := key
  simp only [unmap, entry?, directory?_update]
  by_cases howner : pid = owner
  · cases spaces.directory? owner with
    | none => simp
    | some directory =>
        have hnumber : pageNumber (UserPage.base ⟨owner, number⟩) = number :=
          UserPage.pageNumber_base _
        simp [howner, PageDirectory.get?_unmap, UserPage.containing, hnumber]
  · simp [howner, UserPage.containing]

theorem entry?_setFlag (spaces : AddressSpaces) (flag : EntryFlag) (pid other : Pid)
    (addr addr' : Nat) (on : Bool) :
    entry? (spaces.setFlag flag pid addr on) other addr' =
      if UserPage.containing pid addr = .containing other addr' then
        (spaces.entry? other addr').map (·.withFlag flag on)
      else spaces.entry? other addr' := by
  simp only [setFlag, entry?, directory?_update, UserPage.containing, UserPage.mk.injEq]
  by_cases howner : pid = other
  · cases spaces.directory? other with
    | none => simp
    | some directory => simp [howner, PageDirectory.get?_setFlag]
  · simp [howner]

/-- Whether a flag is set is a matter of the entry. -/
theorem isSet_eq (spaces : AddressSpaces) (flag : EntryFlag) (pid : Pid) (addr : Nat) :
    spaces.isSet flag pid addr = (spaces.entry? pid addr).any (·.flag flag) := by
  simp only [isSet, entry?, PageDirectory.isSet]
  cases spaces.directory? pid <;> rfl

/-- Address spaces with the same entries have the same directory for a process. -/
theorem directory?_congr {spaces other : AddressSpaces} {pid : Pid}
    (hcontains : other.contains pid = spaces.contains pid)
    (hentry : ∀ key : UserPage, key.owner = pid →
      other.entry? key.owner key.base = spaces.entry? key.owner key.base) :
    other.directory? pid = spaces.directory? pid := by
  simp only [contains] at hcontains
  have hentry (number : Nat) := hentry ⟨pid, number⟩ rfl
  simp only [PageDirectory.get?, entry?, UserPage.pageNumber_base] at hentry
  cases hother : other.directory? pid with
  | none =>
      rw [hother, Option.isSome_none, eq_comm, Option.isSome_eq_false_iff,
        Option.isNone_iff_eq_none] at hcontains
      exact hcontains.symm
  | some directory =>
      rw [hother, Option.isSome_some, eq_comm, Option.isSome_iff_exists] at hcontains
      obtain ⟨directory', hdirectory⟩ := hcontains
      rw [hdirectory]
      rw [hother, hdirectory] at hentry
      exact congrArg some (PageDirectory.ext hentry)

theorem translation?_containing (spaces : AddressSpaces) (pid : Pid) (addr : Nat) :
    spaces.translation? (.containing pid addr) = (spaces.entry? pid addr).map (·.translation) := by
  simp only [translation?, entry?, UserPage.containing]
  cases spaces.directory? pid with
  | none => rfl
  | some directory => exact directory.translation?_pageNumber addr

theorem isSet_writable (spaces : AddressSpaces) (pid : Pid) (addr : Nat) :
    spaces.isSet .writable pid addr =
      (spaces.translation? (.containing pid addr)).any (·.writable) := by
  simp only [isSet, translation?, UserPage.containing]
  cases spaces.directory? pid with
  | none => rfl
  | some directory => exact directory.isSet_writable addr

/-- The frame that an address is mapped to, if the mapping is present. -/
def frame? (spaces : AddressSpaces) (pid : Pid) (addr : Nat) : Option FrameNumber :=
  (spaces.directory? pid).bind (·.frame? addr)

theorem frame?_eq (spaces : AddressSpaces) (pid : Pid) (addr : Nat) :
    spaces.frame? pid addr =
      ((spaces.translation? (.containing pid addr)).filter (·.present)).map (·.frame) := by
  simp only [frame?, translation?, UserPage.containing]
  cases spaces.directory? pid with
  | none => rfl
  | some directory => exact directory.frame?_eq addr

@[simp] theorem contains_update (spaces : AddressSpaces) (pid other : Pid)
    (change : PageDirectory → PageDirectory) :
    (spaces.update pid change).contains other = spaces.contains other := by
  simp only [contains, directory?_update]
  split <;> simp

@[simp] theorem contains_setFlag (spaces : AddressSpaces) (flag : EntryFlag) (pid other : Pid)
    (addr : Nat) (on : Bool) :
    (spaces.setFlag flag pid addr on).contains other = spaces.contains other :=
  contains_update spaces pid other _

/-- All addresses of a page have its entry. -/
theorem entry?_congr (spaces : AddressSpaces) (pid : Pid) {addr addr' : Nat}
    (h : pageNumber addr' = pageNumber addr) :
    spaces.entry? pid addr' = spaces.entry? pid addr := by
  simp only [PageDirectory.get?, entry?, h]

theorem setFlag_of_flag {spaces : AddressSpaces} {flag : EntryFlag} {pid : Pid} {addr : Nat}
    {on : Bool}
    (h : ∀ entry, spaces.entry? pid addr = some entry → entry.flag flag = on) :
    spaces.setFlag flag pid addr on = spaces := by
  refine ext fun other => directory?_congr (contains_setFlag spaces flag pid other addr on) ?_
  intro key _
  simp only [UserPage.containing_base, entry?_setFlag]
  split
  · rename_i heq
    cases heq
    have hsame : spaces.entry? pid (UserPage.containing pid addr).base = spaces.entry? pid addr :=
      spaces.entry?_congr pid (UserPage.pageNumber_base _)
    change (spaces.entry? pid (UserPage.containing pid addr).base).map _ =
      spaces.entry? pid (UserPage.containing pid addr).base
    rw [hsame]
    cases hentry : spaces.entry? pid addr with
    | none => rfl
    | some entry => exact congrArg some (PageTableEntry.withFlag_of_flag (h entry hentry))
  · rfl

@[simp] theorem contains_unmap (spaces : AddressSpaces) (pid other : Pid) (addr : Nat) :
    (spaces.unmap pid addr).contains other = spaces.contains other :=
  contains_update spaces pid other _

theorem contains_destroy (spaces : AddressSpaces) (pid other : Pid) :
    (spaces.destroy pid).contains other = (!decide (pid = other) && spaces.contains other) := by
  simp only [contains, directory?_destroy]
  by_cases h : pid = other <;> simp [h]

theorem translation?_destroy (spaces : AddressSpaces) (pid : Pid) (key : UserPage) :
    (spaces.destroy pid).translation? key =
      if pid = key.owner then none else spaces.translation? key := by
  simp only [translation?, directory?_destroy]
  split <;> rfl

/-- What an update of one directory means for a page, given what it means in that directory. -/
theorem translation?_update (spaces : AddressSpaces) {pid : Pid} {addr : Nat}
    {change : PageDirectory → PageDirectory} (meaning : Option Translation → Option Translation)
    (hnone : meaning none = none)
    (hchange : ∀ directory number, (change directory).translation? number =
      if pageNumber addr = number then meaning (directory.translation? number)
      else directory.translation? number) (key : UserPage) :
    (spaces.update pid change).translation? key =
      if .containing pid addr = key then meaning (spaces.translation? key)
      else spaces.translation? key := by
  obtain ⟨owner, number⟩ := key
  simp only [translation?, directory?_update, UserPage.containing, UserPage.mk.injEq]
  by_cases howner : pid = owner
  · cases spaces.directory? owner with
    | none => simp [howner, hnone]
    | some directory => simp [howner, hchange]
  · simp [howner]

theorem translation?_setFlag (spaces : AddressSpaces) (flag : EntryFlag) (pid : Pid) (addr : Nat)
    (on : Bool) (key : UserPage) :
    (spaces.setFlag flag pid addr on).translation? key =
      if .containing pid addr = key then (spaces.translation? key).map (·.withFlag flag on)
      else spaces.translation? key :=
  translation?_update spaces (Option.map (·.withFlag flag on)) rfl
    (fun directory number => directory.translation?_setFlag flag addr number on) key

@[simp] theorem translation?_setFlag_accessed (spaces : AddressSpaces) (pid : Pid) (addr : Nat)
    (on : Bool) (key : UserPage) :
    (spaces.setFlag .accessed pid addr on).translation? key = spaces.translation? key := by
  rw [translation?_setFlag]
  split
  · cases spaces.translation? key <;> rfl
  · rfl

theorem translation?_unmap (spaces : AddressSpaces) (pid : Pid) (addr : Nat) (key : UserPage) :
    (spaces.unmap pid addr).translation? key =
      if .containing pid addr = key then none else spaces.translation? key :=
  translation?_update spaces (fun _ => none) rfl
    (fun directory number => directory.translation?_unmap addr number) key

theorem create?_eq_some {spaces after : AddressSpaces} {pid : Pid}
    (h : spaces.create? pid = some after) :
    spaces.contains pid = false ∧
      (∀ other, after.contains other = (decide (pid = other) || spaces.contains other)) ∧
      ∀ key, after.translation? key = spaces.translation? key := by
  simp only [create?] at h
  split at h
  · cases h
  · rename_i hnew
    cases h
    simp only [Bool.not_eq_true] at hnew
    have hdirectory : ∀ other, (⟨spaces.directories.insert pid .empty⟩ : AddressSpaces).directory?
        other = if pid = other then some .empty else spaces.directory? other := by
      intro other
      by_cases heq : pid = other <;> simp [directory?, Std.ExtTreeMap.getElem?_insert, heq]
    refine ⟨hnew, ?_, ?_⟩
    · intro other
      rw [contains, hdirectory]
      by_cases heq : pid = other <;> simp [heq, contains]
    · intro key
      rw [translation?, hdirectory]
      split
      · rename_i heq
        have hnone : spaces.directory? key.owner = none := by simpa [contains, heq] using hnew
        simp [translation?, hnone, PageDirectory.translation?, PageDirectory.empty]
      · rfl

/-- How mapping a frame of the pool ends: without the space nothing changes, nor where a mapping is
present, and otherwise the page gets a fresh translation. -/
inductive Installed (spaces : AddressSpaces) (key : UserPage) (frame : FrameNumber)
    (writable : Bool) : Mapped → Prop where
  | noSpace : spaces.contains key.owner = false → Installed spaces key frame writable .noSpace
  | alreadyPresent : spaces.contains key.owner = true →
      (spaces.translation? key).any (·.present) = true →
      Installed spaces key frame writable .alreadyPresent
  | done {after : AddressSpaces} : spaces.contains key.owner = true →
      (spaces.translation? key).any (·.present) = false →
      (∀ pid, after.contains pid = spaces.contains pid) →
      (∀ other, after.translation? other =
        if key = other then some ⟨true, writable, false, frame⟩ else spaces.translation? other) →
      Installed spaces key frame writable (.done after)

theorem map_installed (spaces : AddressSpaces) (key : UserPage) {frame : FrameNumber}
    (hframe : frame.index < 0x100000) (writable : Bool) :
    ∃ mapped, spaces.map key.owner key.base frame writable = .ok mapped ∧
      Installed spaces key frame writable mapped := by
  simp only [map]
  cases hdirectory : spaces.directory? key.owner with
  | none => exact ⟨_, rfl, .noSpace (by simp [contains, hdirectory])⟩
  | some directory =>
      have hspace : spaces.contains key.owner = true := by simp [contains, hdirectory]
      have hmeaning : spaces.translation? key = directory.translation? key.number := by
        simp [translation?, hdirectory]
      obtain ⟨mapped, hmap, hnone, hafter⟩ :=
        directory.map?_eq_ok key.base hframe writable
      rw [UserPage.pageNumber_base] at hnone hafter
      simp only [hmap]
      cases mapped with
      | none =>
          exact ⟨_, rfl, .alreadyPresent hspace (by rw [hmeaning]; exact hnone.1 rfl)⟩
      | some after =>
          have hfresh : (directory.translation? key.number).any (·.present) = false := by
            cases hany : (directory.translation? key.number).any (·.present) with
            | false => rfl
            | true => cases hnone.2 hany
          have hlookup : ∀ pid, (⟨spaces.directories.insert key.owner after⟩ :
              AddressSpaces).directory? pid =
                if key.owner = pid then some after else spaces.directory? pid := by
            intro pid
            by_cases heq : key.owner = pid <;>
              simp [directory?, Std.ExtTreeMap.getElem?_insert, heq]
          refine ⟨_, rfl, .done hspace (by rw [hmeaning]; exact hfresh) ?_ ?_⟩
          · intro pid
            rw [contains, contains, hlookup]
            split
            · rename_i heq
              simp [← heq, hdirectory]
            · rfl
          · intro other
            obtain ⟨owner, number⟩ := other
            rw [translation?, hlookup]
            by_cases howner : key.owner = owner
            · subst howner
              have hkey : key = ⟨key.owner, number⟩ ↔ key.number = number := by
                constructor
                · exact fun heq => by rw [heq]
                · rintro rfl
                  rfl
              simp [translation?, hdirectory, hafter after rfl number, hkey]
            · have hkey : key ≠ ⟨owner, number⟩ := fun heq => howner (by rw [heq])
              simp [howner, hkey, translation?]

theorem map_eq_done {spaces after : AddressSpaces} (key : UserPage) {frame : FrameNumber}
    {writable : Bool} (hframe : frame.index < 0x100000)
    (h : spaces.map key.owner key.base frame writable = .ok (.done after)) :
    spaces.contains key.owner = true ∧ (∀ pid, after.contains pid = spaces.contains pid) ∧
      ∀ other, after.translation? other =
        if key = other then some ⟨true, writable, false, frame⟩ else spaces.translation? other := by
  obtain ⟨mapped, hmapped, hcases⟩ := spaces.map_installed key hframe writable
  cases h.symm.trans hmapped
  cases hcases with
  | done hspace _ hcontains htranslation => exact ⟨hspace, hcontains, htranslation⟩

end AddressSpaces

end DemandPaging
