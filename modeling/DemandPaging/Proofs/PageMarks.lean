import DemandPaging.Proofs.Replacement
import DemandPaging.Proofs.VirtualMemory.UserCopy

/-!
The dirty and the accessed bit of a page that is present, and what each operation on the page tables
makes of them. A policy sets none of them, and only the clock clears one.
-/
namespace DemandPaging

/-- What was done to a page that is present, as its entry has it. -/
structure Marks where
  dirty : Bool
  accessed : Bool
deriving DecidableEq

def Marks.withFlag (marks : Marks) : EntryFlag → Bool → Marks
  | .dirty, on => { marks with dirty := on }
  | .accessed, on => { marks with accessed := on }
  | .present, _ | .writable, _ | .user, _ => marks

def PageTableEntry.marks (entry : PageTableEntry) : Marks :=
  ⟨entry.flag .dirty, entry.flag .accessed⟩

theorem PageTableEntry.marks_withFlag (entry : PageTableEntry) (flag : EntryFlag) (on : Bool) :
    (entry.withFlag flag on).marks = entry.marks.withFlag flag on := by
  cases flag <;> simp [marks, Marks.withFlag, flag_withFlag]

theorem PageTableEntry.mapping_flags (field : BitVec 20) (writable : Bool) :
    (mapping field writable).flag .present = true ∧
      (mapping field writable).marks = ⟨false, false⟩ := by
  have hzero : zero.flag .dirty = false ∧ zero.flag .accessed = false := by decide
  simp [mapping, marks, flag_withFrame, flag_withFlag, hzero]

namespace AddressSpaces

variable {spaces after : AddressSpaces} {key other : UserPage}

/-- The marks of the page of `key`, if it is present. -/
def marks? (spaces : AddressSpaces) (key : UserPage) : Option Marks :=
  ((spaces.entry? key.owner key.base).filter (·.flag .present)).map (·.marks)

theorem marks?_congr (h : after.entry? key.owner key.base = spaces.entry? key.owner key.base) :
    after.marks? key = spaces.marks? key := by
  rw [marks?, marks?, h]

theorem isSome_marks? (spaces : AddressSpaces) (key : UserPage) :
    (spaces.marks? key).isSome = (spaces.translation? key).any (·.present) := by
  rw [← UserPage.containing_base key, translation?_containing, marks?]
  rw [UserPage.containing_base]
  cases spaces.entry? key.owner key.base with
  | none => rfl
  | some entry =>
      rw [Option.isSome_map, Option.filter_some, Option.map_some, Option.any_some]
      have hpresent : entry.translation.present = entry.flag .present := rfl
      rw [hpresent]
      cases entry.flag .present <;> rfl

theorem marks?_containing {pid : Pid} {addr : Nat} {marks : Marks} :
    spaces.marks? (.containing pid addr) = some marks ↔ ∃ entry,
      spaces.entry? pid addr = some entry ∧ entry.flag .present = true ∧ entry.marks = marks := by
  have hentry : spaces.entry? pid (UserPage.containing pid addr).base = spaces.entry? pid addr :=
    spaces.entry?_congr pid (UserPage.pageNumber_base _)
  change ((spaces.entry? pid (UserPage.containing pid addr).base).filter _).map _ = _ ↔ _
  simp only [hentry, Option.map_eq_some_iff, Option.filter_eq_some_iff, and_assoc]

theorem marks?_unmap (spaces : AddressSpaces) (pid : Pid) (addr : Nat) (key : UserPage) :
    (spaces.unmap pid addr).marks? key =
      if .containing pid addr = key then none else spaces.marks? key := by
  rw [marks?, entry?_unmap]
  split <;> rfl

theorem entry?_destroy (spaces : AddressSpaces) (pid other : Pid) (addr : Nat) :
    entry? (spaces.destroy pid) other addr =
      if pid = other then none else spaces.entry? other addr := by
  rw [AddressSpaces.entry?, directory?_destroy]
  split <;> rfl

theorem marks?_destroy (spaces : AddressSpaces) (pid : Pid) (key : UserPage) :
    (spaces.destroy pid).marks? key = if pid = key.owner then none else spaces.marks? key := by
  rw [marks?, entry?_destroy]
  split <;> rfl

theorem directory?_insert (spaces : AddressSpaces) (pid other : Pid) (directory : PageDirectory) :
    (⟨spaces.directories.insert pid directory⟩ : AddressSpaces).directory? other =
      if pid = other then some directory else spaces.directory? other := by
  by_cases h : pid = other <;> simp [directory?, Std.ExtTreeMap.getElem?_insert, h]

theorem marks?_create? {pid : Pid} (h : spaces.create? pid = some after) (key : UserPage) :
    after.marks? key = spaces.marks? key := by
  simp only [create?] at h
  split at h
  · cases h
  · rename_i hnew
    cases h
    refine marks?_congr ?_
    rw [AddressSpaces.entry?, directory?_insert]
    split
    · rename_i howner
      have hnone : spaces.directory? key.owner = none := by simpa [contains, howner] using hnew
      rw [AddressSpaces.entry?, hnone]
      exact PageDirectory.get?_empty key.base
    · rfl

/-- A flag other than presence, set or cleared. -/
theorem marks?_setFlag (spaces : AddressSpaces) {flag : EntryFlag} (hflag : flag ≠ .present)
    (pid : Pid) (addr : Nat) (on : Bool) (key : UserPage) :
    marks? (spaces.setFlag flag pid addr on) key =
      if .containing pid addr = key then (spaces.marks? key).map (·.withFlag flag on)
      else spaces.marks? key := by
  rw [marks?, entry?_setFlag, UserPage.containing_base]
  split
  · rw [marks?]
    cases spaces.entry? key.owner key.base with
    | none => rfl
    | some entry =>
        rw [Option.map_some, Option.filter_some, PageTableEntry.flag_withFlag, if_neg hflag,
          Option.filter_some]
        split
        · exact congrArg some (entry.marks_withFlag flag on)
        · rfl
  · rfl

/-- A page that was accessed is marked so, and as dirty if it was written. -/
theorem marks?_marked (spaces : AddressSpaces) (pid : Pid) (addr : Nat) (write : Bool)
    (key : UserPage) :
    (spaces.marked pid addr write).marks? key =
      if .containing pid addr = key then
        (spaces.marks? key).map fun marks => ⟨marks.dirty || write, true⟩
      else spaces.marks? key := by
  cases write with
  | true =>
      simp only [marked, if_true, marks?_setFlag _ (by decide : EntryFlag.dirty ≠ .present),
        marks?_setFlag _ (by decide : EntryFlag.accessed ≠ .present)]
      split
      · rw [Option.map_map]
        simp [Function.comp_def, Marks.withFlag]
      · rfl
  | false =>
      simp only [marked, Bool.false_eq_true, if_false,
        marks?_setFlag _ (by decide : EntryFlag.accessed ≠ .present), Bool.or_false]
      rfl

/-- A page that has left its frame is present no longer. -/
theorem marks?_hidden (spaces : AddressSpaces) (key other : UserPage) :
    marks? (AnonPage.hidden spaces key) other =
      if key = other then none else spaces.marks? other := by
  have hpresent : marks? (spaces.setFlag .present key.owner key.base false) other =
      if key = other then none else spaces.marks? other := by
    rw [marks?, entry?_setFlag, UserPage.containing_base, UserPage.containing_base]
    split
    · cases spaces.entry? other.owner other.base with
      | none => rfl
      | some entry => simp [Option.filter_some, PageTableEntry.flag_withFlag]
    · rfl
  rw [AnonPage.hidden, marks?_setFlag _ (by decide), UserPage.containing_base, hpresent]
  split <;> rfl

/-- Mapping a page gives it a fresh entry. -/
theorem entry?_map {number : FrameNumber} {writable : Bool}
    (h : spaces.map key.owner key.base number writable = .ok (.done after)) :
    ∃ field, ∀ other : UserPage, after.entry? other.owner other.base =
      if key = other then some (.mapping field writable)
      else spaces.entry? other.owner other.base := by
  simp only [map] at h
  split at h
  · cases h
  rename_i directory hdirectory
  obtain ⟨mapped?, hmap, h⟩ := bind_eq_ok.1 h
  cases mapped? with
  | none => cases h
  | some mapped =>
      cases h
      simp only [PageDirectory.map?] at hmap
      split at hmap
      · cases hmap
      obtain ⟨field, -, hmap⟩ := bind_eq_ok.1 hmap
      cases hmap
      refine ⟨field, fun other => ?_⟩
      obtain ⟨owner, number⟩ := other
      rw [AddressSpaces.entry?, directory?_insert]
      by_cases howner : key.owner = owner
      · have hkey : key = ⟨owner, number⟩ ↔ key.number = number := by
          rw [← howner]
          exact ⟨fun heq => congrArg UserPage.number heq, fun heq => by rw [← heq]⟩
        subst howner
        simp only [if_true, Option.bind_some, PageDirectory.get?, entry?, hdirectory, hkey,
          UserPage.pageNumber_base, Std.ExtTreeMap.getElem?_insert, Nat.compare_eq_eq]
      · have hkey : key ≠ ⟨owner, number⟩ := fun heq => howner (by rw [heq])
        rw [if_neg howner, if_neg hkey]
        rfl

/-- A page that is mapped anew has no marks. -/
theorem marks?_map {number : FrameNumber} {writable : Bool}
    (h : spaces.map key.owner key.base number writable = .ok (.done after)) (other : UserPage) :
    after.marks? other = if key = other then some ⟨false, false⟩ else spaces.marks? other := by
  obtain ⟨field, hentry⟩ := entry?_map h
  obtain ⟨hpresent, hmarks⟩ := PageTableEntry.mapping_flags field writable
  rw [marks?, hentry]
  split
  · rw [Option.filter_some, if_pos hpresent, Option.map_some, hmarks]
  · rfl

end AddressSpaces

/-- Marks that nobody has set meanwhile. The accessed bit may have been cleared, unless they are
`exact`. -/
structure Marks.Fades (exact : Prop) (before after : Marks) : Prop where
  dirty : after.dirty = before.dirty
  accessed : after.accessed = true → before.accessed = true
  same : exact → after = before

/-- Pages that are present were so before, and nobody has touched them. -/
def AddressSpaces.Fades (exact : Prop) (spaces after : AddressSpaces) : Prop :=
  ∀ key marks, after.marks? key = some marks →
    ∃ before, spaces.marks? key = some before ∧ before.Fades exact marks

namespace AddressSpaces

variable {exact : Prop} {spaces mid after : AddressSpaces}

theorem Fades.mono {exact' : Prop} (h : spaces.Fades exact' after) (himp : exact → exact') :
    spaces.Fades exact after := by
  intro key marks hmarks
  obtain ⟨before, hbefore, hfaded⟩ := h key marks hmarks
  exact ⟨before, hbefore, hfaded.dirty, hfaded.accessed, fun hexact => hfaded.same (himp hexact)⟩

theorem Fades.trans (h : spaces.Fades exact mid) (h' : mid.Fades exact after) :
    spaces.Fades exact after := by
  intro key marks hmarks
  obtain ⟨between, hbetween, hlater⟩ := h' key marks hmarks
  obtain ⟨before, hbefore, hfirst⟩ := h key between hbetween
  exact ⟨before, hbefore, hlater.dirty.trans hfirst.dirty,
    fun hset => hfirst.accessed (hlater.accessed hset),
    fun hexact => (hlater.same hexact).trans (hfirst.same hexact)⟩

/-- Marks that are gone have faded, too. -/
theorem Fades.of_eq (h : ∀ key, after.marks? key = none ∨ after.marks? key = spaces.marks? key) :
    spaces.Fades exact after := by
  intro key marks hmarks
  obtain hnone | hsame := h key
  · rw [hnone] at hmarks
    cases hmarks
  · exact ⟨marks, hsame.symm.trans hmarks, rfl, id, fun _ => rfl⟩

theorem Fades.refl (spaces : AddressSpaces) : spaces.Fades exact spaces := .of_eq fun _ => .inr rfl

theorem fades_setFlag_accessed (spaces : AddressSpaces) (pid : Pid) (addr : Nat) :
    spaces.Fades False (spaces.setFlag .accessed pid addr false) := by
  intro key marks hmarks
  rw [marks?_setFlag _ (by decide)] at hmarks
  split at hmarks
  · obtain ⟨before, hbefore, rfl⟩ := Option.map_eq_some_iff.1 hmarks
    exact ⟨before, hbefore, rfl, nofun, nofun⟩
  · exact ⟨marks, hmarks, rfl, id, nofun⟩

end AddressSpaces

theorem Clock.sweep_fades (pool : FramePool) (clock : Clock) (tables : AddressSpaces)
    (steps : Nat) : tables.Fades False (sweep pool clock tables steps).tables := by
  induction steps generalizing clock tables with
  | zero => exact .refl tables
  | succ steps ih =>
      simp only [sweep]
      split
      · exact ih _ tables
      · split
        · exact .refl tables
        · split
          · exact (AddressSpaces.fades_setFlag_accessed tables _ _).trans (ih _ _)
          · exact .refl tables

/-- First in, first out leaves the marks as they are; the clock clears some. -/
theorem StandardReplacement.fades_of_choose {policy : StandardReplacement} {pool : FramePool}
    {tables : AddressSpaces} {choice : Choice StandardReplacement}
    (h : Replacement.choose policy pool tables = .ok choice) :
    tables.Fades (policy = .fifo ⟨⟩) choice.tables ∧
      (policy = .fifo ⟨⟩ → choice.policy = .fifo ⟨⟩) := by
  obtain ⟨inner, rfl, rfl⟩ | ⟨clock, rfl, -, htables⟩ := choose_eq_ok h
  · exact ⟨.refl tables, id⟩
  · refine ⟨?_, nofun⟩
    have hfades : tables.Fades False (clock.choose pool tables).tables := by
      rw [Clock.choose]
      split
      · exact .refl tables
      · exact Clock.sweep_fades pool clock tables _
    rw [htables]
    exact hfades.mono nofun

end DemandPaging
