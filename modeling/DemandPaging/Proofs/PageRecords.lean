import DemandPaging.Proofs.PageMarks
import DemandPaging.Proofs.StoreCalls

/-!
The page tables are a map from pages to records. A raw entry is its record written as a number, and
each operation on the tables is one on the record of the page that it names.
-/
namespace DemandPaging

section Items

variable {α β : Type} {cmp : α → α → Ordering} [Std.TransCmp cmp]

theorem values_eq_map_toList (items : Std.ExtTreeMap α β cmp) :
    items.values = items.toList.map (·.2) := by
  have hfold : items.values = items.foldr (fun _ value values => value :: values) [] := by
    obtain ⟨inner⟩ := items
    induction inner using Std.ExtDTreeMap.inductionOn with
    | _ inner => rfl
  rw [hfold, Std.ExtTreeMap.foldr_eq_foldr_toList, List.map_eq_foldr]

theorem nodup_map_filter_toList (items : Std.ExtTreeMap α β cmp) (p : α × β → Bool) :
    ((items.toList.filter p).map (·.1)).Nodup := by
  have hsub : ((items.toList.filter p).map (·.1)).Sublist items.keys := by
    rw [← Std.ExtTreeMap.map_fst_toList_eq_keys]
    exact List.filter_sublist.map _
  exact hsub.nodup Std.ExtTreeMap.nodup_keys

end Items

/-- What is known of a page that was mapped. -/
structure PageRecord where
  present : Bool
  writable : Bool
  accessed : Bool
  dirty : Bool
  frame : Fin 0x100000
deriving DecidableEq, Repr

/-- A change of one field of a record. -/
inductive RecordUpdate where
  | clear
  | accessed (on : Bool)
  | dirty (on : Bool)
deriving DecidableEq, Repr

namespace RecordUpdate

def flag : RecordUpdate → EntryFlag
  | clear => .present
  | accessed _ => .accessed
  | dirty _ => .dirty

def on : RecordUpdate → Bool
  | clear => false
  | accessed on | dirty on => on

def apply : RecordUpdate → PageRecord → PageRecord
  | clear, record => { record with present := false }
  | accessed on, record => { record with accessed := on }
  | dirty on, record => { record with dirty := on }

end RecordUpdate

namespace PageTableEntry

/-- Flags and frame do not overlap. -/
theorem withFlag_withFrame (entry : PageTableEntry) (frame : BitVec 20) (flag : EntryFlag)
    (on : Bool) :
    (entry.withFrame frame).withFlag flag on = (entry.withFlag flag on).withFrame frame := by
  have hlow : flag.position < 12 := by cases flag <;> decide
  have hbits (i : Nat) : BitField.bit ((entry.withFrame frame).withFlag flag on).raw i =
      BitField.bit ((entry.withFlag flag on).withFrame frame).raw i := by
    rw [BitField.bit, BitField.bit, getLsbD_withFrame]
    have hset := BitField.bit_withBit (entry.withFrame frame).raw flag.position i on
    have hset' := BitField.bit_withBit entry.raw flag.position i on
    simp only [BitField.bit, getLsbD_withFrame] at hset hset'
    rw [withFlag, withFlag, hset, hset']
    by_cases hi : i < 12
    · simp only [if_pos hi]
    · have hother : flag.position ≠ i := by omega
      simp only [if_neg hi, if_neg hother]
  exact congrArg mk (BitVec.eq_of_getLsbD_eq fun i _ => hbits i)

/-- The entry of a user page that has these flags set, in frame 0. -/
def ofFlags (present writable accessed dirty : Bool) : PageTableEntry :=
  ((((zero.withFlag .present present).withFlag .writable writable).withFlag .user true).withFlag
    .accessed accessed).withFlag .dirty dirty

variable (present writable accessed dirty : Bool)

theorem toNat_ofFlags : ((ofFlags present writable accessed dirty).raw.extractLsb' 0 12).toNat =
    present.toNat + writable.toNat * 2 + 4 + accessed.toNat * 32 + dirty.toNat * 64 := by
  revert present writable accessed dirty
  decide

theorem withFlag_ofFlags (on : Bool) :
    (ofFlags present writable accessed dirty).withFlag .present on =
        ofFlags on writable accessed dirty ∧
      (ofFlags present writable accessed dirty).withFlag .accessed on =
        ofFlags present writable on dirty ∧
      (ofFlags present writable accessed dirty).withFlag .dirty on =
        ofFlags present writable accessed on := by
  revert present writable accessed dirty on
  decide

theorem mapping_eq_ofFlags (frame : BitVec 20) :
    mapping frame writable = (ofFlags true writable false false).withFrame frame := by
  have hflags : ((zero.withFlag .present true).withFlag .writable writable).withFlag .user true =
      ofFlags true writable false false := by
    revert writable
    decide
  rw [mapping, hflags]

end PageTableEntry

namespace PageRecord

/-- The record of a page that has just been mapped. -/
def fresh (frame : Fin 0x100000) (writable : Bool) : PageRecord :=
  { present := true, writable, accessed := false, dirty := false, frame }

/-- The record as a number. Beside the frame and the flags there is the user bit. -/
def word (record : PageRecord) : Nat :=
  record.frame * 0x1000 + (record.present.toNat + record.writable.toNat * 2 + 4 +
    record.accessed.toNat * 32 + record.dirty.toNat * 64)

def entry (record : PageRecord) : PageTableEntry :=
  (PageTableEntry.ofFlags record.present record.writable record.accessed record.dirty).withFrame
    (BitVec.ofNat 20 record.frame)

variable (record : PageRecord)

theorem toNat_entry : record.entry.raw.toNat = record.word := by
  have hframe : (BitVec.ofNat 20 record.frame).toNat = record.frame :=
    Nat.mod_eq_of_lt record.frame.isLt
  rw [entry, word, PageTableEntry.withFrame, BitVec.toNat_append, hframe,
    ← Nat.shiftLeft_add_eq_or_of_lt (BitVec.isLt _), PageTableEntry.toNat_ofFlags,
    Nat.shiftLeft_eq]

theorem flag_entry : record.entry.flag .present = record.present ∧
    record.entry.flag .writable = record.writable ∧
    record.entry.flag .accessed = record.accessed ∧ record.entry.flag .dirty = record.dirty := by
  simp [entry, PageTableEntry.ofFlags, PageTableEntry.flag_withFrame, PageTableEntry.flag_withFlag]

theorem frame_entry : record.entry.frame.toNat = record.frame := by
  rw [entry, PageTableEntry.frame_withFrame]
  exact Nat.mod_eq_of_lt record.frame.isLt

theorem withFlag_entry (update : RecordUpdate) :
    record.entry.withFlag update.flag update.on = (update.apply record).entry := by
  have hflags := PageTableEntry.withFlag_ofFlags record.present record.writable record.accessed
    record.dirty update.on
  rw [entry, PageTableEntry.withFlag_withFrame]
  cases update with
  | clear => exact congrArg (PageTableEntry.withFrame · _) hflags.1
  | accessed on => exact congrArg (PageTableEntry.withFrame · _) hflags.2.1
  | dirty on => exact congrArg (PageTableEntry.withFrame · _) hflags.2.2

theorem entry_fresh (frame : Fin 0x100000) (writable : Bool) :
    (fresh frame writable).entry = .mapping (BitVec.ofNat 20 frame) writable :=
  (PageTableEntry.mapping_eq_ofFlags writable _).symm

end PageRecord

/-- A frame number below the limit goes into the entry as it is. -/
theorem PageDirectory.map?_eq (directory : PageDirectory) (addr : Nat) (frame : Fin 0x100000)
    (writable : Bool) : directory.map? addr ⟨frame⟩ writable =
      .ok (if directory.isSet .present addr = true then none else some
        ⟨directory.entries.insert (pageNumber addr) (PageRecord.fresh frame writable).entry⟩) := by
  have hmod : (frame : Nat) % 0x100000000 = frame := Nat.mod_eq_of_lt (by omega)
  simp only [map?, hmod]
  split
  · rfl
  · rw [PageTableEntry.frameField, if_pos frame.isLt, PageRecord.entry_fresh]
    rfl

/-- Who finds the directory that an operation is about. -/
inductive Route where
  | tables
  | caller
deriving DecidableEq, Repr

/-- The operations on the page tables, with frame numbers that an entry has room for. -/
inductive PageCall where
  | create (pid : Pid)
  | destroy (pid : Pid)
  | map (pid : Pid) (addr : Nat) (frame : Fin 0x100000) (writable : Bool)
  | unmap (route : Route) (pid : Pid) (addr : Nat)
  | update (route : Route) (update : RecordUpdate) (pid : Pid) (addr : Nat)
deriving DecidableEq, Repr

/-- The address spaces, and a record for each page that has an entry. -/
structure PageRecords where
  pids : Std.ExtTreeSet Pid
  records : Std.ExtTreeMap UserPage PageRecord

namespace PageRecords

def empty : PageRecords := ⟨∅, ∅⟩

/-- The record of the page that holds an address. -/
def at? (records : PageRecords) (pid : Pid) (addr : Nat) : Option PageRecord :=
  records.records[UserPage.containing pid addr]?

/-- Changes the record of the page that holds an address. -/
def alter (records : PageRecords) (pid : Pid) (addr : Nat)
    (change : Option PageRecord → Option PageRecord) : PageRecords :=
  { records with records := records.records.alter (.containing pid addr) change }

def serve (records : PageRecords) : PageCall → TableReply × PageRecords
  | .create pid =>
    if records.pids.contains pid then (.created false, records)
    else (.created true, { records with pids := records.pids.insert pid })
  | .destroy pid =>
    (.done, ⟨records.pids.erase pid, records.records.filter fun page _ => page.owner != pid⟩)
  | .map pid addr frame writable =>
    if !records.pids.contains pid then (.mapped none, records)
    else if (records.at? pid addr).any (·.present) then (.mapped (some false), records)
    else (.mapped (some true), records.alter pid addr fun _ => some (.fresh frame writable))
  | .unmap _ pid addr => (.done, records.alter pid addr fun _ => none)
  | .update _ update pid addr => (.done, records.alter pid addr (Option.map update.apply))

def serveAll (records : PageRecords) : List PageCall → List (PageCall × TableReply) × PageRecords
  | [] => ([], records)
  | call :: calls =>
    let (reply, records) := records.serve call
    let (trace, records) := records.serveAll calls
    ((call, reply) :: trace, records)

theorem at?_alter (records : PageRecords) (pid other : Pid) (addr addr' : Nat)
    (change : Option PageRecord → Option PageRecord) :
    (records.alter pid addr change).at? other addr' =
      if UserPage.containing pid addr = .containing other addr' then
        change (records.at? other addr')
      else records.at? other addr' := by
  simp only [at?, alter, Std.ExtTreeMap.getElem?_alter, Std.compare_eq_iff_eq]
  split
  · rename_i heq
    rw [heq]
  · rfl

theorem at?_alter_of_none {records : PageRecords} {pid : Pid} {addr : Nat}
    {change : Option PageRecord → Option PageRecord} (hnone : records.at? pid addr = none)
    (hchange : change none = none) (other : Pid) (addr' : Nat) :
    (records.alter pid addr change).at? other addr' = records.at? other addr' := by
  rw [at?_alter]
  split
  · rename_i heq
    have hother : records.at? other addr' = none := by rwa [at?, ← heq]
    rw [hother, hchange]
  · rfl

/-- How many pages of an address space are present. -/
def presentCount (records : PageRecords) (pid : Pid) : Nat :=
  records.records.toList.countP fun item => item.1.owner == pid && item.2.present

end PageRecords

namespace AddressSpaces

/-- Changes a directory, if there is one, on either route. -/
def change (spaces : AddressSpaces) (route : Route) (pid : Pid)
    (change : PageDirectory → PageDirectory) : AddressSpaces :=
  match route with
  | .tables => spaces.update pid change
  | .caller =>
    match spaces.directory? pid with
    | none => spaces
    | some directory => ⟨spaces.directories.insert pid (change directory)⟩

def carryOut (spaces : AddressSpaces) : PageCall → Except Halt (TableReply × AddressSpaces)
  | .create pid => spaces.perform (.create pid)
  | .destroy pid => spaces.perform (.destroy pid)
  | .map pid addr frame writable => spaces.perform (.map pid addr ⟨frame⟩ writable)
  | .unmap route pid addr => return (.done, spaces.change route pid (·.unmap addr))
  | .update route update pid addr =>
    return (.done, spaces.change route pid (·.setFlag update.flag addr update.on))

theorem change_eq_update (spaces : AddressSpaces) (route : Route) (pid : Pid)
    (change : PageDirectory → PageDirectory) :
    spaces.change route pid change = spaces.update pid change := by
  cases route with
  | tables => rfl
  | caller =>
      refine ext fun other => ?_
      rw [AddressSpaces.change, directory?_update]
      cases hdirectory : spaces.directory? pid with
      | none =>
          simp only
          split
          · rename_i heq
            rw [← heq, hdirectory]
            rfl
          · rfl
      | some directory =>
          simp only [directory?_insert]
          split
          · rename_i heq
            rw [← heq, hdirectory]
            rfl
          · rfl

theorem entry?_insert (spaces : AddressSpaces) (pid other : Pid) (directory : PageDirectory)
    (addr : Nat) : entry? ⟨spaces.directories.insert pid directory⟩ other addr =
      if pid = other then directory.get? addr else spaces.entry? other addr := by
  rw [AddressSpaces.entry?, directory?_insert]
  split <;> rfl

theorem entry?_containing_base (spaces : AddressSpaces) (pid : Pid) (addr : Nat) :
    spaces.entry? pid (UserPage.containing pid addr).base = spaces.entry? pid addr :=
  spaces.entry?_congr pid (UserPage.pageNumber_base _)

/-- The tables hold the records and nothing else. -/
structure Holds (spaces : AddressSpaces) (records : PageRecords) : Prop where
  contains : ∀ pid, spaces.contains pid = records.pids.contains pid
  entry : ∀ pid addr, spaces.entry? pid addr = (records.at? pid addr).map (·.entry)

namespace Holds

variable {spaces : AddressSpaces} {records : PageRecords}

theorem empty : AddressSpaces.empty.Holds .empty where
  contains pid := by simp [AddressSpaces.contains, directory?_empty, PageRecords.empty]
  entry pid addr := by
    simp [AddressSpaces.entry?, directory?_empty, PageRecords.empty, PageRecords.at?]

theorem isSet (h : spaces.Holds records) (flag : EntryFlag) (pid : Pid) (addr : Nat) :
    spaces.isSet flag pid addr = (records.at? pid addr).any (·.entry.flag flag) := by
  rw [isSet_eq, h.entry, Option.any_map]

theorem create (h : spaces.Holds records) (pid : Pid) :
    ∃ after, spaces.perform (.create pid) = .ok ((records.serve (.create pid)).1, after) ∧
      after.Holds (records.serve (.create pid)).2 := by
  simp only [perform, create?, PageRecords.serve, ← h.contains pid]
  by_cases hpid : spaces.contains pid = true
  · simp only [if_pos hpid]
    exact ⟨spaces, rfl, h⟩
  · simp only [if_neg hpid]
    refine ⟨_, rfl, fun other => ?_, fun other addr => ?_⟩
    · rw [AddressSpaces.contains, directory?_insert, Std.ExtTreeSet.contains_insert,
        ← h.contains other]
      by_cases heq : pid = other <;> simp [heq, AddressSpaces.contains]
    · rw [entry?_insert]
      split
      · rename_i heq
        have hnone : spaces.directory? other = none := by
          simpa [AddressSpaces.contains, heq] using hpid
        rw [PageDirectory.get?_empty]
        change none = (records.at? other addr).map _
        rw [← h.entry, AddressSpaces.entry?, hnone]
        rfl
      · exact h.entry other addr

theorem destroy (h : spaces.Holds records) (pid : Pid) :
    (spaces.destroy pid).Holds (records.serve (.destroy pid)).2 where
  contains other := by
    rw [contains_destroy, h.contains, PageRecords.serve, Std.ExtTreeSet.contains_erase]
    by_cases heq : pid = other <;> simp [heq]
  entry other addr := by
    rw [entry?_destroy, h.entry]
    simp only [PageRecords.serve, PageRecords.at?, Std.ExtTreeMap.getElem?_filter',
      UserPage.containing]
    by_cases heq : pid = other
    · simp [heq]
    · have hother : (other != pid) = true := bne_iff_ne.2 (Ne.symm heq)
      rw [if_neg heq]
      cases records.records[(⟨other, pageNumber addr⟩ : UserPage)]? with
      | none => rfl
      | some record => rw [Option.filter_some, if_pos hother]

/-- Tables whose entries differ as the records do, in one page. -/
theorem alter {after : AddressSpaces} {pid : Pid} {addr : Nat}
    {change : Option PageRecord → Option PageRecord} (h : spaces.Holds records)
    (hcontains : ∀ other, after.contains other = spaces.contains other)
    (hentry : ∀ other addr', after.entry? other addr' =
      if UserPage.containing pid addr = .containing other addr' then
        (change (records.at? other addr')).map (·.entry)
      else spaces.entry? other addr') : after.Holds (records.alter pid addr change) where
  contains other := (hcontains other).trans (h.contains other)
  entry other addr' := by
    rw [hentry, PageRecords.at?_alter, apply_ite (Option.map _), h.entry]

theorem map (h : spaces.Holds records) (pid : Pid) (addr : Nat) (frame : Fin 0x100000)
    (writable : Bool) : ∃ after, spaces.perform (.map pid addr ⟨frame⟩ writable) =
        .ok ((records.serve (.map pid addr frame writable)).1, after) ∧
      after.Holds (records.serve (.map pid addr frame writable)).2 := by
  have hpresent : (records.at? pid addr).any (·.present) = spaces.isSet .present pid addr := by
    simp only [h.isSet, fun record => (PageRecord.flag_entry record).1]
  simp only [PageRecords.serve, ← h.contains pid, hpresent, AddressSpaces.contains,
    AddressSpaces.isSet, perform, AddressSpaces.map]
  cases hdirectory : spaces.directory? pid with
  | none => exact ⟨spaces, rfl, h⟩
  | some directory =>
      simp only [PageDirectory.map?_eq, Option.any_some, Option.isSome_some, Bool.not_true,
        Bool.false_eq_true, if_false]
      by_cases hset : directory.isSet .present addr = true
      · simp only [if_pos hset]
        exact ⟨spaces, rfl, h⟩
      · simp only [if_neg hset]
        refine ⟨_, rfl, h.alter (fun other => ?_) fun other addr' => ?_⟩
        · rw [AddressSpaces.contains, directory?_insert]
          split
          · rename_i heq
            rw [← heq, AddressSpaces.contains, hdirectory]
            rfl
          · rfl
        · rw [entry?_insert]
          simp only [PageDirectory.get?, UserPage.containing, UserPage.mk.injEq,
            Std.ExtTreeMap.getElem?_insert, Std.compare_eq_iff_eq]
          by_cases heq : pid = other
          · subst heq
            simp only [true_and, if_true, Option.map_some]
            split
            · rfl
            · rw [AddressSpaces.entry?, hdirectory]
              rfl
          · simp only [heq, if_false, false_and]

theorem carryOut (h : spaces.Holds records) (call : PageCall) :
    ∃ after, spaces.carryOut call = .ok ((records.serve call).1, after) ∧
      after.Holds (records.serve call).2 := by
  cases call with
  | create pid => exact h.create pid
  | destroy pid => exact ⟨_, rfl, h.destroy pid⟩
  | map pid addr frame writable => exact h.map pid addr frame writable
  | unmap route pid addr =>
      refine ⟨_, rfl, h.alter (fun other => ?_) fun other addr' => ?_⟩
      · rw [change_eq_update, contains_update]
      · have hentry := entry?_unmap spaces pid addr (.containing other addr')
        rw [change_eq_update, ← spaces.entry?_containing_base other addr',
          ← entry?_containing_base _ other addr']
        exact hentry
  | update route update pid addr =>
      refine ⟨_, rfl, h.alter (fun other => ?_) fun other addr' => ?_⟩
      · rw [change_eq_update, contains_update]
      · have hentry := entry?_setFlag spaces update.flag pid other addr addr' update.on
        rw [change_eq_update]
        refine hentry.trans ?_
        rw [h.entry, Option.map_map, Option.map_map]
        simp only [Function.comp_def, PageRecord.withFlag_entry]

theorem carryOutAll (h : spaces.Holds records) (calls : List PageCall) :
    ∃ after, performAll AddressSpaces.carryOut spaces calls =
        .ok ((records.serveAll calls).1, after) ∧ after.Holds (records.serveAll calls).2 := by
  induction calls generalizing spaces records with
  | nil => exact ⟨spaces, rfl, h⟩
  | cons call calls ih =>
      obtain ⟨mid, hcall, hmid⟩ := h.carryOut call
      obtain ⟨after, hcalls, hafter⟩ := ih hmid
      refine ⟨after, ?_, hafter⟩
      rw [performAll, hcall]
      simp only [bind, Except.bind, hcalls]
      rfl

theorem presentCount (h : spaces.Holds records) {pid : Pid} {directory : PageDirectory}
    (hdirectory : spaces.directory? pid = some directory) :
    directory.presentCount = records.presentCount pid := by
  have hpages : (((directory.entries.toList.filter (·.2.flag .present)).map (·.1)).map
        (UserPage.mk pid)).Perm ((records.records.toList.filter fun item =>
          item.1.owner == pid && item.2.present).map (·.1)) := by
    rw [List.perm_ext_iff_of_nodup
      ((nodup_map_filter_toList _ _).map fun number number' heq => congrArg (·.number) heq)
      (nodup_map_filter_toList _ _)]
    rintro ⟨owner, number⟩
    have hentry := h.entry pid (UserPage.base ⟨pid, number⟩)
    simp only [AddressSpaces.entry?, hdirectory, Option.bind_some, PageDirectory.get?,
      UserPage.pageNumber_base, PageRecords.at?, UserPage.containing] at hentry
    simp only [List.mem_map, List.mem_filter, Prod.exists, exists_and_right, exists_eq_right,
      Std.ExtTreeMap.mem_toList_iff_getElem?_eq_some, UserPage.mk.injEq, Bool.and_eq_true,
      beq_iff_eq]
    constructor
    · rintro ⟨_, ⟨entry, hlookup, hpresent⟩, rfl, rfl⟩
      rw [hentry] at hlookup
      obtain ⟨record, hrecord, rfl⟩ := Option.map_eq_some_iff.1 hlookup
      exact ⟨record, hrecord, rfl, record.flag_entry.1.symm.trans hpresent⟩
    · rintro ⟨record, hrecord, rfl, hpresent⟩
      rw [hrecord] at hentry
      exact ⟨number, ⟨record.entry, hentry, record.flag_entry.1.trans hpresent⟩, rfl, rfl⟩
  rw [PageDirectory.presentCount, PageRecords.presentCount, values_eq_map_toList, List.countP_map,
    List.countP_eq_length_filter, List.countP_eq_length_filter]
  have hlength := hpages.length_eq
  rwa [List.length_map, List.length_map, List.length_map] at hlength

/-- Tables that hold the same records are the same. -/
theorem eq_of_same {after : AddressSpaces} {records' : PageRecords} (h : spaces.Holds records)
    (h' : after.Holds records')
    (hpids : ∀ pid, records'.pids.contains pid = records.pids.contains pid)
    (hat : ∀ pid addr, records'.at? pid addr = records.at? pid addr) : after = spaces := by
  refine ext fun pid => directory?_congr ?_ fun key _ => ?_
  · rw [h.contains, h'.contains, hpids]
  · rw [h.entry, h'.entry, hat]

end Holds

/-- What can be seen of the tables is what the records say. -/
structure Shows (spaces : AddressSpaces) (records : PageRecords) : Prop where
  contains : ∀ pid, spaces.contains pid = records.pids.contains pid
  raw : ∀ pid addr,
    (spaces.entry? pid addr).map (·.raw.toNat) = (records.at? pid addr).map (·.word)
  frame : ∀ pid addr, spaces.frame? pid addr =
    ((records.at? pid addr).filter (·.present)).map fun record => ⟨record.frame⟩
  present : ∀ pid addr, spaces.isSet .present pid addr = (records.at? pid addr).any (·.present)
  writable : ∀ pid addr, spaces.isSet .writable pid addr = (records.at? pid addr).any (·.writable)
  accessed : ∀ pid addr, spaces.isSet .accessed pid addr = (records.at? pid addr).any (·.accessed)
  dirty : ∀ pid addr, spaces.isSet .dirty pid addr = (records.at? pid addr).any (·.dirty)
  presentCount : ∀ pid, (spaces.directory? pid).map (·.presentCount) =
    if records.pids.contains pid = true then some (records.presentCount pid) else none

theorem Holds.shows {spaces : AddressSpaces} {records : PageRecords} (h : spaces.Holds records) :
    spaces.Shows records where
  contains := h.contains
  raw pid addr := by
    rw [h.entry, Option.map_map]
    simp only [Function.comp_def, PageRecord.toNat_entry]
  frame pid addr := by
    rw [frame?_eq, translation?_containing, h.entry]
    cases records.at? pid addr with
    | none => rfl
    | some record =>
        obtain ⟨hpresent, -⟩ := record.flag_entry
        simp only [Option.map_some, Option.filter_some, PageTableEntry.translation, hpresent,
          record.frame_entry]
        split <;> rfl
  present pid addr := by simp only [h.isSet, fun record => (PageRecord.flag_entry record).1]
  writable pid addr := by simp only [h.isSet, fun record => (PageRecord.flag_entry record).2.1]
  accessed pid addr := by simp only [h.isSet, fun record => (PageRecord.flag_entry record).2.2.1]
  dirty pid addr := by simp only [h.isSet, fun record => (PageRecord.flag_entry record).2.2.2]
  presentCount pid := by
    rw [← h.contains, AddressSpaces.contains]
    cases hdirectory : spaces.directory? pid with
    | none => rfl
    | some directory =>
        rw [Option.map_some, h.presentCount hdirectory]
        rfl

end AddressSpaces

namespace PageCall

/-- The pages whose entries an operation may change. -/
def Touches : PageCall → UserPage → Prop
  | create _, _ => False
  | destroy pid, page => pid = page.owner
  | map pid addr _ _, page | unmap _ pid addr, page | update _ _ pid addr, page =>
    .containing pid addr = page

/-- An operation on something that is not there, or would be there twice. -/
def idleOn (spaces : AddressSpaces) : PageCall → Bool
  | create pid => spaces.contains pid
  | destroy pid => !spaces.contains pid
  | map pid addr _ _ => !spaces.contains pid || spaces.isSet .present pid addr
  | unmap _ pid addr | update _ _ pid addr => (spaces.entry? pid addr).isNone

def isUpdate : PageCall → Bool
  | update .. => true
  | create _ | destroy _ | map .. | unmap .. => false

end PageCall

namespace PageRecords

variable {records : PageRecords} {call : PageCall}

theorem at?_serve_of_not_touches {pid : Pid} {addr : Nat}
    (h : ¬ call.Touches (.containing pid addr)) :
    (records.serve call).2.at? pid addr = records.at? pid addr := by
  cases call with
  | create other =>
      rw [serve]
      split <;> rfl
  | destroy other =>
      have hother : (pid != other) = true := bne_iff_ne.2 (Ne.symm h)
      simp only [serve, at?, Std.ExtTreeMap.getElem?_filter', UserPage.containing]
      cases records.records[(⟨pid, pageNumber addr⟩ : UserPage)]? with
      | none => rfl
      | some record => rw [Option.filter_some, if_pos hother]
  | map other addr' frame writable =>
      have h : ¬ UserPage.containing other addr' = .containing pid addr := h
      rw [serve]
      split
      · rfl
      split
      · rfl
      · rw [at?_alter, if_neg h]
  | unmap route other addr' | update route change other addr' =>
      have h : ¬ UserPage.containing other addr' = .containing pid addr := h
      rw [serve, at?_alter, if_neg h]

end PageRecords

namespace AddressSpaces

/-- What an operation changes of tables, and what it leaves as it was. -/
structure Operates (spaces : AddressSpaces) : Prop where
  /-- No operation halts. -/
  total : ∀ call, ∃ reply after, spaces.carryOut call = .ok (reply, after)
  spares : ∀ {call : PageCall} {reply : TableReply} {after : AddressSpaces} {pid : Pid}
    {addr : Nat}, spaces.carryOut call = .ok (reply, after) →
      ¬ call.Touches (.containing pid addr) → after.entry? pid addr = spaces.entry? pid addr
  idle : ∀ call : PageCall, call.idleOn spaces = true →
    ∃ reply, spaces.carryOut call = .ok (reply, spaces)
  refuses_iff : ∀ (pid : Pid) (addr : Nat) (frame : Fin 0x100000) (writable : Bool),
    spaces.carryOut (.map pid addr frame writable) = .ok (.mapped (some false), spaces) ↔
      spaces.isSet .present pid addr = true
  /-- No change of a flag changes a frame. -/
  keepsFrames : ∀ updates : List PageCall, (∀ call ∈ updates, call.isUpdate = true) →
    ∃ trace after, performAll carryOut spaces updates = .ok (trace, after) ∧
      ∀ pid addr, (after.entry? pid addr).map (·.frame) = (spaces.entry? pid addr).map (·.frame)

theorem exists_performAll_updates (spaces : AddressSpaces) {updates : List PageCall}
    (hupdates : ∀ call ∈ updates, call.isUpdate = true) :
    ∃ trace after, performAll carryOut spaces updates = .ok (trace, after) ∧
      ∀ pid addr, (after.entry? pid addr).map (·.frame) =
        (spaces.entry? pid addr).map (·.frame) := by
  induction updates generalizing spaces with
  | nil => exact ⟨[], spaces, rfl, fun _ _ => rfl⟩
  | cons call updates ih =>
      obtain ⟨hupdate, hrest⟩ := List.forall_mem_cons.1 hupdates
      cases call with
      | create | destroy | map | unmap => cases hupdate
      | update route update pid addr =>
          obtain ⟨trace, after, hperform, hframes⟩ :=
            ih (spaces.change route pid (·.setFlag update.flag addr update.on)) hrest
          refine ⟨(.update route update pid addr, .done) :: trace, after, ?_, fun other addr' => ?_⟩
          · rw [performAll, carryOut]
            simp only [bind, Except.bind, pure, Except.pure, hperform]
          · have hentry := entry?_setFlag spaces update.flag pid other addr addr' update.on
            rw [setFlag] at hentry
            rw [hframes, change_eq_update, hentry]
            split
            · rw [Option.map_map]
              simp only [Function.comp_def, PageTableEntry.frame_withFlag]
            · rfl

theorem map_refused_iff (spaces : AddressSpaces) (pid : Pid) (addr : Nat) (frame : Fin 0x100000)
    (writable : Bool) :
    spaces.carryOut (.map pid addr frame writable) = .ok (.mapped (some false), spaces) ↔
      spaces.isSet .present pid addr = true := by
  simp only [carryOut, perform, AddressSpaces.map, AddressSpaces.isSet]
  cases spaces.directory? pid with
  | none =>
      refine iff_of_false (fun h => ?_) Bool.false_ne_true
      cases h
  | some directory =>
      simp only [PageDirectory.map?_eq, Option.any_some]
      by_cases hset : directory.isSet .present addr = true
      · simp only [if_pos hset]
        exact iff_of_true rfl hset
      · simp only [if_neg hset]
        refine iff_of_false (fun h => ?_) hset
        cases h

theorem Holds.serve_idle {spaces : AddressSpaces} {records : PageRecords} {call : PageCall}
    (h : spaces.Holds records) (hidle : call.idleOn spaces = true) :
    (∀ pid, (records.serve call).2.pids.contains pid = records.pids.contains pid) ∧
      ∀ pid addr, (records.serve call).2.at? pid addr = records.at? pid addr := by
  cases call with
  | create pid =>
      have hpid : records.pids.contains pid = true := (h.contains pid).symm.trans hidle
      rw [PageRecords.serve, if_pos hpid]
      exact ⟨fun _ => rfl, fun _ _ => rfl⟩
  | destroy pid =>
      have hpid : spaces.contains pid = false := by simpa [PageCall.idleOn] using hidle
      refine ⟨fun other => ?_, fun other addr => ?_⟩
      · rw [PageRecords.serve, Std.ExtTreeSet.contains_erase]
        by_cases heq : pid = other
        · rw [← heq, ← h.contains, hpid, Bool.and_false]
        · simp [heq]
      · by_cases heq : pid = other
        · have hnone : records.at? other addr = none := by
            have hdirectory : spaces.directory? other = none := by
              simpa [AddressSpaces.contains, heq] using hpid
            have hentry := h.entry other addr
            rwa [AddressSpaces.entry?, hdirectory, Option.bind_none, eq_comm,
              Option.map_eq_none_iff] at hentry
          simp only [PageRecords.serve, PageRecords.at?, Std.ExtTreeMap.getElem?_filter'] at hnone ⊢
          rw [hnone, Option.filter_none]
        · exact PageRecords.at?_serve_of_not_touches heq
  | map pid addr frame writable =>
      have hpresent : spaces.isSet .present pid addr = (records.at? pid addr).any (·.present) :=
        h.shows.present pid addr
      rw [PageCall.idleOn, h.contains, hpresent, Bool.or_eq_true] at hidle
      rw [PageRecords.serve]
      obtain hpid | hset := hidle
      · rw [if_pos hpid]
        exact ⟨fun _ => rfl, fun _ _ => rfl⟩
      · rw [if_pos hset]
        split <;> exact ⟨fun _ => rfl, fun _ _ => rfl⟩
  | unmap route pid addr =>
      rw [PageCall.idleOn, h.entry, Option.isNone_map, Option.isNone_iff_eq_none] at hidle
      exact ⟨fun _ => rfl, PageRecords.at?_alter_of_none hidle rfl⟩
  | update route update pid addr =>
      rw [PageCall.idleOn, h.entry, Option.isNone_map, Option.isNone_iff_eq_none] at hidle
      exact ⟨fun _ => rfl, PageRecords.at?_alter_of_none hidle rfl⟩

theorem Holds.operates {spaces : AddressSpaces} {records : PageRecords} (h : spaces.Holds records) :
    spaces.Operates where
  total call := by
    obtain ⟨after, hcall, -⟩ := h.carryOut call
    exact ⟨_, after, hcall⟩
  spares hcall hspared := by
    obtain ⟨after, hcall', hafter⟩ := h.carryOut _
    cases hcall'.symm.trans hcall
    rw [hafter.entry, h.entry, PageRecords.at?_serve_of_not_touches hspared]
  idle call hidle := by
    obtain ⟨after, hcall, hafter⟩ := h.carryOut call
    obtain ⟨hpids, hat⟩ := h.serve_idle hidle
    exact ⟨_, h.eq_of_same hafter hpids hat ▸ hcall⟩
  refuses_iff := spaces.map_refused_iff
  keepsFrames updates hupdates := spaces.exists_performAll_updates hupdates

/-- The page tables refine a map of records. -/
theorem page_tables_refine_records (calls : List PageCall) :
    ∃ spaces, performAll carryOut empty calls =
        .ok ((PageRecords.empty.serveAll calls).1, spaces) ∧
      spaces.Shows (PageRecords.empty.serveAll calls).2 ∧ spaces.Operates := by
  obtain ⟨spaces, hcalls, hholds⟩ := Holds.empty.carryOutAll calls
  exact ⟨spaces, hcalls, hholds.shows, hholds.operates⟩

end AddressSpaces

end DemandPaging
