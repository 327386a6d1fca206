import DemandPaging.Proofs.PageTable
import DemandPaging.Proofs.VirtualMemory.PageFault
import DemandPaging.VirtualMemory.UserCopy

/-!
The ways in which an access to user memory ends, and copies as chains of accesses to one page
after the other.
-/
namespace DemandPaging

/-- The tables after an access to the page of `addr`. -/
def AddressSpaces.marked (spaces : AddressSpaces) (pid : Pid) (addr : Nat) (write : Bool) :
    AddressSpaces :=
  if write then (spaces.setFlag .accessed pid addr true).setFlag .dirty pid addr true
  else spaces.setFlag .accessed pid addr true

@[simp] theorem AddressSpaces.contains_marked (spaces : AddressSpaces) (pid other : Pid)
    (addr : Nat) (write : Bool) :
    (spaces.marked pid addr write).contains other = spaces.contains other := by
  simp only [marked]
  split <;> simp

theorem AddressSpaces.translation?_marked (spaces : AddressSpaces) (pid : Pid) (addr : Nat)
    (write : Bool) (key : UserPage) :
    (spaces.marked pid addr write).translation? key =
      if .containing pid addr = key then
        (spaces.translation? key).map fun meaning =>
          { meaning with dirty := meaning.dirty || write }
      else spaces.translation? key := by
  cases write with
  | true =>
      simp only [marked, if_true, translation?_setFlag]
      simp [Translation.withFlag]
  | false =>
      simp only [marked, Bool.false_eq_true, if_false, translation?_setFlag_accessed]
      split
      · cases spaces.translation? key <;> simp
      · rfl

/-- Marks that an access has left already are not left again. -/
theorem AddressSpaces.marked_marked (spaces : AddressSpaces) (pid : Pid) (write : Bool)
    {addr addr' : Nat} (h : pageNumber addr' = pageNumber addr) :
    (spaces.marked pid addr write).marked pid addr' write = spaces.marked pid addr write := by
  have hpage : UserPage.containing pid addr = .containing pid addr' := by
    rw [UserPage.containing, UserPage.containing, h]
  have haccessed : ∀ entry,
      AddressSpaces.entry? (spaces.marked pid addr write) pid addr' = some entry →
      entry.flag .accessed = true ∧ (write = true → entry.flag .dirty = true) := by
    intro entry hentry
    cases write with
    | true =>
        simp only [marked, if_true, entry?_setFlag, if_pos hpage, Option.map_map] at hentry
        obtain ⟨old, -, rfl⟩ := Option.map_eq_some_iff.1 hentry
        simp [PageTableEntry.flag_withFlag]
    | false =>
        simp only [marked, Bool.false_eq_true, if_false, entry?_setFlag, if_pos hpage] at hentry
        obtain ⟨old, -, rfl⟩ := Option.map_eq_some_iff.1 hentry
        simp [PageTableEntry.flag_withFlag]
  cases write with
  | true =>
      rw [marked, if_pos rfl, setFlag_of_flag fun entry hentry => (haccessed entry hentry).1,
        setFlag_of_flag fun entry hentry => (haccessed entry hentry).2 rfl]
  | false =>
      rw [marked, if_neg Bool.false_ne_true,
        setFlag_of_flag fun entry hentry => (haccessed entry hentry).1]

namespace VirtualMemory

variable {δ φ π : Type} {vm after : VirtualMemory δ φ π} {pid : Pid} {addr : Nat} {write : Bool}
  {result : Except MemoryError FrameNumber}

inductive Touched (vm : VirtualMemory δ φ π) (pid : Pid) (addr : Nat) (write : Bool) :
    Except MemoryError FrameNumber → VirtualMemory δ φ π → Prop where
  | noAddressSpace : vm.tables.contains pid = false →
      Touched vm pid addr write (.error .noAddressSpace) vm
  | writeProtected {meaning : Translation} : vm.tables.contains pid = true →
      vm.tables.translation? (.containing pid addr) = some meaning → meaning.present = true →
      write = true → meaning.writable = false →
      Touched vm pid addr write (.error .writeProtected) vm
  | reached {meaning : Translation} : vm.tables.contains pid = true →
      vm.tables.translation? (.containing pid addr) = some meaning → meaning.present = true →
      (write = true → meaning.writable = true) →
      Touched vm pid addr write (.ok meaning.frame)
        { vm with tables := vm.tables.marked pid addr write }

theorem touch?_eq_none (h : vm.touch? pid addr write = none) :
    vm.tables.contains pid = true ∧
      (vm.tables.translation? (.containing pid addr)).any (·.present) = false := by
  simp only [touch?] at h
  split at h
  · cases h
  · rename_i directory hdirectory
    split at h
    · rename_i hframe
      refine ⟨by simp [AddressSpaces.contains, hdirectory], ?_⟩
      rw [PageDirectory.frame?_eq, Option.map_eq_none_iff, Option.filter_eq_none_iff] at hframe
      simp only [AddressSpaces.translation?, UserPage.containing, hdirectory, Option.bind_some]
      cases hmeaning : directory.translation? (pageNumber addr) with
      | none => rfl
      | some meaning => simpa using hframe meaning hmeaning
    · split at h <;> cases h

theorem touch?_cases (h : vm.touch? pid addr write = some (result, after)) :
    Touched vm pid addr write result after := by
  simp only [touch?] at h
  split at h
  · rename_i hdirectory
    cases h
    exact .noAddressSpace (by simp [AddressSpaces.contains, hdirectory])
  · rename_i directory hdirectory
    split at h
    · cases h
    · rename_i frame hframe
      rw [PageDirectory.frame?_eq, Option.map_eq_some_iff] at hframe
      obtain ⟨meaning, hfilter, rfl⟩ := hframe
      obtain ⟨hmeaning, hpresent⟩ := Option.filter_eq_some_iff.1 hfilter
      have hspace : vm.tables.contains pid = true := by
        simp [AddressSpaces.contains, hdirectory]
      have htranslation : vm.tables.translation? (.containing pid addr) = some meaning := by
        simpa [AddressSpaces.translation?, UserPage.containing, hdirectory] using hmeaning
      rw [PageDirectory.isSet_writable, hmeaning] at h
      split at h
      · rename_i hprotected
        cases h
        simp only [Option.any_some, Bool.and_eq_true, Bool.not_eq_true'] at hprotected
        exact .writeProtected hspace htranslation hpresent hprotected.1 hprotected.2
      · rename_i hallowed
        cases h
        exact .reached hspace htranslation hpresent (by simpa using hallowed)

theorem touch?_of_translation {meaning : Translation}
    (hspace : vm.tables.contains pid = true)
    (hmeaning : vm.tables.translation? (.containing pid addr) = some meaning)
    (hpresent : meaning.present = true) (hallowed : write = true → meaning.writable = true) :
    vm.touch? pid addr write =
      some (.ok meaning.frame, { vm with tables := vm.tables.marked pid addr write }) := by
  obtain ⟨directory, hdirectory⟩ := Option.isSome_iff_exists.1 hspace
  have hentry : directory.translation? (pageNumber addr) = some meaning := by
    simpa [AddressSpaces.translation?, UserPage.containing, hdirectory] using hmeaning
  have hframe : directory.frame? addr = some meaning.frame := by
    rw [PageDirectory.frame?_eq, hentry, Option.filter_some, if_pos hpresent, Option.map_some]
  have hwritable : (write && !directory.isSet .writable addr) = false := by
    rw [PageDirectory.isSet_writable, hentry, Option.any_some]
    cases write with
    | true => rw [hallowed rfl, Bool.not_true, Bool.and_false]
    | false => rfl
  simp only [touch?, hdirectory, hframe, hwritable, Bool.false_eq_true, if_false]
  rfl

variable [BlockDriver δ] [Placement φ] [Replacement π]

/-- How an access to an address of user space ends. -/
inductive Access (pid : Pid) (addr : Nat) (write : Bool) : VirtualMemory δ φ π →
    Except MemoryError FrameNumber → VirtualMemory δ φ π → Prop where
  | touched {vm after : VirtualMemory δ φ π} {result : Except MemoryError FrameNumber} :
      Touched vm pid addr write result after → Access pid addr write vm result after
  | unresolved {vm after : VirtualMemory δ φ π} {error : MemoryError} :
      vm.touch? pid addr write = none →
      ResolveFault vm pid ⟨addr, write, none⟩ (.error error) after →
      Access pid addr write vm (.error error) after
  | resolved {vm mid after : VirtualMemory δ φ π} {result : Except MemoryError FrameNumber} :
      vm.touch? pid addr write = none → ResolveFault vm pid ⟨addr, write, none⟩ (.ok ()) mid →
      Access pid addr write mid result after → Access pid addr write vm result after

theorem accessWithin_cases {rounds : Nat}
    (h : vm.accessWithin pid addr write rounds = .ok (result, after)) :
    Access pid addr write vm result after := by
  induction rounds generalizing vm with
  | zero => cases h
  | succ rounds ih =>
      simp only [accessWithin] at h
      split at h
      · rename_i reply htouch
        cases h
        exact .touched (touch?_cases htouch)
      · rename_i htouch
        obtain ⟨⟨outcome, mid⟩, hresolve, h⟩ := bind_eq_ok.1 h
        have hresolved := resolveFault_cases hresolve
        cases outcome with
        | error error =>
            cases h
            exact .unresolved htouch hresolved
        | ok => exact .resolved htouch hresolved (ih h)

theorem access_cases (h : vm.access pid addr write = .ok (result, after)) :
    (inUserSpace addr = false ∧ result = .error .notUserAddress ∧ after = vm) ∨
      (inUserSpace addr = true ∧ Access pid addr write vm result after) := by
  simp only [access] at h
  split at h
  · rename_i huser
    exact .inr ⟨huser, accessWithin_cases h⟩
  · rename_i huser
    cases h
    exact .inl ⟨by simpa using huser, rfl, rfl⟩

/-- A page that was accessed is found as it is, from any of its addresses. -/
theorem Access.touch?_eq {addr' : Nat} {number : FrameNumber}
    {mid : VirtualMemory δ φ π} (h : Access pid addr write vm (.ok number) mid)
    (hpage : pageNumber addr' = pageNumber addr) (htables : after.tables = mid.tables) :
    after.touch? pid addr' write = some (.ok number, after) := by
  generalize hresult : Except.ok number = result at h
  induction h with
  | touched htouched =>
      cases htouched with
      | noAddressSpace => cases hresult
      | writeProtected => cases hresult
      | @reached meaning hspace hmeaning hpresent hallowed =>
          cases hresult
          have htables : after.tables = AddressSpaces.marked _ pid addr write := htables
          have hsame : UserPage.containing pid addr' = .containing pid addr := by
            rw [UserPage.containing, UserPage.containing, hpage]
          have hspace' : after.tables.contains pid = true := by
            rw [htables, AddressSpaces.contains_marked, hspace]
          have hmeaning' : after.tables.translation? (.containing pid addr') =
              some { meaning with dirty := meaning.dirty || write } := by
            rw [htables, hsame, AddressSpaces.translation?_marked, if_pos rfl, hmeaning,
              Option.map_some]
          rw [touch?_of_translation hspace' hmeaning' hpresent hallowed, htables,
            AddressSpaces.marked_marked _ _ _ hpage, ← htables]
  | unresolved => cases hresult
  | resolved _ _ _ ih => exact ih htables hresult

/-- Having been accessed once, a page is accessed at any of its addresses without further ado. -/
theorem access_again {addr' : Nat} {number : FrameNumber} {mid : VirtualMemory δ φ π}
    (h : vm.access pid addr write = .ok (.ok number, mid))
    (hpage : pageNumber addr' = pageNumber addr) (htables : after.tables = mid.tables) :
    after.access pid addr' write = .ok (.ok number, after) := by
  obtain ⟨-, hresult, -⟩ | ⟨huser, hcases⟩ := access_cases h
  · cases hresult
  · have huser' : inUserSpace addr' = true := by
      have hlt : addr < userLimit := of_decide_eq_true huser
      refine decide_eq_true ?_
      simp only [userLimit, pageNumber, pageSize] at *
      omega
    rw [access, if_pos huser', accessWithin, hcases.touch?_eq hpage htables]

/-- A chunk ends in the page where it begins. -/
theorem offsetInPage_add_chunkLength_le (addr length : Nat) :
    offsetInPage addr + chunkLength addr length ≤ pageSize := by
  have := offsetInPage_lt addr
  simp only [chunkLength]
  omega

/-- The machine with bytes of a frame overwritten. -/
def patchFrame (vm : VirtualMemory δ φ π) (number : FrameNumber) (frame : Frame) (start : Nat)
    (data : List UInt8) : VirtualMemory δ φ π :=
  let patched := { frame with contents := frame.contents.overwrite start data }
  { vm with pool := vm.pool.replace number patched }

/-- A copy to user memory, chunk by chunk, and how many bytes it moves. -/
inductive CopyIn (pid : Pid) : VirtualMemory δ φ π → Nat → List UInt8 →
    Except MemoryError Unit → Nat → VirtualMemory δ φ π → Prop where
  | done {vm : VirtualMemory δ φ π} {addr : Nat} : CopyIn pid vm addr [] (.ok ()) 0 vm
  | stopped {vm after : VirtualMemory δ φ π} {addr : Nat} {data : List UInt8}
      {error : MemoryError} : data ≠ [] → vm.access pid addr true = .ok (.error error, after) →
      CopyIn pid vm addr data (.error error) 0 after
  | chunk {vm mid after : VirtualMemory δ φ π} {addr count moved : Nat} {data : List UInt8}
      {number : FrameNumber} {frame : Frame} {result : Except MemoryError Unit} : data ≠ [] →
      vm.access pid addr true = .ok (.ok number, mid) → mid.pool.frame? number = some frame →
      count = chunkLength addr data.length →
      CopyIn pid (mid.patchFrame number frame (offsetInPage addr) (data.take count))
        (addr + count) (data.drop count) result moved after →
      CopyIn pid vm addr data result (count + moved) after

/-- A copy from user memory, chunk by chunk, and how many bytes it moves. -/
inductive CopyOut (pid : Pid) : VirtualMemory δ φ π → Nat → List UInt8 →
    Except MemoryError Unit → List UInt8 → Nat → VirtualMemory δ φ π → Prop where
  | done {vm : VirtualMemory δ φ π} {addr : Nat} : CopyOut pid vm addr [] (.ok ()) [] 0 vm
  | stopped {vm after : VirtualMemory δ φ π} {addr : Nat} {buffer : List UInt8}
      {error : MemoryError} : buffer ≠ [] →
      vm.access pid addr false = .ok (.error error, after) →
      CopyOut pid vm addr buffer (.error error) buffer 0 after
  | chunk {vm mid after : VirtualMemory δ φ π} {addr count moved : Nat}
      {buffer rest : List UInt8} {number : FrameNumber} {frame : Frame}
      {result : Except MemoryError Unit} : buffer ≠ [] →
      vm.access pid addr false = .ok (.ok number, mid) → mid.pool.frame? number = some frame →
      count = chunkLength addr buffer.length →
      CopyOut pid mid (addr + count) (buffer.drop count) result rest moved after →
      CopyOut pid vm addr buffer result
        (frame.contents.slice (offsetInPage addr) count ++ rest) (count + moved) after

theorem copyToUser_cases {data : List UInt8} {result : Except MemoryError Unit}
    (h : vm.copyToUser pid addr data = .ok (result, after)) :
    ∃ moved, CopyIn pid vm addr data result moved after := by
  induction hlength : data.length using Nat.strongRecOn generalizing vm addr data with
  | ind length ih =>
      cases data with
      | nil =>
          rw [copyToUser] at h
          cases h
          exact ⟨_, .done⟩
      | cons byte bytes =>
          have hlt := length_drop_chunkLength_lt addr byte bytes
          rw [copyToUser] at h
          obtain ⟨⟨outcome, mid⟩, haccess, h⟩ := bind_eq_ok.1 h
          cases outcome with
          | error error =>
              cases h
              exact ⟨_, .stopped (List.cons_ne_nil _ _) haccess⟩
          | ok number =>
              obtain ⟨pool, hwrite, h⟩ := bind_eq_ok.1 h
              obtain ⟨frame, hframe, -, rfl⟩ := FramePool.writeBytes_eq_ok hwrite
              obtain ⟨moved, hrest⟩ := ih _ (hlength ▸ hlt) h rfl
              exact ⟨_, .chunk (List.cons_ne_nil _ _) haccess hframe rfl hrest⟩

theorem copyFromUser_cases {buffer got : List UInt8} {result : Except MemoryError Unit}
    (h : vm.copyFromUser pid addr buffer = .ok (result, got, after)) :
    ∃ moved, CopyOut pid vm addr buffer result got moved after := by
  induction hlength : buffer.length using Nat.strongRecOn generalizing vm addr buffer got with
  | ind length ih =>
      cases buffer with
      | nil =>
          rw [copyFromUser] at h
          cases h
          exact ⟨_, .done⟩
      | cons byte bytes =>
          have hlt := length_drop_chunkLength_lt addr byte bytes
          rw [copyFromUser] at h
          obtain ⟨⟨outcome, mid⟩, haccess, h⟩ := bind_eq_ok.1 h
          cases outcome with
          | error error =>
              cases h
              exact ⟨_, .stopped (List.cons_ne_nil _ _) haccess⟩
          | ok number =>
              obtain ⟨frame, hframe, h⟩ := bind_eq_ok.1 h
              obtain ⟨⟨result, rest, final⟩, hrest, h⟩ := bind_eq_ok.1 h
              cases h
              obtain ⟨moved, hrest⟩ := ih _ (hlength ▸ hlt) hrest rfl
              exact ⟨_, .chunk (List.cons_ne_nil _ _) haccess (FramePool.frame_eq_ok.1 hframe) rfl
                hrest⟩

end VirtualMemory

end DemandPaging
