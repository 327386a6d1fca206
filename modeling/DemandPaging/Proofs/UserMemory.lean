import DemandPaging.VirtualMemory.UserCopy

/-!
User memory as processes see it: address spaces, the pages in them and the bytes of the pages. Where
a page is plays no part, so every operation has one outcome here.
-/
namespace DemandPaging

namespace Bytes

variable {n : Nat}

/-- Puts the bytes that `byte?` gives in the places of those there are. -/
def patch (block : Bytes n) (byte? : Nat → Option UInt8) : Bytes n where
  toList := block.toList.mapIdx fun i byte => (byte? i).getD byte
  length_toList := by simp

theorem getElem?_patch (block : Bytes n) (byte? : Nat → Option UInt8) (i : Nat) :
    (block.patch byte?).toList[i]? = block.toList[i]?.map fun byte => (byte? i).getD byte := by
  simp [patch]

theorem ext_getElem? {a b : Bytes n} (h : ∀ i : Nat, a.toList[i]? = b.toList[i]?) : a = b :=
  Bytes.ext (List.ext_getElem? h)

theorem patch_none (block : Bytes n) : block.patch (fun _ => none) = block := by
  apply ext_getElem?
  intro i
  simp [getElem?_patch]

theorem patch_patch (block : Bytes n) (first second : Nat → Option UInt8) :
    (block.patch first).patch second = block.patch fun i => (second i).or (first i) := by
  apply ext_getElem?
  intro i
  simp only [getElem?_patch, Option.map_map]
  congr 1
  funext byte
  cases second i <;> rfl

theorem overwrite_eq_patch (block : Bytes n) {start : Nat} {data : List UInt8}
    (h : start + data.length ≤ n) :
    block.overwrite start data =
      block.patch fun i => if start ≤ i then data[i - start]? else none := by
  apply ext_getElem?
  intro i
  have hlength := block.length_toList
  have htake : (block.toList.take start).length = start := by
    rw [List.length_take]
    omega
  rw [toList_overwrite block h, getElem?_patch, List.append_assoc]
  by_cases hbefore : i < start
  · rw [List.getElem?_append_left (by omega), List.getElem?_take_of_lt hbefore,
      if_neg (by omega)]
    simp
  · rw [List.getElem?_append_right (by omega), htake, if_pos (by omega)]
    by_cases hin : i - start < data.length
    · rw [List.getElem?_append_left hin, List.getElem?_eq_getElem hin,
        List.getElem?_eq_getElem (by omega : i < block.toList.length)]
      rfl
    · rw [List.getElem?_append_right (by omega), List.getElem?_drop,
        List.getElem?_eq_none (by omega : data.length ≤ i - start),
        show start + data.length + (i - start - data.length) = i by omega]
      simp

end Bytes

structure LogicalPage where
  kind : PageKind
  writable : Bool
  contents : Page
deriving DecidableEq

@[ext] structure UserMemory where
  contains : Pid → Bool
  page? : UserPage → Option LogicalPage
  /-- The size of the region below the stack top that stacks may grow in. -/
  stackLimit : Nat

namespace UserMemory

open VirtualMemory (chunkLength chunkLength_pos)

def empty (stackLimit : Nat) : UserMemory := ⟨fun _ => false, fun _ => none, stackLimit⟩

/-- Puts a page in the place of another, or takes it away. -/
def set (memory : UserMemory) (key : UserPage) (page? : Option LogicalPage) : UserMemory :=
  { memory with page? := fun other => if key = other then page? else memory.page? other }

def createSpace (memory : UserMemory) (pid : Pid) : Bool × UserMemory :=
  if memory.contains pid then
    (false, memory)
  else
    (true, { memory with contains := fun other => decide (pid = other) || memory.contains other })

def destroySpace (memory : UserMemory) (pid : Pid) : Except MemoryError Unit × UserMemory :=
  (if memory.contains pid then .ok () else .error .noAddressSpace,
    { memory with
      contains := fun other => !decide (pid = other) && memory.contains other
      page? := fun key => if key.owner = pid then none else memory.page? key })

def mapZero (memory : UserMemory) (pid : Pid) (addr : Nat) (kind : PageKind) (writable : Bool) :
    Except MemoryError Unit × UserMemory :=
  if !inUserSpace addr then
    (.error .notUserAddress, memory)
  else if !memory.contains pid then
    (.error .noAddressSpace, memory)
  else if (memory.page? (.containing pid addr)).isSome then
    (.error .alreadyMapped, memory)
  else
    (.ok (), memory.set (.containing pid addr) (some ⟨kind, writable, .zero pageSize⟩))

def unmap (memory : UserMemory) (pid : Pid) (addr : Nat) : Except MemoryError Unit × UserMemory :=
  if (memory.page? (.containing pid addr)).isSome then
    (.ok (), memory.set (.containing pid addr) none)
  else
    (.error .notMapped, memory)

def resolveFault (memory : UserMemory) (pid : Pid) (fault : FaultReport) :
    Except MemoryError Unit × UserMemory :=
  if !inUserSpace fault.addr then
    (.error .notUserAddress, memory)
  else
    match memory.page? (.containing pid fault.addr) with
    | none =>
      if fault.growsStack memory.stackLimit then
        memory.mapZero pid fault.addr .stack true
      else
        (.error .notMapped, memory)
    | some page =>
      if fault.write && !page.writable then (.error .writeProtected, memory) else (.ok (), memory)

/-- Whether the page of `addr` can be read or written. -/
def access (memory : UserMemory) (pid : Pid) (addr : Nat) (write : Bool) :
    Except MemoryError Unit :=
  if !inUserSpace addr then
    .error .notUserAddress
  else if !memory.contains pid then
    .error .noAddressSpace
  else
    match memory.page? (.containing pid addr) with
    | none => .error .notMapped
    | some page => if write && !page.writable then .error .writeProtected else .ok ()

/-- How a copy of `length` bytes ends, and how many of them it moves. -/
def reach (memory : UserMemory) (pid : Pid) (addr : Nat) (write : Bool) :
    (length : Nat) → Except MemoryError Unit × Nat
  | 0 => (.ok (), 0)
  | length + 1 =>
    match memory.access pid addr write with
    | .error error => (.error error, 0)
    | .ok () =>
      let count := chunkLength addr (length + 1)
      let (result, moved) := memory.reach pid (addr + count) write (length + 1 - count)
      (result, count + moved)
termination_by length => length
decreasing_by
  have hpos : 0 < chunkLength addr (length + 1) := chunkLength_pos addr (by omega)
  omega

/-- The bytes of a page after `data` is written from `addr` on. -/
def written (pid : Pid) (addr : Nat) (data : List UInt8) (key : UserPage) (contents : Page) :
    Page :=
  contents.patch fun i =>
    if key.owner = pid ∧ addr ≤ key.base + i then data[key.base + i - addr]? else none

/-- Writes `data` from `addr` on; bytes that no page holds are lost. -/
def write (memory : UserMemory) (pid : Pid) (addr : Nat) (data : List UInt8) : UserMemory :=
  { memory with
    page? := fun key => (memory.page? key).map fun page =>
      { page with contents := written pid addr data key page.contents } }

def byte? (memory : UserMemory) (pid : Pid) (addr : Nat) : Option UInt8 :=
  (memory.page? (.containing pid addr)).bind (·.contents.toList[offsetInPage addr]?)

variable {memory : UserMemory} {key : UserPage} {pid : Pid} {addr : Nat} {page : LogicalPage}

theorem set_self {page? : Option LogicalPage} (h : memory.page? key = page?) :
    memory.set key page? = memory := by
  ext1
  · rfl
  · funext other
    simp only [set]
    split
    · rename_i heq
      rw [← heq, h]
    · rfl
  · rfl

theorem mapZero_ne_alreadyMapped {kind : PageKind} {writable : Bool} {after : UserMemory}
    (hvacant : memory.page? (.containing pid addr) = none) :
    memory.mapZero pid addr kind writable ≠ (.error .alreadyMapped, after) := by
  simp only [mapZero, hvacant]
  split
  · simp
  · split <;> simp

/-- A fault that tells nothing of the stack pointer is resolved like an access. -/
theorem resolveFault_of_contains {write : Bool} (hspace : memory.contains pid = true) :
    memory.resolveFault pid ⟨addr, write, none⟩ = (memory.access pid addr write, memory) := by
  simp only [resolveFault, access, FaultReport.growsStack, hspace]
  split
  · rfl
  · split
    · simp
    · simp only [Bool.not_true, Bool.false_eq_true, if_false]
      split <;> rfl

theorem written_nil (pid : Pid) (addr : Nat) (key : UserPage) (contents : Page) :
    written pid addr [] key contents = contents := by
  simp only [written, List.getElem?_nil, ite_self]
  exact contents.patch_none

/-- A process writes to pages of its own. -/
theorem written_of_owner_ne (h : key.owner ≠ pid) (addr : Nat) (data : List UInt8)
    (contents : Page) : written pid addr data key contents = contents := by
  simp only [written, h, false_and, if_false]
  exact contents.patch_none

theorem written_append (pid : Pid) (addr : Nat) (first second : List UInt8) (key : UserPage)
    (contents : Page) :
    written pid addr (first ++ second) key contents =
      written pid (addr + first.length) second key (written pid addr first key contents) := by
  simp only [written, Bytes.patch_patch]
  congr 1
  funext i
  by_cases howner : key.owner = pid
  · by_cases hbefore : addr ≤ key.base + i
    · by_cases hfirst : key.base + i - addr < first.length
      · rw [if_pos ⟨howner, hbefore⟩, if_neg (by omega), if_pos ⟨howner, hbefore⟩,
          List.getElem?_append_left hfirst]
        rfl
      · rw [if_pos ⟨howner, hbefore⟩, if_pos ⟨howner, by omega⟩, if_pos ⟨howner, hbefore⟩,
          List.getElem?_append_right (by omega),
          List.getElem?_eq_none (by omega : first.length ≤ _),
          show key.base + i - addr - first.length = key.base + i - (addr + first.length) by omega]
        simp
    · rw [if_neg (by omega), if_neg (by omega), if_neg (by omega)]
      rfl
  · simp [howner]

theorem write_nil (memory : UserMemory) (pid : Pid) (addr : Nat) :
    memory.write pid addr [] = memory := by
  ext1
  · rfl
  · funext key
    simp [write, written_nil]
  · rfl

theorem write_append (memory : UserMemory) (pid : Pid) (addr : Nat) (first second : List UInt8) :
    memory.write pid addr (first ++ second) =
      (memory.write pid addr first).write pid (addr + first.length) second := by
  ext1
  · rfl
  · funext key
    simp [write, written_append, Function.comp_def]
  · rfl

/-- Writing changes no rights. -/
theorem access_write (memory : UserMemory) (pid other : Pid) (addr start : Nat)
    (data : List UInt8) (write : Bool) :
    (memory.write pid start data).access other addr write = memory.access other addr write := by
  simp only [access, UserMemory.write]
  cases memory.page? (.containing other addr) <;> rfl

theorem reach_succ (memory : UserMemory) (pid : Pid) (addr : Nat) (write : Bool) {length : Nat}
    (hlength : 0 < length) :
    memory.reach pid addr write length =
      match memory.access pid addr write with
      | .error error => (.error error, 0)
      | .ok () =>
        let count := chunkLength addr length
        let (result, moved) := memory.reach pid (addr + count) write (length - count)
        (result, count + moved) := by
  cases length with
  | zero => cases hlength
  | succ length => rw [reach]

theorem reach_write (memory : UserMemory) (pid : Pid) (addr start : Nat) (data : List UInt8)
    (write : Bool) (length : Nat) :
    (memory.write pid start data).reach pid addr write length =
      memory.reach pid addr write length := by
  induction length using Nat.strongRecOn generalizing addr with
  | ind length ih =>
      cases length with
      | zero => simp [reach]
      | succ length =>
          have hpos : 0 < chunkLength addr (length + 1) := chunkLength_pos addr (by omega)
          rw [reach, reach, access_write]
          simp only [ih (length + 1 - chunkLength addr (length + 1)) (by omega)]

theorem containing_add {i : Nat} (h : offsetInPage addr + i < pageSize) :
    UserPage.containing pid (addr + i) = .containing pid addr := by
  simp only [UserPage.containing, pageNumber, offsetInPage, pageSize] at *
  congr 1
  omega

theorem offsetInPage_add {i : Nat} (h : offsetInPage addr + i < pageSize) :
    offsetInPage (addr + i) = offsetInPage addr + i := by
  simp only [offsetInPage, pageSize] at *
  omega

theorem written_containing (contents : Page) {data : List UInt8}
    (hfits : offsetInPage addr + data.length ≤ pageSize) :
    written pid addr data (.containing pid addr) contents =
      contents.overwrite (offsetInPage addr) data := by
  have hbase : (UserPage.containing pid addr).base + offsetInPage addr = addr := by
    rw [UserPage.base_containing, pageStart]
    have := Nat.mod_le addr pageSize
    simp only [offsetInPage]
    omega
  rw [written, Bytes.overwrite_eq_patch _ hfits]
  congr 1
  funext i
  by_cases hle : offsetInPage addr ≤ i
  · rw [if_pos ⟨rfl, by omega⟩, if_pos hle]
    congr 1
    omega
  · rw [if_neg (by omega), if_neg hle]

/-- The bytes of another page all lie outside of what is written within one page. -/
theorem written_of_ne (hne : UserPage.containing pid addr ≠ key) (contents : Page)
    {data : List UInt8} (hfits : offsetInPage addr + data.length ≤ pageSize) :
    written pid addr data key contents = contents := by
  apply Bytes.ext_getElem?
  intro i
  rw [written, Bytes.getElem?_patch]
  by_cases hi : i < pageSize
  · have hnone : (if key.owner = pid ∧ addr ≤ key.base + i then
        data[key.base + i - addr]? else none) = none := by
      split
      · rename_i hin
        apply List.getElem?_eq_none
        have hnumber : pageNumber addr ≠ key.number := by
          intro hnumber
          apply hne
          rw [UserPage.containing, hnumber, ← hin.1]
        have hbase := hin.2
        simp only [UserPage.base, pageNumber, offsetInPage, pageSize] at *
        omega
      · rfl
    rw [hnone]
    cases contents.toList[i]? <;> rfl
  · have hnone : contents.toList[i]? = none := by
      apply List.getElem?_eq_none
      rw [Bytes.length_toList]
      omega
    rw [hnone]
    rfl

/-- A write within one page is an overwriting of that page. -/
theorem write_of_page? (hpage : memory.page? (.containing pid addr) = some page)
    {data : List UInt8} (hfits : offsetInPage addr + data.length ≤ pageSize) :
    memory.write pid addr data = memory.set (.containing pid addr)
      (some { page with contents := page.contents.overwrite (offsetInPage addr) data }) := by
  ext1
  · rfl
  · funext key
    simp only [write, set]
    by_cases heq : UserPage.containing pid addr = key
    · subst heq
      rw [if_pos rfl, hpage, Option.map_some, written_containing _ hfits]
    · rw [if_neg heq]
      cases memory.page? key with
      | none => rfl
      | some other => rw [Option.map_some, written_of_ne heq _ hfits]
  · rfl

/-- The bytes from `addr` to the end of its page lie in a row. -/
theorem byte?_add (hpage : memory.page? (.containing pid addr) = some page) {i : Nat}
    (hfits : offsetInPage addr + i < pageSize) :
    memory.byte? pid (addr + i) = page.contents.toList[offsetInPage addr + i]? := by
  rw [byte?, containing_add hfits, hpage, offsetInPage_add hfits]
  rfl

end UserMemory

end DemandPaging
