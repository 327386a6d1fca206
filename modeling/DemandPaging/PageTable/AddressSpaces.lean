import DemandPaging.PageTable.Directory

/-!
The address spaces of all processes, each with its own page directory. An operation on one of
them leaves the others alone.
-/
namespace DemandPaging

structure AddressSpaces where
  directories : Std.ExtTreeMap Pid PageDirectory

namespace AddressSpaces

def empty : AddressSpaces := ⟨∅⟩

def directory? (spaces : AddressSpaces) (pid : Pid) : Option PageDirectory :=
  spaces.directories[pid]?

def contains (spaces : AddressSpaces) (pid : Pid) : Bool :=
  (spaces.directory? pid).isSome

/-- A new, empty address space for `pid`; `none` if it has one already. -/
def create? (spaces : AddressSpaces) (pid : Pid) : Option AddressSpaces :=
  if spaces.contains pid then none else some ⟨spaces.directories.insert pid .empty⟩

def destroy (spaces : AddressSpaces) (pid : Pid) : AddressSpaces :=
  ⟨spaces.directories.erase pid⟩

/-- Changes the directory of `pid` if it has one. -/
def update (spaces : AddressSpaces) (pid : Pid) (change : PageDirectory → PageDirectory) :
    AddressSpaces :=
  ⟨spaces.directories.modify pid change⟩

def isSet (spaces : AddressSpaces) (flag : EntryFlag) (pid : Pid) (addr : Nat) : Bool :=
  (spaces.directory? pid).any (·.isSet flag addr)

def setFlag (spaces : AddressSpaces) (flag : EntryFlag) (pid : Pid) (addr : Nat) (on : Bool) :
    AddressSpaces :=
  spaces.update pid (·.setFlag flag addr on)

def unmap (spaces : AddressSpaces) (pid : Pid) (addr : Nat) : AddressSpaces :=
  spaces.update pid (·.unmap addr)

inductive Mapped where
  | done (spaces : AddressSpaces)
  | alreadyPresent
  | noSpace

/-- Maps the page of `addr` in the address space of `pid`. -/
def map (spaces : AddressSpaces) (pid : Pid) (addr : Nat) (frame : FrameNumber)
    (writable : Bool) : Except Halt Mapped :=
  match spaces.directory? pid with
  | none => .ok .noSpace
  | some directory => do
    match ← directory.map? addr frame writable with
    | none => return .alreadyPresent
    | some mapped => return .done ⟨spaces.directories.insert pid mapped⟩

@[ext] theorem ext {a b : AddressSpaces} (h : ∀ pid, a.directory? pid = b.directory? pid) :
    a = b := by
  obtain ⟨a⟩ := a
  obtain ⟨b⟩ := b
  exact congrArg mk (Std.ExtTreeMap.ext_getElem? h)

theorem directory?_empty (pid : Pid) : empty.directory? pid = none := by
  simp [empty, directory?]

theorem directory?_destroy (spaces : AddressSpaces) (pid other : Pid) :
    (spaces.destroy pid).directory? other =
      if pid = other then none else spaces.directory? other := by
  simp [destroy, directory?, Std.ExtTreeMap.getElem?_erase]

theorem directory?_update (spaces : AddressSpaces) (pid other : Pid)
    (change : PageDirectory → PageDirectory) :
    (spaces.update pid change).directory? other =
      if pid = other then (spaces.directory? other).map change else spaces.directory? other := by
  by_cases h : pid = other <;> simp [update, directory?, Std.ExtTreeMap.getElem?_modify, h]

end AddressSpaces

end DemandPaging
