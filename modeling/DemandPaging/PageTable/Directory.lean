import Std.Data.ExtTreeMap
import DemandPaging.Address
import DemandPaging.PageTable.Entry

/-!
The page directory of one address space: at most one entry for each page. Every operation takes
any address of the page it is about and leaves the entries of all other pages alone.
-/
namespace DemandPaging

structure PageDirectory where
  /-- The entries by page number. No two pages share a number, as no two share a first address
  (`pageStart_inj`), so either would do as the key. -/
  entries : Std.ExtTreeMap Nat PageTableEntry

namespace PageDirectory

def empty : PageDirectory := ⟨∅⟩

def get? (directory : PageDirectory) (addr : Nat) : Option PageTableEntry :=
  directory.entries[pageNumber addr]?

theorem get?_congr (directory : PageDirectory) {addr other : Nat}
    (h : pageStart addr = pageStart other) : directory.get? addr = directory.get? other := by
  rw [get?, get?, pageStart_inj.1 h]

/-- Whether the page has an entry with the flag set. -/
def isSet (directory : PageDirectory) (flag : EntryFlag) (addr : Nat) : Bool :=
  (directory.get? addr).any (·.flag flag)

/-- The frame that the page of `addr` is mapped to, if the mapping is present. -/
def frame? (directory : PageDirectory) (addr : Nat) : Option FrameNumber :=
  ((directory.get? addr).filter (·.flag .present)).map fun entry => ⟨entry.frame.toNat⟩

/-- Maps the page of `addr` to `frame`, or answers `none` where a mapping is present already.
An entry that is not present is replaced. Frame numbers are cut to 32 bits before they meet
their field. -/
def map? (directory : PageDirectory) (addr : Nat) (frame : FrameNumber) (writable : Bool) :
    Except Halt (Option PageDirectory) :=
  if directory.isSet .present addr then
    .ok none
  else do
    let field ← PageTableEntry.frameField (frame.index % 0x100000000)
    return some ⟨directory.entries.insert (pageNumber addr) (.mapping field writable)⟩

/-- Drops the entry of the page, present or not. -/
def unmap (directory : PageDirectory) (addr : Nat) : PageDirectory :=
  ⟨directory.entries.erase (pageNumber addr)⟩

/-- Sets or clears a flag of the page's entry, if it has one. -/
def setFlag (directory : PageDirectory) (flag : EntryFlag) (addr : Nat) (on : Bool) :
    PageDirectory :=
  ⟨directory.entries.modify (pageNumber addr) (·.withFlag flag on)⟩

def presentCount (directory : PageDirectory) : Nat :=
  directory.entries.values.countP (·.flag .present)

@[ext] theorem ext {a b : PageDirectory} (h : ∀ page : Nat, a.entries[page]? = b.entries[page]?) :
    a = b := by
  obtain ⟨a⟩ := a
  obtain ⟨b⟩ := b
  exact congrArg mk (Std.ExtTreeMap.ext_getElem? h)

theorem get?_empty (addr : Nat) : empty.get? addr = none := by
  simp [empty, get?]

theorem get?_unmap (directory : PageDirectory) (addr other : Nat) :
    (directory.unmap addr).get? other =
      if pageNumber addr = pageNumber other then none else directory.get? other := by
  simp [unmap, get?, Std.ExtTreeMap.getElem?_erase]

theorem get?_setFlag (directory : PageDirectory) (flag : EntryFlag) (addr other : Nat)
    (on : Bool) :
    (directory.setFlag flag addr on).get? other =
      if pageNumber addr = pageNumber other then (directory.get? other).map (·.withFlag flag on)
      else directory.get? other := by
  by_cases h : pageNumber addr = pageNumber other <;>
    simp [setFlag, get?, Std.ExtTreeMap.getElem?_modify, h]

end PageDirectory

end DemandPaging
