/-!
Addresses, pages and frames. User memory lies below `userLimit`, and every address belongs to the
page of `pageSize` bytes that holds it.
-/
namespace DemandPaging

def kib : Nat := 1024
def mib : Nat := kib * kib
def gib : Nat := kib * mib

/-- Bytes in a page, and in the frame that holds one. -/
def pageSize : Nat := 4096

/-- Addresses from here up belong to the kernel. -/
def userLimit : Nat := 0x80000000

/-- The user stack grows down from here. -/
def stackTop : Nat := userLimit

/-- The number of an address space. -/
abbrev Pid := Nat

/-- The index of a frame in the user pool. -/
structure FrameNumber where
  index : Nat
deriving DecidableEq, Repr

def pageNumber (addr : Nat) : Nat := addr / pageSize

/-- The distance of `addr` from the start of its page. -/
def offsetInPage (addr : Nat) : Nat := addr % pageSize

/-- The first address of the page that holds `addr`. -/
def pageStart (addr : Nat) : Nat := addr - offsetInPage addr

def inUserSpace (addr : Nat) : Bool := addr < userLimit

theorem pageSize_pos : 0 < pageSize := by decide

theorem offsetInPage_lt (addr : Nat) : offsetInPage addr < pageSize :=
  Nat.mod_lt _ pageSize_pos

theorem pageStart_eq (addr : Nat) : pageStart addr = pageNumber addr * pageSize := by
  simp only [pageStart, offsetInPage, pageNumber, pageSize]
  omega

@[simp] theorem pageNumber_mul_pageSize (page : Nat) : pageNumber (page * pageSize) = page :=
  Nat.mul_div_cancel page pageSize_pos

@[simp] theorem pageNumber_pageStart (addr : Nat) :
    pageNumber (pageStart addr) = pageNumber addr := by
  rw [pageStart_eq, pageNumber_mul_pageSize]

/-- A page is as well known by its first address as by its number. -/
theorem pageStart_inj {a b : Nat} : pageStart a = pageStart b ↔ pageNumber a = pageNumber b := by
  rw [pageStart_eq, pageStart_eq, Nat.mul_left_inj (Nat.ne_of_gt pageSize_pos)]

end DemandPaging
