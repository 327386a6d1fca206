import DemandPaging.BitField
import DemandPaging.Halt

/-!
The 32-bit page table entry: five flags and a frame number of 20 bits. Setting one of them leaves
the others as they are, and the bits that belong to none of them are never touched.
-/
namespace DemandPaging

inductive EntryFlag where
  | present
  | writable
  /-- The page may be accessed in user mode. -/
  | user
  | accessed
  | dirty
deriving DecidableEq, Repr

def EntryFlag.position : EntryFlag → Nat
  | present => 0
  | writable => 1
  | user => 2
  | accessed => 5
  | dirty => 6

structure PageTableEntry where
  raw : BitVec 32
deriving DecidableEq, Repr

namespace PageTableEntry

def zero : PageTableEntry := ⟨0⟩

def flag (entry : PageTableEntry) (flag : EntryFlag) : Bool :=
  BitField.bit entry.raw flag.position

def withFlag (entry : PageTableEntry) (flag : EntryFlag) (on : Bool) : PageTableEntry :=
  ⟨BitField.withBit entry.raw flag.position on⟩

def frame (entry : PageTableEntry) : BitVec 20 := entry.raw.extractLsb' 12 20

def withFrame (entry : PageTableEntry) (frame : BitVec 20) : PageTableEntry :=
  ⟨frame ++ entry.raw.extractLsb' 0 12⟩

/-- A fresh entry for user code: present, neither accessed nor dirty. -/
def mapping (frame : BitVec 20) (writable : Bool) : PageTableEntry :=
  (((zero.withFlag .present true).withFlag .writable writable).withFlag .user true).withFrame frame

/-- A frame number as its field stores it. -/
def frameField (frame : Nat) : Except Halt (BitVec 20) :=
  if frame < 0x100000 then .ok (BitVec.ofNat 20 frame) else .error (.frameNumberTooWide frame)

theorem flag_withFlag (entry : PageTableEntry) (flag other : EntryFlag) (on : Bool) :
    (entry.withFlag flag on).flag other = if flag = other then on else entry.flag other := by
  simp only [PageTableEntry.flag, withFlag, BitField.bit_withBit]
  cases flag <;> cases other <;> simp [EntryFlag.position]

theorem getLsbD_withFrame (entry : PageTableEntry) (frame : BitVec 20) (i : Nat) :
    (entry.withFrame frame).raw.getLsbD i =
      if i < 12 then entry.raw.getLsbD i else frame.getLsbD (i - 12) := by
  have happend : (frame ++ entry.raw.extractLsb' 0 12).getLsbD i = _ := BitVec.getLsbD_append
  refine happend.trans ?_
  by_cases h : i < 12 <;> simp [h]

theorem flag_withFrame (entry : PageTableEntry) (frame : BitVec 20) (flag : EntryFlag) :
    (entry.withFrame frame).flag flag = entry.flag flag := by
  have hlow : flag.position < 12 := by cases flag <;> decide
  simp [PageTableEntry.flag, BitField.bit, getLsbD_withFrame, hlow]

theorem frame_withFrame (entry : PageTableEntry) (frame : BitVec 20) :
    (entry.withFrame frame).frame = frame := by
  ext i hi
  have hhigh : ¬ 12 + i < 12 := by omega
  simp [PageTableEntry.frame, getLsbD_withFrame, hhigh, BitVec.getLsbD_eq_getElem hi]

theorem frame_withFlag (entry : PageTableEntry) (flag : EntryFlag) (on : Bool) :
    (entry.withFlag flag on).frame = entry.frame := by
  have hlow : flag.position < 12 := by cases flag <;> decide
  ext i hi
  simp only [frame, withFlag, BitVec.getElem_extractLsb']
  have hbit := BitField.bit_withBit entry.raw flag.position (12 + i) on
  simp only [BitField.bit] at hbit
  rw [hbit, if_neg (by omega)]

end PageTableEntry

end DemandPaging
