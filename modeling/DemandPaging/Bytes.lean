import DemandPaging.Address

/-!
Blocks of bytes with a fixed length. Reading a block gives a list, and overwriting a part of it
keeps its length.
-/
namespace DemandPaging

/-- Exactly `n` bytes. -/
structure Bytes (n : Nat) where
  toList : List UInt8
  length_toList : toList.length = n
deriving DecidableEq

namespace Bytes

@[ext] theorem ext {n : Nat} {a b : Bytes n} (h : a.toList = b.toList) : a = b := by
  obtain ⟨_, _⟩ := a
  obtain ⟨_, _⟩ := b
  simpa using h

attribute [simp] length_toList

def zero (n : Nat) : Bytes n := ⟨List.replicate n 0, List.length_replicate⟩

instance {n : Nat} : Inhabited (Bytes n) := ⟨zero n⟩

/-- The `count` bytes from `start` on, or fewer where the block ends. -/
def slice {n : Nat} (block : Bytes n) (start count : Nat) : List UInt8 :=
  (block.toList.drop start).take count

/-- Puts `data` over the bytes from `start` on; what does not fit is dropped. -/
def overwrite {n : Nat} (block : Bytes n) (start : Nat) (data : List UInt8) : Bytes n where
  toList := (block.toList.take start ++ data ++ block.toList.drop (start + data.length)).take n
  length_toList := by simp; omega

theorem toList_overwrite {n : Nat} (block : Bytes n) {start : Nat} {data : List UInt8}
    (h : start + data.length ≤ n) :
    (block.overwrite start data).toList =
      block.toList.take start ++ data ++ block.toList.drop (start + data.length) := by
  apply List.take_of_length_le
  simp
  omega

theorem slice_overwrite {n : Nat} (block : Bytes n) {start : Nat} {data : List UInt8}
    (h : start + data.length ≤ n) :
    (block.overwrite start data).slice start data.length = data := by
  have hs : (block.toList.take start).length = start := by simp; omega
  rw [slice, toList_overwrite block h, List.append_assoc, List.drop_left' hs,
    List.take_left' rfl]

/-- Bytes apart from those that `data` covers are left alone. -/
theorem slice_overwrite_apart {n : Nat} (block : Bytes n) {start other count : Nat}
    {data : List UInt8} (h : start + data.length ≤ n)
    (hapart : other + count ≤ start ∨ start + data.length ≤ other) :
    (block.overwrite start data).slice other count = block.slice other count := by
  have hs : (block.toList.take start).length = start := by simp; omega
  rw [slice, slice, toList_overwrite block h]
  obtain hbelow | habove := hapart
  · rw [List.append_assoc, List.drop_append_of_le_length (by omega),
      List.take_append_of_le_length (by simp; omega), List.drop_take, List.take_take,
      Nat.min_eq_left (by omega)]
  · have hcovered : (block.toList.take start ++ data).length = start + data.length := by
      rw [List.length_append, hs]
    rw [List.drop_append, hcovered, List.drop_of_length_le (by omega), List.nil_append,
      List.drop_drop, Nat.add_sub_of_le habove]

end Bytes

/-- The contents of one page. -/
abbrev Page := Bytes pageSize

end DemandPaging
