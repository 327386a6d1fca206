import DemandPaging.Bytes

/-!
Blocks of bytes that are too long for a list: a packed array, which a copy overwrites in place.
What is said of such a block is said of the bytes that it stands for.
-/
namespace DemandPaging

structure PackedBytes (n : Nat) where
  array : ByteArray
  size_array : array.size = n

namespace PackedBytes

variable {n : Nat}

def zero (n : Nat) : PackedBytes n := ⟨⟨Array.replicate n 0⟩, Array.size_replicate⟩

/-- The bytes one by one. -/
def unpack (packed : PackedBytes n) : Bytes n := ⟨packed.array.data.toList, packed.size_array⟩

/-- The `count` bytes from `start` on, all of which have to be there. -/
def slice (packed : PackedBytes n) (start count : Nat) (h : start + count ≤ n) : Bytes count where
  toList := List.ofFn fun i : Fin count =>
    packed.array.get (start + i) (by have := packed.size_array; omega)
  length_toList := List.length_ofFn

/-- Copies `data` over the bytes from `start` on; what does not fit is dropped. -/
def overwrite (packed : PackedBytes n) (start : Nat) (data : List UInt8) : PackedBytes n where
  array := data.toByteArray.copySlice 0 packed.array start (min data.length (n - start))
  size_array := by
    have hsize := packed.size_array
    simp [ByteArray.copySlice_eq_append]
    omega

theorem unpack_zero (n : Nat) : (zero n).unpack = .zero n :=
  Bytes.ext (Array.toList_replicate)

theorem toList_slice (packed : PackedBytes n) {start count : Nat} (h : start + count ≤ n) :
    (packed.slice start count h).toList = packed.unpack.slice start count := by
  have hlength := packed.unpack.length_toList
  apply List.ext_getElem
  · rw [Bytes.length_toList, Bytes.slice, List.length_take, List.length_drop]
    omega
  · intro i hi hi'
    have hbyte : start + i < packed.unpack.toList.length := by
      rw [Bytes.length_toList] at hi ⊢
      omega
    have hslice : (packed.slice start count h).toList[i] = packed.unpack.toList[start + i] :=
      List.getElem_ofFn hi
    rw [hslice]
    simp only [Bytes.slice, List.getElem_take, List.getElem_drop]

theorem unpack_overwrite (packed : PackedBytes n) {start : Nat} {data : List UInt8}
    (h : start + data.length ≤ n) :
    (packed.overwrite start data).unpack = packed.unpack.overwrite start data := by
  have hcount : min data.length (n - start) = data.length := by omega
  have hbehind : (packed.array.data.toList.drop (start + data.length)).length ≤
      packed.array.size - (start + data.length) := by simp
  apply Bytes.ext
  rw [Bytes.toList_overwrite _ h]
  simp [overwrite, unpack, ByteArray.copySlice_eq_append, hcount, List.take_of_length_le hbehind]

end PackedBytes

end DemandPaging
