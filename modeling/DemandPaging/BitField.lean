/-!
Single bits of a word. Setting one leaves every other as it was.
-/
namespace DemandPaging.BitField

variable {w : Nat}

def bit (word : BitVec w) (i : Nat) : Bool := word.getLsbD i

def withBit (word : BitVec w) (i : Nat) (on : Bool) : BitVec w :=
  if on then word ||| BitVec.twoPow w i else word &&& ~~~BitVec.twoPow w i

theorem bit_withBit (word : BitVec w) (i j : Nat) (on : Bool) :
    bit (withBit word i on) j = if i = j then on && decide (i < w) else bit word j := by
  by_cases hj : j < w
  · by_cases h : i = j
    · subst h
      cases on <;> simp [bit, withBit, hj]
    · have h' : j ≠ i := Ne.symm h
      cases on <;> simp [bit, withBit, h, h', hj]
  · have hw : ∀ v : BitVec w, v.getLsbD j = false := fun v =>
      BitVec.getLsbD_of_ge v j (Nat.le_of_not_lt hj)
    by_cases h : i = j
    · subst h
      simp [bit, hw, hj]
    · simp [bit, hw, h]

end DemandPaging.BitField
