import DemandPaging.BootOptions.Parser

/-!
Numbers written in ASCII digits, leading zeros allowed.
-/
namespace DemandPaging.Decimal

def isDigit (c : Char) : Bool := '0' ≤ c && c ≤ '9'

def digit (c : Char) : Nat := c.toNat - '0'.toNat

/-- The number with one digit more at its end, if it still has 64 bits. -/
def push? (number : Nat) (c : Char) : Option Nat :=
  if 10 * number + digit c < 0x10000000000000000 then some (10 * number + digit c) else none

theorem push?_eq_some_iff {number next : Nat} {c : Char} : push? number c = some next ↔
    next = 10 * number + digit c ∧ next < 0x10000000000000000 := by
  rw [push?]
  split
  · rename_i hlt
    refine ⟨?_, fun h => congrArg some h.1.symm⟩
    rintro ⟨⟩
    exact ⟨rfl, hlt⟩
  · rename_i hlong
    refine ⟨nofun, ?_⟩
    rintro ⟨rfl, hlt⟩
    exact absurd hlt hlong

/-- All digits in front of the text, as a number of 64 bits. -/
def number : Parser Nat := (Parser.run isDigit).mapOption (·.foldlM push? 0)

end DemandPaging.Decimal
