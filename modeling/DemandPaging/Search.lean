/-!
The least number with a property, below a bound.
-/
namespace DemandPaging

/-- The least of the `count` numbers from `start` on that satisfies `p`. -/
def firstFrom? (p : Nat → Bool) (start : Nat) : (count : Nat) → Option Nat
  | 0 => none
  | count + 1 => if p start then some start else firstFrom? p (start + 1) count

/-- The least number below `bound` that satisfies `p`. -/
def firstBelow? (p : Nat → Bool) (bound : Nat) : Option Nat := firstFrom? p 0 bound

theorem firstFrom?_eq_some_iff {p : Nat → Bool} {start count i : Nat} :
    firstFrom? p start count = some i ↔
      start ≤ i ∧ i < start + count ∧ p i = true ∧ ∀ j, start ≤ j → j < i → p j = false := by
  induction count generalizing start with
  | zero => simp [firstFrom?]; omega
  | succ count ih =>
    by_cases h : p start = true
    · simp only [firstFrom?, h, if_true, Option.some.injEq]
      constructor
      · rintro rfl
        exact ⟨Nat.le_refl _, by omega, h, fun j _ _ => by omega⟩
      · rintro ⟨hi, _, _, hj⟩
        by_cases hlt : start < i
        · simp [hj start (Nat.le_refl _) hlt] at h
        · omega
    · simp only [firstFrom?, h, if_false, ih, Bool.false_eq_true]
      constructor
      · rintro ⟨hi, hb, hp, hj⟩
        refine ⟨by omega, by omega, hp, fun j hs hlt => ?_⟩
        by_cases heq : j = start
        · simpa [heq] using h
        · exact hj j (by omega) hlt
      · rintro ⟨hi, hb, hp, hj⟩
        have hne : i ≠ start := fun heq => h (heq ▸ hp)
        exact ⟨by omega, by omega, hp, fun j hs hlt => hj j (by omega) hlt⟩

theorem firstBelow?_eq_some_iff {p : Nat → Bool} {bound i : Nat} :
    firstBelow? p bound = some i ↔ i < bound ∧ p i = true ∧ ∀ j < i, p j = false := by
  simp [firstBelow?, firstFrom?_eq_some_iff]

theorem firstFrom?_eq_none_iff {p : Nat → Bool} {start count : Nat} :
    firstFrom? p start count = none ↔ ∀ j, start ≤ j → j < start + count → p j = false := by
  induction count generalizing start with
  | zero => simp [firstFrom?]; omega
  | succ count ih =>
    by_cases h : p start = true
    · simp only [firstFrom?, h, if_true, reduceCtorEq, false_iff]
      intro hall
      simp [hall start (Nat.le_refl _) (by omega)] at h
    · simp only [firstFrom?, h, if_false, ih, Bool.false_eq_true]
      constructor
      · intro hall j hs hlt
        by_cases heq : j = start
        · simpa [heq] using h
        · exact hall j (by omega) (by omega)
      · intro hall j hs hlt
        exact hall j (by omega) (by omega)

theorem firstBelow?_eq_none_iff {p : Nat → Bool} {bound : Nat} :
    firstBelow? p bound = none ↔ ∀ j < bound, p j = false := by
  simp [firstBelow?, firstFrom?_eq_none_iff]

end DemandPaging
