import Std.Data.ExtTreeSet
import DemandPaging.Address

/-!
The identity of a user page: an address space and a page in it. They are ordered by address space
first, so the pages of one process are neighbours.
-/
namespace DemandPaging

structure UserPage where
  owner : Pid
  number : Nat
deriving DecidableEq, Repr

namespace UserPage

/-- The page that holds `addr`. -/
def containing (owner : Pid) (addr : Nat) : UserPage := ⟨owner, pageNumber addr⟩

/-- The first address of the page. -/
def base (page : UserPage) : Nat := page.number * pageSize

instance : Ord UserPage := ⟨compareLex (compareOn owner) (compareOn number)⟩

instance : Std.TransOrd UserPage :=
  inferInstanceAs (Std.TransCmp (compareLex (compareOn owner) (compareOn number)))

instance : Std.LawfulEqOrd UserPage where
  eq_of_compare {a b} h := by
    obtain ⟨aOwner, aNumber⟩ := a
    obtain ⟨bOwner, bNumber⟩ := b
    have h : compareLex (compareOn owner) (compareOn number)
        ⟨aOwner, aNumber⟩ ⟨bOwner, bNumber⟩ = .eq := h
    rw [compareLex_eq_eq] at h
    simp only [compareOn, Nat.compare_eq_eq] at h
    rw [h.1, h.2]

@[simp] theorem pageNumber_base (page : UserPage) : pageNumber page.base = page.number :=
  pageNumber_mul_pageSize page.number

@[simp] theorem containing_base (page : UserPage) : containing page.owner page.base = page := by
  simp [containing]

theorem base_containing (owner : Pid) (addr : Nat) :
    (containing owner addr).base = pageStart addr :=
  (pageStart_eq addr).symm

/-- The distinct pages of a list, in ascending order. -/
def sorted (pages : List UserPage) : List UserPage :=
  (Std.ExtTreeSet.ofList pages).toList

end UserPage

end DemandPaging
