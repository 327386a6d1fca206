import DemandPaging.Proofs.Outcome
import DemandPaging.Proofs.PageTable
import DemandPaging.Replacement.Standard
import DemandPaging.Replacement.Trace

/-!
What the standard policies do to the page tables: they clear accessed bits and no more.
-/
namespace DemandPaging

/-- Tables that differ in accessed bits only. -/
structure AddressSpaces.Alike (spaces other : AddressSpaces) : Prop where
  contains : ∀ pid, other.contains pid = spaces.contains pid
  entry? : ∀ pid addr, (other.entry? pid addr).map (·.unaccessed) =
    (spaces.entry? pid addr).map (·.unaccessed)

namespace AddressSpaces.Alike

theorem refl (spaces : AddressSpaces) : spaces.Alike spaces := ⟨fun _ => rfl, fun _ _ => rfl⟩

theorem trans {first second third : AddressSpaces} (h : first.Alike second)
    (h' : second.Alike third) : first.Alike third where
  contains pid := (h'.contains pid).trans (h.contains pid)
  entry? pid addr := (h'.entry? pid addr).trans (h.entry? pid addr)

theorem setFlag_accessed (spaces : AddressSpaces) (pid : Pid) (addr : Nat) (on : Bool) :
    spaces.Alike (spaces.setFlag .accessed pid addr on) where
  contains other := contains_setFlag spaces .accessed pid other addr on
  entry? other addr' := by
    simp only [AddressSpaces.entry?, setFlag, directory?_update]
    split
    · cases spaces.directory? other with
      | none => rfl
      | some directory =>
          simp only [Option.map_some, Option.bind_some, PageDirectory.get?_setFlag]
          split
          · simp [Function.comp_def, PageTableEntry.unaccessed_withFlag_accessed]
          · rfl
    · rfl

/-- What a page is mapped to does not depend on accessed bits. -/
theorem translation? {spaces other : AddressSpaces} (h : spaces.Alike other) (key : UserPage) :
    other.translation? key = spaces.translation? key := by
  have hmeaning (tables : AddressSpaces) : tables.translation? key =
      ((tables.entry? key.owner key.base).map (·.unaccessed)).map (·.translation) := by
    rw [← UserPage.containing_base key, translation?_containing]
    simp [Function.comp_def, PageTableEntry.translation_unaccessed]
  rw [hmeaning, hmeaning, h.entry?]

end AddressSpaces.Alike

/-- A policy that leaves all but accessed bits alone. -/
class GentleReplacement (π : Type) [Replacement π] : Prop where
  alike : ∀ {policy : π} {pool : FramePool} {tables : AddressSpaces} {choice : Choice π},
    Replacement.choose policy pool tables = .ok choice → tables.Alike choice.tables

instance : GentleReplacement Fifo where
  alike h := by
    cases h
    exact .refl _

theorem Clock.sweep_alike (pool : FramePool) (clock : Clock) (tables : AddressSpaces)
    (steps : Nat) : tables.Alike (sweep pool clock tables steps).tables := by
  induction steps generalizing clock tables with
  | zero => exact .refl tables
  | succ steps ih =>
      simp only [sweep]
      split
      · exact ih _ tables
      · split
        · exact .refl tables
        · split
          · exact (AddressSpaces.Alike.setFlag_accessed tables _ _ false).trans (ih _ _)
          · exact .refl tables

instance : GentleReplacement Clock where
  alike {clock pool tables _} h := by
    cases h
    simp only [Clock.choose]
    split
    · exact .refl tables
    · exact Clock.sweep_alike pool clock tables _

/-- A standard policy does what the policy inside it does. -/
theorem StandardReplacement.choose_eq_ok {policy : StandardReplacement} {pool : FramePool}
    {tables : AddressSpaces} {choice : Choice StandardReplacement}
    (h : Replacement.choose policy pool tables = .ok choice) :
    (∃ inner, policy = .fifo inner ∧ choice = { victim := Fifo.victim? pool, policy, tables }) ∨
      ∃ clock, policy = .clock clock ∧ choice.victim = (clock.choose pool tables).victim ∧
        choice.tables = (clock.choose pool tables).tables := by
  cases policy with
  | fifo inner =>
      cases h
      exact .inl ⟨inner, rfl, rfl⟩
  | clock clock =>
      cases h
      exact .inr ⟨clock, rfl, rfl, rfl⟩

/-- The same policy with the hand of its clock, if it has one, at `hand`. -/
def StandardReplacement.withHand : StandardReplacement → Nat → StandardReplacement
  | fifo policy, _ => fifo policy
  | clock _, hand => clock ⟨hand⟩

theorem StandardReplacement.exists_eq_withHand (policy : StandardReplacement) :
    ∃ hand, policy = policy.withHand hand := by
  cases policy with
  | fifo inner => exact ⟨0, rfl⟩
  | clock clock => exact ⟨clock.hand, rfl⟩

theorem StandardReplacement.exists_hand_of_choose {policy : StandardReplacement} {pool : FramePool}
    {tables : AddressSpaces} {choice : Choice StandardReplacement}
    (h : Replacement.choose policy pool tables = .ok choice) :
    ∃ hand, choice.policy = policy.withHand hand := by
  cases policy with
  | fifo inner =>
      cases h
      exact ⟨0, rfl⟩
  | clock clock =>
      cases h
      exact ⟨_, rfl⟩

instance : GentleReplacement StandardReplacement where
  alike {_ pool tables _} h := by
    obtain ⟨-, -, rfl⟩ | ⟨clock, -, -, htables⟩ := StandardReplacement.choose_eq_ok h
    · exact .refl tables
    · have halike : tables.Alike (clock.choose pool tables).tables :=
        GentleReplacement.alike rfl
      rwa [htables]

instance {π : Type} [Replacement π] [GentleReplacement π] : GentleReplacement (Traced π) where
  alike {traced pool tables _} h := by
    rw [Traced.choose_eq] at h
    obtain ⟨inner, hinner, rfl⟩ := map_eq_ok.1 h
    have halike : tables.Alike inner.tables := GentleReplacement.alike hinner
    exact halike

end DemandPaging
