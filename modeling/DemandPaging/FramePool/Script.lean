import DemandPaging.FramePool.Placement

/-!
Placement by a script: the answers are given beforehand, whatever the core map looks like. Also
the sum of two algorithms.
-/
namespace DemandPaging

/-- The answers still to be given; after the last one there is no frame. -/
structure PlacementScript where
  picks : List (Option Nat)
deriving DecidableEq, Repr

namespace PlacementScript

def place : PlacementScript → Option Nat × PlacementScript
  | ⟨[]⟩ => (none, ⟨[]⟩)
  | ⟨pick :: picks⟩ => (pick, ⟨picks⟩)

instance : Placement PlacementScript := ⟨fun script _ => script.place⟩

end PlacementScript

instance {φ ψ : Type} [Placement φ] [Placement ψ] : Placement (φ ⊕ ψ) where
  place
    | .inl left, coreMap => (Placement.place left coreMap).map id .inl
    | .inr right, coreMap => (Placement.place right coreMap).map id .inr

end DemandPaging
