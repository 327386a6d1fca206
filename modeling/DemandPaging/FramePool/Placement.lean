import DemandPaging.FramePool.Status
import DemandPaging.Search

/-!
Placement of new pages: which free frame of the core map is taken next. First fit always takes
the lowest one; next fit goes on from where it last took one, round and round.
-/
namespace DemandPaging

/-- An algorithm that chooses a frame index, with the state it keeps between choices. -/
class Placement (φ : Type) where
  place : φ → CoreMap → Option Nat × φ

structure FirstFit where
deriving DecidableEq, Repr

def FirstFit.place? (coreMap : CoreMap) : Option Nat :=
  firstBelow? coreMap.isFree coreMap.size

instance : Placement FirstFit where
  place fit coreMap := (FirstFit.place? coreMap, fit)

structure NextFit where
  /-- Where the next search starts. -/
  position : Nat
deriving DecidableEq, Repr

namespace NextFit

def new : NextFit := ⟨0⟩

/-- The first free index in cyclic order from the position. -/
def place? (fit : NextFit) (coreMap : CoreMap) : Option Nat :=
  let index (distance : Nat) := (fit.position + distance) % coreMap.size
  (firstBelow? (fun distance => coreMap.isFree (index distance)) coreMap.size).map index

/-- A search that finds nothing leaves the position where it is. -/
def place (fit : NextFit) (coreMap : CoreMap) : Option Nat × NextFit :=
  match fit.place? coreMap with
  | none => (none, fit)
  | some found => (some found, ⟨(found + 1) % coreMap.size⟩)

instance : Placement NextFit := ⟨place⟩

end NextFit

/-- The algorithms that a machine can be set up with. -/
inductive PlacementName where
  | nextFit
  | firstFit
deriving DecidableEq, Repr

def PlacementName.label : PlacementName → String
  | nextFit => "NextFit"
  | firstFit => "FirstFit"

inductive StandardPlacement where
  | firstFit (fit : FirstFit)
  | nextFit (fit : NextFit)
deriving DecidableEq, Repr

namespace StandardPlacement

def ofName : PlacementName → StandardPlacement
  | .firstFit => firstFit ⟨⟩
  | .nextFit => nextFit .new

def place (placement : StandardPlacement) (coreMap : CoreMap) :
    Option Nat × StandardPlacement :=
  match placement with
  | firstFit fit =>
    let (found, fit) := Placement.place fit coreMap
    (found, firstFit fit)
  | nextFit fit =>
    let (found, fit) := Placement.place fit coreMap
    (found, nextFit fit)

instance : Placement StandardPlacement := ⟨place⟩

end StandardPlacement

end DemandPaging
