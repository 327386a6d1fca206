import DemandPaging.Replacement.Clock
import DemandPaging.Replacement.Fifo

/-!
The replacement policies by name, and one type for both.
-/
namespace DemandPaging

/-- The policies that a machine can be set up with. -/
inductive ReplacementName where
  | fifo
  | clock
deriving DecidableEq, Repr

def ReplacementName.label : ReplacementName → String
  | fifo => "Fifo"
  | clock => "Clock"

inductive StandardReplacement where
  | fifo (policy : Fifo)
  | clock (policy : Clock)
deriving DecidableEq, Repr

namespace StandardReplacement

def ofName : ReplacementName → StandardReplacement
  | .fifo => fifo ⟨⟩
  | .clock => clock .new

def choose (policy : StandardReplacement) (pool : FramePool) (tables : AddressSpaces) :
    Except Halt (Choice StandardReplacement) := do
  match policy with
  | fifo policy =>
    let choice ← Replacement.choose policy pool tables
    return { choice with policy := fifo choice.policy }
  | clock policy =>
    let choice ← Replacement.choose policy pool tables
    return { choice with policy := clock choice.policy }

instance : Replacement StandardReplacement := ⟨choose⟩

end StandardReplacement

end DemandPaging
