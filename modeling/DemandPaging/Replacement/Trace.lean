import DemandPaging.Replacement.Basic

/-!
A policy with a record of its calls: what it saw, what it chose and what it left behind.
-/
namespace DemandPaging

/-- What a policy can see of an allocated frame. -/
structure FrameView where
  number : FrameNumber
  pinned : Bool
  owner : Option UserPage
  /-- The page table entry of the owner. -/
  entry : Option PageTableEntry
deriving DecidableEq, Repr

/-- The allocated frames, oldest first. -/
def FramePool.view (pool : FramePool) (tables : AddressSpaces) : List FrameView :=
  pool.queue.map fun number =>
    let frame := (pool.frame? number).getD .blank
    { number
      pinned := frame.status.pinned
      owner := frame.owner
      entry := frame.owner.bind fun key =>
        (tables.directory? key.owner).bind (·.get? key.base) }

structure ChoiceRecord where
  seen : List FrameView
  pick : Option FrameNumber
  after : List FrameView
deriving DecidableEq, Repr

/-- A policy and the records of its calls, in order. -/
structure Traced (π : Type) where
  policy : π
  records : List ChoiceRecord

namespace Traced

variable {π : Type}

/-- A choice of the policy with its record behind the others. -/
def recorded (traced : Traced π) (pool : FramePool) (tables : AddressSpaces) (choice : Choice π) :
    Choice (Traced π) :=
  let record : ChoiceRecord :=
    { seen := pool.view tables, pick := choice.victim, after := pool.view choice.tables }
  { choice with policy := { policy := choice.policy, records := traced.records ++ [record] } }

instance [Replacement π] : Replacement (Traced π) where
  choose traced pool tables := do
    let choice ← Replacement.choose traced.policy pool tables
    return traced.recorded pool tables choice

/-- A choice without the records. -/
def unrecorded (choice : Choice (Traced π)) : Choice π :=
  { choice with policy := choice.policy.policy }

variable [Replacement π] (traced : Traced π) (pool : FramePool) (tables : AddressSpaces)

theorem choose_eq : Replacement.choose traced pool tables =
    (Replacement.choose traced.policy pool tables).map (traced.recorded pool tables) := by
  simp only [Replacement.choose]
  cases Replacement.choose traced.policy pool tables <;> rfl

/-- A record of the choices changes none of them: the policy chooses as it does without. -/
theorem unrecorded_choose : (Replacement.choose traced pool tables).map unrecorded =
    Replacement.choose traced.policy pool tables := by
  rw [choose_eq]
  cases Replacement.choose traced.policy pool tables <;> rfl

end Traced

end DemandPaging
