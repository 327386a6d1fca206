import DemandPaging.Replacement.Basic

/-!
The clock: a hand sweeps over the frames in index order. A frame whose page was accessed since
the hand last came by gets a second chance: its accessed bit is cleared and the hand goes on.
-/
namespace DemandPaging

structure Clock where
  /-- The index of the frame to be looked at next. -/
  hand : Nat
deriving DecidableEq, Repr

namespace Clock

def new : Clock := ⟨0⟩

/-- Looks at up to `steps` frames, from the hand on. -/
def sweep (pool : FramePool) (clock : Clock) (tables : AddressSpaces) :
    (steps : Nat) → Choice Clock
  | 0 => { victim := none, policy := clock, tables }
  | steps + 1 =>
    let number : FrameNumber := ⟨clock.hand % pool.size⟩
    let clock : Clock := ⟨(clock.hand + 1) % pool.size⟩
    match (pool.frame? number).filter Frame.evictable with
    | none => sweep pool clock tables steps
    | some frame =>
      match frame.owner with
      | none => { victim := some number, policy := clock, tables }
      | some key =>
        if tables.isSet .accessed key.owner key.base then
          sweep pool clock (tables.setFlag .accessed key.owner key.base false) steps
        else
          { victim := some number, policy := clock, tables }

/-- Two full rounds are enough: after the first one no accessed bit is left that could save a
frame. -/
def choose (clock : Clock) (pool : FramePool) (tables : AddressSpaces) : Choice Clock :=
  if pool.size = 0 then
    { victim := none, policy := clock, tables }
  else
    sweep pool clock tables (2 * pool.size)

instance : Replacement Clock where
  choose clock pool tables := .ok (choose clock pool tables)

end Clock

end DemandPaging
