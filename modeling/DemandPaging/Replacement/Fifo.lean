import DemandPaging.Replacement.Basic

/-!
First in, first out: the frame that has been allocated longest goes, pinned ones excepted.
-/
namespace DemandPaging

structure Fifo where
deriving DecidableEq, Repr

namespace Fifo

def victim? (pool : FramePool) : Option FrameNumber :=
  pool.queue.find? fun number => (pool.frame? number).all (!·.status.pinned)

instance : Replacement Fifo where
  choose policy pool tables := .ok { victim := victim? pool, policy, tables }

end Fifo

end DemandPaging
