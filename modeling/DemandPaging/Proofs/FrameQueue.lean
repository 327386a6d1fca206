import DemandPaging.Proofs.Selection

/-!
The pages behind the frames of the queue. A page that gets a frame comes last, one that loses its
frame leaves the others in their order, and first in, first out names the frame at the front.
-/
namespace DemandPaging

namespace FramePool

variable {pool after : FramePool} {number other : FrameNumber} {frame : Frame} {key : UserPage}
  {rest : List FrameNumber}

/-- The pages that have a frame, in the order of the queue. -/
def owners (pool : FramePool) : List UserPage := pool.queue.filterMap pool.owner?

theorem owners_congr (hqueue : after.queue = pool.queue)
    (howner : ∀ number ∈ pool.queue, after.owner? number = pool.owner? number) :
    after.owners = pool.owners := by
  rw [owners, owners, hqueue]
  exact List.filterMap_congr howner

theorem owners_replace_contents (h : pool.frame? number = some frame) (contents : Page) :
    (pool.replace number { frame with contents }).owners = pool.owners :=
  owners_congr rfl fun other _ => owner?_replace_contents h contents other

namespace Sound

theorem mem_queue_iff (h : pool.Sound) :
    number ∈ pool.queue ↔ ∃ key, pool.owner? number = some key := by
  rw [h.queued]
  constructor
  · rintro ⟨frame, hframe, hallocated⟩
    exact (h.allocated_iff hframe).1 hallocated
  · rintro ⟨key, howner⟩
    obtain ⟨frame, hframe, -⟩ := Option.bind_eq_some_iff.1 howner
    exact ⟨frame, hframe, (h.allocated_iff hframe).2 ⟨key, howner⟩⟩

theorem mem_owners (h : pool.Sound) :
    key ∈ pool.owners ↔ ∃ number, pool.owner? number = some key := by
  rw [owners, List.mem_filterMap]
  refine exists_congr fun number => and_iff_right_of_imp fun howner => ?_
  exact h.mem_queue_iff.2 ⟨key, howner⟩

theorem not_mem_queue (h : pool.Sound) (hframe : pool.frame? number = some frame)
    (hfree : frame.status.allocated = false) : number ∉ pool.queue := by
  rw [h.mem_queue_iff, h.owner?_eq_none hframe hfree]
  simp

theorem owners_occupy (h : pool.Sound) (hframe : pool.frame? number = some frame)
    (hfree : frame.status.allocated = false) (owner : UserPage) (contents : Page) :
    (pool.occupy number frame owner contents).owners = pool.owners ++ [owner] := by
  have hnot := h.not_mem_queue hframe hfree
  have hqueue : (pool.occupy number frame owner contents).queue = pool.queue ++ [number] := rfl
  rw [owners, hqueue, List.filterMap_append]
  congr 1
  · refine List.filterMap_congr fun other hmem => ?_
    rw [owner?_occupy hframe, if_neg fun heq : number = other => hnot (heq ▸ hmem)]
  · simp [owner?_occupy hframe]

theorem owners_giveBack (h : pool.Sound) (hframe : pool.frame? number = some frame)
    (hfree : frame.status.allocated = false) (owner : UserPage) (contents : Page) :
    (pool.giveBack number frame owner contents).owners = pool.owners := by
  have hqueue : (pool.giveBack number frame owner contents).queue = pool.queue := by
    change (pool.queue ++ [number]).erase number = pool.queue
    rw [List.erase_append_right _ (h.not_mem_queue hframe hfree)]
    simp
  exact owners_congr hqueue fun other _ => h.owner?_giveBack hframe hfree owner contents other

/-- The frame that is released is in the queue no longer, and the others keep their owners. -/
theorem owners_release (h : pool.Sound) (hframe : pool.frame? number = some frame) :
    (pool.release number frame).owners = (pool.queue.erase number).filterMap pool.owner? := by
  refine List.filterMap_congr fun other hmem => ?_
  have hne := ((h.nodup.mem_erase_iff).1 hmem).1
  rw [owner?_release hframe, if_neg (Ne.symm hne)]

theorem owners_release_sublist (h : pool.Sound) (hframe : pool.frame? number = some frame) :
    (pool.release number frame).owners.Sublist pool.owners := by
  rw [h.owners_release hframe]
  exact List.erase_sublist.filterMap _

theorem owners_eq_cons (h : pool.Sound) (hqueue : pool.queue = number :: rest) :
    ∃ key, pool.owner? number = some key ∧ pool.owners = key :: rest.filterMap pool.owner? := by
  obtain ⟨key, howner⟩ := h.mem_queue_iff.1 (hqueue ▸ List.mem_cons_self : number ∈ pool.queue)
  exact ⟨key, howner, by rw [owners, hqueue, List.filterMap_cons_some howner]⟩

/-- The first of the queue is released. -/
theorem owners_eq_cons_release (h : pool.Sound) (hqueue : pool.queue = number :: rest)
    (hframe : pool.frame? number = some frame) :
    ∃ key, pool.owner? number = some key ∧
      pool.owners = key :: (pool.release number frame).owners := by
  obtain ⟨key, howner, howners⟩ := h.owners_eq_cons hqueue
  refine ⟨key, howner, ?_⟩
  rw [h.owners_release hframe, howners, hqueue, List.erase_cons_head]

end Sound

end FramePool

/-- Where no frame is pinned, the one that has been allocated longest goes. -/
theorem Fifo.victim?_eq_head? {pool : FramePool} (h : pool.Unpinned) :
    victim? pool = pool.queue.head? := by
  rw [victim?]
  cases pool.queue with
  | nil => rfl
  | cons number rest =>
      rw [List.find?_cons_of_pos, List.head?_cons]
      rw [Option.all_eq_true]
      intro frame hframe
      rw [h number frame hframe]
      rfl

end DemandPaging
