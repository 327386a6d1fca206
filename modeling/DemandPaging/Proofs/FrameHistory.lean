import DemandPaging.Proofs.Selection
import DemandPaging.Proofs.StoreCalls

/-!
What a pool tells of the calls that were made on it. A frame belongs to the page that it was last
allocated for, and the queue has the allocated frames in the order in which they were last put at
its back. So first in, first out takes the frame that has waited longest.
-/
namespace DemandPaging

/-- A call of the pool and the reply that it got. -/
abbrev PoolEvent := PoolCall × PoolReply

namespace PoolEvent

/-- The frame that goes to the back of the queue. -/
def queued? : PoolEvent → Option FrameNumber
  | (.alloc _, .allocated number?) => number?
  | (.moveToBack number, _) => some number
  | _ => none

/-- The page that a frame is given to. -/
def newOwner? (number : FrameNumber) : PoolEvent → Option UserPage
  | (.alloc owner, .allocated number?) => if number? = some number then some owner else none
  | _ => none

end PoolEvent

variable {trace : List PoolEvent} {event : PoolEvent} {number other : FrameNumber}

/-- When a frame was last put at the back of the queue, the first event being number 1; 0 if it
never was. -/
def lastQueued (trace : List PoolEvent) (number : FrameNumber) : Nat :=
  trace.length - trace.reverse.findIdx fun event => event.queued? = some number

/-- The page that a frame was last given to. -/
def lastOwner? (trace : List PoolEvent) (number : FrameNumber) : Option UserPage :=
  trace.reverse.findSome? (PoolEvent.newOwner? number)

theorem lastQueued_concat (trace : List PoolEvent) (event : PoolEvent) (number : FrameNumber) :
    lastQueued (trace ++ [event]) number =
      if event.queued? = some number then trace.length + 1 else lastQueued trace number := by
  rw [lastQueued, lastQueued, List.reverse_concat, List.findIdx_cons, List.length_append,
    List.length_singleton]
  split
  · simp [*]
  · simp [*]

theorem lastQueued_le (trace : List PoolEvent) (number : FrameNumber) :
    lastQueued trace number ≤ trace.length :=
  Nat.sub_le _ _

theorem lastOwner?_concat (trace : List PoolEvent) (event : PoolEvent) (number : FrameNumber) :
    lastOwner? (trace ++ [event]) number =
      (event.newOwner? number).or (lastOwner? trace number) := by
  rw [lastOwner?, lastOwner?, List.reverse_concat, List.findSome?_cons]
  cases event.newOwner? number <;> rfl

namespace FramePool

variable {pool after : FramePool} {frame old : Frame}

/-- A call on a pool and the algorithm that its frames are placed by. -/
def serve {φ : Type} [Placement φ] (state : FramePool × φ) (call : PoolCall) :
    Except Halt (PoolReply × FramePool × φ) :=
  state.1.perform state.2 call

/-- One call of the pool, read off its reply. -/
inductive Served (pool : FramePool) : PoolCall → PoolReply → FramePool → Prop where
  | denied {owner : UserPage} : Served pool (.alloc owner) (.allocated none) pool
  | granted {owner : UserPage} {number : FrameNumber} {frame : Frame} :
      pool.frame? number = some frame → frame.status.allocated = false →
      Served pool (.alloc owner) (.allocated (some number)) (pool.take number frame owner)
  | freed {number : FrameNumber} {frame : Frame} :
      pool.frame? number = some frame → frame.status.allocated = true →
      Served pool (.free number) .done (pool.release number frame)
  | pinned {number : FrameNumber} {frame : Frame} :
      pool.frame? number = some frame → frame.status.allocated = true →
      Served pool (.pin number) .done
        (pool.replace number { frame with status := frame.status.withPinned true })
  | unpinned {number : FrameNumber} {frame : Frame} : pool.frame? number = some frame →
      Served pool (.unpin number) .done
        (pool.replace number { frame with status := frame.status.withPinned false })
  | moved {number : FrameNumber} :
      Served pool (.moveToBack number) .done (pool.moveToBack number)
  | written {number : FrameNumber} {frame : Frame} {start : Nat} {data : List UInt8} :
      pool.frame? number = some frame →
      Served pool (.writeBytes number start data) .done
        (pool.replace number { frame with contents := frame.contents.overwrite start data })

theorem pin_eq_ok (h : pool.pin number = .ok after) :
    ∃ frame, pool.frame? number = some frame ∧ frame.status.allocated = true ∧
      after = pool.replace number { frame with status := frame.status.withPinned true } := by
  obtain ⟨frame, hframe, h⟩ := bind_eq_ok.1 h
  split at h
  · cases h
  · rename_i hallocated
    cases h
    exact ⟨frame, frame_eq_ok.1 hframe, by simpa using hallocated, rfl⟩

theorem serve_cases {φ : Type} [Placement φ] {placement placement' : φ} {call : PoolCall}
    {reply : PoolReply} (h : serve (pool, placement) call = .ok (reply, after, placement')) :
    Served pool call reply after := by
  cases call with
  | alloc owner =>
      obtain ⟨⟨number?, mid, placement'⟩, halloc, h⟩ := bind_eq_ok.1 h
      cases h
      obtain ⟨rfl, rfl, -⟩ | ⟨number, frame, rfl, -, hframe, hfree, rfl⟩ := alloc_eq_ok halloc
      · exact .denied
      · exact .granted hframe hfree
  | free number =>
      obtain ⟨mid, hfree, h⟩ := bind_eq_ok.1 h
      cases h
      obtain ⟨frame, hframe, hallocated, rfl⟩ := free_eq_ok hfree
      exact .freed hframe hallocated
  | pin number =>
      obtain ⟨mid, hpin, h⟩ := bind_eq_ok.1 h
      cases h
      obtain ⟨frame, hframe, hallocated, rfl⟩ := pin_eq_ok hpin
      exact .pinned hframe hallocated
  | unpin number =>
      obtain ⟨mid, hunpin, h⟩ := bind_eq_ok.1 h
      cases h
      obtain ⟨frame, hframe, rfl⟩ := unpin_eq_ok hunpin
      exact .unpinned hframe
  | moveToBack number =>
      cases h
      exact .moved
  | writeBytes number start data =>
      obtain ⟨mid, hwrite, h⟩ := bind_eq_ok.1 h
      cases h
      obtain ⟨frame, hframe, -, rfl⟩ := writeBytes_eq_ok hwrite
      exact .written hframe

/-- The pool is sound, and its owners and its queue are what the events have made of them. -/
structure Records (trace : List PoolEvent) (pool : FramePool) : Prop where
  sound : pool.Sound
  owner : ∀ {number frame}, pool.frame? number = some frame → frame.status.allocated = true →
    frame.owner = lastOwner? trace number
  ordered : pool.queue.Pairwise (lastQueued trace · < lastQueued trace ·)

namespace Records

theorem new {count : Nat} (h : FramePool.new count = .ok pool) : Records [] pool where
  sound := .new h
  owner hframe hallocated := by
    rw [frame?_new h hframe] at hallocated
    exact absurd hallocated (by decide)
  ordered := by
    obtain ⟨-, rfl⟩ := new_eq_ok h
    exact .nil

/-- The order of frames that an event does not move. -/
theorem pairwise_concat {numbers : List FrameNumber}
    (h : numbers.Pairwise (lastQueued trace · < lastQueued trace ·))
    (hstays : ∀ number ∈ numbers, event.queued? ≠ some number) :
    numbers.Pairwise (lastQueued (trace ++ [event]) · < lastQueued (trace ++ [event]) ·) := by
  refine h.imp_of_mem fun hfirst hsecond hlt => ?_
  rwa [lastQueued_concat, lastQueued_concat, if_neg (hstays _ hfirst), if_neg (hstays _ hsecond)]

/-- The frame that an event puts behind all others was queued last. -/
theorem pairwise_back {numbers : List FrameNumber}
    (h : numbers.Pairwise (lastQueued trace · < lastQueued trace ·))
    (hqueued : event.queued? = some number) (hnew : number ∉ numbers) :
    (numbers ++ [number]).Pairwise
      (lastQueued (trace ++ [event]) · < lastQueued (trace ++ [event]) ·) := by
  have hstays : ∀ other ∈ numbers, event.queued? ≠ some other := by
    intro other hmem heq
    cases hqueued.symm.trans heq
    exact hnew hmem
  refine List.pairwise_append.2 ⟨pairwise_concat h hstays, List.pairwise_singleton _ _, ?_⟩
  intro other hmem last hlast
  obtain rfl := List.mem_singleton.1 hlast
  rw [lastQueued_concat, lastQueued_concat, if_neg (hstays other hmem), if_pos hqueued]
  exact Nat.lt_succ_of_le (lastQueued_le trace other)

/-- An event that gives no frame away and moves none leaves a sound pool to be judged. -/
theorem quiet (h : Records trace pool) (hqueued : event.queued? = none)
    (hgiven : ∀ number, event.newOwner? number = none) (hsound : after.Sound)
    (howner : ∀ {number frame}, after.frame? number = some frame →
      frame.status.allocated = true → ∃ old, pool.frame? number = some old ∧
        old.status.allocated = true ∧ frame.owner = old.owner)
    (hqueue : after.queue.Sublist pool.queue) : Records (trace ++ [event]) after where
  sound := hsound
  owner {number frame} hframe hallocated := by
    obtain ⟨old, hold, hbefore, heq⟩ := howner hframe hallocated
    rw [heq, h.owner hold hbefore, lastOwner?_concat, hgiven, Option.none_or]
  ordered := by
    refine pairwise_concat (h.ordered.sublist hqueue) fun number _ => ?_
    rw [hqueued]
    exact nofun

/-- A frame is changed that stays with its page. -/
theorem replace (h : Records trace pool) (hqueued : event.queued? = none)
    (hgiven : ∀ number, event.newOwner? number = none) (hold : pool.frame? number = some old)
    (hallocated : frame.status.allocated = old.status.allocated)
    (hpinned : frame.status.pinned = true → old.status.allocated = true)
    (howner : frame.owner = old.owner) :
    Records (trace ++ [event]) (pool.replace number frame) := by
  refine h.quiet hqueued hgiven (h.sound.replace hold hallocated hpinned howner) ?_ (.refl _)
  intro other found hfound hstatus
  rw [frame?_replace_of_some hold] at hfound
  split at hfound
  · rename_i heq
    cases hfound
    exact ⟨old, heq ▸ hold, hallocated ▸ hstatus, howner⟩
  · exact ⟨found, hfound, hstatus, rfl⟩

theorem served {call : PoolCall} {reply : PoolReply} (h : Records trace pool)
    (hserved : Served pool call reply after) : Records (trace ++ [(call, reply)]) after := by
  cases hserved with
  | denied => exact h.quiet rfl (fun _ => rfl) h.sound (fun hframe hallocated =>
      ⟨_, hframe, hallocated, rfl⟩) (.refl _)
  | @granted owner number frame hframe hfree =>
      have hnew : number ∉ pool.queue := by
        intro hmem
        obtain ⟨found, hfound, hallocated⟩ := (h.sound.queued number).1 hmem
        cases hframe.symm.trans hfound
        rw [hfree] at hallocated
        cases hallocated
      refine ⟨h.sound.take hframe hfree owner, ?_, pairwise_back h.ordered rfl hnew⟩
      intro other found hfound hallocated
      rw [frame?_take hframe] at hfound
      rw [lastOwner?_concat, PoolEvent.newOwner?]
      split at hfound
      · rename_i heq
        cases hfound
        rw [heq, if_pos rfl, Option.some_or]
        rfl
      · rename_i hne
        rw [if_neg fun heq => hne (Option.some.inj heq), Option.none_or]
        exact h.owner hfound hallocated
  | freed hframe hallocated =>
      refine h.quiet rfl (fun _ => rfl) (h.sound.release hframe hallocated) ?_ List.erase_sublist
      intro other found hfound hstatus
      rw [frame?_release hframe] at hfound
      split at hfound
      · cases hfound
        simp at hstatus
      · exact ⟨found, hfound, hstatus, rfl⟩
  | pinned hframe hallocated =>
      exact h.replace rfl (fun _ => rfl) hframe (by simp) (fun _ => hallocated) rfl
  | unpinned hframe =>
      refine h.replace rfl (fun _ => rfl) hframe (by simp) ?_ rfl
      simp
  | @moved number =>
      refine ⟨h.sound.moveToBack number, fun {other found} hframe hallocated => ?_, ?_⟩
      · rw [frame?_moveToBack] at hframe
        rw [lastOwner?_concat]
        exact h.owner hframe hallocated
      · rw [moveToBack]
        split
        · exact pairwise_back (h.ordered.sublist List.erase_sublist) rfl
            fun hmem => (h.sound.nodup.mem_erase_iff.1 hmem).1 rfl
        · rename_i hnot
          refine pairwise_concat h.ordered fun other hmem heq => ?_
          cases heq
          exact hnot hmem
  | written hframe =>
      exact h.replace rfl (fun _ => rfl) hframe rfl (fun hpinned => h.sound.pinned hframe hpinned)
        rfl

theorem of_calls {φ : Type} [Placement φ] {placement placement' : φ} {past : List PoolEvent}
    (h : Calls serve (pool, placement) trace (after, placement')) (hpast : Records past pool) :
    Records (past ++ trace) after :=
  h.history (fun past state => Records past state.1)
    (fun hrecords hcall => hrecords.served (serve_cases hcall)) hpast

end Records

/-- Counting in a list is counting its positions. -/
theorem countP_eq_length_filter_range {α : Type} (p : α → Bool) (items : List α) :
    items.countP p =
      ((List.range items.length).filter fun index => items[index]?.any p).length := by
  induction items with
  | nil => rfl
  | cons first items ih =>
      rw [List.countP_cons, ih, List.length_cons, List.range_succ_eq_map, List.filter_cons,
        List.filter_map]
      cases hfirst : p first <;> simp [hfirst, Function.comp_def]

/-- The frames that are counted are the allocated ones of the core map. -/
theorem Sound.allocatedCount_eq_countP (h : pool.Sound) :
    pool.allocatedCount = pool.coreMap.countP (·.allocated) := by
  have hinjective : Function.Injective FrameNumber.index := by
    rintro ⟨first⟩ ⟨second⟩ rfl
    rfl
  have hperm : (pool.queue.map (·.index)).Perm
      ((List.range pool.coreMap.toList.length).filter fun index =>
        pool.coreMap.toList[index]?.any (·.allocated)) := by
    refine (List.perm_ext_iff_of_nodup (h.nodup.map hinjective)
      (List.nodup_range.filter _)).2 fun index => ?_
    have hstatus : (pool.coreMap.toList[index]?.any (·.allocated)) =
        (pool.frame? ⟨index⟩).any (·.status.allocated) := by
      simp [coreMap, frame?, Option.any_map]
    rw [List.mem_filter, hstatus, Option.any_eq_true, ← h.queued ⟨index⟩, List.mem_range]
    refine (List.mem_map_of_injective hinjective (a := ⟨index⟩)).trans
      (and_iff_right_of_imp fun hmem => ?_).symm
    simpa [coreMap, size] using h.index_lt_of_mem_queue hmem
  rw [h.count, ← Array.countP_toList, countP_eq_length_filter_range, ← hperm.length_eq,
    List.length_map]

/-- An allocation that gives a frame: it was free, it is the last of the queue now, and nothing
happens to the others. -/
structure Gives (pool after : FramePool) (owner : UserPage) (number : FrameNumber) : Prop where
  taken : ∃ frame, pool.frame? number = some frame ∧ frame.status.allocated = false ∧
    after.frame? number = some (.granted owner frame.contents)
  others : ∀ other, other ≠ number → after.frame? other = pool.frame? other
  queue : after.queue = pool.queue ++ [number]

/-- Allocations never halt, and have no frame to give only where every frame is allocated. -/
def Allocates {φ : Type} [Placement φ] (pool : FramePool) (placement : φ) : Prop :=
  ∀ owner, ∃ number? after placement',
    pool.alloc placement owner = .ok (number?, after, placement') ∧
      (number? = none ↔
        ∀ number frame, pool.frame? number = some frame → frame.status.allocated = true)

theorem Sound.allocates {φ : Type} [Placement φ] [CompletePlacement φ] [ValidPlacement φ]
    (h : pool.Sound) (placement : φ) : pool.Allocates placement := by
  intro owner
  by_cases hfull : pool.allocatedCount = pool.size
  · exact ⟨none, pool, placement, alloc_of_full hfull placement owner,
      iff_of_true rfl fun number frame => h.allocated_of_full hfull⟩
  · obtain ⟨number, frame, hframe, hfree, halloc⟩ := h.exists_alloc hfull placement owner
    refine ⟨_, _, _, halloc, iff_of_false nofun fun hall => ?_⟩
    rw [hall number frame hframe] at hfree
    cases hfree

/-- The frame that was queued before all others that may be evicted, if there is one. -/
structure Oldest (trace : List PoolEvent) (pool : FramePool) (victim? : Option FrameNumber) :
    Prop where
  none_iff : victim? = none ↔ ∀ number frame, pool.frame? number = some frame →
    frame.status.allocated = true → frame.status.pinned = true
  evictable : ∀ victim ∈ victim?, pool.isEvictable victim = true
  first : ∀ victim ∈ victim?, ∀ other, pool.isEvictable other = true → other ≠ victim →
    lastQueued trace victim < lastQueued trace other

theorem Records.oldest (h : Records trace pool) : Oldest trace pool (Fifo.victim? pool) := by
  refine ⟨⟨fun hnone number frame hframe hallocated => ?_, fun hall => ?_⟩, ?_, ?_⟩
  · have hmem := (h.sound.queued number).2 ⟨frame, hframe, hallocated⟩
    have hstays := List.find?_eq_none.1 hnone number hmem
    simpa [hframe] using hstays
  · refine List.find?_eq_none.2 fun number hmem => ?_
    obtain ⟨frame, hframe, hallocated⟩ := (h.sound.queued number).1 hmem
    simp [hframe, hall number frame hframe hallocated]
  · exact fun victim hvictim => Fifo.evictable_of_victim? h.sound.listed hvictim
  · intro victim hvictim other hother hne
    obtain ⟨frame, hframe, hstatus⟩ := isEvictable_iff.1 hother
    obtain ⟨hallocated, hunpinned⟩ := Bool.and_eq_true_iff.1 hstatus
    obtain ⟨-, ahead, behind, hqueue, hahead⟩ := List.find?_eq_some_iff_append.1 hvictim
    have hmem := (h.sound.queued other).2 ⟨frame, hframe, hallocated⟩
    have hordered := h.ordered
    rw [hqueue] at hmem hordered
    obtain hmem | hmem := List.mem_append.1 hmem
    · have hpinned := hahead other hmem
      rw [hframe, Option.all_some, hunpinned] at hpinned
      cases hpinned
    · obtain rfl | hmem := List.mem_cons.1 hmem
      · exact absurd rfl hne
      · exact (List.pairwise_cons.1 (List.pairwise_append.1 hordered).2.1).1 other hmem

/-- What the calls on a pool have made of its frames and of its queue. -/
structure FollowsHistory (trace : List PoolEvent) (pool : FramePool) : Prop where
  count : pool.allocatedCount = pool.coreMap.countP (·.allocated)
  free : pool.freeFrames + pool.allocatedCount = pool.size
  owned : ∀ {number frame}, pool.frame? number = some frame →
    frame.owner.isSome = frame.status.allocated
  owner : ∀ {number frame}, pool.frame? number = some frame → frame.status.allocated = true →
    frame.owner = lastOwner? trace number
  pinned : ∀ {number frame}, pool.frame? number = some frame →
    frame.status.pinned = true → frame.status.allocated = true
  queued : ∀ number, number ∈ pool.queue ↔
    ∃ frame, pool.frame? number = some frame ∧ frame.status.allocated = true
  nodup : pool.queue.Nodup
  ordered : pool.queue.Pairwise (lastQueued trace · < lastQueued trace ·)
  denies : ∀ {ψ : Type} [Placement ψ] {placement placement' : ψ} {owner : UserPage}
    {after : FramePool}, pool.alloc placement owner = .ok (none, after, placement') → after = pool
  gives : ∀ {ψ : Type} [Placement ψ] {placement placement' : ψ} {owner : UserPage}
    {number : FrameNumber} {after : FramePool},
    pool.alloc placement owner = .ok (some number, after, placement') →
      Gives pool after owner number
  firstFit : ∀ fit : FirstFit, pool.Allocates fit
  nextFit : ∀ fit : NextFit, pool.Allocates fit
  oldest : ∀ (policy : Fifo) (tables : AddressSpaces), ∃ choice,
    Replacement.choose policy pool tables = .ok choice ∧ Oldest trace pool choice.victim

theorem Records.followsHistory (h : Records trace pool) : FollowsHistory trace pool where
  count := h.sound.allocatedCount_eq_countP
  free := Nat.sub_add_cancel h.sound.allocatedCount_le_size
  owned := h.sound.owned
  owner := h.owner
  pinned := h.sound.pinned
  queued := h.sound.queued
  nodup := h.sound.nodup
  ordered := h.ordered
  denies halloc := by
    obtain ⟨-, rfl, -⟩ | ⟨_, _, hsome, -⟩ := alloc_eq_ok halloc
    · rfl
    · cases hsome
  gives halloc := by
    obtain ⟨hnone, -⟩ | ⟨number, frame, hsome, -, hframe, hfree, rfl⟩ := alloc_eq_ok halloc
    · cases hnone
    · cases hsome
      refine ⟨⟨frame, hframe, hfree, frame?_take_self hframe _⟩, fun other hne => ?_, rfl⟩
      exact (frame?_take hframe _ other).trans (if_neg hne.symm)
  firstFit := h.sound.allocates
  nextFit := h.sound.allocates
  oldest _ _ := ⟨_, rfl, h.oldest⟩

/-- Whatever algorithm places the frames, a pool follows the calls that were made on it. -/
theorem follows_history {φ : Type} [Placement φ] {placement placement' : φ} {count : Nat}
    (hnew : FramePool.new count = .ok pool)
    (hcalls : Calls serve (pool, placement) trace (after, placement')) :
    FollowsHistory trace after :=
  (Records.of_calls hcalls (.new hnew)).followsHistory

/-- Three frames are given out, two change places in the queue, and one goes to another page. -/
def errandsOfThree : List PoolCall :=
  [.alloc ⟨1, 0⟩, .alloc ⟨1, 1⟩, .alloc ⟨2, 0⟩, .unpin ⟨0⟩, .moveToBack ⟨0⟩, .free ⟨1⟩,
    .alloc ⟨3, 7⟩, .writeBytes ⟨1⟩ 4000 [1, 2], .unpin ⟨1⟩, .alloc ⟨3, 8⟩]

/-- The frame that was queued first is pinned, so the next one goes. -/
theorem follows_history_three_frames :
    ∃ pool trace after placement, FramePool.new 3 = .ok pool ∧
      trace.map (·.1) = errandsOfThree ∧
      Calls serve (pool, NextFit.new) trace (after, placement) ∧ FollowsHistory trace after ∧
      after.queue = [⟨2⟩, ⟨0⟩, ⟨1⟩] ∧ after.owner? ⟨1⟩ = some ⟨3, 7⟩ ∧
      Fifo.victim? after = some ⟨0⟩ := by
  have hok : (do
      let pool ← FramePool.new 3
      let (_, after, _) ← performAll serve (pool, NextFit.new) errandsOfThree
      return (after.queue, after.owner? ⟨1⟩, Fifo.victim? after)) =
        .ok ([⟨2⟩, ⟨0⟩, ⟨1⟩], some ⟨3, 7⟩, some ⟨0⟩) := by
    decide +kernel
  obtain ⟨pool, hnew, hok⟩ := bind_eq_ok.1 hok
  obtain ⟨⟨trace, after, placement⟩, htrace, hend⟩ := bind_eq_ok.1 hok
  obtain ⟨hcalls, hrun⟩ := Calls.of_performAll htrace
  have hend : after.queue = [⟨2⟩, ⟨0⟩, ⟨1⟩] ∧ after.owner? ⟨1⟩ = some ⟨3, 7⟩ ∧
      Fifo.victim? after = some ⟨0⟩ := by
    simpa [pure, Except.pure] using hend
  exact ⟨pool, trace, after, placement, hnew, hcalls, hrun, follows_history hnew hrun, hend⟩

end FramePool

end DemandPaging
