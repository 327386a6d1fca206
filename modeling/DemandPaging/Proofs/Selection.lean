import DemandPaging.Proofs.FramePool
import DemandPaging.Proofs.Replacement

/-!
Finding a frame. A standard placement finds a free frame where there is one, and no other. A
standard policy always answers, its victim may be evicted, and it finds one where every frame is.
-/
namespace DemandPaging

/-- Going round from anywhere, every index comes up within one round. -/
theorem exists_add_mod_eq (start : Nat) {index size : Nat} (h : index < size) :
    ∃ distance < size, (start + distance) % size = index := by
  refine ⟨(index + (size - start % size)) % size, Nat.mod_lt _ (by omega), ?_⟩
  have hlt : start % size < size := Nat.mod_lt _ (by omega)
  have hround : start + (index + (size - start % size)) = index + size * (start / size + 1) := by
    have hdiv := Nat.div_add_mod start size
    rw [Nat.mul_add, Nat.mul_one]
    omega
  rw [Nat.add_mod_mod, hround, Nat.add_mul_mod_self_left, Nat.mod_eq_of_lt h]

/-- A placement that finds a free frame where there is one. -/
class CompletePlacement (φ : Type) [Placement φ] : Prop where
  place_eq_some : ∀ (placement : φ) {coreMap : CoreMap} {index : Nat},
    coreMap.isFree index = true → ∃ found, (Placement.place placement coreMap).1 = some found

theorem CoreMap.lt_size_of_isFree {coreMap : CoreMap} {index : Nat}
    (h : coreMap.isFree index = true) : index < coreMap.size := by
  by_contra hnot
  rw [isFree, Array.getElem?_eq_none (by omega)] at h
  cases h

instance : CompletePlacement FirstFit where
  place_eq_some _ coreMap index hfree := by
    rw [← Option.ne_none_iff_exists']
    intro hnone
    have hall := firstBelow?_eq_none_iff.1 hnone index (CoreMap.lt_size_of_isFree hfree)
    rw [hfree] at hall
    cases hall

instance : CompletePlacement NextFit where
  place_eq_some fit coreMap index hfree := by
    have hfound : fit.place? coreMap ≠ none := by
      intro hnone
      obtain ⟨distance, hlt, hmod⟩ :=
        exists_add_mod_eq fit.position (CoreMap.lt_size_of_isFree hfree)
      have hall : coreMap.isFree ((fit.position + distance) % coreMap.size) = false :=
        firstBelow?_eq_none_iff.1 (Option.map_eq_none_iff.1 hnone) distance hlt
      rw [hmod, hfree] at hall
      cases hall
    obtain ⟨found, hfound⟩ := Option.ne_none_iff_exists'.1 hfound
    exact ⟨found, by simp only [Placement.place, NextFit.place, hfound]⟩

instance : CompletePlacement StandardPlacement where
  place_eq_some placement _ _ hfree := by
    cases placement with
    | firstFit fit => exact CompletePlacement.place_eq_some fit hfree
    | nextFit fit => exact CompletePlacement.place_eq_some fit hfree

/-- A placement that chooses free frames only. -/
class ValidPlacement (φ : Type) [Placement φ] : Prop where
  isFree : ∀ {placement : φ} {coreMap : CoreMap} {index : Nat},
    (Placement.place placement coreMap).1 = some index → coreMap.isFree index = true

instance : ValidPlacement FirstFit where
  isFree hfound := (firstBelow?_eq_some_iff.1 hfound).2.1

instance : ValidPlacement NextFit where
  isFree {fit coreMap index} hfound := by
    simp only [Placement.place, NextFit.place] at hfound
    split at hfound
    · cases hfound
    · rename_i found hplace
      cases hfound
      obtain ⟨distance, hdistance, rfl⟩ := Option.map_eq_some_iff.1 hplace
      exact (firstBelow?_eq_some_iff.1 hdistance).2.1

instance : ValidPlacement StandardPlacement where
  isFree {placement _ _} hfound := by
    cases placement with
    | firstFit fit =>
        have hinner : (Placement.place fit _).1 = some _ := hfound
        exact ValidPlacement.isFree hinner
    | nextFit fit =>
        have hinner : (Placement.place fit _).1 = some _ := hfound
        exact ValidPlacement.isFree hinner

namespace FramePool

variable {pool after : FramePool} {number : FrameNumber} {frame : Frame}

theorem isFree_coreMap (pool : FramePool) (number : FrameNumber) :
    pool.coreMap.isFree number.index = (pool.frame? number).any (!·.status.allocated) := by
  simp [CoreMap.isFree, coreMap, frame?, Option.any_map]

namespace Sound

/-- The allocated frames are as many as the queue is long, so in a pool that is not full one is
missing. -/
theorem exists_free (h : pool.Sound) (hcount : pool.allocatedCount ≠ pool.size) :
    ∃ number frame, pool.frame? number = some frame ∧ frame.status.allocated = false := by
  by_contra hnone
  have hqueued : List.range pool.size ⊆ pool.queue.map (·.index) := by
    intro index hindex
    have hlt : index < pool.frames.size := List.mem_range.1 hindex
    refine List.mem_map.2 ⟨⟨index⟩, (h.queued ⟨index⟩).2 ?_, rfl⟩
    refine ⟨pool.frames[index], Array.getElem?_eq_getElem hlt, ?_⟩
    by_contra hfree
    exact hnone ⟨⟨index⟩, _, Array.getElem?_eq_getElem hlt, by simpa using hfree⟩
  have hle := (List.nodup_range.subperm hqueued).length_le
  rw [List.length_range, List.length_map, ← h.count] at hle
  exact hcount (Nat.le_antisymm h.allocatedCount_le_size hle)

theorem allocated_of_full (h : pool.Sound) (hfull : pool.allocatedCount = pool.size)
    (hframe : pool.frame? number = some frame) : frame.status.allocated = true := by
  by_contra hfree
  -- One more frame than the pool has would fit into the queue.
  have hnot : number ∉ pool.queue := by
    intro hmem
    obtain ⟨found, hfound, hallocated⟩ := (h.queued number).1 hmem
    cases hframe.symm.trans hfound
    exact hfree hallocated
  have hle : (number :: pool.queue).length ≤ pool.size := by
    refine length_le_of_nodup (List.nodup_cons.2 ⟨hnot, h.nodup⟩) ?_
    intro other hmem
    obtain rfl | hmem := List.mem_cons.1 hmem
    · exact index_lt_size hframe
    · exact h.index_lt_of_mem_queue hmem
  rw [List.length_cons, ← h.count, hfull] at hle
  omega

/-- A pool that is not full gives a free frame, and the algorithm has moved on. -/
theorem exists_alloc {φ : Type} [Placement φ] [CompletePlacement φ] [ValidPlacement φ]
    (h : pool.Sound) (hcount : pool.allocatedCount ≠ pool.size) (placement : φ)
    (owner : UserPage) :
    ∃ number frame, pool.frame? number = some frame ∧ frame.status.allocated = false ∧
      pool.alloc placement owner = .ok (some number, pool.take number frame owner,
        (Placement.place placement pool.coreMap).2) := by
  obtain ⟨number, frame, hframe, hfree⟩ := h.exists_free hcount
  have hisFree : pool.coreMap.isFree number.index = true := by
    rw [isFree_coreMap, hframe, Option.any_some, hfree]
    rfl
  obtain ⟨index, hindex⟩ := CompletePlacement.place_eq_some placement hisFree
  have hfound := ValidPlacement.isFree hindex
  rw [isFree_coreMap pool ⟨index⟩, Option.any_eq_true] at hfound
  obtain ⟨found, hsome, hunused⟩ := hfound
  have hunused : found.status.allocated = false := by simpa using hunused
  refine ⟨⟨index⟩, found, hsome, hunused, ?_⟩
  have hplace : Placement.place placement pool.coreMap =
      (some index, (Placement.place placement pool.coreMap).2) := Prod.ext hindex rfl
  rw [alloc, if_neg hcount, hplace]
  simp only [frame_eq_ok.2 hsome, bind, Except.bind, hunused]
  rfl

/-- Only a full pool has no frame to give. -/
theorem full_of_alloc {φ : Type} [Placement φ] [CompletePlacement φ] [ValidPlacement φ]
    (h : pool.Sound) {placement placement' : φ} {owner : UserPage}
    (halloc : pool.alloc placement owner = .ok (none, after, placement')) :
    pool.allocatedCount = pool.size := by
  by_contra hcount
  obtain ⟨number, frame, -, -, hfound⟩ := h.exists_alloc hcount placement owner
  rw [hfound] at halloc
  cases halloc

end Sound

/-- A full pool does not ask the algorithm. -/
theorem alloc_of_full {φ : Type} [Placement φ] (hfull : pool.allocatedCount = pool.size)
    (placement : φ) (owner : UserPage) :
    pool.alloc placement owner = .ok (none, pool, placement) := by
  rw [alloc, if_pos hfull]

/-- Whether there is a frame of that number and it may be evicted. -/
def isEvictable (pool : FramePool) (number : FrameNumber) : Bool :=
  (pool.frame? number).any Frame.evictable

theorem isEvictable_iff : pool.isEvictable number = true ↔
    ∃ frame, pool.frame? number = some frame ∧ frame.evictable = true :=
  Option.any_eq_true _ _

/-- A frame that may be evicted has an owner. -/
theorem Listed.exists_owner (h : pool.Listed) (hevictable : pool.isEvictable number = true) :
    ∃ frame key, pool.frame? number = some frame ∧ frame.owner = some key := by
  obtain ⟨frame, hframe, hstatus⟩ := isEvictable_iff.1 hevictable
  obtain ⟨hallocated, -⟩ := Bool.and_eq_true_iff.1 hstatus
  obtain ⟨key, howner⟩ := Option.isSome_iff_exists.1 ((h.owned hframe).trans hallocated)
  exact ⟨frame, key, hframe, howner⟩

/-- No frame is left that could not be evicted. -/
def Evictable (pool : FramePool) : Prop :=
  ∀ number frame, pool.frame? number = some frame → frame.evictable = true

theorem Sound.evictable_of_full (h : pool.Sound) (hunpinned : pool.Unpinned)
    (hfull : pool.allocatedCount = pool.size) : pool.Evictable := by
  intro number frame hframe
  simp [Frame.evictable, h.allocated_of_full hfull hframe, hunpinned number frame hframe]

end FramePool

/-- A policy that always answers, and names no victim that must stay. -/
class ValidReplacement (π : Type) [Replacement π] : Prop where
  exists_choice : ∀ (policy : π) {pool : FramePool} (tables : AddressSpaces), pool.Sound →
    ∃ choice, Replacement.choose policy pool tables = .ok choice ∧
      ∀ victim ∈ choice.victim, ∃ frame, pool.frame? victim = some frame ∧ frame.evictable = true

/-- A policy that finds a victim where every frame is one. -/
class DecisiveReplacement (π : Type) [Replacement π] : Prop where
  victim_eq_some : ∀ {policy : π} {pool : FramePool} {tables : AddressSpaces} {choice : Choice π},
    pool.Sound → 0 < pool.size → pool.Evictable →
    Replacement.choose policy pool tables = .ok choice → ∃ victim, choice.victim = some victim

namespace Fifo

variable {pool : FramePool} {number victim : FrameNumber} {distance : Nat}

theorem evictable_of_victim? (hlisted : pool.Listed) (h : victim? pool = some victim) :
    pool.isEvictable victim = true := by
  obtain ⟨frame, hframe, hallocated⟩ := (hlisted.queued victim).1 (List.mem_of_find?_eq_some h)
  have hunpinned := List.find?_some h
  rw [hframe, Option.all_some] at hunpinned
  refine FramePool.isEvictable_iff.2 ⟨frame, hframe, ?_⟩
  simpa [Frame.evictable, hallocated] using hunpinned

/-- A frame that may be evicted stands in the queue behind `distance` others. -/
structure Due (pool : FramePool) (number : FrameNumber) (distance : Nat) : Prop where
  evictable : pool.isEvictable number = true
  queued : ∃ ahead behind, pool.queue = ahead ++ number :: behind ∧ ahead.length = distance

theorem exists_due (hlisted : pool.Listed) (h : pool.isEvictable number = true) :
    ∃ distance ≤ pool.size, Due pool number distance := by
  obtain ⟨frame, hframe, hevictable⟩ := FramePool.isEvictable_iff.1 h
  have hallocated : frame.status.allocated = true := (Bool.and_eq_true_iff.1 hevictable).1
  obtain ⟨ahead, behind, hqueue⟩ :=
    List.append_of_mem ((hlisted.queued number).2 ⟨frame, hframe, hallocated⟩)
  have hle := hlisted.length_queue_le
  rw [hqueue, List.length_append] at hle
  exact ⟨ahead.length, by omega, h, ahead, behind, hqueue, rfl⟩

/-- The oldest frame that is not pinned is the one that is due or stands ahead of it. -/
theorem victim?_due (h : Due pool number distance) :
    ∃ victim, victim? pool = some victim ∧
      (victim = number ∨ ∃ less < distance, Due (pool.moveToBack victim) number less) := by
  obtain ⟨hevictable, ahead, behind, hqueue, rfl⟩ := h
  obtain ⟨frame, hframe, hstatus⟩ := FramePool.isEvictable_iff.1 hevictable
  have hfits : (pool.frame? number).all (!·.status.pinned) = true := by
    rw [hframe]
    exact (Bool.and_eq_true_iff.1 hstatus).2
  rw [victim?, hqueue, List.find?_append, List.find?_cons, hfits]
  cases hahead : ahead.find? fun number => (pool.frame? number).all (!·.status.pinned) with
  | none => exact ⟨number, rfl, .inl rfl⟩
  | some victim =>
      have hmem := List.mem_of_find?_eq_some hahead
      have hpos := List.length_pos_of_mem hmem
      refine ⟨victim, rfl, .inr ⟨(ahead.erase victim).length, ?_, ?_, ?_⟩⟩
      · rw [List.length_erase_of_mem hmem]
        omega
      · rw [FramePool.isEvictable, FramePool.frame?_moveToBack]
        exact hevictable
      · have hback : victim ∈ pool.queue := by
          rw [hqueue]
          exact List.mem_append_left _ hmem
        refine ⟨ahead.erase victim, behind ++ [victim], ?_, rfl⟩
        rw [FramePool.moveToBack, if_pos hback, hqueue, List.erase_append_left _ hmem,
          List.append_assoc, List.cons_append]

end Fifo

namespace Clock

variable {pool : FramePool} {clock : Clock} {tables tables' : AddressSpaces}
  {number other victim : FrameNumber} {steps distance : Nat}

/-- The frame at the hand. -/
def here (clock : Clock) (pool : FramePool) : FrameNumber := ⟨clock.hand % pool.size⟩

/-- The clock with its hand on the next frame. -/
def advance (clock : Clock) (pool : FramePool) : Clock := ⟨(clock.hand + 1) % pool.size⟩

/-- Whether the accessed bit of its page saves a frame. -/
def spares (pool : FramePool) (tables : AddressSpaces) (index : Nat) : Bool :=
  (pool.owner? ⟨index⟩).any fun key => tables.isSet .accessed key.owner key.base

/-- The tables once the hand has passed a frame that was spared. -/
def spare (pool : FramePool) (tables : AddressSpaces) (number : FrameNumber) : AddressSpaces :=
  (pool.owner? number).elim tables fun key =>
    tables.setFlag .accessed key.owner key.base false

/-- One step passes over a frame that must stay, spares one that was accessed, or takes the
frame. -/
theorem sweep_succ (pool : FramePool) (clock : Clock) (tables : AddressSpaces) (steps : Nat) :
    sweep pool clock tables (steps + 1) =
      if pool.isEvictable (clock.here pool) then
        if spares pool tables (clock.here pool).index then
          sweep pool (clock.advance pool) (spare pool tables (clock.here pool)) steps
        else
          { victim := some (clock.here pool), policy := clock.advance pool, tables }
      else
        sweep pool (clock.advance pool) tables steps := by
  simp only [sweep, FramePool.isEvictable, spares, spare, FramePool.owner?, here, advance]
  obtain hnone | ⟨frame, hframe⟩ :=
    Option.eq_none_or_eq_some (pool.frame? ⟨clock.hand % pool.size⟩)
  · simp [hnone]
  · by_cases hevictable : frame.evictable = true
    · cases howner : frame.owner <;> simp [hframe, Option.filter_some, hevictable, howner]
    · simp [hframe, Option.filter_some, hevictable]

theorem entry?_spare (pool : FramePool) (tables : AddressSpaces) (number : FrameNumber)
    (pid : Pid) (addr : Nat) :
    AddressSpaces.entry? (spare pool tables number) pid addr =
      if pool.owner? number = some (.containing pid addr) then
        (tables.entry? pid addr).map (·.unaccessed)
      else tables.entry? pid addr := by
  rw [spare]
  cases pool.owner? number with
  | none => rfl
  | some key =>
      simp only [Option.elim_some, AddressSpaces.entry?_setFlag, UserPage.containing_base,
        Option.some.injEq]
      rfl

/-- A frame that was spared is not spared again, and the others no more than before. -/
theorem of_spares_spare (h : spares pool (spare pool tables number) other.index = true) :
    number ≠ other ∧ spares pool tables other.index = true := by
  obtain ⟨key, hkey, hset⟩ := (Option.any_eq_true _ _).1 h
  rw [AddressSpaces.isSet_eq, entry?_spare, UserPage.containing_base] at hset
  split at hset
  · rw [PageTableEntry.any_unaccessed] at hset
    cases hset
  · rename_i hne
    rw [← AddressSpaces.isSet_eq] at hset
    refine ⟨?_, (Option.any_eq_true _ _).2 ⟨key, hkey, hset⟩⟩
    rintro rfl
    exact hne hkey

/-- The clock passes over frames that must stay. -/
theorem sweep_evictable (h : (sweep pool clock tables steps).victim = some victim) :
    pool.isEvictable victim = true := by
  induction steps generalizing clock tables with
  | zero => cases h
  | succ steps ih =>
      rw [sweep_succ] at h
      split at h
      · rename_i hevictable
        split at h
        · exact ih h
        · cases h
          exact hevictable
      · exact ih h

theorem choose_evictable (h : (clock.choose pool tables).victim = some victim) :
    pool.isEvictable victim = true := by
  rw [choose] at h
  split at h
  · cases h
  · exact sweep_evictable h

/-- The hand comes to a frame that may be evicted in `distance` steps, and will not spare it
then. -/
structure Due (pool : FramePool) (clock : Clock) (tables : AddressSpaces) (number : FrameNumber)
    (distance : Nat) : Prop where
  evictable : pool.isEvictable number = true
  arrives : (clock.hand + distance) % pool.size = number.index
  /-- A frame that is still spared comes up once before. -/
  round : spares pool tables number.index = true → pool.size ≤ distance

theorem Due.index_lt (h : Due pool clock tables number distance) :
    number.index < pool.size := by
  obtain ⟨frame, hframe, -⟩ := FramePool.isEvictable_iff.1 h.evictable
  exact FramePool.index_lt_size hframe

theorem exists_due (clock : Clock) (tables : AddressSpaces)
    (h : pool.isEvictable number = true) :
    ∃ distance < 2 * pool.size, Due pool clock tables number distance := by
  obtain ⟨frame, hframe, -⟩ := FramePool.isEvictable_iff.1 h
  obtain ⟨distance, hlt, hmod⟩ := exists_add_mod_eq clock.hand (FramePool.index_lt_size hframe)
  by_cases hspared : spares pool tables number.index = true
  · refine ⟨distance + pool.size, by omega, h, ?_, fun _ => by omega⟩
    rw [← Nat.add_assoc, Nat.add_mod_right, hmod]
  · exact ⟨distance, by omega, h, hmod, fun hset => absurd hset hspared⟩

/-- Behind another frame the hand is one step nearer. -/
theorem Due.advance (h : Due pool clock tables number (distance + 1))
    (hspares : spares pool tables' number.index = true →
      clock.here pool ≠ number ∧ spares pool tables number.index = true) :
    Due pool (clock.advance pool) tables' number distance where
  evictable := h.evictable
  arrives := by
    rw [← h.arrives, Clock.advance, Nat.mod_add_mod, Nat.add_assoc, Nat.add_comm 1 distance]
  round hset := by
    obtain ⟨hne, hbefore⟩ := hspares hset
    have hround := h.round hbefore
    -- One full round ahead of the frame the hand stands on it.
    have hdistance : pool.size ≠ distance + 1 := by
      intro heq
      apply hne
      have harrives := h.arrives
      rw [← heq, Nat.add_mod_right] at harrives
      rw [here, harrives]
    omega

/-- A frame that is due is the victim, or another one is and the frame is due earlier. -/
theorem sweep_due (h : Due pool clock tables number distance) (hlt : distance < steps) :
    ∃ victim, (sweep pool clock tables steps).victim = some victim ∧
      (victim = number ∨ ∃ less < distance, Due pool (sweep pool clock tables steps).policy
        (sweep pool clock tables steps).tables number less) := by
  induction steps generalizing clock tables distance with
  | zero => cases hlt
  | succ steps ih =>
      rw [sweep_succ]
      cases distance with
      | zero =>
          have hhere : clock.here pool = number := by
            rw [here, ← Nat.add_zero clock.hand, h.arrives]
          have hbare : ¬ spares pool tables number.index = true := by
            intro hset
            have hround := h.round hset
            have hlt := h.index_lt
            omega
          rw [hhere, if_pos h.evictable, if_neg hbare]
          exact ⟨number, rfl, .inl rfl⟩
      | succ distance =>
          have hsooner {policy : Clock} {after : AddressSpaces}
              (hdue : Due pool policy after number distance) :
              ∃ victim, (sweep pool policy after steps).victim = some victim ∧
                (victim = number ∨ ∃ less < distance + 1,
                  Due pool (sweep pool policy after steps).policy
                    (sweep pool policy after steps).tables number less) := by
            obtain ⟨victim, hvictim, hend⟩ := ih hdue (Nat.lt_of_succ_lt_succ hlt)
            refine ⟨victim, hvictim, hend.imp_right ?_⟩
            rintro ⟨less, hless, hlater⟩
            exact ⟨less, by omega, hlater⟩
          split
          · split
            · exact hsooner (h.advance of_spares_spare)
            · by_cases hhere : clock.here pool = number
              · exact ⟨_, rfl, .inl hhere⟩
              · exact ⟨_, rfl, .inr ⟨distance, Nat.lt_succ_self _,
                  h.advance fun hset => ⟨hhere, hset⟩⟩⟩
          · rename_i hstays
            have hhere : clock.here pool ≠ number := by
              rintro rfl
              exact hstays h.evictable
            exact hsooner (h.advance fun hset => ⟨hhere, hset⟩)

/-- The queue is nothing to the clock. -/
theorem Due.moveToBack (h : Due pool clock tables number distance) (other : FrameNumber) :
    Due (pool.moveToBack other) clock tables number distance := by
  refine ⟨?_, ?_, ?_⟩
  · rw [FramePool.isEvictable, FramePool.frame?_moveToBack]
    exact h.evictable
  · rw [FramePool.size_moveToBack]
    exact h.arrives
  · rw [spares, FramePool.owner?_moveToBack, FramePool.size_moveToBack]
    exact h.round

theorem choose_eq_sweep (h : 0 < pool.size) :
    clock.choose pool tables = sweep pool clock tables (2 * pool.size) :=
  if_neg (Nat.ne_of_gt h)

/-- Where a frame may be evicted the clock finds one. -/
theorem choose_victim (clock : Clock) (tables : AddressSpaces)
    (h : pool.isEvictable number = true) :
    ∃ victim, (clock.choose pool tables).victim = some victim := by
  obtain ⟨distance, hlt, hdue⟩ := exists_due clock tables h
  obtain ⟨victim, hvictim, -⟩ := sweep_due hdue hlt
  rw [choose_eq_sweep (Nat.zero_lt_of_lt hdue.index_lt)]
  exact ⟨victim, hvictim⟩

end Clock

instance : ValidReplacement Fifo where
  exists_choice _ _ _ hsound := by
    refine ⟨_, rfl, fun _ hvictim => ?_⟩
    exact FramePool.isEvictable_iff.1 (Fifo.evictable_of_victim? hsound.listed hvictim)

instance : ValidReplacement Clock where
  exists_choice _ _ _ _ := by
    refine ⟨_, rfl, fun _ hvictim => ?_⟩
    exact FramePool.isEvictable_iff.1 (Clock.choose_evictable hvictim)

instance : ValidReplacement StandardReplacement where
  exists_choice policy _ tables hsound := by
    cases policy with
    | fifo inner =>
        obtain ⟨choice, hchoice, hvictims⟩ := ValidReplacement.exists_choice inner tables hsound
        cases hchoice
        exact ⟨_, rfl, hvictims⟩
    | clock inner =>
        obtain ⟨choice, hchoice, hvictims⟩ := ValidReplacement.exists_choice inner tables hsound
        cases hchoice
        exact ⟨_, rfl, hvictims⟩

instance {π : Type} [Replacement π] [ValidReplacement π] : ValidReplacement (Traced π) where
  exists_choice traced _ tables hsound := by
    obtain ⟨choice, hchoice, hvictims⟩ :=
      ValidReplacement.exists_choice traced.policy tables hsound
    exact ⟨_, by rw [Traced.choose_eq, hchoice]; rfl, hvictims⟩

/-- A policy that comes to every frame that may be evicted, where the frames that it names before
go to the back of the queue. -/
class PersistentReplacement (π : Type) [Replacement π] where
  /-- The policy names the frame after at most so many others. -/
  Due : π → FramePool → AddressSpaces → FrameNumber → Nat → Prop
  exists_due : ∀ (policy : π) {pool : FramePool} (tables : AddressSpaces) {number : FrameNumber},
    pool.Listed → pool.isEvictable number = true →
      ∃ distance ≤ 2 * pool.size, Due policy pool tables number distance
  choose_due : ∀ {policy : π} {pool : FramePool} {tables : AddressSpaces} {number : FrameNumber}
    {distance : Nat}, pool.Listed → Due policy pool tables number distance →
      ∃ choice victim, Replacement.choose policy pool tables = .ok choice ∧
        choice.victim = some victim ∧ pool.isEvictable victim = true ∧
        (victim = number ∨ ∃ less < distance,
          Due choice.policy (pool.moveToBack victim) choice.tables number less)

instance : PersistentReplacement Fifo where
  Due _ pool _ number distance := Fifo.Due pool number distance
  exists_due _ pool _ number hlisted hevictable := by
    obtain ⟨distance, hle, hdue⟩ := Fifo.exists_due hlisted hevictable
    exact ⟨distance, by omega, hdue⟩
  choose_due hlisted hdue := by
    obtain ⟨victim, hvictim, hend⟩ := Fifo.victim?_due hdue
    exact ⟨_, victim, rfl, hvictim, Fifo.evictable_of_victim? hlisted hvictim, hend⟩

instance : PersistentReplacement Clock where
  Due clock pool tables number distance :=
    distance < 2 * pool.size ∧ Clock.Due pool clock tables number distance
  exists_due clock _ tables _ _ hevictable := by
    obtain ⟨distance, hlt, hdue⟩ := Clock.exists_due clock tables hevictable
    exact ⟨distance, Nat.le_of_lt hlt, hlt, hdue⟩
  choose_due {clock pool tables number distance} _ := by
    rintro ⟨hlt, hdue⟩
    obtain ⟨victim, hvictim, hend⟩ := Clock.sweep_due hdue hlt
    rw [← Clock.choose_eq_sweep (Nat.zero_lt_of_lt hdue.index_lt)] at hvictim hend
    refine ⟨_, victim, rfl, hvictim, Clock.choose_evictable hvictim, hend.imp_right ?_⟩
    rintro ⟨less, hless, hlater⟩
    refine ⟨less, hless, ?_, hlater.moveToBack victim⟩
    rw [FramePool.size_moveToBack]
    omega

instance : PersistentReplacement StandardReplacement where
  Due
    | .fifo inner => PersistentReplacement.Due inner
    | .clock inner => PersistentReplacement.Due inner
  exists_due policy _ tables _ hlisted hevictable := by
    cases policy with
    | fifo inner => exact PersistentReplacement.exists_due inner tables hlisted hevictable
    | clock inner => exact PersistentReplacement.exists_due inner tables hlisted hevictable
  choose_due {policy _ _ _ _} hlisted hdue := by
    cases policy with
    | fifo inner =>
        obtain ⟨choice, victim, hchoice, hend⟩ := PersistentReplacement.choose_due hlisted hdue
        cases hchoice
        exact ⟨_, victim, rfl, hend⟩
    | clock inner =>
        obtain ⟨choice, victim, hchoice, hend⟩ := PersistentReplacement.choose_due hlisted hdue
        cases hchoice
        exact ⟨_, victim, rfl, hend⟩

instance {π : Type} [Replacement π] [PersistentReplacement π] :
    PersistentReplacement (Traced π) where
  Due traced := PersistentReplacement.Due traced.policy
  exists_due traced _ tables _ := PersistentReplacement.exists_due traced.policy tables
  choose_due {traced _ _ _ _} hlisted hdue := by
    obtain ⟨choice, victim, hchoice, hend⟩ := PersistentReplacement.choose_due hlisted hdue
    exact ⟨_, victim, by rw [Traced.choose_eq, hchoice]; rfl, hend⟩

/-- Where every frame may be evicted, one of them is due. -/
instance {π : Type} [Replacement π] [PersistentReplacement π] : DecisiveReplacement π where
  victim_eq_some {policy pool tables _} hsound hsize hevictable hchoice := by
    have hfirst : pool.frame? ⟨0⟩ = some pool.frames[0] := Array.getElem?_eq_getElem hsize
    obtain ⟨_, -, hdue⟩ := PersistentReplacement.exists_due policy tables hsound.listed
      (FramePool.isEvictable_iff.2 ⟨_, hfirst, hevictable _ _ hfirst⟩)
    obtain ⟨found, victim, hfound, hvictim, -⟩ :=
      PersistentReplacement.choose_due hsound.listed hdue
    cases hchoice.symm.trans hfound
    exact ⟨victim, hvictim⟩

end DemandPaging
