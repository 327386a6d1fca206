import Mathlib.Data.List.Nodup
import Mathlib.Data.List.Perm.Subperm
import DemandPaging.FramePool.Basic
import DemandPaging.Proofs.Outcome

/-!
What the frame pool keeps in step: the status of a frame, its owner, its place in the queue and
the count of allocated frames. Also what each operation does to the frames, one by one.
-/
namespace DemandPaging

namespace Bytes

variable {n : Nat}

theorem overwrite_zero (block data : Bytes n) : block.overwrite 0 data.toList = data := by
  apply Bytes.ext
  rw [toList_overwrite block (by simp)]
  simp

/-- Bytes that were there before make no difference when they are put back. -/
theorem overwrite_append_drop (block : Bytes n) {data : List UInt8} (h : data.length ≤ n) :
    block.overwrite 0 (data ++ block.toList.drop data.length) = block.overwrite 0 data := by
  apply Bytes.ext
  rw [toList_overwrite block (by simp; omega), toList_overwrite block (by omega)]
  simp [h]

end Bytes

/-- A frame that was read into, from its first byte on. -/
def Frame.filled (frame : Frame) (data : List UInt8) : Frame :=
  { frame with contents := frame.contents.overwrite 0 data }

/-- A frame as it comes out of allocation. -/
def Frame.granted (owner : UserPage) (contents : Page) : Frame :=
  ⟨(FrameStatus.free.withAllocated true).withPinned true, some owner, contents⟩

/-- The frame behind a page of `owner`, with nobody at work on it. -/
def Frame.backing (owner : UserPage) (contents : Page) : Frame :=
  ⟨((FrameStatus.free.withAllocated true).withPinned true).withPinned false, some owner, contents⟩

namespace Frame

theorem filled_toList (frame : Frame) (contents : Page) :
    frame.filled contents.toList = { frame with contents } := by
  rw [filled, Bytes.overwrite_zero]

theorem filled_append_drop (frame : Frame) {data : List UInt8} (h : data.length ≤ pageSize) :
    frame.filled (data ++ frame.contents.toList.drop data.length) = frame.filled data := by
  rw [filled, filled, Bytes.overwrite_append_drop _ h]

@[simp] theorem allocated_granted (owner : UserPage) (contents : Page) :
    (granted owner contents).status.allocated = true := by
  simp [granted]

@[simp] theorem allocated_backing (owner : UserPage) (contents : Page) :
    (backing owner contents).status.allocated = true := by
  simp [backing]

@[simp] theorem pinned_backing (owner : UserPage) (contents : Page) :
    (backing owner contents).status.pinned = false := by
  simp [backing]

end Frame

attribute [ext] FramePool

namespace FramePool

variable {pool after : FramePool} {number other : FrameNumber} {frame old : Frame}

/-- The page that a frame belongs to. -/
def owner? (pool : FramePool) (number : FrameNumber) : Option UserPage :=
  (pool.frame? number).bind (·.owner)

/-- Status, owner, queue and count all tell of the same frames. -/
structure Sound (pool : FramePool) : Prop where
  fits : pool.size ≤ frameLimit
  owned : ∀ {number frame}, pool.frame? number = some frame →
    frame.owner.isSome = frame.status.allocated
  pinned : ∀ {number frame}, pool.frame? number = some frame →
    frame.status.pinned = true → frame.status.allocated = true
  queued : ∀ number, number ∈ pool.queue ↔
    ∃ frame, pool.frame? number = some frame ∧ frame.status.allocated = true
  nodup : pool.queue.Nodup
  count : pool.allocatedCount = pool.queue.length

theorem frame_eq_ok : pool.frame number = .ok frame ↔ pool.frame? number = some frame := by
  simp only [FramePool.frame]
  split <;> simp [*]

theorem index_lt_size (h : pool.frame? number = some frame) : number.index < pool.size :=
  (Array.getElem?_eq_some_iff.1 h).1

theorem frame?_replace_of_some (h : pool.frame? number = some old) (other : FrameNumber)
    (frame : Frame) :
    (pool.replace number frame).frame? other =
      if number = other then some frame else pool.frame? other := by
  rw [frame?_replace]
  by_cases heq : number = other
  · subst heq
    simp [h]
  · simp [heq]

theorem frame?_replace_self (h : pool.frame? number = some old) (frame : Frame) :
    (pool.replace number frame).frame? number = some frame :=
  (frame?_replace_of_some h number frame).trans (if_pos rfl)

theorem frame?_take (h : pool.frame? number = some frame) (owner : UserPage)
    (other : FrameNumber) :
    (pool.take number frame owner).frame? other =
      if number = other then some (.granted owner frame.contents) else pool.frame? other :=
  frame?_replace_of_some h other _

theorem frame?_take_self (h : pool.frame? number = some frame) (owner : UserPage) :
    (pool.take number frame owner).frame? number = some (.granted owner frame.contents) :=
  frame?_replace_self h _

theorem frame?_release (h : pool.frame? number = some frame) (other : FrameNumber) :
    (pool.release number frame).frame? other =
      if number = other then some ⟨.free, none, frame.contents⟩ else pool.frame? other :=
  frame?_replace_of_some h other _

@[simp] theorem frame?_moveToBack (pool : FramePool) (number other : FrameNumber) :
    (pool.moveToBack number).frame? other = pool.frame? other := by
  simp only [moveToBack]
  split <;> rfl

@[simp] theorem size_take (pool : FramePool) (number : FrameNumber) (frame : Frame)
    (owner : UserPage) : (pool.take number frame owner).size = pool.size :=
  size_replace pool number _

@[simp] theorem size_release (pool : FramePool) (number : FrameNumber) (frame : Frame) :
    (pool.release number frame).size = pool.size :=
  size_replace pool number _

@[simp] theorem size_moveToBack (pool : FramePool) (number : FrameNumber) :
    (pool.moveToBack number).size = pool.size := by
  simp only [moveToBack]
  split <;> rfl

theorem queue_moveToBack_perm (pool : FramePool) (number : FrameNumber) :
    (pool.moveToBack number).queue.Perm pool.queue := by
  simp only [moveToBack]
  split
  · rename_i hmem
    exact (List.perm_append_singleton _ _).trans (List.perm_cons_erase hmem).symm
  · exact .refl _

theorem replace_replace (pool : FramePool) (number : FrameNumber) (old new : Frame) :
    (pool.replace number old).replace number new = pool.replace number new := by
  simp [replace, Array.setIfInBounds_setIfInBounds]

theorem release_replace (pool : FramePool) (number : FrameNumber) (old frame : Frame) :
    (pool.replace number old).release number frame = pool.release number frame := by
  simp only [release, replace_replace]
  rfl

/-- A free frame becomes the one behind the page of `owner`. -/
def occupy (pool : FramePool) (number : FrameNumber) (frame : Frame) (owner : UserPage)
    (contents : Page) : FramePool :=
  (pool.take number frame owner).replace number (.backing owner contents)

/-- A free frame is taken and given back; its contents may have changed meanwhile. -/
def giveBack (pool : FramePool) (number : FrameNumber) (frame : Frame) (owner : UserPage)
    (contents : Page) : FramePool :=
  (pool.take number frame owner).release number { frame with contents }

@[simp] theorem size_occupy (pool : FramePool) (number : FrameNumber) (frame : Frame)
    (owner : UserPage) (contents : Page) :
    (pool.occupy number frame owner contents).size = pool.size := by
  simp [occupy]

@[simp] theorem size_giveBack (pool : FramePool) (number : FrameNumber) (frame : Frame)
    (owner : UserPage) (contents : Page) :
    (pool.giveBack number frame owner contents).size = pool.size := by
  simp [giveBack]

@[simp] theorem freeFrames_giveBack (pool : FramePool) (number : FrameNumber) (frame : Frame)
    (owner : UserPage) (contents : Page) :
    (pool.giveBack number frame owner contents).freeFrames = pool.freeFrames := by
  rw [freeFrames, freeFrames, size_giveBack]
  rfl

theorem frame?_occupy (h : pool.frame? number = some frame) (owner : UserPage) (contents : Page)
    (other : FrameNumber) :
    (pool.occupy number frame owner contents).frame? other =
      if number = other then some (.backing owner contents) else pool.frame? other := by
  rw [occupy, frame?_replace_of_some (frame?_take_self h owner), frame?_take h]
  split <;> rfl

theorem frame?_giveBack (h : pool.frame? number = some frame) (owner : UserPage) (contents : Page)
    (other : FrameNumber) :
    (pool.giveBack number frame owner contents).frame? other =
      if number = other then some ⟨.free, none, contents⟩ else pool.frame? other := by
  refine (frame?_replace_of_some (frame?_take_self h owner) other _).trans ?_
  rw [frame?_take h]
  split <;> rfl

/-- An allocation either changes nothing but the algorithm or takes a frame that was free. -/
theorem alloc_eq_ok {φ : Type} [Placement φ] {placement placement' : φ} {owner : UserPage}
    {found : Option FrameNumber}
    (h : pool.alloc placement owner = .ok (found, after, placement')) :
    (found = none ∧ after = pool ∧
        (placement' = placement ∨ Placement.place placement pool.coreMap = (none, placement'))) ∨
      ∃ number frame, found = some number ∧
        Placement.place placement pool.coreMap = (some number.index, placement') ∧
        pool.frame? number = some frame ∧ frame.status.allocated = false ∧
        after = pool.take number frame owner := by
  simp only [alloc] at h
  split at h
  · cases h
    exact .inl ⟨rfl, rfl, .inl rfl⟩
  · split at h
    · rename_i hplace
      cases h
      exact .inl ⟨rfl, rfl, .inr hplace⟩
    · rename_i hplace
      obtain ⟨frame, hframe, h⟩ := bind_eq_ok.1 h
      split at h
      · cases h
      · rename_i hfree
        cases h
        exact .inr ⟨_, frame, rfl, hplace, frame_eq_ok.1 hframe, by simpa using hfree, rfl⟩

theorem free_eq_ok (h : pool.free number = .ok after) :
    ∃ frame, pool.frame? number = some frame ∧ frame.status.allocated = true ∧
      after = pool.release number frame := by
  obtain ⟨frame, hframe, h⟩ := bind_eq_ok.1 h
  split at h
  · cases h
  · rename_i hallocated
    split at h
    · cases h
    · cases h
      exact ⟨frame, frame_eq_ok.1 hframe, by simpa using hallocated, rfl⟩

theorem unpin_eq_ok (h : pool.unpin number = .ok after) :
    ∃ frame, pool.frame? number = some frame ∧
      after = pool.replace number { frame with status := frame.status.withPinned false } := by
  obtain ⟨frame, hframe, h⟩ := bind_eq_ok.1 h
  cases h
  exact ⟨frame, frame_eq_ok.1 hframe, rfl⟩

theorem setContents_eq_ok {contents : Page} (h : pool.setContents number contents = .ok after) :
    ∃ frame, pool.frame? number = some frame ∧
      after = pool.replace number { frame with contents } := by
  obtain ⟨frame, hframe, h⟩ := bind_eq_ok.1 h
  cases h
  exact ⟨frame, frame_eq_ok.1 hframe, rfl⟩

theorem writeBytes_eq_ok {start : Nat} {data : List UInt8}
    (h : pool.writeBytes number start data = .ok after) :
    ∃ frame, pool.frame? number = some frame ∧ start + data.length ≤ pageSize ∧
      after = pool.replace number
        { frame with contents := frame.contents.overwrite start data } := by
  obtain ⟨frame, hframe, h⟩ := bind_eq_ok.1 h
  split at h
  · rename_i hfits
    cases h
    exact ⟨frame, frame_eq_ok.1 hframe, hfits, rfl⟩
  · cases h

/-- Bytes that fit into a frame that is there get into it. -/
theorem writeBytes_of_fits (h : pool.frame? number = some frame) {start : Nat}
    {data : List UInt8} (hfits : start + data.length ≤ pageSize) :
    pool.writeBytes number start data =
      .ok (pool.replace number { frame with contents := frame.contents.overwrite start data }) := by
  simp only [writeBytes, frame_eq_ok.2 h, bind, Except.bind, if_pos hfits]
  rfl

section Halts

variable {allowed : Halt → Prop}

theorem haltsOnly_frame (h : pool.frame? number = some frame) :
    HaltsOnly allowed (pool.frame number) := by
  rw [frame_eq_ok.2 h]
  exact .ok _

theorem haltsOnly_unpin (h : pool.frame? number = some frame) :
    HaltsOnly allowed (pool.unpin number) :=
  .bind (haltsOnly_frame h) fun _ _ => .ok _

theorem haltsOnly_setContents (h : pool.frame? number = some frame) (contents : Page) :
    HaltsOnly allowed (pool.setContents number contents) :=
  .bind (haltsOnly_frame h) fun _ _ => .ok _

theorem haltsOnly_writeBytes (h : pool.frame? number = some frame) {start : Nat}
    {data : List UInt8} (hfits : start + data.length ≤ pageSize) :
    HaltsOnly allowed (pool.writeBytes number start data) := by
  refine .bind (haltsOnly_frame h) fun _ _ => ?_
  rw [if_pos hfits]
  exact .ok _

/-- An allocated frame is counted. -/
theorem Sound.allocatedCount_pos (h : pool.Sound) (hframe : pool.frame? number = some frame)
    (hallocated : frame.status.allocated = true) : 0 < pool.allocatedCount := by
  rw [h.count]
  exact List.length_pos_of_mem ((h.queued number).2 ⟨frame, hframe, hallocated⟩)

theorem Sound.haltsOnly_free (h : pool.Sound) (hframe : pool.frame? number = some frame)
    (hallocated : frame.status.allocated = true) : HaltsOnly allowed (pool.free number) := by
  refine .bind (haltsOnly_frame hframe) fun found hfound => ?_
  cases hframe.symm.trans (frame_eq_ok.1 hfound)
  have hcount := h.allocatedCount_pos hframe hallocated
  rw [if_neg (by simp [hallocated]), if_neg (Nat.ne_of_gt hcount)]
  exact .ok _

end Halts

theorem owner?_occupy (h : pool.frame? number = some frame) (owner : UserPage) (contents : Page)
    (other : FrameNumber) :
    (pool.occupy number frame owner contents).owner? other =
      if number = other then some owner else pool.owner? other := by
  simp only [owner?, frame?_occupy h]
  split <;> rfl

theorem owner?_release (h : pool.frame? number = some frame) (other : FrameNumber) :
    (pool.release number frame).owner? other =
      if number = other then none else pool.owner? other := by
  simp only [owner?, frame?_release h]
  split <;> rfl

theorem owner?_giveBack (h : pool.frame? number = some frame) (owner : UserPage) (contents : Page)
    (other : FrameNumber) :
    (pool.giveBack number frame owner contents).owner? other =
      if number = other then none else pool.owner? other := by
  simp only [owner?, frame?_giveBack h]
  split <;> rfl

theorem owner?_replace_contents (h : pool.frame? number = some frame) (contents : Page)
    (other : FrameNumber) :
    (pool.replace number { frame with contents }).owner? other = pool.owner? other := by
  simp only [owner?, frame?_replace_of_some h]
  split
  · rename_i heq
    rw [← heq, h]
    rfl
  · rfl

@[simp] theorem owner?_moveToBack (pool : FramePool) (number other : FrameNumber) :
    (pool.moveToBack number).owner? other = pool.owner? other := by
  simp [owner?]

/-- The bytes of a frame; a frame that is not there reads as zeros. -/
def contents (pool : FramePool) (number : FrameNumber) : Page :=
  ((pool.frame? number).getD .blank).contents

theorem contents_of_frame? (h : pool.frame? number = some frame) :
    pool.contents number = frame.contents := by
  rw [contents, h]
  rfl

/-- A frame that is freed keeps its bytes. -/
theorem contents_release (h : pool.frame? number = some frame) (other : FrameNumber) :
    (pool.release number frame).contents other = pool.contents other := by
  simp only [contents, frame?_release h]
  split
  · rename_i heq
    rw [← heq, h]
    rfl
  · rfl

theorem contents_occupy (h : pool.frame? number = some frame) (owner : UserPage) (bytes : Page)
    (other : FrameNumber) :
    (pool.occupy number frame owner bytes).contents other =
      if number = other then bytes else pool.contents other := by
  simp only [contents, frame?_occupy h]
  split <;> rfl

theorem contents_giveBack (h : pool.frame? number = some frame) (owner : UserPage) (bytes : Page)
    (other : FrameNumber) :
    (pool.giveBack number frame owner bytes).contents other =
      if number = other then bytes else pool.contents other := by
  simp only [contents, frame?_giveBack h]
  split <;> rfl

theorem contents_replace_contents (h : pool.frame? number = some frame) (bytes : Page)
    (other : FrameNumber) :
    (pool.replace number { frame with contents := bytes }).contents other =
      if number = other then bytes else pool.contents other := by
  simp only [contents, frame?_replace_of_some h]
  split <;> rfl

@[simp] theorem contents_moveToBack (pool : FramePool) (number other : FrameNumber) :
    (pool.moveToBack number).contents other = pool.contents other := by
  simp [contents]

/-- Nobody is at work on a frame. -/
def Unpinned (pool : FramePool) : Prop :=
  ∀ number frame, pool.frame? number = some frame → frame.status.pinned = false

namespace Unpinned

theorem of_frame? (h : pool.Unpinned) (hstatus : frame.status.pinned = false)
    (hframe : ∀ other, after.frame? other = if number = other then some frame
      else pool.frame? other) : after.Unpinned := by
  intro other found hfound
  rw [hframe] at hfound
  split at hfound
  · cases hfound
    exact hstatus
  · exact h other found hfound

theorem occupy (h : pool.Unpinned) (hframe : pool.frame? number = some frame) (owner : UserPage)
    (contents : Page) : (pool.occupy number frame owner contents).Unpinned :=
  h.of_frame? (by simp) (frame?_occupy hframe owner contents)

theorem release (h : pool.Unpinned) (hframe : pool.frame? number = some frame) :
    (pool.release number frame).Unpinned :=
  h.of_frame? (by simp) (frame?_release hframe)

theorem giveBack (h : pool.Unpinned) (hframe : pool.frame? number = some frame)
    (owner : UserPage) (contents : Page) :
    (pool.giveBack number frame owner contents).Unpinned :=
  h.of_frame? (by simp) (frame?_giveBack hframe owner contents)

theorem replace_contents (h : pool.Unpinned) (hframe : pool.frame? number = some frame)
    (contents : Page) : (pool.replace number { frame with contents }).Unpinned := by
  have hsame : ({ frame with contents } : Frame).status.pinned = false := h number frame hframe
  exact h.of_frame? hsame fun other => frame?_replace_of_some hframe other _

theorem moveToBack (h : pool.Unpinned) (number : FrameNumber) :
    (pool.moveToBack number).Unpinned := by
  intro other found hfound
  exact h other found ((frame?_moveToBack pool number other).symm.trans hfound)

end Unpinned

theorem new_eq_ok {count : Nat} (h : FramePool.new count = .ok pool) :
    count ≤ frameLimit ∧ pool = ⟨Array.replicate count .blank, [], 0⟩ := by
  simp only [FramePool.new] at h
  split at h
  · rename_i hfits
    cases h
    exact ⟨hfits, rfl⟩
  · cases h

/-- All frames of a new pool are blank. -/
theorem frame?_new {count : Nat} (h : FramePool.new count = .ok pool)
    (hframe : pool.frame? number = some frame) : frame = .blank := by
  obtain ⟨-, rfl⟩ := new_eq_ok h
  simp only [frame?, Array.getElem?_replicate] at hframe
  split at hframe <;> simp_all

theorem Unpinned.new {count : Nat} (h : FramePool.new count = .ok pool) : pool.Unpinned := by
  intro number frame hframe
  rw [frame?_new h hframe]
  decide

/-- There are no more frames than the pool has. -/
theorem length_le_of_nodup {numbers : List FrameNumber} (hnodup : numbers.Nodup)
    (hlt : ∀ number ∈ numbers, number.index < pool.size) : numbers.length ≤ pool.size := by
  have hindices : (numbers.map (·.index)).Nodup := by
    refine hnodup.map ?_
    rintro ⟨a⟩ ⟨b⟩ rfl
    rfl
  have hsubset : numbers.map (·.index) ⊆ List.range pool.size := by
    intro index hindex
    obtain ⟨number, hmem, rfl⟩ := List.mem_map.1 hindex
    exact List.mem_range.2 (hlt number hmem)
  have hle := (hindices.subperm hsubset).length_le
  rwa [List.length_map, List.length_range] at hle

/-- Owners and queue tell which frames are allocated. -/
structure Listed (pool : FramePool) : Prop where
  owned : ∀ {number frame}, pool.frame? number = some frame →
    frame.owner.isSome = frame.status.allocated
  queued : ∀ number, number ∈ pool.queue ↔
    ∃ frame, pool.frame? number = some frame ∧ frame.status.allocated = true
  nodup : pool.queue.Nodup

theorem Sound.listed (h : pool.Sound) : pool.Listed := ⟨h.owned, h.queued, h.nodup⟩

namespace Listed

theorem length_queue_le (h : pool.Listed) : pool.queue.length ≤ pool.size := by
  refine length_le_of_nodup h.nodup fun number hmem => ?_
  obtain ⟨frame, hframe, -⟩ := (h.queued number).1 hmem
  exact index_lt_size hframe

theorem moveToBack (h : pool.Listed) (number : FrameNumber) : (pool.moveToBack number).Listed where
  owned hframe := h.owned ((pool.frame?_moveToBack number _).symm.trans hframe)
  queued other := by
    rw [(pool.queue_moveToBack_perm number).mem_iff, frame?_moveToBack]
    exact h.queued other
  nodup := (pool.queue_moveToBack_perm number).nodup_iff.2 h.nodup

end Listed

namespace Sound

theorem new {count : Nat} (h : FramePool.new count = .ok pool) : pool.Sound := by
  have hblank : ∀ number frame, pool.frame? number = some frame → frame = .blank :=
    fun _ _ => frame?_new h
  obtain ⟨hfits, rfl⟩ := new_eq_ok h
  refine ⟨by simpa [size] using hfits, ?_, ?_, ?_, List.nodup_nil, rfl⟩
  · intro number frame hframe
    rw [hblank number frame hframe]
    decide
  · intro number frame hframe
    rw [hblank number frame hframe]
    decide
  · intro number
    simp only [List.not_mem_nil, false_iff]
    rintro ⟨frame, hframe, hallocated⟩
    rw [hblank number frame hframe] at hallocated
    exact absurd hallocated (by decide)

theorem index_lt_limit (h : pool.Sound) (hframe : pool.frame? number = some frame) :
    number.index < frameLimit :=
  Nat.lt_of_lt_of_le (index_lt_size hframe) h.fits

theorem allocated_iff (h : pool.Sound) (hframe : pool.frame? number = some frame) :
    frame.status.allocated = true ↔ ∃ key, pool.owner? number = some key := by
  rw [← h.owned hframe, Option.isSome_iff_exists]
  simp [owner?, hframe]

theorem owner?_eq_none (h : pool.Sound) (hframe : pool.frame? number = some frame)
    (hfree : frame.status.allocated = false) : pool.owner? number = none := by
  have howned := h.owned hframe
  rw [hfree, Option.isSome_eq_false_iff, Option.isNone_iff_eq_none] at howned
  simp [owner?, hframe, howned]

/-- A free frame that was taken and given back is as free as it was. -/
theorem owner?_giveBack (h : pool.Sound) (hframe : pool.frame? number = some frame)
    (hfree : frame.status.allocated = false) (owner : UserPage) (contents : Page)
    (other : FrameNumber) :
    (pool.giveBack number frame owner contents).owner? other = pool.owner? other := by
  rw [FramePool.owner?_giveBack hframe]
  split
  · rename_i heq
    rw [← heq, h.owner?_eq_none hframe hfree]
  · rfl

theorem index_lt_of_mem_queue (h : pool.Sound) (hmem : number ∈ pool.queue) :
    number.index < pool.size := by
  obtain ⟨frame, hframe, -⟩ := (h.queued number).1 hmem
  exact index_lt_size hframe

theorem allocatedCount_le_size (h : pool.Sound) : pool.allocatedCount ≤ pool.size := by
  rw [h.count]
  exact h.listed.length_queue_le

/-- A new frame for a number changes nothing that the pool keeps in step, as long as it agrees on
status and owner. -/
theorem replace (h : pool.Sound) (hold : pool.frame? number = some old)
    (hallocated : frame.status.allocated = old.status.allocated)
    (hpinned : frame.status.pinned = true → old.status.allocated = true)
    (howner : frame.owner = old.owner) : (pool.replace number frame).Sound := by
  have hget := fun other => frame?_replace_of_some hold other frame
  refine ⟨by simpa using h.fits, ?_, ?_, ?_, h.nodup, h.count⟩
  · intro other found hfound
    rw [hget] at hfound
    split at hfound
    · cases hfound
      rw [howner, hallocated, h.owned hold]
    · exact h.owned hfound
  · intro other found hfound
    rw [hget] at hfound
    split at hfound
    · cases hfound
      rwa [hallocated]
    · exact h.pinned hfound
  · intro other
    refine (h.queued other).trans ?_
    rw [hget]
    by_cases heq : number = other
    · subst heq
      simp [hold, hallocated]
    · simp [heq]

theorem fill (h : pool.Sound) (hframe : pool.frame? number = some frame) (data : List UInt8) :
    (pool.replace number (frame.filled data)).Sound :=
  h.replace hframe rfl (fun hpinned => h.pinned hframe hpinned) rfl

theorem take (h : pool.Sound) (hframe : pool.frame? number = some frame)
    (hfree : frame.status.allocated = false) (owner : UserPage) :
    (pool.take number frame owner).Sound := by
  have hget := frame?_take hframe owner
  have hnot : number ∉ pool.queue := by
    intro hmem
    obtain ⟨found, hfound, hallocated⟩ := (h.queued number).1 hmem
    rw [hframe] at hfound
    cases hfound
    simp [hfree] at hallocated
  refine ⟨by simpa [FramePool.take, size, FramePool.replace] using h.fits, ?_, ?_, ?_, ?_, ?_⟩
  · intro other found hfound
    rw [hget] at hfound
    split at hfound
    · cases hfound
      simp [Frame.granted]
    · exact h.owned hfound
  · intro other found hfound
    rw [hget] at hfound
    split at hfound
    · cases hfound
      simp [Frame.granted]
    · exact h.pinned hfound
  · intro other
    change other ∈ pool.queue ++ [number] ↔ _
    rw [hget, List.mem_append, List.mem_singleton, h.queued]
    by_cases heq : number = other
    · subst heq
      simp
    · simp [heq, Ne.symm heq]
  · exact h.nodup.append (List.nodup_singleton _) (by simpa using hnot)
  · simp [FramePool.take, h.count]

theorem release (h : pool.Sound) (hframe : pool.frame? number = some frame)
    (hallocated : frame.status.allocated = true) : (pool.release number frame).Sound := by
  have hget := frame?_release hframe
  have hmem : number ∈ pool.queue := (h.queued number).2 ⟨frame, hframe, hallocated⟩
  refine ⟨by simpa [FramePool.release, size, FramePool.replace] using h.fits,
    ?_, ?_, ?_, h.nodup.erase _, ?_⟩
  · intro other found hfound
    rw [hget] at hfound
    split at hfound
    · cases hfound
      simp
    · exact h.owned hfound
  · intro other found hfound
    rw [hget] at hfound
    split at hfound
    · cases hfound
      simp
    · exact h.pinned hfound
  · intro other
    change other ∈ pool.queue.erase number ↔ _
    rw [hget, h.nodup.mem_erase_iff, h.queued]
    by_cases heq : number = other
    · subst heq
      simp
    · simp [heq, Ne.symm heq]
  · simp [FramePool.release, h.count, List.length_erase_of_mem hmem]

theorem occupy (h : pool.Sound) (hframe : pool.frame? number = some frame)
    (hfree : frame.status.allocated = false) (owner : UserPage) (contents : Page) :
    (pool.occupy number frame owner contents).Sound := by
  have htaken := frame?_take_self hframe owner
  exact (h.take hframe hfree owner).replace htaken (by simp) (by simp) rfl

theorem giveBack (h : pool.Sound) (hframe : pool.frame? number = some frame)
    (hfree : frame.status.allocated = false) (owner : UserPage) (contents : Page) :
    (pool.giveBack number frame owner contents).Sound := by
  have htaken := frame?_take_self hframe owner
  have hfilled : ((pool.take number frame owner).replace number (.granted owner contents)).Sound :=
    (h.take hframe hfree owner).replace htaken rfl (by simp) rfl
  have hback := hfilled.release (frame?_replace_self htaken _) (by simp)
  rw [release_replace] at hback
  exact hback

theorem moveToBack (h : pool.Sound) (number : FrameNumber) : (pool.moveToBack number).Sound := by
  have hlisted := h.listed.moveToBack number
  refine ⟨by simpa using h.fits, hlisted.owned, ?_, hlisted.queued, hlisted.nodup, ?_⟩
  · intro other frame hframe
    rw [frame?_moveToBack] at hframe
    exact h.pinned hframe
  · simp only [FramePool.moveToBack]
    split
    · rename_i hmem
      have hpos := List.length_pos_of_mem hmem
      rw [h.count, List.length_append, List.length_erase_of_mem hmem, List.length_singleton]
      omega
    · exact h.count

end Sound

end FramePool

end DemandPaging
