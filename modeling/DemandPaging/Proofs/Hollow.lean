import DemandPaging.AnonPage.Swapping
import DemandPaging.Proofs.SectorStore
import DemandPaging.Replacement.Standard

/-!
Machines without contents. A hollow frame holds zeros and a hollow driver moves none of the bytes
that it is given, but they answer as the full ones do, and so does all that is built from them.
-/
namespace DemandPaging

/-- As many zeros as there are bytes. -/
def zeroed (bytes : List UInt8) : List UInt8 := bytes.map fun _ => 0

@[simp] theorem length_zeroed (bytes : List UInt8) : (zeroed bytes).length = bytes.length :=
  List.length_map _

theorem zeroed_eq_replicate (bytes : List UInt8) :
    zeroed bytes = List.replicate bytes.length 0 :=
  List.map_const' ..

theorem zeroed_append (first second : List UInt8) :
    zeroed (first ++ second) = zeroed first ++ zeroed second :=
  List.map_append

theorem zeroed_take (bytes : List UInt8) (count : Nat) :
    zeroed (bytes.take count) = (zeroed bytes).take count :=
  List.map_take

theorem zeroed_drop (bytes : List UInt8) (count : Nat) :
    zeroed (bytes.drop count) = (zeroed bytes).drop count :=
  List.map_drop

theorem zeroed_eq_zeroed {bytes other : List UInt8} :
    zeroed bytes = zeroed other ↔ bytes.length = other.length := by
  simp [zeroed_eq_replicate]

theorem Bytes.zeroed_toList {n : Nat} (bytes : Bytes n) :
    zeroed bytes.toList = (Bytes.zero n).toList := by
  rw [zeroed_eq_replicate, bytes.length_toList]
  rfl

theorem Bytes.eq_zero_of_zeroed {n : Nat} {bytes : List UInt8} (h : (zeroed bytes).length = n) :
    (⟨zeroed bytes, h⟩ : Bytes n) = .zero n := by
  apply Bytes.ext
  change zeroed bytes = List.replicate n 0
  rw [zeroed_eq_replicate, ← length_zeroed, h]

/-- Zeros over zeros. -/
theorem Bytes.overwrite_zeroed {n : Nat} (start : Nat) (data : List UInt8) :
    (Bytes.zero n).overwrite start (zeroed data) = .zero n := by
  apply Bytes.ext
  simp only [overwrite, zero, zeroed_eq_replicate, List.take_replicate, List.drop_replicate,
    List.replicate_append_replicate]
  simp
  omega

/-- The frame with zeros for its contents. -/
def Frame.hollow (frame : Frame) : Frame := { frame with contents := .zero pageSize }

@[simp] theorem Frame.status_hollow (frame : Frame) : frame.hollow.status = frame.status := rfl

@[simp] theorem Frame.owner_hollow (frame : Frame) : frame.hollow.owner = frame.owner := rfl

@[simp] theorem Frame.contents_hollow (frame : Frame) :
    frame.hollow.contents = .zero pageSize := rfl

namespace FramePool

/-- The pool with zeros for the contents of its frames. -/
def hollow (pool : FramePool) : FramePool := { pool with frames := pool.frames.map Frame.hollow }

variable (pool : FramePool) (number : FrameNumber)

@[simp] theorem queue_hollow : pool.hollow.queue = pool.queue := rfl

@[simp] theorem allocatedCount_hollow : pool.hollow.allocatedCount = pool.allocatedCount := rfl

@[simp] theorem size_hollow : pool.hollow.size = pool.size := Array.size_map

@[simp] theorem coreMap_hollow : pool.hollow.coreMap = pool.coreMap := by
  simp [coreMap, hollow, Function.comp_def]

@[simp] theorem frame?_hollow : pool.hollow.frame? number = (pool.frame? number).map Frame.hollow :=
  Array.getElem?_map

theorem frame_hollow : pool.hollow.frame number = (pool.frame number).map Frame.hollow := by
  simp only [frame, frame?_hollow]
  cases pool.frame? number <;> rfl

theorem replace_hollow {frame frame' : Frame} (h : frame' = frame.hollow) :
    pool.hollow.replace number frame' = (pool.replace number frame).hollow := by
  simp [replace, hollow, h, Array.map_setIfInBounds]

/-- Frames that differ in contents are the same to a hollow pool. -/
theorem hollow_replace {pool : FramePool} {number : FrameNumber} {frame frame' : Frame}
    (hframe : pool.frame? number = some frame) (hsame : frame'.hollow = frame.hollow) :
    (pool.replace number frame').hollow = pool.hollow := by
  rw [← pool.replace_hollow number rfl, hsame]
  have hhollow : pool.hollow.frame? number = some frame.hollow := by
    rw [frame?_hollow, hframe, Option.map_some]
  obtain ⟨hlt, hself⟩ := Array.getElem?_eq_some_iff.1 hhollow
  simp only [replace, ← hself, Array.setIfInBounds, dif_pos hlt, Array.set_getElem_self]

theorem take_hollow (frame : Frame) (owner : UserPage) :
    pool.hollow.take number frame.hollow owner = (pool.take number frame owner).hollow := by
  simp [take, replace, hollow, Array.map_setIfInBounds, Frame.hollow]

theorem release_hollow (frame : Frame) :
    pool.hollow.release number frame.hollow = (pool.release number frame).hollow := by
  simp [release, replace, hollow, Array.map_setIfInBounds, Frame.hollow]

theorem alloc_hollow {φ : Type} [Placement φ] (placement : φ) (owner : UserPage) :
    pool.hollow.alloc placement owner = (pool.alloc placement owner).map
      fun (found, pool, placement) => (found, pool.hollow, placement) := by
  simp only [alloc, allocatedCount_hollow, size_hollow, coreMap_hollow]
  by_cases hfull : pool.allocatedCount = pool.size
  · simp only [if_pos hfull]
    rfl
  · simp only [if_neg hfull]
    obtain ⟨index?, placement⟩ := Placement.place placement pool.coreMap
    cases index? with
    | none => rfl
    | some index =>
        refine bind_eq_map (pool.frame_hollow _) fun frame _ => ?_
        rw [Frame.status_hollow, take_hollow]
        cases frame.status.allocated <;> rfl

theorem free_hollow : pool.hollow.free number = (pool.free number).map hollow := by
  refine bind_eq_map (pool.frame_hollow number) fun frame _ => ?_
  rw [Frame.status_hollow, allocatedCount_hollow, release_hollow]
  cases frame.status.allocated with
  | false => rfl
  | true => by_cases hcount : pool.allocatedCount = 0 <;> simp only [hcount] <;> rfl

theorem unpin_hollow : pool.hollow.unpin number = (pool.unpin number).map hollow := by
  exact bind_eq_map (pool.frame_hollow number) fun frame _ =>
    congrArg Except.ok (pool.replace_hollow number rfl)

theorem moveToBack_hollow : pool.hollow.moveToBack number = (pool.moveToBack number).hollow := by
  simp only [moveToBack, queue_hollow, apply_ite hollow]
  rfl

/-- What a frame is filled with makes no difference. -/
theorem setContents_hollow (contents : Page) :
    pool.hollow.setContents number (.zero pageSize) =
      (pool.setContents number contents).map hollow := by
  exact bind_eq_map (pool.frame_hollow number) fun frame _ =>
    congrArg Except.ok (pool.replace_hollow number rfl)

end FramePool

/-- A driver `δ` that answers as one without contents does: what it answers, and what becomes of it
but for its contents, does not depend on bytes. -/
class HollowDriver (δ : Type) (ε : outParam Type) [BlockDriver δ] [BlockDriver ε] where
  hollow : δ → ε
  read_hollow : ∀ (driver : δ) (sector : SectorNumber) (buffer : Sector),
    BlockDriver.read (hollow driver) sector (.zero sectorSize) =
      ((BlockDriver.read driver sector buffer).1, .zero sectorSize,
        hollow (BlockDriver.read driver sector buffer).2.2)
  write_hollow : ∀ (driver : δ) (sector : SectorNumber) (data : Sector),
    BlockDriver.write (hollow driver) sector (.zero sectorSize) =
      ((BlockDriver.write driver sector data).1,
        hollow (BlockDriver.write driver sector data).2)

namespace BlockDevice

variable {δ ε : Type} [BlockDriver δ] [BlockDriver ε] [HollowDriver δ ε]

def hollow (device : BlockDevice δ) : BlockDevice ε :=
  { device with driver := HollowDriver.hollow device.driver }

variable (device : BlockDevice δ) (sector : SectorNumber) (count : Nat)

@[simp] theorem size_hollow : device.hollow.size = device.size := rfl

@[simp] theorem type_hollow : device.hollow.type = device.type := rfl

theorem driver_hollow : device.hollow.driver = HollowDriver.hollow device.driver := rfl

theorem read_hollow (buffer : List UInt8) :
    device.hollow.read sector (zeroed buffer) = (device.read sector buffer).map
      fun (result, buffer, device) => (result, zeroed buffer, device.hollow) := by
  rw [read_def, size_hollow, read_def]
  by_cases hsector : sector < device.size
  · rw [if_pos hsector, if_pos hsector]
    by_cases hlength : buffer.length = sectorSize
    · rw [dif_pos hlength, dif_pos ((length_zeroed buffer).trans hlength),
        Bytes.eq_zero_of_zeroed, driver_hollow,
        HollowDriver.read_hollow device.driver sector ⟨buffer, hlength⟩]
      obtain ⟨result, chunk, driver⟩ := BlockDriver.read device.driver sector ⟨buffer, hlength⟩
      cases result with
      | error error => simp only [Except.map, chunk.zeroed_toList, hollow]
      | ok =>
          simp only [bind, Except.bind, hollow]
          cases nextCount device.reads with
          | error halt => rfl
          | ok reads => simp only [pure, Except.pure, Except.map, chunk.zeroed_toList]
    · rw [dif_neg hlength, dif_neg (by rwa [length_zeroed])]
      rfl
  · rw [if_neg hsector, if_neg hsector]
    rfl

theorem write_hollow (data : List UInt8) :
    device.hollow.write sector (zeroed data) = (device.write sector data).map
      fun (result, device) => (result, device.hollow) := by
  rw [write_def, size_hollow, write_def]
  by_cases hsector : sector < device.size
  · rw [if_pos hsector, if_pos hsector]
    by_cases hlength : data.length = sectorSize
    · rw [dif_pos hlength, dif_pos ((length_zeroed data).trans hlength), type_hollow]
      by_cases hforeign : device.type = .foreign
      · rw [if_pos hforeign, if_pos hforeign]
        rfl
      · rw [if_neg hforeign, if_neg hforeign, Bytes.eq_zero_of_zeroed, driver_hollow,
          HollowDriver.write_hollow device.driver sector ⟨data, hlength⟩]
        obtain ⟨result, driver⟩ := BlockDriver.write device.driver sector ⟨data, hlength⟩
        cases result with
        | error error => rfl
        | ok =>
          simp only [hollow]
          cases nextCount device.writes <;> rfl
    · rw [dif_neg hlength, dif_neg (by rwa [length_zeroed])]
      rfl
  · rw [if_neg hsector, if_neg hsector]
    rfl

theorem writeRun_hollow (data : List UInt8) :
    device.hollow.writeRun sector count (zeroed data) = (device.writeRun sector count data).map
      fun (result, device) => (result, device.hollow) := by
  induction count generalizing device sector data with
  | zero => rfl
  | succ count ih =>
      rw [writeRun_succ, writeRun_succ, ← zeroed_take, ← zeroed_drop]
      refine bind_eq_map (device.write_hollow sector _) fun written _ => ?_
      obtain ⟨result, device⟩ := written
      cases result with
      | error error => rfl
      | ok => exact ih device _ _

theorem readRun_hollow (buffer : List UInt8) :
    device.hollow.readRun sector count (zeroed buffer) = (device.readRun sector count buffer).map
      fun (result, buffer, device) => (result, zeroed buffer, device.hollow) := by
  induction count generalizing device sector buffer with
  | zero => rfl
  | succ count ih =>
      rw [readRun_succ, readRun_succ, ← zeroed_take, ← zeroed_drop]
      refine bind_eq_map (device.read_hollow sector _) fun got _ => ?_
      obtain ⟨result, chunk, device⟩ := got
      cases result with
      | error error => simp only [pure, Except.pure, Except.map, zeroed_append]
      | ok =>
          refine bind_eq_map (ih device _ _) fun rest _ => ?_
          simp only [pure, Except.pure, Except.map, zeroed_append]

end BlockDevice

namespace SwapArea

variable {δ ε : Type} [BlockDriver δ] [BlockDriver ε] [HollowDriver δ ε] (area : SwapArea δ)
  (slot : SwapSlot)

def hollow (area : SwapArea δ) : SwapArea ε := { area with disk := area.disk.hollow }

@[simp] theorem slotCount_hollow : area.hollow.slotCount = area.slotCount := rfl

theorem acquire_hollow :
    area.hollow.acquire = area.acquire.map fun (slot, area) => (slot, area.hollow) := by
  have htaken : area.hollow.acquire? =
      area.acquire?.map fun (slot, area) => (slot, area.hollow) := by
    simp only [acquire?, slotCount_hollow, Option.map_map]
    rfl
  simp only [acquire_def, htaken]
  cases area.acquire? <;> rfl

theorem release_hollow : area.hollow.release slot = (area.release slot).map hollow := by
  simp only [release_def, apply_ite (Except.map hollow)]
  rfl

theorem storePage_hollow (contents : Page) :
    area.hollow.storePage slot (Bytes.zero pageSize).toList =
      (area.storePage slot contents.toList).map fun (result, area) => (result, area.hollow) := by
  rw [storePage_def, storePage_def, if_pos contents.length_toList, if_pos (Bytes.length_toList _),
    ← contents.zeroed_toList]
  exact bind_eq_map (area.disk.writeRun_hollow _ _ _) fun _ _ => rfl

theorem loadPage_hollow (contents : Page) :
    area.hollow.loadPage slot (Bytes.zero pageSize).toList =
      (area.loadPage slot contents.toList).map
        fun (result, data, area) => (result, zeroed data, area.hollow) := by
  rw [loadPage_def, loadPage_def, if_pos contents.length_toList, if_pos (Bytes.length_toList _),
    ← contents.zeroed_toList]
  exact bind_eq_map (area.disk.readRun_hollow _ _ _) fun _ _ => rfl

end SwapArea

/-- A disk with bad sectors that keeps nothing. -/
structure HollowDisk where
  sectors : SectorNumber
  readFails : SectorNumber → Bool
  writeFails : SectorNumber → Bool

instance : BlockDriver HollowDisk where
  read disk sector buffer :=
    if disk.readFails sector then (.error .readError, buffer, disk)
    else if sector < disk.sectors then (.ok (), .zero sectorSize, disk)
    else (.error .sectorOutOfBounds, buffer, disk)
  write disk sector _ :=
    if disk.writeFails sector then (.error .writeError, disk)
    else if sector < disk.sectors then (.ok (), disk)
    else (.error .sectorOutOfBounds, disk)

instance : HollowDriver FaultyDisk HollowDisk where
  hollow faulty := ⟨faulty.disk.sectors, faulty.readFails, faulty.writeFails⟩
  read_hollow faulty sector buffer := by
    rw [FaultyDisk.driver_read_eq]
    simp only [BlockDriver.read]
    by_cases hfails : faulty.readFails sector = true
    · simp only [if_pos hfails]
    · by_cases hsector : sector < faulty.disk.sectors <;> simp [hfails, hsector]
  write_hollow faulty sector data := by
    rw [FaultyDisk.driver_write_eq]
    simp only [BlockDriver.write]
    by_cases hfails : faulty.writeFails sector = true
    · simp only [if_pos hfails]
    · by_cases hsector : sector < faulty.disk.sectors <;> simp [hfails, hsector]

section Pages

variable {δ ε : Type} [BlockDriver δ] [BlockDriver ε] [HollowDriver δ ε]

def PageStore.hollow (store : PageStore δ) : PageStore ε :=
  { swap := store.swap.hollow, pool := store.pool.hollow, tables := store.tables }

namespace AnonPage

variable (page : AnonPage) (store : PageStore δ) (number : FrameNumber)

theorem pageOut_hollow :
    page.pageOut store.hollow = (page.pageOut store).map
      fun (result, page, store) => (result, page, store.hollow) := by
  rw [pageOut, pageOut]
  cases page.location with
  | swappedOut slot => rfl
  | resident number =>
      refine bind_eq_map store.swap.acquire_hollow fun taken _ => ?_
      obtain ⟨slot, swap⟩ := taken
      refine bind_eq_map (store.pool.frame_hollow number) fun frame _ => ?_
      refine bind_eq_map (swap.storePage_hollow slot frame.contents) fun stored _ => ?_
      obtain ⟨result, swap⟩ := stored
      cases result with
      | error error => exact bind_eq_map (swap.release_hollow slot) fun _ _ => rfl
      | ok => exact bind_eq_map (store.pool.free_hollow number) fun _ _ => rfl

theorem pageIn_hollow :
    page.pageIn store.hollow number = (page.pageIn store number).map
      fun (result, page, store) => (result, page, store.hollow) := by
  rw [pageIn, pageIn]
  cases page.location with
  | resident number => rfl
  | swappedOut slot =>
      refine bind_eq_map (store.pool.frame_hollow number) fun frame _ => ?_
      refine bind_eq_map (store.swap.loadPage_hollow slot frame.contents) fun loaded _ => ?_
      obtain ⟨result, data, swap⟩ := loaded
      simp only [Frame.contents_hollow, Bytes.overwrite_zeroed]
      refine bind_eq_map (store.pool.setContents_hollow number _) fun pool _ => ?_
      cases result with
      | error error => rfl
      | ok => exact bind_eq_map (swap.release_hollow slot) fun _ _ => rfl

theorem destroy_hollow : page.destroy store.hollow = (page.destroy store).map PageStore.hollow := by
  rw [destroy, destroy]
  cases page.location with
  | resident number => exact bind_eq_map (store.pool.free_hollow number) fun _ _ => rfl
  | swappedOut slot => exact bind_eq_map (store.swap.release_hollow slot) fun _ _ => rfl

end AnonPage

end Pages

/-- A policy that looks at no contents. -/
class BlindReplacement (π : Type) [Replacement π] : Prop where
  choose_hollow : ∀ (policy : π) (pool : FramePool) (tables : AddressSpaces),
    Replacement.choose policy pool.hollow tables = Replacement.choose policy pool tables

theorem Fifo.victim?_hollow (pool : FramePool) : victim? pool.hollow = victim? pool := by
  simp [victim?, Option.all_map]

theorem Clock.sweep_hollow (pool : FramePool) (clock : Clock) (tables : AddressSpaces)
    (steps : Nat) : sweep pool.hollow clock tables steps = sweep pool clock tables steps := by
  induction steps generalizing clock tables with
  | zero => rfl
  | succ steps ih =>
      have hevictable : Frame.evictable ∘ Frame.hollow = Frame.evictable := rfl
      simp only [sweep, ih, FramePool.size_hollow, FramePool.frame?_hollow, Option.filter_map,
        hevictable]
      cases (pool.frame? ⟨clock.hand % pool.size⟩).filter Frame.evictable <;> rfl

instance : BlindReplacement StandardReplacement where
  choose_hollow policy pool tables := by
    cases policy with
    | fifo fifo =>
      simp only [Replacement.choose, StandardReplacement.choose, Fifo.victim?_hollow]
    | clock clock =>
      simp only [Replacement.choose, StandardReplacement.choose, Clock.choose, Clock.sweep_hollow,
        FramePool.size_hollow]

end DemandPaging
