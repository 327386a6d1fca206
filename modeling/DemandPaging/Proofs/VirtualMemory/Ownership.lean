import Mathlib.Logic.ExistsUnique
import DemandPaging.FramePool.Script
import DemandPaging.Proofs.VirtualMemory.Accounting
import DemandPaging.Replacement.Script

/-!
Frames and slots have one owner each, and owners know what they own. This is the meaning of books
in order, in terms of what can be looked up and counted.
-/
namespace DemandPaging

/-- A list without duplicates is as long as any other whose members it names one to one. -/
theorem length_filter_isSome {α β : Type} {names : List α} {members : List β} {f : α → Option β}
    (hnames : names.Nodup) (hmembers : members.Nodup)
    (hinj : ∀ a b member, f a = some member → f b = some member → a = b)
    (hmem : ∀ member, member ∈ members ↔ ∃ name ∈ names, f name = some member) :
    (names.filter fun name => (f name).isSome).length = members.length := by
  have hperm : (names.filterMap f).Perm members := by
    refine (List.perm_ext_iff_of_nodup (hnames.filterMap hinj) hmembers).2 fun member => ?_
    rw [List.mem_filterMap, hmem]
  rw [← hperm.length_eq, List.length_filterMap_eq_countP, List.countP_eq_length_filter]

namespace VirtualMemory

variable {δ φ π : Type} {vm : VirtualMemory δ φ π}

def residentPages (vm : VirtualMemory δ φ π) : List UserPage :=
  vm.pages.keys.filter fun key => ((vm.held? key).bind (·.frame?)).isSome

def swappedOutPages (vm : VirtualMemory δ φ π) : List UserPage :=
  vm.pages.keys.filter fun key => ((vm.held? key).bind (·.slot?)).isSome

/-- Every resource in use has exactly one page, and every page exactly one resource. -/
structure Owned (vm : VirtualMemory δ φ π) : Prop where
  live : ∀ {key cell}, vm.cell? key = some cell → ∃ page, cell = ⟨false, some page⟩ ∧ page.key = key
  resident : ∀ {key page number}, vm.held? key = some page → page.location = .resident number →
    ∃ frame, vm.pool.frame? number = some frame ∧ frame.status.allocated = true ∧
      frame.owner = some key
  swappedOut : ∀ {key page slot}, vm.held? key = some page → page.location = .swappedOut slot →
    vm.swap.isTaken slot = true
  frame_owned : ∀ {number frame}, vm.pool.frame? number = some frame →
    frame.status.allocated = true →
    ∃! key, ∃ page, vm.held? key = some page ∧ page.location = .resident number
  slot_owned : ∀ {slot}, vm.swap.isTaken slot = true →
    ∃! key, ∃ page, vm.held? key = some page ∧ page.location = .swappedOut slot
  unpinned : ∀ {number frame}, vm.pool.frame? number = some frame → frame.status.pinned = false
  frames_balance : vm.usage.framesFree + vm.residentPages.length = vm.usage.framesTotal
  slots_balance : vm.usage.slotsFree + vm.swappedOutPages.length = vm.usage.slotsTotal

theorem home?_eq_some {key : UserPage} {location : PageLocation} :
    vm.home? key = some location ↔ ∃ page, vm.held? key = some page ∧ page.location = location :=
  Option.map_eq_some_iff

theorem home?_eq_resident {key : UserPage} {number : FrameNumber} :
    vm.home? key = some (.resident number) ↔ (vm.held? key).bind (·.frame?) = some number := by
  rw [home?_eq_some, Option.bind_eq_some_iff]
  refine exists_congr fun page => and_congr_right fun _ => ?_
  cases hlocation : page.location <;> simp [AnonPage.frame?, hlocation]

theorem home?_eq_swappedOut {key : UserPage} {slot : SwapSlot} :
    vm.home? key = some (.swappedOut slot) ↔ (vm.held? key).bind (·.slot?) = some slot := by
  rw [home?_eq_some, Option.bind_eq_some_iff]
  refine exists_congr fun page => and_congr_right fun _ => ?_
  cases hlocation : page.location <;> simp [AnonPage.slot?, hlocation]

theorem mem_keys_of_home? {key : UserPage} {location : PageLocation}
    (h : vm.home? key = some location) : key ∈ vm.pages.keys := by
  obtain ⟨page, hheld, -⟩ := home?_eq_some.1 h
  obtain ⟨cell, hcell, -⟩ := Option.bind_eq_some_iff.1 hheld
  rw [Std.ExtTreeMap.mem_keys, Std.ExtTreeMap.mem_iff_isSome_getElem?]
  exact Option.isSome_iff_exists.2 ⟨cell, hcell⟩

theorem nodup_swappedOutPages : vm.swappedOutPages.Nodup :=
  vm.pages.nodup_keys.filter _

theorem mem_swappedOutPages {key : UserPage} :
    key ∈ vm.swappedOutPages ↔ ∃ slot, vm.home? key = some (.swappedOut slot) := by
  rw [swappedOutPages, List.mem_filter, Option.isSome_iff_exists]
  constructor
  · rintro ⟨-, slot, hslot⟩
    exact ⟨slot, home?_eq_swappedOut.2 hslot⟩
  · rintro ⟨slot, hhome⟩
    exact ⟨mem_keys_of_home? hhome, slot, home?_eq_swappedOut.1 hhome⟩

namespace Accounted

variable (h : vm.Accounted none)
include h

theorem length_residentPages : vm.residentPages.length = vm.pool.allocatedCount := by
  rw [h.sound.count]
  refine length_filter_isSome vm.pages.nodup_keys h.sound.nodup ?_ ?_
  · intro a b number ha hb
    exact h.eq_of_resident (home?_eq_resident.2 ha) (home?_eq_resident.2 hb)
  · intro number
    rw [h.sound.queued]
    constructor
    · rintro ⟨frame, hframe, hallocated⟩
      obtain ⟨key, howner⟩ := (h.sound.allocated_iff hframe).1 hallocated
      have hhome := h.owner?_eq_some.1 howner
      exact ⟨key, mem_keys_of_home? hhome, home?_eq_resident.1 hhome⟩
    · rintro ⟨key, -, hnumber⟩
      have howner := h.owner?_eq_some.2 (home?_eq_resident.2 hnumber)
      obtain ⟨frame, hframe, -⟩ := Option.bind_eq_some_iff.1 howner
      exact ⟨frame, hframe, (h.sound.allocated_iff hframe).2 ⟨key, howner⟩⟩

theorem length_swappedOutPages : vm.swappedOutPages.length = vm.swap.taken.size := by
  have hnodup : (vm.swap.taken.toList.map SwapSlot.mk).Nodup := by
    refine List.Nodup.map (fun _ _ heq => SwapSlot.mk.inj heq) ?_
    exact vm.swap.taken.distinct_toList.imp fun hne heq => hne (by simp [heq])
  rw [← Std.ExtTreeSet.length_toList, ← List.length_map SwapSlot.mk]
  refine length_filter_isSome vm.pages.nodup_keys hnodup ?_ ?_
  · intro a b slot ha hb
    exact h.alone (home?_eq_swappedOut.2 ha) (home?_eq_swappedOut.2 hb)
  · rintro ⟨index⟩
    have htaken : (⟨index⟩ : SwapSlot) ∈ vm.swap.taken.toList.map SwapSlot.mk ↔
        vm.swap.isTaken ⟨index⟩ = true := by
      simp [SwapArea.isTaken]
    rw [htaken, h.isTaken_iff]
    constructor
    · rintro ⟨key, hhome⟩
      exact ⟨key, mem_keys_of_home? hhome, home?_eq_swappedOut.1 hhome⟩
    · rintro ⟨key, -, hslot⟩
      exact ⟨key, home?_eq_swappedOut.2 hslot⟩

theorem owned : vm.Owned := by
  refine ⟨?_, ?_, ?_, ?_, ?_, fun hframe => h.unpinned _ _ hframe, ?_, ?_⟩
  · intro key cell hcell
    obtain ⟨page, rfl⟩ := h.exists_page hcell
    exact ⟨page, rfl, h.keyed (held?_of_cell? hcell)⟩
  · intro key page number hheld hlocation
    have howner := h.owner?_eq_some.2 (home?_eq_some.2 ⟨page, hheld, hlocation⟩)
    obtain ⟨frame, hframe, hkey⟩ := Option.bind_eq_some_iff.1 howner
    exact ⟨frame, hframe, (h.sound.allocated_iff hframe).2 ⟨key, howner⟩, hkey⟩
  · intro key page slot hheld hlocation
    exact h.isTaken_iff.2 ⟨key, home?_eq_some.2 ⟨page, hheld, hlocation⟩⟩
  · intro number frame hframe hallocated
    obtain ⟨key, howner⟩ := (h.sound.allocated_iff hframe).1 hallocated
    refine ⟨key, home?_eq_some.1 (h.owner?_eq_some.1 howner), fun other hother => ?_⟩
    have hother := h.owner?_eq_some.2 (home?_eq_some.2 hother)
    exact Option.some.inj (hother.symm.trans howner)
  · intro slot htaken
    obtain ⟨key, hhome⟩ := h.isTaken_iff.1 htaken
    exact ⟨key, home?_eq_some.1 hhome, fun other hother => h.alone (home?_eq_some.2 hother) hhome⟩
  · rw [h.length_residentPages]
    have hle := h.sound.allocatedCount_le_size
    simp only [usage, FramePool.freeFrames]
    omega
  · rw [h.length_swappedOutPages]
    have hle := h.bounded.size_taken_le
    simp only [usage, SwapArea.freeSlots]
    omega

end Accounted

/-- Whatever placement, policy and device do, no run leaks or shares a frame or a slot. -/
theorem exclusive_ownership [BlockDriver δ] [Placement φ] [Replacement π] {count stackLimit : Nat}
    {pool : FramePool} {disk : BlockDevice δ} {placement : φ} {policy : π}
    {trace : List (MemoryCall × MemoryReply)} (hpool : FramePool.new count = .ok pool)
    (hrun : Run (fun _ _ => True) (new (.new disk) pool placement policy stackLimit) trace vm) :
    vm.Owned :=
  (hrun.accounted (accounted_new disk hpool placement policy stackLimit)).owned

/-- A machine with two frames and two slots. Its policy destroys the address space of the victim it
names. -/
def tampering : VirtualMemory MemoryDisk PlacementScript ReplacementScript :=
  new (.new ⟨0, "hda", .swap, 16, .new 16, 0, 0⟩) ⟨.replicate 2 .blank, [], 0⟩ ⟨[some 1]⟩
    ⟨[⟨some 1, none, some ⟨1⟩⟩]⟩ 0

theorem exclusive_ownership_tampering :
    ∃ trace vm, trace.map (·.1) = [.createSpace 1, .mapZero 1 0 .ordinary true, .evictPage] ∧
      Run (fun _ _ => True) tampering trace vm ∧ vm.Owned := by
  have hok : (tampering.run [.createSpace 1, .mapZero 1 0 .ordinary true, .evictPage]).isOk =
      true := by
    decide +kernel
  obtain ⟨trace, vm, hcalls, hrun⟩ := exists_run (fun _ _ => True) (fun _ => trivial) hok
  have hpool : FramePool.new 2 = .ok ⟨.replicate 2 .blank, [], 0⟩ := rfl
  exact ⟨trace, vm, hcalls, hrun, exclusive_ownership hpool hrun⟩

end VirtualMemory

end DemandPaging
