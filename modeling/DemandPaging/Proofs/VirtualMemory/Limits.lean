import DemandPaging.BlockDevice.MemoryDisk
import DemandPaging.Proofs.VirtualMemory.Halting
import DemandPaging.Replacement.Standard

/-!
The limits of a machine with standard algorithms. Every number that it counts or computes with stays
in range, and only too little swap space or a transfer counter at its end ever stops it.
-/
namespace DemandPaging

def StandardPlacement.position : StandardPlacement → Nat
  | firstFit _ => 0
  | nextFit fit => fit.position

def StandardReplacement.hand : StandardReplacement → Nat
  | fifo _ => 0
  | clock policy => policy.hand

/-- Next fit goes on behind the frame it took, or from the first one again. -/
theorem PlacementUse.position_le {size : Nat} {before after : StandardPlacement}
    (h : PlacementUse size before after) (hbefore : before.position ≤ size) :
    after.position ≤ size := by
  obtain ⟨coreMap, rfl, rfl⟩ := h
  cases before with
  | firstFit fit => exact hbefore
  | nextFit fit =>
      simp only [Placement.place, StandardPlacement.place, NextFit.place]
      split
      · exact hbefore
      · rename_i found hfound
        have hplaced : (Placement.place fit coreMap).1 = some found := by
          simp only [Placement.place, NextFit.place, hfound]
        have hlt := CoreMap.lt_size_of_isFree (ValidPlacement.isFree hplaced)
        exact Nat.le_of_lt (Nat.mod_lt (found + 1) (Nat.zero_lt_of_lt hlt))

theorem Clock.hand_sweep_le {pool : FramePool} (hsize : 0 < pool.size) {clock : Clock}
    {tables : AddressSpaces} {steps : Nat} (hbefore : clock.hand ≤ pool.size) :
    (sweep pool clock tables steps).policy.hand ≤ pool.size := by
  induction steps generalizing clock tables with
  | zero => exact hbefore
  | succ steps ih =>
      have hnext : (clock.hand + 1) % pool.size ≤ pool.size := Nat.le_of_lt (Nat.mod_lt _ hsize)
      simp only [sweep]
      split
      · exact ih hnext
      · split
        · exact hnext
        · split
          · exact ih hnext
          · exact hnext

theorem ReplacementUse.hand_le {size : Nat} {before after : StandardReplacement}
    (h : ReplacementUse size before after) (hbefore : before.hand ≤ size) :
    after.hand ≤ size := by
  obtain ⟨pool, tables, choice, rfl, hchoice, rfl⟩ := h
  cases before with
  | fifo policy =>
      cases hchoice
      exact Nat.zero_le _
  | clock clock =>
      cases hchoice
      simp only [StandardReplacement.hand, Clock.choose]
      split
      · exact hbefore
      · rename_i hsize
        exact Clock.hand_sweep_le (Nat.pos_of_ne_zero hsize) hbefore

namespace VirtualMemory

variable {δ : Type} [BlockDriver δ]
  {vm after : VirtualMemory δ StandardPlacement StandardReplacement}

/-- The algorithms stand at a frame of the pool, or just behind the last one. -/
structure Positioned (vm : VirtualMemory δ StandardPlacement StandardReplacement) : Prop where
  position_le : vm.placement.position ≤ vm.pool.size
  hand_le : vm.policy.hand ≤ vm.pool.size

theorem KeepsParts.positioned (hkeeps : vm.KeepsParts after) (h : vm.Positioned) :
    after.Positioned := by
  constructor
  · rw [hkeeps.frames]
    have hplacement := hkeeps.placement
    generalize after.placement = placement at hplacement
    induction hplacement with
    | refl => exact h.position_le
    | tail _ huse ih => exact huse.position_le ih
  · rw [hkeeps.frames]
    have hpolicy := hkeeps.policy
    generalize after.policy = policy at hpolicy
    induction hpolicy with
    | refl => exact h.hand_le
    | tail _ huse ih => exact huse.hand_le ih

/-- The numbers that the machine counts and computes with are in range: frames fit into entries,
what is in use is there, the sectors behind every slot have numbers of 32 bits, and the algorithms
stand in the pool. -/
structure InRange (vm : VirtualMemory δ StandardPlacement StandardReplacement) : Prop where
  size_le : vm.pool.size ≤ frameLimit
  allocatedCount_le : vm.pool.allocatedCount ≤ vm.pool.size
  index_lt : ∀ {number}, number ∈ vm.pool.queue → number.index < vm.pool.size
  size_taken_le : vm.swap.taken.size ≤ vm.swap.slotCount
  startSector_eq : ∀ {slot : SwapSlot}, slot.index < vm.swap.slotCount →
    slot.startSector.toNat = slot.index * slotSectors
  sectors_le : ∀ {slot : SwapSlot}, slot.index < vm.swap.slotCount →
    slot.index * slotSectors + slotSectors ≤ vm.swap.disk.size.toNat ∧
      slot.index * slotSectors + slotSectors + 1 < 0x100000000
  isTaken_lt : ∀ {slot}, vm.swap.isTaken slot = true → slot.index < vm.swap.slotCount
  positioned : vm.Positioned

omit [BlockDriver δ] in
theorem Accounted.inRange (h : vm.Accounted none) (hpositioned : vm.Positioned) : vm.InRange where
  size_le := h.sound.fits
  allocatedCount_le := h.sound.allocatedCount_le_size
  index_lt := h.sound.index_lt_of_mem_queue
  size_taken_le := h.bounded.size_taken_le
  startSector_eq hslot := by
    have hfirst := SwapSlot.toNat_startSector_add (SwapSlot.addressable_of_lt hslot)
      (by decide : 0 < slotSectors)
    simpa using hfirst
  sectors_le {slot} hslot := by
    have hsize := vm.swap.disk.size.toNat_lt
    simp only [SwapArea.slotCount, slotSectors] at *
    omega
  isTaken_lt htaken := h.bounded _ htaken
  positioned := hpositioned

omit [BlockDriver δ] in
theorem positioned_new {swap : SwapArea δ} (pool : FramePool) (placement : PlacementName)
    (policy : ReplacementName) (stackLimit : Nat) :
    (new swap pool (.ofName placement) (.ofName policy) stackLimit).Positioned := by
  constructor
  · cases placement <;> exact Nat.zero_le _
  · cases policy <;> exact Nat.zero_le _

theorem Run.positioned {drift : δ → δ → Prop} {trace : List (MemoryCall × MemoryReply)}
    (hrun : Run drift vm trace after) (h : vm.Positioned) : after.Positioned := by
  refine hrun.invariant (fun vm => vm.Positioned) ?_ ?_ h
  · intro vm driver h _
    exact ⟨h.position_le, h.hand_le⟩
  · intro vm after call reply h hcall
    exact (perform_cases hcall).keepsParts.positioned h

omit [BlockDriver δ] in
/-- A swap device is none of another operating system. -/
theorem writable_of_claim? {registry rest : DeviceRegistry δ} {name : Option String}
    {swap : SwapArea δ} (h : SwapArea.claim? registry name = some (swap, rest)) :
    swap = .new swap.disk ∧ swap.disk.type ≠ .foreign := by
  obtain ⟨⟨disk, registry'⟩, hclaim, hswap⟩ := Option.map_eq_some_iff.1 h
  obtain ⟨device, hfound, hdevice⟩ := Option.map_eq_some_iff.1 hclaim
  cases hswap
  cases hdevice
  have hwanted := List.find?_some hfound
  simp only [DeviceRegistry.wanted, Bool.and_eq_true, beq_iff_eq] at hwanted
  refine ⟨rfl, ?_⟩
  rw [SwapArea.new, hwanted.1]
  decide

section Claimed

variable {registry rest : DeviceRegistry δ} {name : Option String} {swap : SwapArea δ}
  {count stackLimit : Nat} {pool : FramePool} {placement : PlacementName} {policy : ReplacementName}
  {trace : List (MemoryCall × MemoryReply)}

/-- On a swap device from the registry, a machine stays in order. -/
theorem Run.operational_of_claim? (hclaim : SwapArea.claim? registry name = some (swap, rest))
    (hpool : FramePool.new count = .ok pool)
    (hrun : Run (fun _ _ => True)
      (new swap pool (.ofName placement) (.ofName policy) stackLimit) trace vm) :
    vm.Operational := by
  obtain ⟨hswap, hwritable⟩ := writable_of_claim? hclaim
  rw [hswap] at hrun
  exact hrun.operational (operational_new hpool hwritable _ _ stackLimit)

/-- Whatever its device does, a machine in use never leaves its range, and no call stops it but for
want of a slot or because a transfer counter of the device has come to its end. -/
theorem only_overload_halts (hclaim : SwapArea.claim? registry name = some (swap, rest))
    (hpool : FramePool.new count = .ok pool)
    (hrun : Run (fun _ _ => True)
      (new swap pool (.ofName placement) (.ofName policy) stackLimit) trace vm) :
    vm.InRange ∧ ∀ driver call halt, (vm.withDriver driver).perform call = .error halt →
      halt = .swapExhausted vm.swap.slotCount ∨
        (vm.withDriver driver).swap.disk.Overflows halt := by
  have hoperational := hrun.operational_of_claim? hclaim hpool
  have hpositioned := hrun.positioned (positioned_new pool placement policy stackLimit)
  refine ⟨hoperational.accounted.inRange hpositioned, ?_⟩
  intro driver call halt hhalt
  cases (hoperational.withDriver driver).haltsOnly_perform call halt hhalt with
  | exhausted => exact .inl rfl
  | uncounted hend => exact .inr hend

end Claimed

/-- A registry with one disk, and on it a single slot. -/
def oneSlot : DeviceRegistry MemoryDisk :=
  (DeviceRegistry.empty.register .swap "hda" 8 (.new 8)).2.1

/-- A machine of one frame and one slot that is full. -/
theorem only_overload_halts_two_pages :
    ∃ swap rest pool trace vm, SwapArea.claim? oneSlot none = some (swap, rest) ∧
      FramePool.new 1 = .ok pool ∧
      trace.map (·.1) =
        [.createSpace 1, .mapZero 1 0 .ordinary true, .mapZero 1 4096 .ordinary true] ∧
      Run (fun _ _ => True) (new swap pool (.ofName .nextFit) (.ofName .clock) 0) trace vm ∧
      vm.InRange ∧ ∀ driver call halt, (vm.withDriver driver).perform call = .error halt →
        halt = .swapExhausted vm.swap.slotCount ∨
          (vm.withDriver driver).swap.disk.Overflows halt := by
  have hclaim : SwapArea.claim? oneSlot none =
      some (.new ⟨0, "hda", .swap, 8, .new 8, 0, 0⟩, ⟨[], 1⟩) := rfl
  have hpool : FramePool.new 1 = .ok ⟨.replicate 1 .blank, [], 0⟩ := rfl
  have hok : ((new (.new ⟨0, "hda", .swap, 8, MemoryDisk.new 8, 0, 0⟩)
      ⟨.replicate 1 .blank, [], 0⟩ (StandardPlacement.ofName .nextFit)
      (StandardReplacement.ofName .clock) 0).run [.createSpace 1, .mapZero 1 0 .ordinary true,
        .mapZero 1 4096 .ordinary true]).isOk = true := by
    decide +kernel
  obtain ⟨trace, vm, hcalls, hrun⟩ := exists_run (fun _ _ => True) (fun _ => trivial) hok
  exact ⟨_, _, _, trace, vm, hclaim, hpool, hcalls, hrun, only_overload_halts hclaim hpool hrun⟩

end VirtualMemory

end DemandPaging
