import DemandPaging.Proofs.VirtualMemory.Run
import DemandPaging.Proofs.VirtualMemory.UserCopy

/-!
The parts that a machine is built of are used and never exchanged. Whatever holds of a part and
survives its use holds after every call.
-/
namespace DemandPaging

/-- A placement has answered for a pool of `size` frames. -/
def PlacementUse {φ : Type} [Placement φ] (size : Nat) (before after : φ) : Prop :=
  ∃ coreMap : CoreMap, coreMap.size = size ∧ (Placement.place before coreMap).2 = after

/-- A policy has answered for a pool of `size` frames. -/
def ReplacementUse {π : Type} [Replacement π] (size : Nat) (before after : π) : Prop :=
  ∃ pool tables choice, pool.size = size ∧ Replacement.choose before pool tables = .ok choice ∧
    choice.policy = after

namespace VirtualMemory

variable {δ φ π : Type} [BlockDriver δ] [Placement φ] [Replacement π]
  {vm mid after : VirtualMemory δ φ π} {key : UserPage} {page : AnonPage} {number : FrameNumber}
  {frame : Frame} {placement : φ}

/-- The pool keeps its size, and device, placement and policy are where their use has led them. -/
structure KeepsParts (vm after : VirtualMemory δ φ π) : Prop where
  frames : after.pool.size = vm.pool.size
  disk : vm.swap.disk.Transfers after.swap.disk
  placement : Relation.ReflTransGen (PlacementUse vm.pool.size) vm.placement after.placement
  policy : Relation.ReflTransGen (ReplacementUse vm.pool.size) vm.policy after.policy

namespace KeepsParts

theorem refl (vm : VirtualMemory δ φ π) : vm.KeepsParts vm := ⟨rfl, .refl, .refl, .refl⟩

theorem trans (h : vm.KeepsParts mid) (h' : mid.KeepsParts after) : vm.KeepsParts after where
  frames := h'.frames.trans h.frames
  disk := h.disk.trans h'.disk
  placement := h.placement.trans (h.frames ▸ h'.placement)
  policy := h.policy.trans (h.frames ▸ h'.policy)

/-- Whatever else changed. -/
theorem of_eq (hpool : after.pool.size = vm.pool.size) (hdisk : after.swap.disk = vm.swap.disk)
    (hplacement : after.placement = vm.placement) (hpolicy : after.policy = vm.policy) :
    vm.KeepsParts after where
  frames := hpool
  disk := hdisk ▸ .refl
  placement := hplacement ▸ .refl
  policy := hpolicy ▸ .refl

theorem of_transfers (hpool : after.pool.size = vm.pool.size)
    (hdisk : vm.swap.disk.Transfers after.swap.disk) (hplacement : after.placement = vm.placement)
    (hpolicy : after.policy = vm.policy) : vm.KeepsParts after where
  frames := hpool
  disk := hdisk
  placement := hplacement ▸ .refl
  policy := hpolicy ▸ .refl

/-- Locks are not parts. -/
theorem of_lock {page? : Option AnonPage} (h : (vm.lock key page?).KeepsParts after) :
    vm.KeepsParts after :=
  ⟨h.frames, h.disk, h.placement, h.policy⟩

theorem size_disk (h : vm.KeepsParts after) : after.swap.disk.size = vm.swap.disk.size :=
  congrArg (·.size) h.disk.identity_eq

theorem slotCount (h : vm.KeepsParts after) : after.swap.slotCount = vm.swap.slotCount := by
  rw [SwapArea.slotCount, SwapArea.slotCount, h.size_disk]

theorem type_disk (h : vm.KeepsParts after) : after.swap.disk.type = vm.swap.disk.type :=
  congrArg (·.type) h.disk.identity_eq

end KeepsParts

theorem Search.keepsParts (hstep : Search vm after) : vm.KeepsParts after := by
  cases hstep with
  | consulted hchoice =>
      exact ⟨rfl, .refl, .refl, .single ⟨vm.pool, vm.tables, _, rfl, hchoice, rfl⟩⟩
  | requeued number => exact .of_eq (FramePool.size_moveToBack vm.pool number) rfl rfl rfl

theorem Attempt.keepsParts {result : Except MemoryError SwapSlot}
    (hstep : Attempt vm result after) : vm.KeepsParts after := by
  cases hstep with
  | exhausted => exact .refl vm
  | failed _ _ _ _ hrun => exact .of_transfers rfl (BlockDevice.transfers_of_writeRun hrun) rfl rfl
  | moved _ _ _ _ _ hrun =>
      exact .of_transfers (FramePool.size_release vm.pool _ _)
        (BlockDevice.transfers_of_writeRun hrun) rfl rfl

theorem keepsParts_of_evictWithin {attempts : Nat} {result : Except MemoryError SwapSlot}
    (h : vm.evictWithin attempts = .ok (result, after)) : vm.KeepsParts after := by
  obtain ⟨mid, hsearch, hattempt⟩ := evictWithin_cases h
  refine KeepsParts.trans ?_ hattempt.keepsParts
  clear hattempt h
  induction hsearch with
  | refl => exact .refl vm
  | tail _ hstep ih => exact ih.trans hstep.keepsParts

/-- The algorithm has been asked, or has not, and found no frame. -/
theorem keepsParts_of_alloc {owner : UserPage}
    (h : vm.pool.alloc vm.placement owner = .ok (none, vm.pool, placement)) :
    vm.KeepsParts { vm with placement } := by
  refine ⟨rfl, .refl, ?_, .refl⟩
  obtain ⟨-, -, rfl | hplace⟩ | ⟨_, _, hsome, -⟩ := FramePool.alloc_eq_ok h
  · exact .refl
  · refine .single ⟨vm.pool.coreMap, Array.size_map, ?_⟩
    rw [hplace]
  · cases hsome

theorem Round.keepsParts (h : Round vm after) : vm.KeepsParts after := by
  cases h with
  | evicted halloc hevict =>
      exact (keepsParts_of_alloc halloc).trans (keepsParts_of_evictWithin hevict)

theorem Rounds.keepsParts (h : Rounds vm after) : vm.KeepsParts after := by
  induction h with
  | refl => exact .refl vm
  | tail _ hround ih => exact ih.trans hround.keepsParts

theorem Denied.keepsParts {error : MemoryError} (h : Denied vm mid error) : vm.KeepsParts mid := by
  cases h with
  | notEvicted hrounds halloc hevict =>
      exact hrounds.keepsParts.trans
        ((keepsParts_of_alloc halloc).trans (keepsParts_of_evictWithin hevict))

/-- The placement that chose the frame has moved on with it. -/
theorem Granted.keepsParts (h : Granted vm mid number frame placement)
    (hpool : after.pool.size = mid.pool.size) (hdisk : mid.swap.disk.Transfers after.swap.disk)
    (hplacement : after.placement = placement) (hpolicy : after.policy = mid.policy) :
    vm.KeepsParts after := by
  refine h.rounds.keepsParts.trans ⟨hpool, hdisk, ?_, hpolicy ▸ .refl⟩
  refine .single ⟨mid.pool.coreMap, Array.size_map, ?_⟩
  rw [h.place_eq, hplacement]

variable {result : Except MemoryError Unit} {pid : Pid} {addr : Nat} {write : Bool}

theorem MapZero.keepsParts {kind : PageKind} {writable : Bool}
    (hcases : MapZero vm pid addr kind writable result after) : vm.KeepsParts after := by
  cases hcases with
  | notUserAddress => exact .refl vm
  | noAddressSpace => exact .refl vm
  | alreadyMapped => exact .refl vm
  | noFrame _ hdenied => exact hdenied.keepsParts.of_lock.trans (.of_eq rfl rfl rfl rfl)
  | abandoned _ _ hgranted =>
      exact .of_lock (hgranted.keepsParts (FramePool.size_giveBack _ _ _ _ _) .refl rfl rfl)
  | made _ _ hgranted =>
      exact .of_lock (hgranted.keepsParts (FramePool.size_occupy _ _ _ _ _) .refl rfl rfl)

theorem BringBack.keepsParts {slot : SwapSlot} (hcases : BringBack vm key page slot result after) :
    vm.KeepsParts after := by
  cases hcases with
  | noFrame hdenied => exact hdenied.keepsParts.of_lock.trans (.of_eq rfl rfl rfl rfl)
  | notRead _ hgranted hread =>
      exact .of_lock (hgranted.keepsParts (FramePool.size_giveBack _ _ _ _ _)
        (BlockDevice.transfers_of_readRun hread) rfl rfl)
  | unmapped _ hgranted _ hread =>
      exact .of_lock (hgranted.keepsParts (FramePool.size_occupy _ _ _ _ _)
        (BlockDevice.transfers_of_readRun hread) rfl rfl)
  | done _ hgranted _ hread =>
      exact .of_lock (hgranted.keepsParts (FramePool.size_occupy _ _ _ _ _)
        (BlockDevice.transfers_of_readRun hread) rfl rfl)

theorem ResolveFault.keepsParts {fault : FaultReport}
    (hcases : ResolveFault vm pid fault result after) : vm.KeepsParts after := by
  cases hcases with
  | notUserAddress => exact .refl vm
  | grown _ _ _ hmapped => exact hmapped.keepsParts
  | notMapped => exact .refl vm
  | unfinished => exact .refl vm
  | writeProtected => exact .refl vm
  | resident => exact .refl vm
  | broughtBack _ _ _ _ hback => exact hback.keepsParts

theorem Access.keepsParts {found : Except MemoryError FrameNumber}
    (hcases : Access pid addr write vm found after) : vm.KeepsParts after := by
  induction hcases with
  | touched htouched => cases htouched <;> exact .of_eq rfl rfl rfl rfl
  | unresolved _ hresolve => exact hresolve.keepsParts
  | resolved _ hresolve _ ih => exact hresolve.keepsParts.trans ih

theorem keepsParts_of_access {found : Except MemoryError FrameNumber}
    (haccess : vm.access pid addr write = .ok (found, after)) : vm.KeepsParts after := by
  obtain ⟨-, -, rfl⟩ | ⟨-, hcases⟩ := access_cases haccess
  · exact .refl _
  · exact hcases.keepsParts

theorem keepsParts_patchFrame (vm : VirtualMemory δ φ π) (number : FrameNumber) (frame : Frame)
    (start : Nat) (data : List UInt8) : vm.KeepsParts (vm.patchFrame number frame start data) :=
  .of_eq (FramePool.size_replace vm.pool _ _) rfl rfl rfl

theorem CopyIn.keepsParts {data : List UInt8} {moved : Nat}
    (hcases : CopyIn pid vm addr data result moved after) : vm.KeepsParts after := by
  induction hcases with
  | done => exact .refl _
  | stopped _ haccess => exact keepsParts_of_access haccess
  | chunk _ haccess _ _ _ ih =>
      exact (keepsParts_of_access haccess).trans ((keepsParts_patchFrame _ _ _ _ _).trans ih)

theorem CopyOut.keepsParts {buffer got : List UInt8} {moved : Nat}
    (hcases : CopyOut pid vm addr buffer result got moved after) : vm.KeepsParts after := by
  induction hcases with
  | done => exact .refl _
  | stopped _ haccess => exact keepsParts_of_access haccess
  | chunk _ haccess _ _ _ ih => exact (keepsParts_of_access haccess).trans ih

theorem Discarded.keepsParts (hcases : Discarded vm key after) : vm.KeepsParts after := by
  cases hcases with
  | unfinished => exact .of_eq rfl rfl rfl rfl
  | destroyed _ hdestroyed =>
      cases hdestroyed with
      | resident => exact .of_eq (FramePool.size_release vm.pool _ _) rfl rfl rfl
      | swappedOut => exact .of_eq rfl rfl rfl rfl

theorem DiscardedAll.keepsParts {keys : List UserPage} (hcases : DiscardedAll vm keys after) :
    vm.KeepsParts after := by
  induction hcases with
  | nil => exact .refl _
  | cons hfirst _ ih => exact hfirst.keepsParts.trans ih

theorem Performed.keepsParts {call : MemoryCall} {reply : MemoryReply}
    (hcases : Performed vm call reply after) : vm.KeepsParts after := by
  cases hcases with
  | createSpace hcall =>
      simp only [VirtualMemory.createSpace] at hcall
      split at hcall <;> cases hcall <;> exact .of_eq rfl rfl rfl rfl
  | destroySpace hcall =>
      obtain ⟨mid, hdiscarded, ⟨-, -, rfl⟩ | ⟨-, -, rfl⟩⟩ := destroySpace_cases hcall
      · exact hdiscarded.keepsParts.trans (.of_eq rfl rfl rfl rfl)
      · exact hdiscarded.keepsParts
  | mapZero hcall => exact (mapZero_cases hcall).keepsParts
  | unmap hcall =>
      obtain ⟨-, -, rfl⟩ | ⟨-, hdiscarded⟩ := unmap_cases hcall
      · exact .refl _
      · exact hdiscarded.keepsParts
  | resolveFault hcall => exact (resolveFault_cases hcall).keepsParts
  | evictPage hcall => exact keepsParts_of_evictWithin hcall
  | copyFromUser hcall =>
      obtain ⟨_, hcopied⟩ := copyFromUser_cases hcall
      exact hcopied.keepsParts
  | copyToUser hcall =>
      obtain ⟨_, hcopied⟩ := copyToUser_cases hcall
      exact hcopied.keepsParts
  | location => exact .refl vm
  | kind => exact .refl vm
  | usage => exact .refl vm

theorem Run.size_pool {drift : δ → δ → Prop} {trace : List (MemoryCall × MemoryReply)}
    (hrun : Run drift vm trace after) : after.pool.size = vm.pool.size := by
  refine hrun.invariant (fun mid => mid.pool.size = vm.pool.size) ?_ ?_ rfl
  · intro mid driver h _
    exact h
  · intro mid after call reply h hcall
    exact (perform_cases hcall).keepsParts.frames.trans h

end VirtualMemory

end DemandPaging
