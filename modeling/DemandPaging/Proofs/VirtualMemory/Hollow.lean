import DemandPaging.Proofs.Hollow
import DemandPaging.Proofs.VirtualMemory.PageMap
import DemandPaging.VirtualMemory.Call

/-!
The machine without contents. Whatever a machine does but for the bytes it copies, the machine with
hollow frames on a hollow disk does as well: no decision rests on what a page holds.
-/
namespace DemandPaging

namespace VirtualMemory

variable {δ ε φ π : Type} [BlockDriver δ] [BlockDriver ε] [HollowDriver δ ε]

/-- The machine with hollow frames and a hollow disk. -/
def hollow (vm : VirtualMemory δ φ π) : VirtualMemory ε φ π :=
  { vm with toPageStore := vm.toPageStore.hollow }

/-- What the hollow machine makes of an operation that ends so. -/
def hollowed {α : Type} (outcome : Except Halt (α × VirtualMemory δ φ π)) :
    Except Halt (α × VirtualMemory ε φ π) :=
  outcome.map fun (result, after) => (result, after.hollow)

theorem ite_hollowed {α : Type} {c : Prop} [Decidable c]
    {first second : Except Halt (α × VirtualMemory δ φ π)}
    {first' second' : Except Halt (α × VirtualMemory ε φ π)} (hfirst : first' = hollowed first)
    (hsecond : second' = hollowed second) :
    (if c then first' else second') = hollowed (if c then first else second) := by
  split
  · exact hfirst
  · exact hsecond

variable (vm : VirtualMemory δ φ π) (key owner : UserPage) (page : AnonPage)
  (number : FrameNumber) (pid : Pid) (addr : Nat) (write : Bool)

theorem pageOutPage_hollow :
    vm.hollow.pageOutPage key page = hollowed (vm.pageOutPage key page) := by
  refine bind_eq_map (page.pageOut_hollow vm.toPageStore) fun moved _ => ?_
  obtain ⟨result, page, store⟩ := moved
  cases result <;> rfl

section Frames

variable [Replacement π] [BlindReplacement π]

theorem evictWithin_hollow (attempts : Nat) :
    vm.hollow.evictWithin attempts = hollowed (vm.evictWithin attempts) := by
  induction attempts generalizing vm with
  | zero => rfl
  | succ attempts ih =>
      rw [evictWithin, evictWithin]
      have hchoose : Replacement.choose vm.hollow.policy vm.hollow.pool vm.hollow.tables =
          Replacement.choose vm.policy vm.pool vm.tables :=
        BlindReplacement.choose_hollow vm.policy vm.pool vm.tables
      rw [hchoose]
      refine bind_congr_map fun choice _ => ?_
      cases choice.victim with
      | none => rfl
      | some victim =>
          refine bind_eq_map (vm.pool.frame_hollow victim) fun frame _ => ?_
          rw [Frame.owner_hollow]
          cases frame.owner with
          | none => exact ih { vm with policy := choice.policy, tables := choice.tables }
          | some key =>
              let asked := { vm with policy := choice.policy, tables := choice.tables }
              have hsame : { vm.hollow with policy := choice.policy, tables := choice.tables
                : VirtualMemory ε φ π }.residentIn? key victim = asked.residentIn? key victim := rfl
              have hback :
                  vm.hollow.pool.moveToBack victim = (asked.pool.moveToBack victim).hollow :=
                vm.pool.moveToBack_hollow victim
              simp only [hsame, hback]
              cases asked.residentIn? key victim with
              | none => exact ih { asked with pool := asked.pool.moveToBack victim }
              | some page => exact asked.pageOutPage_hollow key page

theorem evictPage_hollow : vm.hollow.evictPage = hollowed vm.evictPage := by
  have hsize : vm.hollow.pool.size = vm.pool.size := vm.pool.size_hollow
  rw [evictPage, hsize]
  exact vm.evictWithin_hollow _

omit [Replacement π] [BlindReplacement π] in
theorem usage_hollow : vm.hollow.usage = vm.usage := by
  have hsize : vm.hollow.pool.size = vm.pool.size := vm.pool.size_hollow
  simp only [usage, FramePool.freeFrames, hsize]
  rfl

variable [Placement φ]

theorem obtainFrameWithin_hollow (evictions : Nat) :
    vm.hollow.obtainFrameWithin owner evictions =
      hollowed (vm.obtainFrameWithin owner evictions) := by
  induction evictions generalizing vm with
  | zero =>
      rw [obtainFrameWithin, obtainFrameWithin]
      refine bind_eq_map (vm.pool.alloc_hollow vm.placement owner) fun allocated _ => ?_
      obtain ⟨found, pool, placement⟩ := allocated
      cases found <;> rfl
  | succ evictions ih =>
      rw [obtainFrameWithin, obtainFrameWithin]
      refine bind_eq_map (vm.pool.alloc_hollow vm.placement owner) fun allocated _ => ?_
      obtain ⟨found, pool, placement⟩ := allocated
      cases found with
      | some number => rfl
      | none =>
          refine bind_eq_map (evictPage_hollow { vm with pool, placement }) fun evicted _ => ?_
          obtain ⟨result, mid⟩ := evicted
          cases result with
          | error error => rfl
          | ok slot => exact ih mid

theorem obtainFrame_hollow : vm.hollow.obtainFrame owner = hollowed (vm.obtainFrame owner) :=
  vm.obtainFrameWithin_hollow owner _

end Frames

section Spaces

theorem createSpace_hollow :
    vm.hollow.createSpace pid = ((vm.createSpace pid).1, (vm.createSpace pid).2.hollow) := by
  have htables : vm.hollow.tables = vm.tables := rfl
  simp only [createSpace, htables]
  cases vm.tables.create? pid <;> rfl

theorem dispose_hollow (cell : PageCell) :
    vm.hollow.dispose key cell = (vm.dispose key cell).map hollow := by
  rw [dispose, dispose]
  refine bind_congr_map fun page? _ => ?_
  cases page? with
  | none => rfl
  | some page =>
      exact bind_eq_map (page.destroy_hollow { vm.toPageStore with
        tables := vm.tables.unmap key.owner key.base }) fun _ _ => rfl

theorem disposeAll_hollow (doomed : List (UserPage × PageCell)) :
    vm.hollow.disposeAll doomed = (vm.disposeAll doomed).map hollow := by
  induction doomed generalizing vm with
  | nil => rfl
  | cons first doomed ih =>
      rw [disposeAll, disposeAll, List.foldlM_cons, List.foldlM_cons]
      exact bind_eq_map (vm.dispose_hollow first.1 first.2) fun mid _ => ih mid

theorem unmap_hollow : vm.hollow.unmap pid addr = hollowed (vm.unmap pid addr) := by
  have hdetach : vm.hollow.detach? (.containing pid addr) =
      (vm.detach? (.containing pid addr)).map fun (cell, vm) => (cell, vm.hollow) := by
    simp only [detach?, Option.map_map]
    rfl
  simp only [unmap, hdetach]
  cases vm.detach? (.containing pid addr) with
  | none => rfl
  | some detached => exact bind_eq_map (detached.2.dispose_hollow _ _) fun _ _ => rfl

theorem destroySpace_hollow : vm.hollow.destroySpace pid = hollowed (vm.destroySpace pid) := by
  rw [destroySpace, destroySpace]
  refine bind_eq_map (disposeAll_hollow (vm.detachAll (vm.keysOf pid)).2 _) fun mid _ => ?_
  change (if mid.tables.contains pid then _ else _) = _
  cases mid.tables.contains pid <;> rfl

theorem abandon_hollow (error : MemoryError) :
    vm.hollow.abandon key number error = hollowed (vm.abandon key number error) :=
  bind_eq_map (vm.pool.free_hollow number) fun _ _ => rfl

end Spaces

section Faults

variable [Replacement π] [BlindReplacement π] [Placement φ]

theorem mapZero_hollow (kind : PageKind) (writable : Bool) :
    vm.hollow.mapZero pid addr kind writable = hollowed (vm.mapZero pid addr kind writable) := by
  refine ite_hollowed rfl (ite_hollowed rfl (ite_hollowed rfl ?_))
  refine bind_eq_map (obtainFrame_hollow (vm.lock (.containing pid addr) none) _)
    fun obtained _ => ?_
  obtain ⟨found, mid⟩ := obtained
  cases found with
  | error error => rfl
  | ok number =>
      refine bind_congr_map fun mapped _ => ?_
      cases mapped with
      | noSpace => exact mid.abandon_hollow _ _ _
      | alreadyPresent => exact mid.abandon_hollow _ _ _
      | done tables =>
          refine bind_eq_map (mid.pool.setContents_hollow number _) fun filled _ => ?_
          exact bind_eq_map (filled.unpin_hollow number) fun _ _ => rfl

theorem extendStack_hollow (fault : FaultReport) :
    vm.hollow.extendStack pid fault = hollowed (vm.extendStack pid fault) := by
  refine ite_hollowed (bind_eq_map (vm.mapZero_hollow pid fault.addr .stack true) ?_) rfl
  intro mapped _
  obtain ⟨result, mid⟩ := mapped
  cases result with
  | ok => rfl
  | error error => cases error <;> rfl

theorem bringBack_hollow : vm.hollow.bringBack key page = hollowed (vm.bringBack key page) := by
  refine bind_eq_map (obtainFrame_hollow (vm.lock key (some page)) key) fun obtained _ => ?_
  obtain ⟨found, mid⟩ := obtained
  cases found with
  | error error => rfl
  | ok number =>
      refine bind_eq_map (page.pageIn_hollow mid.toPageStore number) fun moved _ => ?_
      obtain ⟨result, page, store⟩ := moved
      cases result with
      | error error => exact bind_eq_map (store.pool.free_hollow number) fun _ _ => rfl
      | ok =>
          refine bind_congr_map fun mapped _ => ?_
          refine bind_eq_map (store.pool.unpin_hollow number) fun pool _ => ?_
          cases mapped <;> rfl

theorem resolveFault_hollow (fault : FaultReport) :
    vm.hollow.resolveFault pid fault = hollowed (vm.resolveFault pid fault) := by
  refine ite_hollowed rfl ?_
  have hcell : vm.hollow.cell? (.containing pid fault.addr) =
    vm.cell? (.containing pid fault.addr) := rfl
  rw [hcell]
  cases vm.cell? (.containing pid fault.addr) with
  | none => exact vm.extendStack_hollow pid fault
  | some cell =>
      refine bind_congr_map fun page? _ => ?_
      cases page? with
      | none => rfl
      | some page => exact ite_hollowed rfl (ite_hollowed rfl (vm.bringBack_hollow _ page))

omit [Replacement π] [BlindReplacement π] [Placement φ] in
theorem touch?_hollow : vm.hollow.touch? pid addr write =
    (vm.touch? pid addr write).map fun (result, after) => (result, after.hollow) := by
  have htables : vm.hollow.tables = vm.tables := rfl
  simp only [touch?, htables]
  cases vm.tables.directory? pid with
  | none => rfl
  | some directory =>
      simp only
      cases directory.frame? addr with
      | none => rfl
      | some number =>
          simp only
          split <;> rfl

theorem accessWithin_hollow (rounds : Nat) :
    vm.hollow.accessWithin pid addr write rounds =
      hollowed (vm.accessWithin pid addr write rounds) := by
  induction rounds generalizing vm with
  | zero => rfl
  | succ rounds ih =>
      rw [accessWithin, accessWithin, touch?_hollow]
      cases vm.touch? pid addr write with
      | some reply => rfl
      | none =>
          refine bind_eq_map (vm.resolveFault_hollow pid _) fun resolved _ => ?_
          obtain ⟨result, mid⟩ := resolved
          cases result with
          | error error => rfl
          | ok => exact ih mid

theorem access_hollow : vm.hollow.access pid addr write = hollowed (vm.access pid addr write) :=
  ite_hollowed (vm.accessWithin_hollow pid addr write 2) rfl

/-- The hollow machine carries out what moves no bytes. -/
theorem perform_hollow {call : MemoryCall} (hplain : call.isCopy = false) :
    vm.hollow.perform call = hollowed (vm.perform call) := by
  cases call with
  | createSpace pid =>
      simp only [perform, createSpace_hollow]
      rfl
  | destroySpace pid => exact bind_eq_map (vm.destroySpace_hollow pid) fun _ _ => rfl
  | mapZero pid addr kind writable =>
      exact bind_eq_map (vm.mapZero_hollow pid addr kind writable) fun _ _ => rfl
  | unmap pid addr => exact bind_eq_map (vm.unmap_hollow pid addr) fun _ _ => rfl
  | resolveFault pid fault => exact bind_eq_map (vm.resolveFault_hollow pid fault) fun _ _ => rfl
  | evictPage => exact bind_eq_map vm.evictPage_hollow fun _ _ => rfl
  | copyFromUser => cases hplain
  | copyToUser => cases hplain
  | location pid addr => exact bind_congr_map fun _ _ => rfl
  | kind pid addr => exact bind_congr_map fun _ _ => rfl
  | usage =>
      simp only [perform, usage_hollow]
      rfl

end Faults

end VirtualMemory

end DemandPaging
