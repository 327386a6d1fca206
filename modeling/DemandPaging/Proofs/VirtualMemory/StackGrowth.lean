import DemandPaging.Proofs.VirtualMemory.Atomicity
import DemandPaging.Proofs.VirtualMemory.Capacity

/-!
Stacks grow by faults, a page at a time: near the stack pointer and no further down than the limit
allows. However long a machine runs, the pages that its faults have made stay in that region.
-/
namespace DemandPaging

/-- The page lies in the region of the stack, rounded to whole pages. -/
def UserPage.InStackRegion (stackLimit : Nat) (page : UserPage) : Prop :=
  pageStart (stackTop - stackLimit) ≤ page.base ∧ page.base + pageSize ≤ stackTop

namespace FaultReport

variable {fault : FaultReport} {stackLimit : Nat}

/-- The fault lies in the region of the stack, and not far below the stack pointer. -/
def NearStack (fault : FaultReport) (stackLimit : Nat) : Prop :=
  (stackTop - stackLimit ≤ fault.addr ∧ fault.addr < stackTop) ∧
    ∃ pointer, fault.stackPointer = some pointer ∧ pointer - stackReach ≤ fault.addr

theorem growsStack_iff : fault.growsStack stackLimit = true ↔ fault.NearStack stackLimit := by
  simp [growsStack, NearStack, Option.any_eq_true]

theorem NearStack.inUserSpace (h : fault.NearStack stackLimit) : inUserSpace fault.addr = true :=
  decide_eq_true h.1.2

end FaultReport

namespace UserMemory

variable {memory after : UserMemory} {key : UserPage} {call : MemoryCall} {reply : MemoryReply}
  {pid : Pid} {addr : Nat} {kind : PageKind} {writable : Bool} {fault : FaultReport}
  {result : Except MemoryError Unit}

theorem mapZero_cases (h : memory.mapZero pid addr kind writable = (result, after)) :
    (∃ error, result = .error error ∧ after = memory) ∨ result = .ok () ∧
      after = memory.set (.containing pid addr) (some ⟨kind, writable, .zero pageSize⟩) := by
  unfold mapZero at h
  split_ifs at h <;> cases h
  · exact .inl ⟨_, rfl, rfl⟩
  · exact .inl ⟨_, rfl, rfl⟩
  · exact .inl ⟨_, rfl, rfl⟩
  · exact .inr ⟨rfl, rfl⟩

/-- A fault changes nothing but that a stack may get a new page. -/
theorem resolveFault_cases (h : memory.resolveFault pid fault = (result, after)) :
    after = memory ∨ fault.NearStack memory.stackLimit ∧
      after = memory.set (.containing pid fault.addr) (some ⟨.stack, true, .zero pageSize⟩) := by
  unfold resolveFault at h
  split at h
  · exact .inl (Prod.mk.inj h).2.symm
  · split at h
    · split at h
      · rename_i hgrows
        obtain ⟨-, -, hsame⟩ | ⟨-, hmade⟩ := mapZero_cases h
        · exact .inl hsame
        · exact .inr ⟨FaultReport.growsStack_iff.1 hgrows, hmade⟩
      · exact .inl (Prod.mk.inj h).2.symm
    · split at h <;> exact .inl (Prod.mk.inj h).2.symm

end UserMemory

namespace VirtualMemory

section Vacant

variable {δ φ π : Type} [BlockDriver δ] [Placement φ] [Replacement π] {vm : VirtualMemory δ φ π}
  {pid : Pid} {fault : FaultReport}

end Vacant

section Gains

variable {δ φ : Type} [BlockDriver δ] [SectorStore δ]
  {vm after : VirtualMemory δ φ StandardReplacement}

variable [Placement φ] [CompletePlacement φ] [ValidPlacement φ] {pid : Pid} {addr : Nat}
  {kind : PageKind} {writable : Bool}

end Gains

section Growing

variable {δ φ π : Type} {vm after : VirtualMemory δ φ π} {key : UserPage} {call : MemoryCall}
  {grown : List UserPage}

/-- Distinct pages of the region that stacks may grow in. -/
structure Confined (stackLimit : Nat) (pages : List UserPage) : Prop where
  nodup : pages.Nodup
  inRegion : ∀ key ∈ pages, key.InStackRegion stackLimit

/-- A process has no more pages in the region than fit there. -/
theorem Confined.length_le {stackLimit : Nat} {pages : List UserPage}
    (h : Confined stackLimit pages) (pid : Pid) :
    (pages.filter (·.owner = pid)).length ≤
      (min stackLimit stackTop + pageSize - 1) / pageSize := by
  have hnodup : ((pages.filter (·.owner = pid)).map (·.number)).Nodup := by
    refine (h.nodup.filter _).map_on ?_
    rintro ⟨_, _⟩ hfirst ⟨_, _⟩ hsecond rfl
    have howner := of_decide_eq_true (List.mem_filter.1 hfirst).2
    have howner' := of_decide_eq_true (List.mem_filter.1 hsecond).2
    exact congrArg (UserPage.mk · _) (howner.trans howner'.symm)
  have hrange : (pages.filter (·.owner = pid)).map (·.number) ⊆
      List.range' (pageNumber (stackTop - stackLimit))
        ((min stackLimit stackTop + pageSize - 1) / pageSize) := by
    intro number hmem
    obtain ⟨key, hkey, rfl⟩ := List.mem_map.1 hmem
    obtain ⟨hlow, hhigh⟩ := h.inRegion key (List.mem_filter.1 hkey).1
    rw [List.mem_range'_1]
    simp only [UserPage.base, pageStart, offsetInPage, pageNumber, pageSize, stackTop,
      userLimit] at *
    omega
  have hlength := (hnodup.subperm hrange).length_le
  rwa [List.length_map, List.length_range'] at hlength

end Growing

section Runs

variable {δ φ π : Type} [BlockDriver δ] [SectorStore δ]

variable {vm after : VirtualMemory δ φ π}

variable [ReliableStore δ] [Placement φ]
  [CompletePlacement φ] [ValidPlacement φ] [Replacement π] [GentleReplacement π]
  [ValidReplacement π] [DecisiveReplacement π]
  {call : MemoryCall} {reply : MemoryReply} {trace : List (MemoryCall × MemoryReply)}
  {grown last : List UserPage}

variable {pid : Pid} {addr : Nat} {result : Except MemoryError Unit}

end Runs

section Confinement

variable {δ φ : Type} [BlockDriver δ] [SectorStore δ] [Placement φ]

variable [ReliableStore δ] [CompletePlacement φ] [ValidPlacement φ]
  {vm start : VirtualMemory δ φ StandardReplacement}

end Confinement

end VirtualMemory

end DemandPaging
