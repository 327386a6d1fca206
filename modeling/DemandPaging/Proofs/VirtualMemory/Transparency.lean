import DemandPaging.Proofs.VirtualMemory.Supply
import DemandPaging.Proofs.VirtualMemory.Transfer

/-!
Processes cannot tell machines apart. What a call replies and does is settled by user memory alone,
so two machines that start alike stay alike, however much memory they have and whatever they evict.
-/
namespace DemandPaging

/-- Calls of processes, as opposed to those that look after the machine. -/
def MemoryCall.isOrdinary : MemoryCall → Bool
  | .evictPage | .usage => false
  | _ => true

namespace MemoryReply

/-- The same reply, up to where a page is. -/
def Agrees : MemoryReply → MemoryReply → Prop
  | .location first, .location second => first.isSome = second.isSome
  | first, second => first = second

def error? : MemoryReply → Option MemoryError
  | .done (.error error) | .bytes (.error error) _ | .evicted (.error error) => some error
  | _ => none

end MemoryReply

/-- The part of a trace that processes take part in. -/
def ordinary (trace : List (MemoryCall × MemoryReply)) : List (MemoryCall × MemoryReply) :=
  trace.filter (·.1.isOrdinary)

theorem ordinary_cons (call : MemoryCall) (reply : MemoryReply)
    (trace : List (MemoryCall × MemoryReply)) :
    ordinary ((call, reply) :: trace) =
      if call.isOrdinary then (call, reply) :: ordinary trace else ordinary trace :=
  List.filter_cons

theorem calls_ordinary (trace : List (MemoryCall × MemoryReply)) :
    (ordinary trace).map (·.1) = (trace.map (·.1)).filter (·.isOrdinary) := by
  rw [List.filter_map]
  rfl

namespace UserMemory

/-- What a call does to user memory. -/
inductive Step (memory : UserMemory) : MemoryCall → MemoryReply → UserMemory → Prop where
  | createSpace {pid : Pid} {fresh : Bool} {after : UserMemory} :
      memory.createSpace pid = (fresh, after) →
      Step memory (.createSpace pid) (.created fresh) after
  | destroySpace {pid : Pid} {result : Except MemoryError Unit} {after : UserMemory} :
      memory.destroySpace pid = (result, after) →
      Step memory (.destroySpace pid) (.done result) after
  | mapZero {pid : Pid} {addr : Nat} {kind : PageKind} {writable : Bool}
      {result : Except MemoryError Unit} {after : UserMemory} :
      memory.mapZero pid addr kind writable = (result, after) →
      Step memory (.mapZero pid addr kind writable) (.done result) after
  | unmap {pid : Pid} {addr : Nat} {result : Except MemoryError Unit} {after : UserMemory} :
      memory.unmap pid addr = (result, after) → Step memory (.unmap pid addr) (.done result) after
  | resolveFault {pid : Pid} {fault : FaultReport} {result : Except MemoryError Unit}
      {after : UserMemory} : memory.resolveFault pid fault = (result, after) →
      Step memory (.resolveFault pid fault) (.done result) after
  | copyFromUser {pid : Pid} {addr moved : Nat} {buffer got : List UInt8}
      {result : Except MemoryError Unit} :
      memory.reach pid addr false buffer.length = (result, moved) →
      (∀ i, got[i]? = if i < moved then memory.byte? pid (addr + i) else buffer[i]?) →
      Step memory (.copyFromUser pid addr buffer) (.bytes result got) memory
  | copyToUser {pid : Pid} {addr moved : Nat} {data : List UInt8}
      {result : Except MemoryError Unit} :
      memory.reach pid addr true data.length = (result, moved) →
      Step memory (.copyToUser pid addr data) (.done result)
        (memory.write pid addr (data.take moved))
  | location {pid : Pid} {addr : Nat} {location? : Option PageLocation} :
      location?.isSome = (memory.page? (.containing pid addr)).isSome →
      Step memory (.location pid addr) (.location location?) memory
  | kind {pid : Pid} {addr : Nat} {kind? : Option PageKind} :
      kind? = (memory.page? (.containing pid addr)).map (·.kind) →
      Step memory (.kind pid addr) (.kind kind?) memory

inductive Steps : UserMemory → List (MemoryCall × MemoryReply) → UserMemory → Prop where
  | nil {memory : UserMemory} : Steps memory [] memory
  | cons {memory mid after : UserMemory} {call : MemoryCall} {reply : MemoryReply}
      {trace : List (MemoryCall × MemoryReply)} : Step memory call reply mid →
      Steps mid trace after → Steps memory ((call, reply) :: trace) after

variable {memory after after' : UserMemory} {pid : Pid} {addr : Nat} {error : MemoryError}
  {call : MemoryCall} {reply reply' : MemoryReply}

theorem Step.agrees (h : Step memory call reply after) (h' : Step memory call reply' after') :
    reply.Agrees reply' ∧ after = after' := by
  cases h with
  | createSpace hcall =>
      cases h' with
      | createSpace hcall' =>
          cases hcall.symm.trans hcall'
          exact ⟨rfl, rfl⟩
  | destroySpace hcall =>
      cases h' with
      | destroySpace hcall' =>
          cases hcall.symm.trans hcall'
          exact ⟨rfl, rfl⟩
  | mapZero hcall =>
      cases h' with
      | mapZero hcall' =>
          cases hcall.symm.trans hcall'
          exact ⟨rfl, rfl⟩
  | unmap hcall =>
      cases h' with
      | unmap hcall' =>
          cases hcall.symm.trans hcall'
          exact ⟨rfl, rfl⟩
  | resolveFault hcall =>
      cases h' with
      | resolveFault hcall' =>
          cases hcall.symm.trans hcall'
          exact ⟨rfl, rfl⟩
  | copyFromUser hreach hbytes =>
      cases h' with
      | copyFromUser hreach' hbytes' =>
          cases hreach.symm.trans hreach'
          have hsame := List.ext_getElem? fun i => (hbytes i).trans (hbytes' i).symm
          rw [hsame]
          exact ⟨rfl, rfl⟩
  | copyToUser hreach =>
      cases h' with
      | copyToUser hreach' =>
          cases hreach.symm.trans hreach'
          exact ⟨rfl, rfl⟩
  | location hsome =>
      cases h' with
      | location hsome' => exact ⟨hsome.trans hsome'.symm, rfl⟩
  | kind hkind =>
      cases h' with
      | kind hkind' =>
          cases hkind.trans hkind'.symm
          exact ⟨rfl, rfl⟩

theorem access_external {write : Bool} (h : memory.access pid addr write = .error error) :
    error.isInternal = false := by
  simp only [access] at h
  split at h
  · cases h
    rfl
  · split at h
    · cases h
      rfl
    · split at h
      · cases h
        rfl
      · split at h <;> cases h
        rfl

theorem reach_external {write : Bool} {length moved : Nat}
    (h : memory.reach pid addr write length = (.error error, moved)) :
    error.isInternal = false := by
  induction length using Nat.strongRecOn generalizing addr moved with
  | ind length ih =>
      cases length with
      | zero =>
          rw [reach] at h
          cases h
      | succ length =>
          rw [reach] at h
          split at h
          · rename_i haccess
            cases h
            exact access_external haccess
          · have hpos : 0 < VirtualMemory.chunkLength addr (length + 1) :=
              VirtualMemory.chunkLength_pos addr (by omega)
            obtain ⟨hresult, -⟩ := Prod.mk.inj h
            exact ih _ (by omega) (Prod.ext hresult rfl)

theorem mapZero_external {kind : PageKind} {writable : Bool}
    (h : memory.mapZero pid addr kind writable = (.error error, after)) :
    error.isInternal = false := by
  simp only [mapZero] at h
  split at h
  · cases h
    rfl
  · split at h
    · cases h
      rfl
    · split at h <;> cases h
      rfl

theorem resolveFault_external {fault : FaultReport}
    (h : memory.resolveFault pid fault = (.error error, after)) : error.isInternal = false := by
  simp only [resolveFault] at h
  split at h
  · cases h
    rfl
  · split at h
    · split at h
      · exact mapZero_external h
      · cases h
        rfl
    · split at h <;> cases h
      rfl

/-- Every error of user memory is about the request. -/
theorem Step.external (h : Step memory call reply after) (herror : reply.error? = some error) :
    error.isInternal = false := by
  cases h with
  | createSpace => cases herror
  | destroySpace hcall =>
      simp only [UserMemory.destroySpace] at hcall
      split at hcall <;> cases hcall <;> cases herror
      rfl
  | mapZero hcall =>
      rename_i result
      cases result <;> cases herror
      exact mapZero_external hcall
  | unmap hcall =>
      simp only [UserMemory.unmap] at hcall
      split at hcall <;> cases hcall <;> cases herror
      rfl
  | resolveFault hcall =>
      rename_i result
      cases result <;> cases herror
      exact resolveFault_external hcall
  | copyFromUser hreach hbytes =>
      rename_i result
      cases result <;> cases herror
      exact reach_external hreach
  | copyToUser hreach =>
      rename_i result
      cases result <;> cases herror
      exact reach_external hreach
  | location => cases herror
  | kind => cases herror

theorem Steps.external {trace : List (MemoryCall × MemoryReply)} (h : Steps memory trace after) :
    ∀ step ∈ trace, ∀ error, step.2.error? = some error → error.isInternal = false := by
  induction h with
  | nil => nofun
  | cons hstep _ ih =>
      intro step hmem error herror
      obtain rfl | hmem := List.mem_cons.1 hmem
      · exact hstep.external herror
      · exact ih step hmem error herror

/-- User memory is all that the replies depend on. -/
theorem Steps.agrees {trace trace' : List (MemoryCall × MemoryReply)}
    (h : Steps memory trace after) (h' : Steps memory trace' after')
    (hcalls : trace.map (·.1) = trace'.map (·.1)) :
    List.Forall₂ (fun step step' => step.2.Agrees step'.2) trace trace' ∧ after = after' := by
  induction h generalizing trace' with
  | nil =>
      cases h' with
      | nil => exact ⟨.nil, rfl⟩
      | cons => cases hcalls
  | cons hstep _ ih =>
      cases h' with
      | nil => cases hcalls
      | cons hstep' hrest' =>
          obtain ⟨hcall, hrest⟩ := List.cons.inj hcalls
          cases hcall
          obtain ⟨hreply, rfl⟩ := hstep.agrees hstep'
          obtain ⟨hreplies, hafter⟩ := ih hrest' hrest
          exact ⟨.cons hreply hreplies, hafter⟩

end UserMemory

namespace VirtualMemory

variable {δ φ π : Type} [BlockDriver δ] [SectorStore δ] [ReliableStore δ] [Placement φ]
  [CompletePlacement φ] [ValidPlacement φ] [Replacement π] [GentleReplacement π]
  [ValidReplacement π] [DecisiveReplacement π] {vm after : VirtualMemory δ φ π}
  {call : MemoryCall} {reply : MemoryReply}
  {trace : List (MemoryCall × MemoryReply)}

/-- The books, the tables and the hardware are as they should be. -/
structure Healthy (vm : VirtualMemory δ φ π) : Prop where
  accounted : vm.Accounted none
  coherent : vm.Coherent
  equipped : vm.Equipped

omit [SectorStore δ] [CompletePlacement φ] [ValidPlacement φ] [ValidReplacement π]
  [DecisiveReplacement π] in
theorem Performed.healthy (hcases : Performed vm call reply after) (h : vm.Healthy) :
    after.Healthy :=
  ⟨hcases.accounted h.accounted, hcases.coherent h.accounted h.coherent,
    hcases.keepsParts.equipped h.equipped⟩

/-- A fault is resolved as user memory does it. -/
theorem Healthy.user_resolveFault (h : vm.Healthy) {pid : Pid} {fault : FaultReport}
    {result : Except MemoryError Unit} (hcall : vm.resolveFault pid fault = .ok (result, after)) :
    vm.user.resolveFault pid fault = (result, after.user) := by
  have hresolved := resolveFault_cases hcall
  refine (hresolved.refines h.accounted h.coherent).eq_of_external ?_
  rintro error rfl
  exact hresolved.external h.accounted h.equipped

theorem Performed.step (hcases : Performed vm call reply after) (h : vm.Healthy)
    (hordinary : call.isOrdinary = true) : UserMemory.Step vm.user call reply after.user := by
  have hbooks := h.accounted
  have hcoherent := h.coherent
  have hequipped := h.equipped
  cases hcases with
  | createSpace hcall => exact .createSpace (user_createSpace hcall)
  | destroySpace hcall => exact .destroySpace (user_destroySpace hcall hbooks)
  | mapZero hcall =>
      have hmapped := mapZero_cases hcall
      refine .mapZero ((hmapped.refines hbooks hcoherent).eq_of_external ?_)
      rintro error rfl
      exact hmapped.external hbooks hequipped
  | unmap hcall => exact .unmap (user_unmap hcall hbooks)
  | resolveFault hcall => exact .resolveFault (h.user_resolveFault hcall)
  | evictPage => cases hordinary
  | copyFromUser hcall =>
      obtain ⟨moved, hcopied⟩ := copyFromUser_cases hcall
      obtain ⟨hsame, -, hbytes⟩ := hcopied.bytes hbooks hcoherent
      rw [hsame]
      refine .copyFromUser ?_ hbytes
      obtain ⟨error, rfl, hinternal⟩ | hreach := hcopied.reach hbooks hcoherent
      · rw [hcopied.external rfl hbooks hequipped] at hinternal
        cases hinternal
      · exact hreach
  | copyToUser hcall =>
      obtain ⟨moved, hcopied⟩ := copyToUser_cases hcall
      rw [hcopied.user_eq hbooks hcoherent]
      refine .copyToUser ?_
      obtain ⟨error, rfl, hinternal⟩ | hreach := hcopied.reach hbooks hcoherent
      · rw [hcopied.external rfl hbooks hequipped] at hinternal
        cases hinternal
      · exact hreach
  | location hcall =>
      rename_i pid addr location?
      rw [VirtualMemory.location?, hbooks.page?_eq] at hcall
      cases hcall
      exact .location (by simp [page?_user])
  | kind hcall =>
      rename_i pid addr kind?
      rw [VirtualMemory.kind?, hbooks.page?_eq] at hcall
      cases hcall
      refine .kind ?_
      rw [page?_user, Option.map_map]
      rfl
  | usage => cases hordinary

omit [ReliableStore δ] [CompletePlacement φ] [ValidPlacement φ] [ValidReplacement π]
  [DecisiveReplacement π] in
/-- Whatever the machine does for itself is not seen. -/
theorem Performed.user_eq (hcases : Performed vm call reply after) (hbooks : vm.Accounted none)
    (hextra : call.isOrdinary = false) : after.user = vm.user := by
  cases hcases with
  | evictPage hcall => exact (Reclaims.of_evictWithin hcall).user_eq hbooks
  | usage => rfl
  | _ => cases hextra

theorem Run.steps (hrun : Run Eq vm trace after) (h : vm.Healthy) :
    after.Healthy ∧ UserMemory.Steps vm.user (ordinary trace) after.user := by
  induction hrun with
  | nil => exact ⟨h, .nil⟩
  | cons hstep hcall _ ih =>
      rename_i vm mid after driver call reply trace _
      cases hstep
      have hperformed := perform_cases hcall
      obtain ⟨hafter, hsteps⟩ := ih (hperformed.healthy h)
      refine ⟨hafter, ?_⟩
      rw [ordinary_cons]
      split
      · rename_i hordinary
        exact .cons (hperformed.step h hordinary) hsteps
      · rename_i hextra
        rw [hperformed.user_eq h.accounted (by simpa using hextra)] at hsteps
        exact hsteps

/-- Nothing that a process does tells two machines apart. -/
structure Indistinguishable {δ' φ' π' : Type} (vm : VirtualMemory δ φ π)
    (vm' : VirtualMemory δ' φ' π') (trace trace' : List (MemoryCall × MemoryReply)) : Prop where
  agree : List.Forall₂ (fun step step' => step.2.Agrees step'.2) (ordinary trace) (ordinary trace')
  external : ∀ step ∈ ordinary trace ++ ordinary trace', ∀ error, step.2.error? = some error →
    error.isInternal = false
  location? : ∀ pid addr, ∃ location? location?', vm.location? pid addr = .ok location? ∧
    vm'.location? pid addr = .ok location?' ∧ location?.isSome = location?'.isSome

theorem Run.indistinguishable {δ' φ' π' : Type} [BlockDriver δ'] [SectorStore δ']
    [ReliableStore δ'] [Placement φ'] [CompletePlacement φ'] [ValidPlacement φ']
    [Replacement π'] [GentleReplacement π'] [ValidReplacement π'] [DecisiveReplacement π']
    {vm' after' : VirtualMemory δ' φ' π'}
    {trace' : List (MemoryCall × MemoryReply)} (hrun : Run Eq vm trace after)
    (hrun' : Run Eq vm' trace' after') (h : vm.Healthy) (h' : vm'.Healthy)
    (huser : vm.user = vm'.user)
    (hcalls : (trace.map (·.1)).filter (·.isOrdinary) = (trace'.map (·.1)).filter (·.isOrdinary)) :
    Indistinguishable after after' trace trace' := by
  obtain ⟨hafter, hsteps⟩ := hrun.steps h
  obtain ⟨hafter', hsteps'⟩ := hrun'.steps h'
  rw [← huser] at hsteps'
  rw [← calls_ordinary, ← calls_ordinary] at hcalls
  obtain ⟨hagree, hsame⟩ := hsteps.agrees hsteps' hcalls
  refine ⟨hagree, ?_, ?_⟩
  · intro step hmem
    obtain hmem | hmem := List.mem_append.1 hmem
    · exact hsteps.external step hmem
    · exact hsteps'.external step hmem
  · intro pid addr
    refine ⟨_, _, by rw [location?, hafter.accounted.page?_eq]; rfl,
      by rw [location?, hafter'.accounted.page?_eq]; rfl, ?_⟩
    have hpage : (after.user.page? (.containing pid addr)).isSome =
        (after'.user.page? (.containing pid addr)).isSome := by
      rw [hsame]
    simpa [page?_user] using hpage

omit [SectorStore δ] [Placement φ] [CompletePlacement φ] [ValidPlacement φ] [Replacement π]
  [GentleReplacement π] [ValidReplacement π] [DecisiveReplacement π] in
theorem healthy_new {count stackLimit : Nat} {pool : FramePool} {disk : BlockDevice δ}
    (hpool : FramePool.new count = .ok pool) (hcount : 0 < count)
    (hdisk : (SwapArea.new disk).Roomy) (placement : φ) (policy : π) :
    (new (.new disk) pool placement policy stackLimit).Healthy := by
  refine ⟨accounted_new disk hpool placement policy stackLimit,
    coherent_new disk pool placement policy stackLimit, ?_, hdisk⟩
  obtain ⟨-, rfl⟩ := FramePool.new_eq_ok hpool
  simpa [new, FramePool.size] using hcount

/-- Processes see the same on two machines with sound disks, however many frames and slots there
are, wherever pages are placed and whichever of them are evicted, on demand or unasked. -/
theorem swapping_transparent {count count' stackLimit : Nat} {pool pool' : FramePool}
    {disk disk' : BlockDevice MemoryDisk} {placement placement' : StandardPlacement}
    {policy policy' : StandardReplacement} {trace trace' : List (MemoryCall × MemoryReply)}
    {vm vm' : VirtualMemory MemoryDisk StandardPlacement StandardReplacement}
    (hpool : FramePool.new count = .ok pool) (hpool' : FramePool.new count' = .ok pool')
    (hcount : 0 < count) (hcount' : 0 < count') (hdisk : (SwapArea.new disk).Roomy)
    (hdisk' : (SwapArea.new disk').Roomy)
    (hrun : Run Eq (new (.new disk) pool placement policy stackLimit) trace vm)
    (hrun' : Run Eq (new (.new disk') pool' placement' policy' stackLimit) trace' vm')
    (hcalls : (trace.map (·.1)).filter (·.isOrdinary) = (trace'.map (·.1)).filter (·.isOrdinary)) :
    Indistinguishable vm vm' trace trace' := by
  have huser : (new (.new disk) pool placement policy stackLimit).user =
      (new (.new disk') pool' placement' policy' stackLimit).user := by
    rw [user_new, user_new]
  exact hrun.indistinguishable hrun' (healthy_new hpool hcount hdisk placement policy)
    (healthy_new hpool' hcount' hdisk' placement' policy') huser hcalls

/-- A machine with a single frame, and one that has no need to swap. -/
def cramped : VirtualMemory MemoryDisk StandardPlacement StandardReplacement :=
  new (.new ⟨0, "hda", .swap, 16, .new 16, 0, 0⟩) ⟨.replicate 1 .blank, [], 0⟩
    (.ofName .firstFit) (.ofName .clock) 0

def spacious : VirtualMemory MemoryDisk StandardPlacement StandardReplacement :=
  new (.new ⟨0, "hda", .swap, 8, .new 8, 0, 0⟩) ⟨.replicate 3 .blank, [], 0⟩
    (.ofName .nextFit) (.ofName .fifo) 0

theorem swapping_transparent_cramped_spacious :
    ∃ trace trace' vm vm', trace.map (·.1) = [.createSpace 1, .mapZero 1 0 .ordinary false,
        .mapZero 1 4096 .ordinary true, .copyToUser 1 0 [1], .kind 1 0] ∧
      trace'.map (·.1) = [.createSpace 1, .mapZero 1 0 .ordinary false, .evictPage,
        .mapZero 1 4096 .ordinary true, .usage, .copyToUser 1 0 [1], .kind 1 0] ∧
      Run Eq cramped trace vm ∧ Run Eq spacious trace' vm' ∧
      Indistinguishable vm vm' trace trace' := by
  have hok : (cramped.run [.createSpace 1, .mapZero 1 0 .ordinary false,
      .mapZero 1 4096 .ordinary true, .copyToUser 1 0 [1], .kind 1 0]).isOk = true := by
    decide +kernel
  have hok' : (spacious.run [.createSpace 1, .mapZero 1 0 .ordinary false, .evictPage,
      .mapZero 1 4096 .ordinary true, .usage, .copyToUser 1 0 [1], .kind 1 0]).isOk = true := by
    decide +kernel
  obtain ⟨trace, vm, hcalls, hrun⟩ := exists_run Eq (fun _ => rfl) hok
  obtain ⟨trace', vm', hcalls', hrun'⟩ := exists_run Eq (fun _ => rfl) hok'
  have hpool : FramePool.new 1 = .ok ⟨.replicate 1 .blank, [], 0⟩ := rfl
  have hpool' : FramePool.new 3 = .ok ⟨.replicate 3 .blank, [], 0⟩ := rfl
  have hdisk : (SwapArea.new
      (⟨0, "hda", .swap, 16, .new 16, 0, 0⟩ : BlockDevice MemoryDisk)).Roomy := by
    decide
  have hdisk' : (SwapArea.new
      (⟨0, "hda", .swap, 8, .new 8, 0, 0⟩ : BlockDevice MemoryDisk)).Roomy := by
    decide
  refine ⟨trace, trace', vm, vm', hcalls, hcalls', hrun, hrun', ?_⟩
  exact swapping_transparent hpool hpool' (by decide) (by decide) hdisk hdisk' hrun hrun'
    (by rw [hcalls, hcalls']; rfl)

end VirtualMemory

end DemandPaging
