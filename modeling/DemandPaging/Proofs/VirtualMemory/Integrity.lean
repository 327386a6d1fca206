import DemandPaging.Proofs.VirtualMemory.Transfer

/-!
User memory keeps its bytes. An image of all pages is built from the calls and their replies alone,
and every copy out of user memory yields the bytes of the image, also while the device fails.
-/
namespace DemandPaging

/-- The bytes of the user pages that there are. -/
abbrev MemoryImage := UserPage → Option Page

namespace MemoryImage

def empty : MemoryImage := fun _ => none

def put (image : MemoryImage) (key : UserPage) (contents? : Option Page) : MemoryImage :=
  fun other => if key = other then contents? else image other

def removeSpace (image : MemoryImage) (pid : Pid) : MemoryImage :=
  fun key => if key.owner = pid then none else image key

def write (image : MemoryImage) (pid : Pid) (addr : Nat) (data : List UInt8) : MemoryImage :=
  fun key => (image key).map (UserMemory.written pid addr data key)

def byte? (image : MemoryImage) (pid : Pid) (addr : Nat) : Option UInt8 :=
  (image (.containing pid addr)).bind (·.toList[offsetInPage addr]?)

/-- The image after a call. A page that a fault makes is one that was not there. -/
def next (image : MemoryImage) (moved : Nat) : MemoryCall → MemoryReply → MemoryImage
  | .mapZero pid addr _ _, .done (.ok ()) =>
    image.put (.containing pid addr) (some (.zero pageSize))
  | .resolveFault pid fault, .done (.ok ()) =>
    if (image (.containing pid fault.addr)).isSome then image
    else image.put (.containing pid fault.addr) (some (.zero pageSize))
  | .copyToUser pid addr data, .done _ => image.write pid addr (data.take moved)
  | .unmap pid addr, .done (.ok ()) => image.put (.containing pid addr) none
  | .destroySpace pid, _ => image.removeSpace pid
  | _, _ => image

/-- What a copy from user memory puts into its buffer is the image where bytes were moved, and the
rest of the buffer is left alone. -/
def Yields (image : MemoryImage) (moved : Nat) : MemoryCall → MemoryReply → Prop
  | .copyFromUser pid addr buffer, .bytes _ got =>
    got.length = buffer.length ∧
      ∀ i, got[i]? = if i < moved then image.byte? pid (addr + i) else buffer[i]?
  | _, _ => True

end MemoryImage

namespace UserMemory

variable {memory after : UserMemory} {pid : Pid} {addr : Nat} {result : Except MemoryError Unit}

def image (memory : UserMemory) : MemoryImage := fun key => (memory.page? key).map (·.contents)

theorem image_set (memory : UserMemory) (key : UserPage) (page? : Option LogicalPage) :
    (memory.set key page?).image = memory.image.put key (page?.map (·.contents)) := by
  funext other
  simp only [image, set, MemoryImage.put]
  split <;> rfl

theorem image_write (memory : UserMemory) (pid : Pid) (addr : Nat) (data : List UInt8) :
    (memory.write pid addr data).image = memory.image.write pid addr data := by
  funext key
  simp [image, UserMemory.write, MemoryImage.write, Function.comp_def]

theorem byte?_image (memory : UserMemory) (pid : Pid) (addr : Nat) :
    memory.image.byte? pid addr = memory.byte? pid addr := by
  simp only [MemoryImage.byte?, image, byte?]
  cases memory.page? (.containing pid addr) <;> rfl

theorem image_mapZero {kind : PageKind} {writable : Bool}
    (h : memory.mapZero pid addr kind writable = (result, after)) (moved : Nat) :
    after.image = memory.image.next moved (.mapZero pid addr kind writable) (.done result) := by
  simp only [mapZero] at h
  split at h
  · cases h
    rfl
  · split at h
    · cases h
      rfl
    · split at h <;> cases h
      · rfl
      · exact image_set _ _ _

theorem image_resolveFault {fault : FaultReport}
    (h : memory.resolveFault pid fault = (result, after)) (moved : Nat) :
    after.image = memory.image.next moved (.resolveFault pid fault) (.done result) := by
  simp only [resolveFault] at h
  split at h
  · cases h
    rfl
  · split at h
    · rename_i hvacant
      have hnone : memory.image (.containing pid fault.addr) = none := by simp [image, hvacant]
      split at h
      · have hmade := image_mapZero h moved
        cases result with
        | error error => exact hmade
        | ok => exact hmade.trans (by simp [MemoryImage.next, hnone])
      · cases h
        rfl
    · rename_i page hpage
      have hsome : (memory.image (.containing pid fault.addr)).isSome = true := by
        simp [image, hpage]
      split at h <;> cases h
      · rfl
      · simp [MemoryImage.next, hsome]

theorem image_unmap (h : memory.unmap pid addr = (result, after)) (moved : Nat) :
    after.image = memory.image.next moved (.unmap pid addr) (.done result) := by
  simp only [unmap] at h
  split at h <;> cases h
  · exact image_set _ _ _
  · rfl

theorem image_destroySpace (h : memory.destroySpace pid = (result, after)) (moved : Nat) :
    after.image = memory.image.next moved (.destroySpace pid) (.done result) := by
  cases h
  funext key
  simp only [image, MemoryImage.next, MemoryImage.removeSpace]
  split <;> rfl

theorem image_createSpace {fresh : Bool} (h : memory.createSpace pid = (fresh, after)) :
    after.image = memory.image := by
  simp only [createSpace] at h
  split at h <;> cases h <;> rfl

end UserMemory

namespace VirtualMemory

variable {δ φ π : Type} [BlockDriver δ] [Placement φ] [Replacement π]

/-- How many bytes a call moves, if it is a copy. -/
def Transfers (vm after : VirtualMemory δ φ π) (moved : Nat) : MemoryCall → MemoryReply → Prop
  | .copyToUser pid addr data, .done result =>
    Moves (fun part mid => vm.copyToUser pid addr part = .ok (.ok (), mid)) pid addr true data
      result after moved
  | .copyFromUser pid addr buffer, .bytes result _ =>
    Moves (fun part mid => ∃ got, vm.copyFromUser pid addr part = .ok (.ok (), got, mid)) pid addr
      false buffer result after moved
  | _, _ => moved = 0

/-- A run along which an image is kept up and every copy yields its bytes. -/
inductive Tracks (drift : δ → δ → Prop) : VirtualMemory δ φ π → MemoryImage →
    List (MemoryCall × MemoryReply) → VirtualMemory δ φ π → MemoryImage → Prop where
  | nil {vm : VirtualMemory δ φ π} {image : MemoryImage} : Tracks drift vm image [] vm image
  | cons {vm mid after : VirtualMemory δ φ π} {image last : MemoryImage} {driver : δ}
      {call : MemoryCall} {reply : MemoryReply} {moved : Nat}
      {trace : List (MemoryCall × MemoryReply)} :
      drift vm.swap.disk.driver driver →
      (vm.withDriver driver).perform call = .ok (reply, mid) →
      Transfers (vm.withDriver driver) mid moved call reply → image.Yields moved call reply →
      Tracks drift mid (image.next moved call reply) trace after last →
      Tracks drift vm image ((call, reply) :: trace) after last

variable [SectorStore δ] {vm after : VirtualMemory δ φ π} {call : MemoryCall}
  {reply : MemoryReply} {drift : δ → δ → Prop} {trace : List (MemoryCall × MemoryReply)}

omit [Placement φ] [Replacement π] in
theorem user_withDriver {driver : δ}
    (hstored : SectorStore.stored driver = SectorStore.stored vm.swap.disk.driver) :
    (vm.withDriver driver).user = vm.user := by
  refine user_congr (fun _ => rfl) rfl (fun _ => rfl) fun key page _ => ?_
  cases page.location with
  | resident number => rfl
  | swappedOut slot => exact congrArg slot.page hstored

variable [GentleReplacement π]

theorem Performed.keepsImage (hcases : Performed vm call reply after)
    (hbooks : vm.Accounted none) (h : vm.Coherent) :
    ∃ moved, Transfers vm after moved call reply ∧ vm.user.image.Yields moved call reply ∧
      after.user.image = vm.user.image.next moved call reply := by
  cases hcases with
  | createSpace hcall =>
      exact ⟨0, rfl, trivial, UserMemory.image_createSpace (user_createSpace hcall)⟩
  | destroySpace hcall =>
      exact ⟨0, rfl, trivial, UserMemory.image_destroySpace (user_destroySpace hcall hbooks) 0⟩
  | mapZero hcall =>
      refine ⟨0, rfl, trivial, ?_⟩
      cases (mapZero_cases hcall).refines hbooks h with
      | carriedOut hspec => exact UserMemory.image_mapZero hspec 0
      | failed hresult _ hsame =>
          cases hresult
          exact congrArg UserMemory.image hsame
  | unmap hcall => exact ⟨0, rfl, trivial, UserMemory.image_unmap (user_unmap hcall hbooks) 0⟩
  | resolveFault hcall =>
      refine ⟨0, rfl, trivial, ?_⟩
      cases (resolveFault_cases hcall).refines hbooks h with
      | carriedOut hspec => exact UserMemory.image_resolveFault hspec 0
      | failed hresult _ hsame =>
          cases hresult
          exact congrArg UserMemory.image hsame
  | evictPage hcall =>
      have hsame := (Reclaims.of_evictWithin hcall).user_eq hbooks
      exact ⟨0, rfl, trivial, congrArg UserMemory.image hsame⟩
  | copyFromUser hcall =>
      obtain ⟨moved, hcopied⟩ := copyFromUser_cases hcall
      obtain ⟨hsame, hlength, hbytes⟩ := hcopied.bytes hbooks h
      refine ⟨moved, hcopied.moves, ⟨hlength, ?_⟩, congrArg UserMemory.image hsame⟩
      simpa only [UserMemory.byte?_image] using hbytes
  | copyToUser hcall =>
      obtain ⟨moved, hcopied⟩ := copyToUser_cases hcall
      refine ⟨moved, hcopied.moves, trivial, ?_⟩
      rw [hcopied.user_eq hbooks h, UserMemory.image_write]
      rfl
  | location => exact ⟨0, rfl, trivial, rfl⟩
  | kind => exact ⟨0, rfl, trivial, rfl⟩
  | usage => exact ⟨0, rfl, trivial, rfl⟩

theorem Run.tracks (hdrift : ∀ driver driver', drift driver driver' →
      SectorStore.stored driver' = SectorStore.stored driver)
    (hrun : Run drift vm trace after) (hbooks : vm.Accounted none) (h : vm.Coherent) :
    Tracks drift vm vm.user.image trace after after.user.image := by
  induction hrun with
  | nil => exact .nil
  | cons hstep hcall _ ih =>
      rename_i vm mid after driver call reply trace _
      have hbooks' := hbooks.withDriver driver
      have hcoherent : (vm.withDriver driver).Coherent := h.of_alike (fun _ => rfl) (.refl _)
      have hperformed := perform_cases hcall
      obtain ⟨moved, htransfers, hyields, himage⟩ := hperformed.keepsImage hbooks' hcoherent
      have hrest := ih (hperformed.accounted hbooks') (hperformed.coherent hbooks' hcoherent)
      rw [user_withDriver (hdrift _ _ hstep)] at hyields himage
      rw [himage] at hrest
      exact .cons hstep hcall htransfers hyields hrest

/-- Processes find their bytes again on a disk whose sectors fail as they like. -/
theorem data_integrity {count stackLimit : Nat} {pool : FramePool} {disk : BlockDevice FaultyDisk}
    {placement : φ} {policy : StandardReplacement}
    {vm : VirtualMemory FaultyDisk φ StandardReplacement}
    (hpool : FramePool.new count = .ok pool)
    (hrun : Run FaultyDisk.Refaulted (new (.new disk) pool placement policy stackLimit) trace vm) :
    Tracks FaultyDisk.Refaulted (new (.new disk) pool placement policy stackLimit) .empty trace vm
      vm.user.image := by
  have htracks := hrun.tracks (fun _ _ => FaultyDisk.Refaulted.stored_eq)
    (accounted_new disk hpool placement policy stackLimit)
    (coherent_new disk pool placement policy stackLimit)
  rwa [user_new] at htracks

/-- A machine with a single frame and three slots, the last of which cannot be written. -/
def worn : VirtualMemory FaultyDisk StandardPlacement StandardReplacement :=
  new (.new ⟨0, "hda", .swap, 24, ⟨.new 24, fun _ => false, (16 ≤ ·)⟩, 0, 0⟩)
    ⟨.replicate 1 .blank, [], 0⟩ (.ofName .firstFit) (.ofName .clock) 0

theorem data_integrity_worn :
    ∃ trace vm, trace.map (·.1) = [.createSpace 1, .mapZero 1 0 .ordinary true,
        .copyToUser 1 4094 [1, 2, 3], .mapZero 1 4096 .ordinary true,
        .copyFromUser 1 4094 [0, 0]] ∧
      Run FaultyDisk.Refaulted worn trace vm ∧
      Tracks FaultyDisk.Refaulted worn .empty trace vm vm.user.image := by
  have hok : (worn.run [.createSpace 1, .mapZero 1 0 .ordinary true,
      .copyToUser 1 4094 [1, 2, 3], .mapZero 1 4096 .ordinary true,
      .copyFromUser 1 4094 [0, 0]]).isOk = true := by
    decide +kernel
  obtain ⟨trace, vm, hcalls, hrun⟩ := exists_run FaultyDisk.Refaulted (fun _ => ⟨_, _, rfl⟩) hok
  have hpool : FramePool.new 1 = .ok ⟨.replicate 1 .blank, [], 0⟩ := rfl
  exact ⟨trace, vm, hcalls, hrun, data_integrity hpool hrun⟩

end VirtualMemory

end DemandPaging
