import DemandPaging.BlockDevice.FaultyDisk
import DemandPaging.Proofs.VirtualMemory.Coherence

/-!
What an address is translated to. Tables and pages are compared address by address here, through the
lookups that the machine itself uses.
-/
namespace DemandPaging

namespace VirtualMemory

variable {δ φ π : Type} {vm : VirtualMemory δ φ π}

/-- Addresses lead to the frames of their own pages and nowhere else. -/
structure Translated (vm : VirtualMemory δ φ π) : Prop where
  frame?_eq_some : ∀ {pid addr number}, vm.tables.frame? pid addr = some number ↔
    ∃ page, vm.page? pid addr = .ok (some page) ∧ page.location = .resident number
  isSet_writable : ∀ {pid addr number page}, vm.tables.frame? pid addr = some number →
    vm.page? pid addr = .ok (some page) →
    vm.tables.isSet .writable pid addr = page.writable
  not_present : ∀ {pid addr entry}, vm.tables.entry? pid addr = some entry →
    entry.flag .present = false → entry.flag .dirty = false ∧
      ∃ page slot, vm.page? pid addr = .ok (some page) ∧ page.location = .swappedOut slot
  page_of_entry : ∀ {pid addr entry}, vm.tables.entry? pid addr = some entry →
    ∃ page, vm.page? pid addr = .ok (some page)
  space_of_cell : ∀ {key cell}, vm.cell? key = some cell → vm.tables.contains key.owner = true
  frame_owned : ∀ {pid addr number}, vm.tables.frame? pid addr = some number →
    ∃ frame, vm.pool.frame? number = some frame ∧ frame.status.allocated = true ∧
      frame.owner = some (.containing pid addr)

/-- An entry that fits is present for a resident page and names its frame. -/
theorem Fits.frame_eq_some {page? : Option AnonPage} {meaning? : Option Translation}
    (h : Fits page? meaning?) {number : FrameNumber} :
    (meaning?.filter (·.present)).map (·.frame) = some number ↔
      page?.map (·.location) = some (.resident number) := by
  cases h with
  | absent => simp
  | resident _ hlocation => simp [hlocation]
  | swappedOut hlocation hmeaning =>
      cases meaning? with
      | none => simp [hlocation]
      | some meaning => simp [hlocation, (hmeaning meaning rfl).1]

theorem Coherent.frame?_eq_some (h : vm.Coherent) {pid : Pid} {addr : Nat}
    {number : FrameNumber} :
    vm.tables.frame? pid addr = some number ↔
      vm.home? (.containing pid addr) = some (.resident number) := by
  rw [AddressSpaces.frame?_eq, home?]
  exact (h.fits _).frame_eq_some

theorem Coherent.fits_entry (h : vm.Coherent) {pid : Pid} {addr : Nat} {entry : PageTableEntry}
    (hentry : vm.tables.entry? pid addr = some entry) :
    Fits (vm.held? (.containing pid addr)) (some entry.translation) := by
  have hfits := h.fits (.containing pid addr)
  rw [AddressSpaces.translation?_containing, hentry] at hfits
  exact hfits

theorem Coherent.translated (h : vm.Coherent) (hbooks : vm.Accounted none) : vm.Translated := by
  refine ⟨?_, ?_, ?_, ?_, ?_, ?_⟩
  · intro pid addr number
    simp only [hbooks.page?_eq_some, h.frame?_eq_some]
    exact Option.map_eq_some_iff
  · intro pid addr number page hframe hheld
    rw [hbooks.page?_eq_some] at hheld
    rw [h.frame?_eq_some, home?_of_held? hheld] at hframe
    have hfits := h.fits (.containing pid addr)
    rw [hheld] at hfits
    rw [AddressSpaces.isSet_writable]
    generalize vm.tables.translation? (.containing pid addr) = meaning? at hfits
    cases hfits with
    | resident => rfl
    | swappedOut hlocation => simp [hlocation] at hframe
  · intro pid addr entry hentry habsent
    simp only [hbooks.page?_eq_some]
    exact (h.fits_entry hentry).of_not_present habsent
  · intro pid addr entry hentry
    simp only [hbooks.page?_eq_some]
    exact (h.fits_entry hentry).exists_page
  · intro key cell hcell
    obtain ⟨page, rfl⟩ := hbooks.exists_page hcell
    exact h.spaced (held?_of_cell? hcell)
  · intro pid addr number hframe
    have howner := hbooks.owner?_eq_some.2 (h.frame?_eq_some.1 hframe)
    obtain ⟨frame, hsome, hkey⟩ := Option.bind_eq_some_iff.1 howner
    exact ⟨frame, hsome, (hbooks.sound.allocated_iff hsome).2 ⟨_, howner⟩, hkey⟩

/-- With a standard policy, tables and pages agree after every run, whatever the device does. -/
theorem translation_coherence [BlockDriver δ] [Placement φ] {count stackLimit : Nat}
    {pool : FramePool} {disk : BlockDevice δ} {placement : φ} {policy : StandardReplacement}
    {trace : List (MemoryCall × MemoryReply)} {vm : VirtualMemory δ φ StandardReplacement}
    (hpool : FramePool.new count = .ok pool)
    (hrun : Run (fun _ _ => True) (new (.new disk) pool placement policy stackLimit) trace vm) :
    vm.Translated := by
  have hbooks := accounted_new disk hpool placement policy stackLimit
  have hcoherent := coherent_new disk pool placement policy stackLimit
  exact (hrun.coherent hbooks hcoherent).translated (hrun.accounted hbooks)

/-- A machine with a single frame, whose disk fails wherever it is written. -/
def unwritable : VirtualMemory FaultyDisk StandardPlacement StandardReplacement :=
  new (.new ⟨0, "hda", .swap, 16, ⟨.new 16, fun _ => false, fun _ => true⟩, 0, 0⟩)
    ⟨.replicate 1 .blank, [], 0⟩ (.ofName .firstFit) (.ofName .clock) 0

theorem translation_coherence_unwritable :
    ∃ trace vm, trace.map (·.1) =
        [.createSpace 1, .mapZero 1 0 .ordinary true, .mapZero 1 4096 .ordinary false] ∧
      Run (fun _ _ => True) unwritable trace vm ∧ vm.Translated := by
  have hok : (unwritable.run [.createSpace 1, .mapZero 1 0 .ordinary true,
      .mapZero 1 4096 .ordinary false]).isOk = true := by
    decide +kernel
  obtain ⟨trace, vm, hcalls, hrun⟩ := exists_run (fun _ _ => True) (fun _ => trivial) hok
  have hpool : FramePool.new 1 = .ok ⟨.replicate 1 .blank, [], 0⟩ := rfl
  exact ⟨trace, vm, hcalls, hrun, translation_coherence hpool hrun⟩

end VirtualMemory

end DemandPaging
