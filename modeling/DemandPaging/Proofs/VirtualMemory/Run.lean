import DemandPaging.Proofs.Outcome
import DemandPaging.Proofs.SwapArea
import DemandPaging.VirtualMemory.Call

/-!
Whole runs, as the calls that were made with the replies they got. Between two calls the device may
change on its own, as far as `drift` allows.
-/
namespace DemandPaging.VirtualMemory

variable {δ φ π : Type}

/-- The machine with another state of its device driver. -/
def withDriver (vm : VirtualMemory δ φ π) (driver : δ) : VirtualMemory δ φ π :=
  { vm with swap := vm.swap.withDisk { vm.swap.disk with driver } }

variable [BlockDriver δ] [Placement φ] [Replacement π] {drift : δ → δ → Prop}

/-- A run that does not halt. -/
inductive Run (drift : δ → δ → Prop) : VirtualMemory δ φ π →
    List (MemoryCall × MemoryReply) → VirtualMemory δ φ π → Prop where
  | nil {vm : VirtualMemory δ φ π} : Run drift vm [] vm
  | cons {vm mid after : VirtualMemory δ φ π} {driver : δ} {call : MemoryCall}
      {reply : MemoryReply} {trace : List (MemoryCall × MemoryReply)} :
      drift vm.swap.disk.driver driver →
      (vm.withDriver driver).perform call = .ok (reply, mid) →
      Run drift mid trace after → Run drift vm ((call, reply) :: trace) after

theorem Run.mono {drift' : δ → δ → Prop} (hdrift : ∀ driver driver', drift driver driver' →
      drift' driver driver') {vm after : VirtualMemory δ φ π}
    {trace : List (MemoryCall × MemoryReply)} (hrun : Run drift vm trace after) :
    Run drift' vm trace after := by
  induction hrun with
  | nil => exact .nil
  | cons hstep hcall _ ih => exact .cons (hdrift _ _ hstep) hcall ih

theorem Run.append {vm mid after : VirtualMemory δ φ π}
    {trace trace' : List (MemoryCall × MemoryReply)} (hrun : Run drift vm trace mid)
    (hrun' : Run drift mid trace' after) : Run drift vm (trace ++ trace') after := by
  induction hrun with
  | nil => exact hrun'
  | cons hstep hcall _ ih => exact .cons hstep hcall (ih hrun')

/-- Where the device does not change on its own, a run is what `run` computes. -/
theorem run_eq_ok_iff {vm after : VirtualMemory δ φ π} {calls : List MemoryCall}
    {replies : List MemoryReply} :
    vm.run calls = .ok (replies, after) ↔
      ∃ trace, trace.map (·.1) = calls ∧ trace.map (·.2) = replies ∧ Run Eq vm trace after := by
  induction calls generalizing vm replies with
  | nil =>
      constructor
      · intro h
        cases h
        exact ⟨[], rfl, rfl, .nil⟩
      · rintro ⟨trace, hcalls, rfl, hrun⟩
        cases List.map_eq_nil_iff.1 hcalls
        cases hrun
        rfl
  | cons call calls ih =>
      constructor
      · intro h
        obtain ⟨⟨reply, mid⟩, hperform, h⟩ := bind_eq_ok.1 h
        obtain ⟨⟨rest, final⟩, hrest, h⟩ := bind_eq_ok.1 h
        cases h
        obtain ⟨trace, rfl, rfl, hrun⟩ := ih.1 hrest
        exact ⟨(call, reply) :: trace, rfl, rfl, .cons rfl hperform hrun⟩
      · rintro ⟨trace, hcalls, rfl, hrun⟩
        cases hrun with
        | nil => cases hcalls
        | cons hdrift hperform hrun =>
            cases hdrift
            cases hcalls
            have hrest := ih.2 ⟨_, rfl, rfl, hrun⟩
            exact bind_eq_ok.2 ⟨_, hperform, bind_eq_ok.2 ⟨_, hrest, rfl⟩⟩

/-- Calls that were carried out make a run, whatever else the device may do. -/
theorem exists_run_of_run (drift : δ → δ → Prop) {vm : VirtualMemory δ φ π}
    {calls : List MemoryCall} {outcome : List MemoryReply × VirtualMemory δ φ π}
    (hdrift : ∀ driver, drift driver driver) (h : vm.run calls = .ok outcome) :
    ∃ trace, trace.map (·.1) = calls ∧ Run drift vm trace outcome.2 := by
  obtain ⟨trace, hcalls, -, hrun⟩ := run_eq_ok_iff.1 h
  exact ⟨trace, hcalls, hrun.mono fun _ _ heq => heq ▸ hdrift _⟩

/-- Calls that do not halt make a run. -/
theorem exists_run (drift : δ → δ → Prop) {vm : VirtualMemory δ φ π} {calls : List MemoryCall}
    (hdrift : ∀ driver, drift driver driver) (h : (vm.run calls).isOk = true) :
    ∃ trace after, trace.map (·.1) = calls ∧ Run drift vm trace after := by
  cases hrun : vm.run calls with
  | error halt =>
      rw [hrun] at h
      cases h
  | ok outcome =>
      obtain ⟨trace, hcalls, hrun⟩ := exists_run_of_run drift hdrift hrun
      exact ⟨trace, _, hcalls, hrun⟩

/-- What every call and every drift keep, a run keeps. -/
theorem Run.invariant (Inv : VirtualMemory δ φ π → Prop)
    (hdrift : ∀ {vm driver}, Inv vm → drift vm.swap.disk.driver driver → Inv (vm.withDriver driver))
    (hperform : ∀ {vm after call reply}, Inv vm → vm.perform call = .ok (reply, after) → Inv after)
    {vm after : VirtualMemory δ φ π} {trace : List (MemoryCall × MemoryReply)}
    (hrun : Run drift vm trace after) (hinv : Inv vm) : Inv after := by
  induction hrun with
  | nil => exact hinv
  | cons hstep hcall hrest ih => exact ih (hperform (hdrift hinv hstep) hcall)

/-- One call, read off its reply. -/
inductive Performed (vm : VirtualMemory δ φ π) :
    MemoryCall → MemoryReply → VirtualMemory δ φ π → Prop where
  | createSpace {pid : Pid} {fresh : Bool} {after : VirtualMemory δ φ π} :
      vm.createSpace pid = (fresh, after) →
      Performed vm (.createSpace pid) (.created fresh) after
  | destroySpace {pid : Pid} {result : Except MemoryError Unit} {after : VirtualMemory δ φ π} :
      vm.destroySpace pid = .ok (result, after) →
      Performed vm (.destroySpace pid) (.done result) after
  | mapZero {pid : Pid} {addr : Nat} {kind : PageKind} {writable : Bool}
      {result : Except MemoryError Unit} {after : VirtualMemory δ φ π} :
      vm.mapZero pid addr kind writable = .ok (result, after) →
      Performed vm (.mapZero pid addr kind writable) (.done result) after
  | unmap {pid : Pid} {addr : Nat} {result : Except MemoryError Unit}
      {after : VirtualMemory δ φ π} : vm.unmap pid addr = .ok (result, after) →
      Performed vm (.unmap pid addr) (.done result) after
  | resolveFault {pid : Pid} {fault : FaultReport} {result : Except MemoryError Unit}
      {after : VirtualMemory δ φ π} : vm.resolveFault pid fault = .ok (result, after) →
      Performed vm (.resolveFault pid fault) (.done result) after
  | evictPage {result : Except MemoryError SwapSlot} {after : VirtualMemory δ φ π} :
      vm.evictPage = .ok (result, after) → Performed vm .evictPage (.evicted result) after
  | copyFromUser {pid : Pid} {addr : Nat} {buffer got : List UInt8}
      {result : Except MemoryError Unit} {after : VirtualMemory δ φ π} :
      vm.copyFromUser pid addr buffer = .ok (result, got, after) →
      Performed vm (.copyFromUser pid addr buffer) (.bytes result got) after
  | copyToUser {pid : Pid} {addr : Nat} {data : List UInt8} {result : Except MemoryError Unit}
      {after : VirtualMemory δ φ π} : vm.copyToUser pid addr data = .ok (result, after) →
      Performed vm (.copyToUser pid addr data) (.done result) after
  | location {pid : Pid} {addr : Nat} {location? : Option PageLocation} :
      vm.location? pid addr = .ok location? →
      Performed vm (.location pid addr) (.location location?) vm
  | kind {pid : Pid} {addr : Nat} {kind? : Option PageKind} : vm.kind? pid addr = .ok kind? →
      Performed vm (.kind pid addr) (.kind kind?) vm
  | usage : Performed vm .usage (.usage vm.usage) vm

theorem perform_cases {vm after : VirtualMemory δ φ π} {call : MemoryCall} {reply : MemoryReply}
    (h : vm.perform call = .ok (reply, after)) : Performed vm call reply after := by
  cases call with
  | createSpace pid =>
      cases h
      exact .createSpace rfl
  | destroySpace pid =>
      obtain ⟨⟨result, mid⟩, hcall, h⟩ := bind_eq_ok.1 h
      cases h
      exact .destroySpace hcall
  | mapZero pid addr kind writable =>
      obtain ⟨⟨result, mid⟩, hcall, h⟩ := bind_eq_ok.1 h
      cases h
      exact .mapZero hcall
  | unmap pid addr =>
      obtain ⟨⟨result, mid⟩, hcall, h⟩ := bind_eq_ok.1 h
      cases h
      exact .unmap hcall
  | resolveFault pid fault =>
      obtain ⟨⟨result, mid⟩, hcall, h⟩ := bind_eq_ok.1 h
      cases h
      exact .resolveFault hcall
  | evictPage =>
      obtain ⟨⟨result, mid⟩, hcall, h⟩ := bind_eq_ok.1 h
      cases h
      exact .evictPage hcall
  | copyFromUser pid addr buffer =>
      obtain ⟨⟨result, got, mid⟩, hcall, h⟩ := bind_eq_ok.1 h
      cases h
      exact .copyFromUser hcall
  | copyToUser pid addr data =>
      obtain ⟨⟨result, mid⟩, hcall, h⟩ := bind_eq_ok.1 h
      cases h
      exact .copyToUser hcall
  | location pid addr =>
      obtain ⟨location?, hcall, h⟩ := bind_eq_ok.1 h
      cases h
      exact .location hcall
  | kind pid addr =>
      obtain ⟨kind?, hcall, h⟩ := bind_eq_ok.1 h
      cases h
      exact .kind hcall
  | usage =>
      cases h
      exact .usage

end DemandPaging.VirtualMemory
