import DemandPaging.Proofs.SectorArray
import DemandPaging.Proofs.StoreCalls
import DemandPaging.VirtualMemory.Boot

/-!
The ledger of the devices that were ever registered, which has the i-th of them under the number i.
What the registry holds, finds and hands out is read off the ledger and the numbers of the devices
that have left.
-/
namespace DemandPaging

/-- What a driver is registered with. -/
structure Registration (δ : Type) where
  type : DeviceType
  name : String
  size : SectorNumber
  driver : δ

/-- The device under its number, before the first transfer. -/
def Registration.device {δ : Type} (new : Registration δ) (index : Nat) : BlockDevice δ :=
  .unused index new.name new.type new.size new.driver

inductive DeviceKey where
  | index (index : Nat)
  | name (name : String)
deriving DecidableEq, Repr

/-- What is asked of a registry, and of the devices in it. -/
inductive RegistryCall (δ : Type) where
  | register (new : Registration δ)
  | claim (type : DeviceType) (name : Option String)
  | claimSwap (name : Option String)
  | boot (options : BootOptions)
  | transfer (key : DeviceKey) (call : SectorCall)

inductive RegistryReply (δ : Type) where
  | registered (index : Nat)
  | handed (device? : Option (BlockDevice δ))
  /-- The reply to a transfer, and the device behind it. -/
  | moved (reply : SectorReply) (device : BlockDevice δ)
  | absent

namespace RegistryCall

variable {δ : Type}

def registration? : RegistryCall δ → Option (Registration δ)
  | register new => some new
  | claim .. | claimSwap .. | boot .. | transfer .. => none

/-- The device that is to be handed out. -/
def wants? : RegistryCall δ → Option (DeviceType × Option String)
  | claim type name => some (type, name)
  | claimSwap name => some (.swap, name)
  | boot options => some (.swap, options.swapDevice)
  | register .. | transfer .. => none

end RegistryCall

abbrev RegistryEvent (δ : Type) := RegistryCall δ × RegistryReply δ

namespace RegistryEvent

variable {δ : Type}

/-- The number of the device that an event hands out. -/
def handed? : RegistryEvent δ → Option Nat
  | (_, .handed device?) => device?.map (·.index)
  | (_, .registered _) | (_, .moved ..) | (_, .absent) => none

/-- The ledger with an event added to it. -/
def record (ledger : List (BlockDevice δ)) : RegistryEvent δ → List (BlockDevice δ)
  | (.register new, _) => ledger ++ [new.device ledger.length]
  | (_, .moved _ device) => ledger.set device.index device
  | _ => ledger

end RegistryEvent

namespace DeviceRegistry

variable {δ : Type}

/-- The devices that were registered, in the state of their last transfer from the registry. -/
def ledger (trace : List (RegistryEvent δ)) : List (BlockDevice δ) :=
  trace.foldl RegistryEvent.record []

def registrations (trace : List (RegistryEvent δ)) : List (Registration δ) :=
  trace.filterMap (·.1.registration?)

def handedOut (trace : List (RegistryEvent δ)) : List Nat := trace.filterMap (·.handed?)

/-- The devices that nobody has claimed. -/
def unclaimed (trace : List (RegistryEvent δ)) : List (BlockDevice δ) :=
  (ledger trace).filter fun device => device.index ∉ handedOut trace

theorem ledger_concat (trace : List (RegistryEvent δ)) (event : RegistryEvent δ) :
    ledger (trace ++ [event]) = event.record (ledger trace) := by
  rw [ledger, List.foldl_append]
  rfl

theorem registrations_concat (trace : List (RegistryEvent δ)) (event : RegistryEvent δ) :
    registrations (trace ++ [event]) = registrations trace ++ event.1.registration?.toList := by
  rw [registrations, List.filterMap_append, registrations]
  cases h : event.1.registration? <;> simp [h]

theorem handedOut_concat (trace : List (RegistryEvent δ)) (event : RegistryEvent δ) :
    handedOut (trace ++ [event]) = handedOut trace ++ event.handed?.toList := by
  rw [handedOut, List.filterMap_append, handedOut]
  cases h : event.handed? <;> simp [h]

/-- Finds a device that is still in the registry. -/
def find? (registry : DeviceRegistry δ) : DeviceKey → Option (BlockDevice δ)
  | .index index => registry.atIndex? index
  | .name name => registry.named? name

def perform [BlockDriver δ] (registry : DeviceRegistry δ) :
    RegistryCall δ → Except Halt (RegistryReply δ × DeviceRegistry δ)
  | .register new =>
    let (index, registry, _) := registry.register new.type new.name new.size new.driver
    return (.registered index, registry)
  | .claim type name =>
    match registry.claim? type name with
    | none => return (.handed none, registry)
    | some (device, registry) => return (.handed (some device), registry)
  | .claimSwap name =>
    match SwapArea.claim? registry name with
    | none => return (.handed none, registry)
    | some (area, registry) => return (.handed (some area.disk), registry)
  | .boot options => do
    let boot ← VirtualMemory.boot options registry
    match boot.result with
    | .error _ => return (.handed none, boot.registry)
    | .ok vm => return (.handed (some vm.swap.disk), boot.registry)
  | .transfer key call =>
    match registry.find? key with
    | none => return (.absent, registry)
    | some device => do
      let (reply, device) ← device.perform call
      return (.moved reply device, registry.replace device)

theorem claimSwap?_eq_some {registry rest : DeviceRegistry δ} {name : Option String}
    {area : SwapArea δ} : SwapArea.claim? registry name = some (area, rest) ↔
      ∃ device, area = .new device ∧ registry.claim? .swap name = some (device, rest) := by
  simp only [SwapArea.claim?, Option.map_eq_some_iff, Prod.exists, Prod.mk.injEq]
  constructor
  · rintro ⟨device, _, hclaim, rfl, rfl⟩
    exact ⟨device, rfl, hclaim⟩
  · rintro ⟨device, rfl, hclaim⟩
    exact ⟨device, rest, hclaim, rfl, rfl⟩

/-- One call of the registry, read off its reply. -/
inductive Performed [BlockDriver δ] (registry : DeviceRegistry δ) :
    RegistryCall δ → RegistryReply δ → DeviceRegistry δ → Prop where
  | registered {new : Registration δ} :
      Performed registry (.register new) (.registered registry.nextIndex)
        ⟨registry.devices ++ [new.device registry.nextIndex], registry.nextIndex + 1⟩
  | missed {call : RegistryCall δ} {type : DeviceType} {name : Option String} :
      call.wants? = some (type, name) → registry.claim? type name = none →
      Performed registry call (.handed none) registry
  | handed {call : RegistryCall δ} {type : DeviceType} {name : Option String}
      {device : BlockDevice δ} {after : DeviceRegistry δ} : call.wants? = some (type, name) →
      registry.claim? type name = some (device, after) →
      Performed registry call (.handed (some device)) after
  | absent {key : DeviceKey} {call : SectorCall} : registry.find? key = none →
      Performed registry (.transfer key call) .absent registry
  | moved {key : DeviceKey} {call : SectorCall} {device moved : BlockDevice δ}
      {reply : SectorReply} : registry.find? key = some device →
      device.perform call = .ok (reply, moved) →
      Performed registry (.transfer key call) (.moved reply moved) (registry.replace moved)

/-- A boot claims the swap device, and fails for want of one only. -/
theorem boot_eq_ok {options : BootOptions} {registry : DeviceRegistry δ} {boot : Boot δ}
    (h : VirtualMemory.boot options registry = .ok boot) :
    (registry.claim? .swap options.swapDevice = none ∧ boot.result = .error .noSwapDevice ∧
        boot.registry = registry) ∨
      ∃ device vm, registry.claim? .swap options.swapDevice = some (device, boot.registry) ∧
        boot.result = .ok vm ∧ vm.swap = .new device := by
  rw [VirtualMemory.boot, SwapArea.claim?] at h
  cases hclaim : registry.claim? .swap options.swapDevice with
  | none =>
      rw [hclaim] at h
      cases h
      exact .inl ⟨rfl, rfl, rfl⟩
  | some claimed =>
      rw [hclaim] at h
      obtain ⟨pool, -, h⟩ := bind_eq_ok.1 h
      cases h
      exact .inr ⟨claimed.1, _, rfl, rfl, rfl⟩

theorem perform_cases [BlockDriver δ] {registry after : DeviceRegistry δ} {call : RegistryCall δ}
    {reply : RegistryReply δ} (h : registry.perform call = .ok (reply, after)) :
    Performed registry call reply after := by
  cases call with
  | register new =>
      cases h
      exact .registered
  | claim type name =>
      simp only [perform] at h
      split at h
      · rename_i hnone
        cases h
        exact .missed rfl hnone
      · rename_i hsome
        cases h
        exact .handed rfl hsome
  | claimSwap name =>
      simp only [perform, SwapArea.claim?] at h
      cases hclaim : registry.claim? .swap name with
      | none =>
          rw [hclaim] at h
          cases h
          exact .missed rfl hclaim
      | some claimed =>
          rw [hclaim] at h
          cases h
          exact .handed rfl hclaim
  | boot options =>
      obtain ⟨boot, hboot, h⟩ := bind_eq_ok.1 h
      obtain ⟨hclaim, hresult, hsame⟩ | ⟨device, vm, hclaim, hresult, hswap⟩ := boot_eq_ok hboot
      · rw [hresult] at h
        cases h
        rw [hsame]
        exact .missed rfl hclaim
      · simp only [hresult] at h
        cases h
        rw [hswap]
        exact .handed rfl hclaim
  | transfer key call =>
      simp only [perform] at h
      split at h
      · rename_i hnone
        cases h
        exact .absent hnone
      · rename_i device hdevice
        obtain ⟨⟨reply, moved⟩, hmoved, h⟩ := bind_eq_ok.1 h
        cases h
        exact .moved hdevice hmoved

/-- The devices of a ledger have their places as numbers. -/
def Numbered (devices : List (BlockDevice δ)) : Prop :=
  devices.map (·.index) = List.range devices.length

/-- A device of the registry, once `device` has taken the place of its number. -/
def updated (device old : BlockDevice δ) : BlockDevice δ :=
  if old.index = device.index then device else old

theorem index_updated (device old : BlockDevice δ) : (updated device old).index = old.index := by
  rw [updated]
  split
  · rename_i heq
    exact heq.symm
  · rfl

namespace Numbered

variable {devices : List (BlockDevice δ)} {device : BlockDevice δ}

theorem index_eq (h : Numbered devices) {index : Nat} (hdevice : devices[index]? = some device) :
    device.index = index := by
  have hplace : (devices.map (·.index))[index]? = some device.index := by
    rw [List.getElem?_map, hdevice]
    rfl
  rw [h] at hplace
  obtain ⟨hlt, hsame⟩ := List.getElem?_eq_some_iff.1 hplace
  rw [← hsame, List.getElem_range]

theorem mem_iff (h : Numbered devices) :
    device ∈ devices ↔ devices[device.index]? = some device := by
  refine ⟨fun hmem => ?_, List.mem_of_getElem?⟩
  obtain ⟨index, hindex⟩ := List.mem_iff_getElem?.1 hmem
  rwa [h.index_eq hindex]

theorem find?_index (h : Numbered devices) (index : Nat) :
    devices.find? (·.index == index) = devices[index]? := by
  cases hplace : devices[index]? with
  | none =>
      refine List.find?_eq_none.2 fun device hmem hindex => ?_
      have hdevice := h.mem_iff.1 hmem
      rw [beq_iff_eq.1 hindex, hplace] at hdevice
      cases hdevice
  | some device =>
      cases hfind : devices.find? (·.index == index) with
      | none =>
          have hmem := List.mem_of_getElem? hplace
          exact absurd (beq_iff_eq.2 (h.index_eq hplace)) (List.find?_eq_none.1 hfind device hmem)
      | some found =>
          have hfound := h.mem_iff.1 (List.mem_of_find?_eq_some hfind)
          have hindex := List.find?_some hfind
          rw [beq_iff_eq.1 hindex, hplace] at hfound
          exact hfound.symm

theorem nodup (h : Numbered devices) : (devices.map (·.index)).Nodup := by
  rw [h]
  exact List.nodup_range

theorem concat (h : Numbered devices) (new : Registration δ) :
    Numbered (devices ++ [new.device devices.length]) := by
  rw [Numbered, List.map_append, h, List.length_append, List.length_singleton, List.range_succ]
  rfl

/-- Places are numbers. -/
theorem set_eq_map (h : Numbered devices) (device : BlockDevice δ) :
    devices.set device.index device = devices.map (updated device) := by
  ext index : 1
  rw [List.getElem?_set, List.getElem?_map]
  cases hplace : devices[index]? with
  | none =>
      have hlength := List.getElem?_eq_none_iff.1 hplace
      split
      · rename_i heq
        rw [if_neg (by omega)]
        rfl
      · rfl
  | some old =>
      obtain ⟨hlt, -⟩ := List.getElem?_eq_some_iff.1 hplace
      rw [Option.map_some, updated, h.index_eq hplace]
      by_cases heq : device.index = index
      · rw [if_pos heq, if_pos (by omega), if_pos heq.symm]
      · rw [if_neg heq, if_neg (Ne.symm heq)]

end Numbered

/-- The first match leaves a list as its number does. -/
theorem eraseP_eq_filter {devices : List (BlockDevice δ)} {device : BlockDevice δ}
    {p : BlockDevice δ → Bool} (hnodup : (devices.map (·.index)).Nodup)
    (h : devices.find? p = some device) :
    devices.eraseP p = devices.filter (·.index != device.index) := by
  induction devices with
  | nil => cases h
  | cons first rest ih =>
      rw [List.map_cons, List.nodup_cons] at hnodup
      obtain ⟨hfirst, hrest⟩ := hnodup
      rw [List.find?_cons] at h
      cases hp : p first with
      | true =>
          rw [hp] at h
          cases h
          have hothers : rest.filter (·.index != device.index) = rest := by
            refine List.filter_eq_self.2 fun other hother => bne_iff_ne.2 fun heq => hfirst ?_
            exact List.mem_map.2 ⟨other, hother, heq⟩
          rw [List.eraseP_cons_of_pos hp, List.filter_cons, hothers]
          simp
      | false =>
          rw [hp] at h
          have hne : (first.index != device.index) = true := by
            refine bne_iff_ne.2 fun heq => hfirst ?_
            exact List.mem_map.2 ⟨device, List.mem_of_find?_eq_some h, heq.symm⟩
          rw [List.eraseP_cons_of_neg (by simp [hp]), ih hrest h, List.filter_cons, if_pos hne]

theorem claim?_eq_some {registry after : DeviceRegistry δ} {type : DeviceType}
    {name : Option String} {device : BlockDevice δ}
    (h : registry.claim? type name = some (device, after)) :
    registry.devices.find? (wanted type name) = some device ∧
      after = { registry with devices := registry.devices.eraseP (wanted type name) } := by
  obtain ⟨found, hfound, hclaimed⟩ := Option.map_eq_some_iff.1 h
  cases hclaimed
  exact ⟨hfound, rfl⟩

theorem mem_of_find? {registry : DeviceRegistry δ} {key : DeviceKey} {device : BlockDevice δ}
    (h : registry.find? key = some device) : device ∈ registry.devices := by
  cases key with
  | index | name => exact List.mem_of_find?_eq_some h

/-- The registry has the devices of a ledger whose numbers are not `out`. -/
structure Kept (devices : List (BlockDevice δ)) (entries : List (Registration δ)) (out : List Nat)
    (registry : DeviceRegistry δ) : Prop where
  nextIndex : registry.nextIndex = devices.length
  numbered : Numbered devices
  identities : devices.map (·.identity) =
    entries.mapIdx fun index new => (new.device index).identity
  kept : registry.devices = devices.filter fun device => device.index ∉ out
  bounded : ∀ index ∈ out, index < devices.length
  once : out.Nodup

namespace Kept

variable {devices : List (BlockDevice δ)} {entries : List (Registration δ)} {out : List Nat}
  {registry after : DeviceRegistry δ}

theorem empty : Kept [] [] [] (.empty : DeviceRegistry δ) := ⟨rfl, rfl, rfl, rfl, nofun, .nil⟩

theorem length_entries (h : Kept devices entries out registry) :
    entries.length = devices.length := by
  simpa using (congrArg List.length h.identities).symm

theorem mem_iff (h : Kept devices entries out registry) {device : BlockDevice δ} :
    device ∈ registry.devices ↔ devices[device.index]? = some device ∧ device.index ∉ out := by
  rw [h.kept, List.mem_filter, decide_eq_true_eq, h.numbered.mem_iff]

theorem nodup (h : Kept devices entries out registry) :
    (registry.devices.map (·.index)).Nodup := by
  rw [h.kept]
  exact (List.filter_sublist.map _).nodup h.numbered.nodup

theorem registered (h : Kept devices entries out registry) (new : Registration δ) :
    Kept (devices ++ [new.device devices.length]) (entries ++ [new]) out
      ⟨registry.devices ++ [new.device registry.nextIndex], registry.nextIndex + 1⟩ where
  nextIndex := by
    rw [h.nextIndex, List.length_append]
    rfl
  numbered := h.numbered.concat new
  identities := by
    rw [List.map_append, h.identities, List.mapIdx_concat, h.length_entries]
    rfl
  kept := by
    have hfresh : (new.device devices.length).index ∉ out := fun hmem =>
      Nat.lt_irrefl _ (h.bounded _ hmem)
    rw [h.nextIndex, h.kept, List.filter_append, List.filter_cons_of_pos (by simpa using hfresh),
      List.filter_nil]
  bounded index hindex := by
    rw [List.length_append]
    exact Nat.lt_add_right _ (h.bounded index hindex)
  once := h.once

theorem handed (h : Kept devices entries out registry) {type : DeviceType} {name : Option String}
    {device : BlockDevice δ} (hclaim : registry.claim? type name = some (device, after)) :
    Kept devices entries (out ++ [device.index]) after := by
  obtain ⟨hfind, rfl⟩ := claim?_eq_some hclaim
  obtain ⟨hdevice, hkept⟩ := h.mem_iff.1 (List.mem_of_find?_eq_some hfind)
  refine ⟨h.nextIndex, h.numbered, h.identities, ?_, fun index hindex => ?_, ?_⟩
  · rw [eraseP_eq_filter h.nodup hfind, h.kept, List.filter_filter]
    refine List.filter_congr fun other _ => ?_
    rw [Bool.eq_iff_iff]
    simp [and_comm]
  · obtain hindex | hindex := List.mem_append.1 hindex
    · exact h.bounded index hindex
    · obtain ⟨hlt, -⟩ := List.getElem?_eq_some_iff.1 hdevice
      rwa [List.mem_singleton.1 hindex]
  · exact List.concat_eq_append ▸ h.once.concat hkept

/-- A device that was moved takes its own place. -/
theorem moved (h : Kept devices entries out registry) {device moved : BlockDevice δ}
    (hmem : device ∈ registry.devices) (hidentity : moved.identity = device.identity) :
    Kept (devices.set moved.index moved) entries out (registry.replace moved) := by
  have hindex : moved.index = device.index := congrArg (·.index) hidentity
  have hsame : ∀ old ∈ devices, (updated moved old).identity = old.identity := by
    intro old hold
    rw [updated]
    split
    · rename_i heq
      have hplace := h.numbered.mem_iff.1 hold
      rw [heq, hindex, (h.mem_iff.1 hmem).1] at hplace
      cases hplace
      exact hidentity
    · rfl
  rw [h.numbered.set_eq_map]
  refine ⟨?_, ?_, ?_, ?_, ?_, h.once⟩
  · rw [List.length_map, ← h.nextIndex]
    rfl
  · rw [Numbered, List.map_map, List.length_map]
    simp only [Function.comp_def, index_updated]
    exact h.numbered
  · rw [← h.identities, List.map_map]
    exact List.map_congr_left hsame
  · rw [List.filter_map]
    simp only [Function.comp_def, index_updated, replace, h.kept]
    rfl
  · rw [List.length_map]
    exact h.bounded

theorem atIndex?_eq (h : Kept devices entries out registry) (index : Nat) :
    registry.atIndex? index = if index ∈ out then none else devices[index]? := by
  rw [atIndex?, h.kept, List.find?_filter, ← h.numbered.find?_index]
  split
  · rename_i hout
    refine List.find?_eq_none.2 fun device _ => ?_
    simp only [decide_eq_true_eq, beq_iff_eq, not_and]
    rintro hkept rfl
    exact hkept hout
  · rename_i hkept
    congr 1
    ext device
    rw [Bool.eq_iff_iff]
    simp only [decide_eq_true_eq, beq_iff_eq, and_iff_right_iff_imp]
    rintro rfl
    exact hkept

theorem claim?_eq (h : Kept devices entries out registry) (type : DeviceType)
    (name : Option String) :
    registry.claim? type name = (registry.devices.find? (wanted type name)).map fun device =>
      (device, { registry with devices := registry.devices.filter (·.index != device.index) }) := by
  rw [claim?]
  cases hfind : registry.devices.find? (wanted type name) with
  | none => rfl
  | some device => rw [Option.map_some, Option.map_some, eraseP_eq_filter h.nodup hfind]

end Kept

/-- The registry is what the events of `trace` have made of it. -/
def KeptAfter (trace : List (RegistryEvent δ)) (registry : DeviceRegistry δ) : Prop :=
  Kept (ledger trace) (registrations trace) (handedOut trace) registry

theorem record_of_wants {call : RegistryCall δ} {wish : DeviceType × Option String}
    (hcall : call.wants? = some wish) (devices : List (BlockDevice δ))
    (device? : Option (BlockDevice δ)) :
    RegistryEvent.record devices (call, .handed device?) = devices ∧
      call.registration? = none := by
  cases call with
  | register | transfer => cases hcall
  | claim | claimSwap | boot => exact ⟨rfl, rfl⟩

theorem KeptAfter.performed [BlockDriver δ] {trace : List (RegistryEvent δ)}
    {registry after : DeviceRegistry δ} (h : KeptAfter trace registry) {call : RegistryCall δ}
    {reply : RegistryReply δ} (hcall : registry.perform call = .ok (reply, after)) :
    KeptAfter (trace ++ [(call, reply)]) after := by
  rw [KeptAfter, ledger_concat, registrations_concat, handedOut_concat]
  cases perform_cases hcall with
  | registered =>
      rw [RegistryEvent.handed?, Option.toList_none, List.append_nil]
      exact h.registered _
  | missed hwants =>
      obtain ⟨hrecord, hnew⟩ := record_of_wants hwants (ledger trace) none
      rw [hrecord, hnew, RegistryEvent.handed?, Option.map_none, Option.toList_none,
        Option.toList_none, List.append_nil, List.append_nil]
      exact h
  | @handed _ _ _ device _ hwants hclaim =>
      obtain ⟨hrecord, hnew⟩ := record_of_wants hwants (ledger trace) (some device)
      rw [hrecord, hnew, Option.toList_none, List.append_nil]
      exact h.handed hclaim
  | absent =>
      rw [RegistryEvent.handed?, RegistryCall.registration?, Option.toList_none, Option.toList_none,
        List.append_nil, List.append_nil]
      exact h
  | moved hfind hmoved =>
      rw [RegistryEvent.handed?, RegistryCall.registration?, Option.toList_none, Option.toList_none,
        List.append_nil, List.append_nil]
      exact h.moved (mem_of_find? hfind) (BlockDevice.identity_of_perform hmoved)

theorem keptAfter_of_calls [BlockDriver δ] {trace : List (RegistryEvent δ)}
    {registry : DeviceRegistry δ} (h : Calls perform .empty trace registry) :
    KeptAfter trace registry := by
  have hempty : KeptAfter [] (.empty : DeviceRegistry δ) := Kept.empty
  exact h.history KeptAfter (fun hkept hcall => hkept.performed hcall) hempty

/-- What the registry is and does behind the calls of a trace. -/
structure WellKept [BlockDriver δ] (trace : List (RegistryEvent δ)) (registry : DeviceRegistry δ) :
    Prop where
  numbered : ∀ {past later : List (RegistryEvent δ)} {new : Registration δ}
    {reply : RegistryReply δ}, trace = past ++ (.register new, reply) :: later →
      reply = .registered (registrations past).length
  identities : (ledger trace).map (·.identity) =
    (registrations trace).mapIdx fun index new => (new.device index).identity
  devices : registry.devices = unclaimed trace
  registers : ∀ new : Registration δ, registry.perform (.register new) =
    .ok (.registered (registrations trace).length,
      ⟨registry.devices ++ [new.device (registrations trace).length],
        (registrations trace).length + 1⟩)
  atIndex : ∀ index, registry.atIndex? index =
    if index ∈ handedOut trace then none else (ledger trace)[index]?
  named : ∀ name, registry.named? name = (unclaimed trace).find? (·.name == name)
  claims : ∀ type name, registry.claim? type name =
    ((unclaimed trace).find? (wanted type name)).map fun device =>
      (device, { registry with devices := registry.devices.filter (·.index != device.index) })
  misses : ∀ {call : RegistryCall δ} {type : DeviceType} {name : Option String},
    call.wants? = some (type, name) → (unclaimed trace).find? (wanted type name) = none →
      registry.perform call = .ok (.handed none, registry)
  /-- A device that is handed out is as the registry had it. -/
  intact : ∀ {past later : List (RegistryEvent δ)} {call : RegistryCall δ}
    {device : BlockDevice δ}, trace = past ++ (call, .handed (some device)) :: later →
      device.index ∉ handedOut past ∧ (ledger past)[device.index]? = some device
  once : (handedOut trace).Nodup
  swapArea : ∀ {name : Option String} {area : SwapArea δ} {rest : DeviceRegistry δ},
    SwapArea.claim? registry name = some (area, rest) →
      ∃ device, area = .new device ∧ registry.claim? .swap name = some (device, rest)
  noSwapArea_iff : ∀ name, SwapArea.claim? registry name = none ↔
    ∀ device ∈ unclaimed trace, wanted .swap name device = false
  boots : ∀ {options : BootOptions} {boot : Boot δ},
    VirtualMemory.boot options registry = .ok boot →
      (boot.result = .error .noSwapDevice ∧ boot.registry = registry) ∨
        ∃ vm, boot.result = .ok vm ∧
          SwapArea.claim? registry options.swapDevice = some (vm.swap, boot.registry)
  noSwapDevice_iff : ∀ options : BootOptions,
    (∃ transcript, VirtualMemory.boot options registry =
      .ok ⟨.error .noSwapDevice, registry, transcript⟩) ↔
        ∀ device ∈ unclaimed trace, wanted .swap options.swapDevice device = false

theorem perform_of_claim?_eq_none [BlockDriver δ] {registry : DeviceRegistry δ}
    {call : RegistryCall δ} {type : DeviceType} {name : Option String}
    (hcall : call.wants? = some (type, name)) (h : registry.claim? type name = none) :
    registry.perform call = .ok (.handed none, registry) := by
  cases call with
  | register | transfer => cases hcall
  | claim =>
      cases hcall
      rw [perform, h]
      rfl
  | claimSwap =>
      cases hcall
      rw [perform, SwapArea.claim?, h]
      rfl
  | boot =>
      cases hcall
      rw [perform, VirtualMemory.boot, SwapArea.claim?, h]
      rfl

theorem claim?_eq_none_iff {registry : DeviceRegistry δ} {type : DeviceType}
    {name : Option String} : registry.claim? type name = none ↔
      ∀ device ∈ registry.devices, wanted type name device = false := by
  rw [claim?, Option.map_eq_none_iff, List.find?_eq_none]
  simp only [Bool.not_eq_true]

theorem boot_noSwapDevice_iff {options : BootOptions} {registry : DeviceRegistry δ} :
    (∃ transcript, VirtualMemory.boot options registry =
        .ok ⟨.error .noSwapDevice, registry, transcript⟩) ↔
      registry.claim? .swap options.swapDevice = none := by
  constructor
  · rintro ⟨transcript, hboot⟩
    obtain ⟨hclaim, -⟩ | ⟨device, vm, -, hresult, -⟩ := boot_eq_ok hboot
    · exact hclaim
    · cases hresult
  · intro hclaim
    rw [VirtualMemory.boot, SwapArea.claim?, hclaim]
    exact ⟨_, rfl⟩

section History

variable [BlockDriver δ] {past later : List (RegistryEvent δ)} {registry : DeviceRegistry δ}

/-- A registration is answered by the number of those before it. -/
theorem reply_of_register {new : Registration δ} {reply : RegistryReply δ}
    (h : Calls perform .empty (past ++ (.register new, reply) :: later) registry) :
    reply = .registered (registrations past).length := by
  obtain ⟨mid, next, hpast, hcall, -⟩ := h.split
  have hmid := keptAfter_of_calls hpast
  cases perform_cases hcall with
  | registered => rw [hmid.nextIndex, hmid.length_entries]
  | missed hwants | handed hwants => cases hwants

/-- What is handed out is in the ledger and has not been handed out before. -/
theorem ledger_of_handed {call : RegistryCall δ} {device : BlockDevice δ}
    (h : Calls perform .empty (past ++ (call, .handed (some device)) :: later) registry) :
    device.index ∉ handedOut past ∧ (ledger past)[device.index]? = some device := by
  obtain ⟨mid, next, hpast, hcall, -⟩ := h.split
  cases perform_cases hcall with
  | handed _ hclaim =>
      have hmem := List.mem_of_find?_eq_some (claim?_eq_some hclaim).1
      exact ((keptAfter_of_calls hpast).mem_iff.1 hmem).symm

end History

theorem ofCapacity_eq_ok {capacity : Nat} {registry : DeviceRegistry δ}
    (h : ofCapacity capacity = .ok registry) : registry = .empty := by
  rw [ofCapacity] at h
  split at h
  · cases h
    rfl
  · cases h

/-- The registry neither loses nor renumbers nor hands out twice what was registered with it. -/
theorem registry_keeps_ledger [BlockDriver δ] {capacity : Nat} {new registry : DeviceRegistry δ}
    {trace : List (RegistryEvent δ)} (hnew : ofCapacity capacity = .ok new)
    (hcalls : Calls perform new trace registry) : WellKept trace registry := by
  cases ofCapacity_eq_ok hnew
  have hkept := keptAfter_of_calls hcalls
  have hdevices : registry.devices = unclaimed trace := hkept.kept
  exact {
    numbered := fun hsplit => reply_of_register (hsplit ▸ hcalls)
    identities := hkept.identities
    devices := hdevices
    registers := fun new => by
      rw [hkept.length_entries, ← hkept.nextIndex]
      rfl
    atIndex := hkept.atIndex?_eq
    named := fun name => by rw [named?, hdevices]
    claims := fun type name => by rw [hkept.claim?_eq, hdevices]
    misses := fun hcall hnone => by
      refine perform_of_claim?_eq_none hcall ?_
      rw [claim?, hdevices, hnone]
      rfl
    intact := fun hsplit => ledger_of_handed (hsplit ▸ hcalls)
    once := hkept.once
    swapArea := fun hclaim => claimSwap?_eq_some.1 hclaim
    noSwapArea_iff := fun name => by
      rw [SwapArea.claim?, Option.map_eq_none_iff, claim?_eq_none_iff, hdevices]
    boots := fun hboot => by
      obtain ⟨-, hresult, hsame⟩ | ⟨device, vm, hclaim, hresult, hswap⟩ := boot_eq_ok hboot
      · exact .inl ⟨hresult, hsame⟩
      · exact .inr ⟨vm, hresult, claimSwap?_eq_some.2 ⟨device, hswap, hclaim⟩⟩
    noSwapDevice_iff := fun options => by
      rw [boot_noSwapDevice_iff, claim?_eq_none_iff, hdevices] }

/-- Three devices are registered, two of them of one name. The last is written and leaves first, and
the device that comes to it then gets the next number. -/
def shuffle : List (RegistryCall MemoryDisk) :=
  [.register ⟨.swap, "hda", 8, .new 8⟩, .register ⟨.fileSystem, "hda", 16, .new 16⟩,
    .register ⟨.swap, "hdb", 8, .new 8⟩,
    .transfer (.name "hdb") (.write 1 (List.replicate sectorSize 7)), .claimSwap (some "hdb"),
    .claim .swap (some "hdb"), .register ⟨.swap, "hdb", 24, .new 24⟩, .boot ⟨none, 4, .nextFit,
      .clock, 0⟩, .transfer (.index 0) (.read 0 []), .claim .swap none, .claimSwap none]

theorem registry_keeps_ledger_shuffle : ∃ trace registry, trace.map (·.1) = shuffle ∧
    ofCapacity 4 = .ok (.empty : DeviceRegistry MemoryDisk) ∧
    Calls perform .empty trace registry ∧ handedOut trace = [2, 0, 3] ∧
    WellKept trace registry := by
  have hok : (do
      let (trace, _) ← performAll perform (.empty : DeviceRegistry MemoryDisk) shuffle
      return handedOut trace) = .ok [2, 0, 3] := by
    decide +kernel
  obtain ⟨⟨trace, registry⟩, hperform, hout⟩ := bind_eq_ok.1 hok
  obtain ⟨hcalled, hcalls⟩ := Calls.of_performAll hperform
  have hnew : ofCapacity 4 = .ok (.empty : DeviceRegistry MemoryDisk) := rfl
  exact ⟨trace, registry, hcalled, hnew, hcalls, Except.ok.inj hout,
    registry_keeps_ledger hnew hcalls⟩

end DeviceRegistry

end DemandPaging
