import DemandPaging.BlockDevice.Basic

/-!
The registry of block devices. Devices are numbered in the order they are registered, and one
that is claimed leaves the registry for its new owner.
-/
namespace DemandPaging

structure DeviceRegistry (δ : Type) where
  /-- In the order of registration. -/
  devices : List (BlockDevice δ)
  nextIndex : Nat

namespace DeviceRegistry

variable {δ : Type}

def empty : DeviceRegistry δ := ⟨[], 0⟩

/-- A registry with room for `capacity` devices of 64 bytes each, which have to be addressable
together. -/
def ofCapacity (capacity : Nat) : Except Halt (DeviceRegistry δ) :=
  if capacity * 64 < 0x8000000000000000 then .ok empty else .error (.registryTooLarge capacity)

def size (registry : DeviceRegistry δ) : Nat := registry.devices.length

/-- Registers a device: its index, the registry with it, and what is announced. -/
def register (registry : DeviceRegistry δ) (type : DeviceType) (name : String)
    (size : SectorNumber) (driver : δ) : Nat × DeviceRegistry δ × Transcript :=
  let device : BlockDevice δ :=
    { index := registry.nextIndex, name, type, size, driver, reads := 0, writes := 0 }
  let notice := "Registered block device \"" ++ name ++ "\" (" ++ type.title ++ " type) with " ++
    toString size.toNat ++ " sectors"
  (device.index,
    { devices := registry.devices ++ [device], nextIndex := registry.nextIndex + 1 },
    .line notice)

def atIndex? (registry : DeviceRegistry δ) (index : Nat) : Option (BlockDevice δ) :=
  registry.devices.find? (·.index == index)

def named? (registry : DeviceRegistry δ) (name : String) : Option (BlockDevice δ) :=
  registry.devices.find? (·.name == name)

/-- Puts `device` in the place of the device of its index. -/
def replace (registry : DeviceRegistry δ) (device : BlockDevice δ) : DeviceRegistry δ :=
  { registry with
    devices := registry.devices.map fun old =>
      if old.index = device.index then device else old }

/-- Whether a device is of the type, and of the name if one is given. -/
def wanted (type : DeviceType) (name : Option String) (device : BlockDevice δ) : Bool :=
  device.type == type && name.all (device.name == ·)

/-- Hands the first device that is wanted to the caller and removes it. -/
def claim? (registry : DeviceRegistry δ) (type : DeviceType) (name : Option String) :
    Option (BlockDevice δ × DeviceRegistry δ) :=
  (registry.devices.find? (wanted type name)).map fun device =>
    (device, { registry with devices := registry.devices.eraseP (wanted type name) })

def listing (registry : DeviceRegistry δ) : String :=
  registry.devices.foldl (fun text device => text ++ device.listing ++ "\n") "Block Devices:\n"

end DeviceRegistry

end DemandPaging
