import DemandPaging.BlockDevice.Error
import DemandPaging.Bytes
import DemandPaging.Halt

/-!
Block devices: a driver with a name, a type, a size in sectors and a counter for each direction.
The device checks sector and buffer before the driver sees a transfer, and counts the transfers
that succeed.
-/
namespace DemandPaging

def sectorSize : Nat := 512

/-- The number of a sector; devices have less than 2^32 of them. -/
abbrev SectorNumber := UInt32

/-- The contents of one sector. -/
abbrev Sector := Bytes sectorSize

inductive DeviceType where
  | kernel
  | fileSystem
  | scratch
  | swap
  | raw
  /-- Owned by another operating system; never written. -/
  | foreign
deriving DecidableEq, Repr

namespace DeviceType

def all : List DeviceType := [kernel, fileSystem, scratch, swap, raw, foreign]

def label : DeviceType → String
  | kernel => "Kernel"
  | fileSystem => "FileSystem"
  | scratch => "Scratch"
  | swap => "Swap"
  | raw => "Raw"
  | foreign => "Foreign"

def title : DeviceType → String
  | fileSystem => "File System"
  | type => type.label

end DeviceType

/-- A driver moves one sector at a time. A read may leave anything in the buffer, also when it
fails. -/
class BlockDriver (δ : Type) where
  read : δ → SectorNumber → Sector → Except TransferError Unit × Sector × δ
  write : δ → SectorNumber → Sector → Except TransferError Unit × δ

structure BlockDevice (δ : Type) where
  index : Nat
  name : String
  type : DeviceType
  /-- The number of sectors. -/
  size : SectorNumber
  driver : δ
  reads : Nat
  writes : Nat

namespace BlockDevice

variable {δ : Type}

/-- The next value of a transfer counter, which has 32 bits. -/
def nextCount (count : Nat) : Except Halt Nat :=
  if count + 1 < 0x100000000 then .ok (count + 1) else .error .transferCountOverflow

/-- Reads a sector into `buffer`; buffer and device are as they are then, also where the read
halts. -/
def attemptRead [BlockDriver δ] (device : BlockDevice δ) (sector : SectorNumber)
    (buffer : List UInt8) : Except Halt (Except TransferError Unit) × List UInt8 × BlockDevice δ :=
  if sector < device.size then
    if h : buffer.length = sectorSize then
      match BlockDriver.read device.driver sector ⟨buffer, h⟩ with
      | (.error error, buffer, driver) =>
        (.ok (.error error), buffer.toList, { device with driver })
      | (.ok (), buffer, driver) =>
        match nextCount device.reads with
        | .ok reads => (.ok (.ok ()), buffer.toList, { device with driver, reads })
        | .error halt => (.error halt, buffer.toList, { device with driver })
    else
      (.ok (.error .bufferInvalid), buffer, device)
  else
    (.ok (.error .sectorOutOfBounds), buffer, device)

/-- Writes `data` to a sector; the device is as it is then, also where the write halts. A write
that a foreign device would have to carry out is fatal. -/
def attemptWrite [BlockDriver δ] (device : BlockDevice δ) (sector : SectorNumber)
    (data : List UInt8) : Except Halt (Except TransferError Unit) × BlockDevice δ :=
  if sector < device.size then
    if h : data.length = sectorSize then
      if device.type = .foreign then
        (.error (.foreignWrite device.name), device)
      else
        match BlockDriver.write device.driver sector ⟨data, h⟩ with
        | (.error error, driver) => (.ok (.error error), { device with driver })
        | (.ok (), driver) =>
          match nextCount device.writes with
          | .ok writes => (.ok (.ok ()), { device with driver, writes })
          | .error halt => (.error halt, { device with driver })
    else
      (.ok (.error .bufferInvalid), device)
  else
    (.ok (.error .sectorOutOfBounds), device)

/-- Writes `data` to `count` sectors in a row, the first 512 bytes to `sector`, and stops at the
first error or halt. -/
def attemptWriteRun [BlockDriver δ] (device : BlockDevice δ) (sector : SectorNumber)
    (count : Nat) (data : List UInt8) :
    Except Halt (Except TransferError Unit) × BlockDevice δ :=
  match count with
  | 0 => (.ok (.ok ()), device)
  | count + 1 =>
    match device.attemptWrite sector (data.take sectorSize) with
    | (.ok (.ok ()), device) =>
      device.attemptWriteRun (sector + 1) count (data.drop sectorSize)
    | stopped => stopped

/-- Reads `count` sectors in a row into `buffer`, `sector` to its first 512 bytes, and stops at
the first error or halt. -/
def attemptReadRun [BlockDriver δ] (device : BlockDevice δ) (sector : SectorNumber)
    (count : Nat) (buffer : List UInt8) :
    Except Halt (Except TransferError Unit) × List UInt8 × BlockDevice δ :=
  match count with
  | 0 => (.ok (.ok ()), buffer, device)
  | count + 1 =>
    let rest := buffer.drop sectorSize
    match device.attemptRead sector (buffer.take sectorSize) with
    | (.ok (.ok ()), chunk, device) =>
      let (result, rest, device) := device.attemptReadRun (sector + 1) count rest
      (result, chunk ++ rest, device)
    | (stopped, chunk, device) => (stopped, chunk ++ rest, device)

section Settled

variable [BlockDriver δ] (device : BlockDevice δ) (sector : SectorNumber)

def read (buffer : List UInt8) :
    Except Halt (Except TransferError Unit × List UInt8 × BlockDevice δ) :=
  settle (device.attemptRead sector buffer)

def write (data : List UInt8) : Except Halt (Except TransferError Unit × BlockDevice δ) :=
  settle (device.attemptWrite sector data)

def writeRun (count : Nat) (data : List UInt8) :
    Except Halt (Except TransferError Unit × BlockDevice δ) :=
  settle (device.attemptWriteRun sector count data)

def readRun (count : Nat) (buffer : List UInt8) :
    Except Halt (Except TransferError Unit × List UInt8 × BlockDevice δ) :=
  settle (device.attemptReadRun sector count buffer)

theorem read_def (buffer : List UInt8) : device.read sector buffer =
    if sector < device.size then
      if h : buffer.length = sectorSize then
        match BlockDriver.read device.driver sector ⟨buffer, h⟩ with
        | (.error error, buffer, driver) =>
          .ok (.error error, buffer.toList, { device with driver })
        | (.ok (), buffer, driver) => do
          let reads ← nextCount device.reads
          return (.ok (), buffer.toList, { device with driver, reads })
      else
        .ok (.error .bufferInvalid, buffer, device)
    else
      .ok (.error .sectorOutOfBounds, buffer, device) := by
  rw [read, attemptRead]
  split
  · split
    · split
      · rfl
      · cases nextCount device.reads <;> rfl
    · rfl
  · rfl

theorem write_def (data : List UInt8) : device.write sector data =
    if sector < device.size then
      if h : data.length = sectorSize then
        if device.type = .foreign then
          .error (.foreignWrite device.name)
        else
          match BlockDriver.write device.driver sector ⟨data, h⟩ with
          | (.error error, driver) => .ok (.error error, { device with driver })
          | (.ok (), driver) => do
            let writes ← nextCount device.writes
            return (.ok (), { device with driver, writes })
      else
        .ok (.error .bufferInvalid, device)
    else
      .ok (.error .sectorOutOfBounds, device) := by
  rw [write, attemptWrite]
  split
  · split
    · split
      · rfl
      · split
        · rfl
        · cases nextCount device.writes <;> rfl
    · rfl
  · rfl

theorem writeRun_zero (data : List UInt8) :
    device.writeRun sector 0 data = .ok (.ok (), device) := rfl

theorem writeRun_succ (count : Nat) (data : List UInt8) :
    device.writeRun sector (count + 1) data = (do
      match ← device.write sector (data.take sectorSize) with
      | (.error error, device) => return (.error error, device)
      | (.ok (), device) => device.writeRun (sector + 1) count (data.drop sectorSize)) := by
  rw [writeRun, attemptWriteRun, write]
  obtain ⟨result, after⟩ := device.attemptWrite sector (data.take sectorSize)
  cases result with
  | error halt => rfl
  | ok result => cases result <;> rfl

theorem readRun_zero (buffer : List UInt8) :
    device.readRun sector 0 buffer = .ok (.ok (), buffer, device) := rfl

theorem readRun_succ (count : Nat) (buffer : List UInt8) :
    device.readRun sector (count + 1) buffer = (do
      let rest := buffer.drop sectorSize
      match ← device.read sector (buffer.take sectorSize) with
      | (.error error, chunk, device) => return (.error error, chunk ++ rest, device)
      | (.ok (), chunk, device) =>
        let (result, rest, device) ← device.readRun (sector + 1) count rest
        return (result, chunk ++ rest, device)) := by
  rw [readRun, attemptReadRun, read]
  obtain ⟨result, chunk, after⟩ := device.attemptRead sector (buffer.take sectorSize)
  cases result with
  | error halt => rfl
  | ok result =>
      cases result with
      | error error => rfl
      | ok =>
          simp only [settle, readRun, bind, Except.bind]
          obtain ⟨result, rest, last⟩ :=
            after.attemptReadRun (sector + 1) count (buffer.drop sectorSize)
          cases result <;> rfl

end Settled

/-- At least four digits, with zeros in front. -/
def paddedNumber (n : Nat) : String :=
  let digits := toString n
  "".pushn '0' (4 - digits.length) ++ digits

/-- The device's line in a listing. -/
def listing (device : BlockDevice δ) : String :=
  "    " ++ paddedNumber device.index ++ " | \"" ++ device.name ++ "\" (" ++
    device.type.title ++ "): " ++ paddedNumber device.size.toNat ++ " sectors, " ++
    paddedNumber device.reads ++ " read, " ++ paddedNumber device.writes ++ " write"

end BlockDevice

end DemandPaging
