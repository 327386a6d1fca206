import DemandPaging.Proofs.Transfers
import Mathlib.Data.List.Induction

/-!
A device over a disk in memory is an array of sectors. Device and disk each have a size of their
own, so a transfer may be turned down by either of them; one that is carried out reads what was
written to its sector last, or writes that sector alone.
-/
namespace DemandPaging

/-- One transfer that is asked of a device. -/
inductive SectorCall where
  | read (sector : SectorNumber) (buffer : List UInt8)
  | write (sector : SectorNumber) (data : List UInt8)
deriving DecidableEq, Repr

/-- How a transfer ends, and what is in the buffer behind a read. -/
inductive SectorReply where
  | read (result : Except TransferError Unit) (buffer : List UInt8)
  | written (result : Except TransferError Unit)
deriving DecidableEq, Repr

namespace SectorCall

def sector : SectorCall → SectorNumber
  | read sector _ | write sector _ => sector

def length : SectorCall → Nat
  | read _ bytes | write _ bytes => bytes.length

def isRead : SectorCall → Bool
  | read .. => true
  | write .. => false

/-- Why a device of `size` sectors turns a transfer down, if it does. -/
def refusedBy? (size : SectorNumber) (call : SectorCall) : Option TransferError :=
  if call.sector < size then
    if call.length = sectorSize then none else some .bufferInvalid
  else
    some .sectorOutOfBounds

/-- A foreign device must not carry out a write. -/
def takenBy (type : DeviceType) (size : SectorNumber) (call : SectorCall) : Bool :=
  call.isRead || (call.refusedBy? size).isSome || type != .foreign

/-- The reply to a transfer that moves nothing. -/
def refused (error : TransferError) : SectorCall → SectorReply
  | read _ buffer => .read (.error error) buffer
  | write .. => .written (.error error)

/-- The reply to a transfer that is carried out, on a sector that holds `bytes` before it. -/
def carriedOut (bytes : List UInt8) : SectorCall → SectorReply
  | read .. => .read (.ok ()) bytes
  | write .. => .written (.ok ())

theorem refusedBy?_eq_none_iff {size : SectorNumber} {call : SectorCall} :
    call.refusedBy? size = none ↔ call.sector < size ∧ call.length = sectorSize := by
  rw [refusedBy?]
  split
  · rename_i hsector
    simp [hsector]
  · rename_i hsector
    simp [hsector]

theorem refusedBy?_eq_some_iff {size : SectorNumber} {call : SectorCall} {error : TransferError} :
    call.refusedBy? size = some error ↔ (¬ call.sector < size ∧ error = .sectorOutOfBounds) ∨
      (call.sector < size ∧ call.length ≠ sectorSize ∧ error = .bufferInvalid) := by
  rw [refusedBy?]
  by_cases hsector : call.sector < size
  · by_cases hlength : call.length = sectorSize
    · simp [hsector, hlength]
    · simp [hsector, hlength, eq_comm]
  · simp [hsector, eq_comm]

theorem takenBy_eq_false_iff {type : DeviceType} {size : SectorNumber} {call : SectorCall} :
    call.takenBy type size = false ↔ call.isRead = false ∧
      (call.sector < size ∧ call.length = sectorSize) ∧ type = .foreign := by
  rw [takenBy, Bool.or_eq_false_iff, Bool.or_eq_false_iff, and_assoc, Option.isSome_eq_false_iff,
    Option.isNone_iff_eq_none, refusedBy?_eq_none_iff, bne_eq_false_iff_eq]

end SectorCall

/-- What a device shows of a disk: the device has a size, and so has the disk behind it. -/
structure SectorArray where
  type : DeviceType
  size : SectorNumber
  diskSize : SectorNumber
deriving DecidableEq, Repr

namespace SectorArray

variable {array : SectorArray} {call : SectorCall} {past : List SectorCall} {sector : SectorNumber}
  {error : TransferError}

/-- Why a transfer is turned down, if it is. The device has its say before the disk. -/
def refusal? (array : SectorArray) (call : SectorCall) : Option TransferError :=
  (call.refusedBy? array.size).or
    (if call.sector < array.diskSize then none else some .sectorOutOfBounds)

def takes (array : SectorArray) (call : SectorCall) : Bool := call.takenBy array.type array.size

/-- Whether a transfer is carried out. -/
def carriesOut (array : SectorArray) (call : SectorCall) : Bool :=
  array.takes call && (array.refusal? call).isNone

/-- What a transfer puts in a sector. -/
def written? (array : SectorArray) (sector : SectorNumber) (call : SectorCall) :
    Option (List UInt8) :=
  match call with
  | .read .. => none
  | .write other data => if other = sector ∧ array.carriesOut call = true then some data else none

/-- The bytes that were written to a sector last, or zeros. -/
def bytes (array : SectorArray) (past : List SectorCall) (sector : SectorNumber) : List UInt8 :=
  (past.reverse.findSome? (array.written? sector)).getD (List.replicate sectorSize 0)

/-- The reply to a transfer that is taken, after those in `past`. -/
def answer (array : SectorArray) (past : List SectorCall) (call : SectorCall) : SectorReply :=
  match array.refusal? call with
  | some error => call.refused error
  | none => call.carriedOut (array.bytes past call.sector)

def readCount (array : SectorArray) (past : List SectorCall) : Nat :=
  past.countP fun call => call.isRead && array.carriesOut call

def writeCount (array : SectorArray) (past : List SectorCall) : Nat :=
  past.countP fun call => !call.isRead && array.carriesOut call

theorem refusal?_eq_none_iff : array.refusal? call = none ↔
    call.sector < array.size ∧ call.length = sectorSize ∧ call.sector < array.diskSize := by
  rw [refusal?, Option.or_eq_none_iff, SectorCall.refusedBy?_eq_none_iff, and_assoc]
  by_cases hdisk : call.sector < array.diskSize <;> simp [hdisk]

theorem refusal?_eq_some_iff : array.refusal? call = some error ↔
    call.refusedBy? array.size = some error ∨ ((call.sector < array.size ∧
      call.length = sectorSize ∧ ¬ call.sector < array.diskSize) ∧
        error = .sectorOutOfBounds) := by
  rw [refusal?, Option.or_eq_some_iff, SectorCall.refusedBy?_eq_none_iff]
  by_cases hdisk : call.sector < array.diskSize <;> simp [hdisk, eq_comm]

/-- A transfer has to fit the smaller of the two sizes. -/
theorem refusal?_eq_none_iff_lt_min : array.refusal? call = none ↔
    call.sector.toNat < min array.size.toNat array.diskSize.toNat ∧ call.length = sectorSize := by
  rw [refusal?_eq_none_iff, Nat.lt_min, ← UInt32.lt_iff_toNat_lt, ← UInt32.lt_iff_toNat_lt,
    and_assoc, and_congr_right_iff]
  exact fun _ => and_comm

theorem carriesOut_iff :
    array.carriesOut call = true ↔ array.takes call = true ∧ array.refusal? call = none := by
  rw [carriesOut, Bool.and_eq_true, Option.isNone_iff_eq_none]

theorem carriesOut_of_refusal (h : array.refusal? call = some error) :
    array.carriesOut call = false := by
  rw [carriesOut, h]
  exact Bool.and_false _

theorem carriesOut_of_not_takes (h : array.takes call = false) :
    array.carriesOut call = false := by
  rw [carriesOut, h, Bool.false_and]

theorem written?_of_not (h : array.carriesOut call = false) :
    array.written? sector call = none := by
  cases call with
  | read => rfl
  | write => simp [written?, h]

theorem bytes_concat (array : SectorArray) (past : List SectorCall) (call : SectorCall)
    (sector : SectorNumber) : array.bytes (past ++ [call]) sector =
      (array.written? sector call).getD (array.bytes past sector) := by
  rw [bytes, List.reverse_concat, List.findSome?_cons]
  cases array.written? sector call <;> rfl

theorem readCount_concat (array : SectorArray) (past : List SectorCall) (call : SectorCall) :
    array.readCount (past ++ [call]) =
      array.readCount past + if call.isRead && array.carriesOut call then 1 else 0 := by
  rw [readCount, List.countP_append, List.countP_singleton, readCount]

theorem writeCount_concat (array : SectorArray) (past : List SectorCall) (call : SectorCall) :
    array.writeCount (past ++ [call]) =
      array.writeCount past + if !call.isRead && array.carriesOut call then 1 else 0 := by
  rw [writeCount, List.countP_append, List.countP_singleton, writeCount]

end SectorArray

namespace BlockDevice

section AnyDriver

variable {δ : Type} [BlockDriver δ]

/-- A transfer, and what has become of the device then, also where the transfer halts. -/
def attempt (device : BlockDevice δ) : SectorCall → Except Halt SectorReply × BlockDevice δ
  | .read sector buffer =>
    let (result, buffer, device) := device.attemptRead sector buffer
    (result.map (.read · buffer), device)
  | .write sector data =>
    let (result, device) := device.attemptWrite sector data
    (result.map .written, device)

def perform (device : BlockDevice δ) (call : SectorCall) :
    Except Halt (SectorReply × BlockDevice δ) :=
  settle (device.attempt call)

def attempts (device : BlockDevice δ) (calls : List SectorCall) : BlockDevice δ :=
  calls.foldl (fun device call => (device.attempt call).2) device

variable {device : BlockDevice δ} {call : SectorCall} {error : TransferError}

theorem attempts_concat (device : BlockDevice δ) (past : List SectorCall) (call : SectorCall) :
    device.attempts (past ++ [call]) = ((device.attempts past).attempt call).2 := by
  rw [attempts, List.foldl_append]
  rfl

theorem perform_read_eq (device : BlockDevice δ) (sector : SectorNumber) (buffer : List UInt8) :
    device.perform (.read sector buffer) = (device.read sector buffer).map
      fun (result, buffer, device) => (.read result buffer, device) := by
  rw [perform, attempt, read]
  obtain ⟨result, buffer, device⟩ := device.attemptRead sector buffer
  cases result <;> rfl

theorem perform_write_eq (device : BlockDevice δ) (sector : SectorNumber) (data : List UInt8) :
    device.perform (.write sector data) = (device.write sector data).map
      fun (result, device) => (.written result, device) := by
  rw [perform, attempt, write]
  obtain ⟨result, device⟩ := device.attemptWrite sector data
  cases result <;> rfl

theorem identity_of_perform {after : BlockDevice δ} {reply : SectorReply}
    (h : device.perform call = .ok (reply, after)) : after.identity = device.identity := by
  cases call with
  | read sector buffer =>
      rw [perform_read_eq] at h
      obtain ⟨⟨result, buffer', read⟩, hread, h⟩ := map_eq_ok.1 h
      cases h
      exact (read_eq_ok hread).1
  | write sector data =>
      rw [perform_write_eq] at h
      obtain ⟨⟨result, written⟩, hwrite, h⟩ := map_eq_ok.1 h
      cases h
      exact (write_eq_ok hwrite).1

/-- The device looks at sector and length before anything else. -/
theorem attempt_of_refused (h : call.refusedBy? device.size = some error) :
    device.attempt call = (.ok (call.refused error), device) := by
  obtain ⟨hsector, rfl⟩ | ⟨hsector, hlength, rfl⟩ := SectorCall.refusedBy?_eq_some_iff.1 h
  · cases call with
    | read sector buffer =>
        have hsector : ¬ sector < device.size := hsector
        simp only [attempt, attemptRead, if_neg hsector]
        rfl
    | write sector data =>
        have hsector : ¬ sector < device.size := hsector
        simp only [attempt, attemptWrite, if_neg hsector]
        rfl
  · cases call with
    | read sector buffer =>
        have hsector : sector < device.size := hsector
        have hlength : buffer.length ≠ sectorSize := hlength
        simp only [attempt, attemptRead, if_pos hsector, dif_neg hlength]
        rfl
    | write sector data =>
        have hsector : sector < device.size := hsector
        have hlength : data.length ≠ sectorSize := hlength
        simp only [attempt, attemptWrite, if_pos hsector, dif_neg hlength]
        rfl

/-- A foreign device halts before its driver hears of the write. -/
theorem attempt_of_not_takenBy (h : call.takenBy device.type device.size = false) :
    device.attempt call = (.error (.foreignWrite device.name), device) := by
  obtain ⟨hwrite, ⟨hsector, hlength⟩, hforeign⟩ := SectorCall.takenBy_eq_false_iff.1 h
  cases call with
  | read => cases hwrite
  | write sector data =>
      have hsector : sector < device.size := hsector
      have hlength : data.length = sectorSize := hlength
      simp only [attempt, attemptWrite, if_pos hsector, dif_pos hlength, if_pos hforeign]
      rfl

/-- A foreign device is left as it was by every write, whatever comes of it. -/
theorem attemptWrite_of_foreign (hforeign : device.type = .foreign) (sector : SectorNumber)
    (data : List UInt8) : (device.attemptWrite sector data).2 = device := by
  simp only [attemptWrite, if_pos hforeign]
  split
  · split <;> rfl
  · rfl

end AnyDriver

/-- A device that has not been used yet. -/
def unused {δ : Type} (index : Nat) (name : String) (type : DeviceType) (size : SectorNumber)
    (driver : δ) : BlockDevice δ :=
  { index, name, type, size, driver, reads := 0, writes := 0 }

/-- The device over a new disk that shows the array. -/
def overMemory (index : Nat) (name : String) (array : SectorArray) : BlockDevice MemoryDisk :=
  .unused index name array.type array.size (.new array.diskSize)

def array (device : BlockDevice MemoryDisk) : SectorArray :=
  ⟨device.type, device.size, device.driver.sectors⟩

theorem array_overMemory (index : Nat) (name : String) (array : SectorArray) :
    (overMemory index name array).array = array := by
  rw [overMemory, unused, BlockDevice.array, MemoryDisk.sectors_new]

/-- What a transfer is answered after those in `past`. -/
def answer (origin : BlockDevice MemoryDisk) (past : List SectorCall) (call : SectorCall) :
    Except Halt SectorReply :=
  if origin.array.takes call = true then
    .ok (origin.array.answer past call)
  else
    .error (.foreignWrite origin.name)

variable {device after : BlockDevice MemoryDisk} {call : SectorCall} {error : TransferError}
  {reply : SectorReply} {sector : SectorNumber} {buffer data : List UInt8}

theorem attempt_read (h : device.array.refusal? (.read sector buffer) = none)
    (hroom : device.reads + 1 < 0x100000000) : device.attempt (.read sector buffer) =
      (.ok (.read (.ok ()) (device.driver.contents sector).toList),
        { device with reads := device.reads + 1 }) := by
  obtain ⟨hsector, hlength, hdisk⟩ : sector < device.size ∧ buffer.length = sectorSize ∧
      sector < device.driver.sectors := SectorArray.refusal?_eq_none_iff.1 h
  simp only [attempt, attemptRead, if_pos hsector, dif_pos hlength, MemoryDisk.driver_read_eq,
    if_pos hdisk, nextCount_of_lt hroom]
  rfl

/-- A write that fits the device is taken by one that is not foreign only. -/
theorem type_ne_foreign (htakes : device.array.takes (.write sector data) = true)
    (hsector : sector < device.size) (hlength : data.length = sectorSize) :
    device.type ≠ .foreign := by
  intro hforeign
  have hnot : device.array.takes (.write sector data) = false :=
    SectorCall.takenBy_eq_false_iff.2 ⟨rfl, ⟨hsector, hlength⟩, hforeign⟩
  rw [hnot] at htakes
  cases htakes

/-- The device once a sector was written to its disk. -/
def wrote (device : BlockDevice MemoryDisk) (sector : SectorNumber) (data : List UInt8) :
    BlockDevice MemoryDisk :=
  { device with
    driver := device.driver.put (sector.toNat * sectorSize) data
    writes := device.writes + 1 }

theorem attempt_write (htakes : device.array.takes (.write sector data) = true)
    (h : device.array.refusal? (.write sector data) = none)
    (hroom : device.writes + 1 < 0x100000000) :
    device.attempt (.write sector data) = (.ok (.written (.ok ())), device.wrote sector data) := by
  obtain ⟨hsector, hlength, hdisk⟩ : sector < device.size ∧ data.length = sectorSize ∧
      sector < device.driver.sectors := SectorArray.refusal?_eq_none_iff.1 h
  simp only [attempt, attemptWrite, if_pos hsector, dif_pos hlength,
    if_neg (type_ne_foreign htakes hsector hlength), MemoryDisk.driver_write_eq, if_pos hdisk,
    nextCount_of_lt hroom]
  rfl

theorem contents_wrote (h : device.array.refusal? (.write sector data) = none)
    (other : SectorNumber) : ((device.wrote sector data).driver.contents other).toList =
      if sector = other then data else (device.driver.contents other).toList := by
  obtain ⟨-, hlength, hdisk⟩ : sector < device.size ∧ data.length = sectorSize ∧
      sector < device.driver.sectors := SectorArray.refusal?_eq_none_iff.1 h
  have hput : (device.wrote sector data).driver.contents other =
      if sector = other then ⟨data, hlength⟩ else device.driver.contents other :=
    MemoryDisk.contents_put hdisk ⟨data, hlength⟩ other
  rw [hput]
  split <;> rfl

/-- A transfer that device or disk turns down changes nothing. -/
theorem attempt_of_refusal (htakes : device.array.takes call = true)
    (h : device.array.refusal? call = some error) :
    device.attempt call = (.ok (call.refused error), device) := by
  obtain hrefused | ⟨hfits, rfl⟩ := SectorArray.refusal?_eq_some_iff.1 h
  · exact attempt_of_refused hrefused
  cases call with
  | read sector buffer =>
      obtain ⟨hsector, hlength, hdisk⟩ : sector < device.size ∧ buffer.length = sectorSize ∧
        ¬ sector < device.driver.sectors := hfits
      simp only [attempt, attemptRead, if_pos hsector, dif_pos hlength, MemoryDisk.driver_read_eq,
        if_neg hdisk]
      rfl
  | write sector data =>
      obtain ⟨hsector, hlength, hdisk⟩ : sector < device.size ∧ data.length = sectorSize ∧
        ¬ sector < device.driver.sectors := hfits
      simp only [attempt, attemptWrite, if_pos hsector, dif_pos hlength,
        if_neg (type_ne_foreign htakes hsector hlength), MemoryDisk.driver_write_eq, if_neg hdisk]
      rfl

/-- What a transfer that is taken comes to. -/
inductive Carried (device : BlockDevice MemoryDisk) :
    SectorCall → SectorReply → BlockDevice MemoryDisk → Prop where
  | refused {call : SectorCall} {error : TransferError} :
      device.array.refusal? call = some error → Carried device call (call.refused error) device
  | read {sector : SectorNumber} {buffer : List UInt8} :
      device.array.refusal? (.read sector buffer) = none →
      Carried device (.read sector buffer) (.read (.ok ()) (device.driver.contents sector).toList)
        { device with reads := device.reads + 1 }
  | written {sector : SectorNumber} {data : List UInt8} :
      device.array.takes (.write sector data) = true →
      device.array.refusal? (.write sector data) = none →
      Carried device (.write sector data) (.written (.ok ())) (device.wrote sector data)

/-- The device is what the transfers in `past` have made of an array of sectors. -/
structure Mirrors (origin : BlockDevice MemoryDisk) (past : List SectorCall)
    (device : BlockDevice MemoryDisk) : Prop where
  identity : device.identity = origin.identity
  sectors : device.driver.sectors = origin.driver.sectors
  contents : ∀ sector, (device.driver.contents sector).toList = origin.array.bytes past sector
  reads : device.reads = origin.array.readCount past
  writes : device.writes = origin.array.writeCount past

namespace Mirrors

variable {origin : BlockDevice MemoryDisk} {past : List SectorCall}

theorem overMemory (index : Nat) (name : String) (array : SectorArray) :
    Mirrors (.overMemory index name array) [] (.overMemory index name array) where
  identity := rfl
  sectors := rfl
  contents sector := by
    rw [BlockDevice.overMemory, BlockDevice.unused, MemoryDisk.contents_new]
    rfl
  reads := rfl
  writes := rfl

theorem name_eq (h : Mirrors origin past device) : device.name = origin.name :=
  congrArg (·.name) h.identity

theorem array_eq (h : Mirrors origin past device) : device.array = origin.array := by
  rw [array, array, ← h.sectors, show device.type = origin.type from congrArg (·.type) h.identity,
    show device.size = origin.size from congrArg (·.size) h.identity]

/-- A transfer that is not carried out is as none. -/
theorem idle (h : Mirrors origin past device) (hidle : origin.array.carriesOut call = false) :
    Mirrors origin (past ++ [call]) device := by
  refine ⟨h.identity, h.sectors, fun sector => ?_, ?_, ?_⟩
  · rw [h.contents, SectorArray.bytes_concat, SectorArray.written?_of_not hidle, Option.getD_none]
  · rw [h.reads, SectorArray.readCount_concat, hidle, Bool.and_false]
    rfl
  · rw [h.writes, SectorArray.writeCount_concat, hidle, Bool.and_false]
    rfl

theorem carried (h : Mirrors origin past device) (hcall : Carried device call reply after) :
    Mirrors origin (past ++ [call]) after := by
  cases hcall with
  | refused hrefusal =>
      rw [h.array_eq] at hrefusal
      exact h.idle (SectorArray.carriesOut_of_refusal hrefusal)
  | @read sector buffer hrefusal =>
      rw [h.array_eq] at hrefusal
      have hdone : origin.array.carriesOut (.read sector buffer) = true :=
        SectorArray.carriesOut_iff.2 ⟨rfl, hrefusal⟩
      refine ⟨h.identity, h.sectors, fun sector => ?_, ?_, ?_⟩
      · rw [SectorArray.bytes_concat]
        exact h.contents sector
      · simp [h.reads, SectorArray.readCount_concat, hdone, SectorCall.isRead]
      · simp [h.writes, SectorArray.writeCount_concat, SectorCall.isRead]
  | written htakes hrefusal =>
      have hcontents := contents_wrote hrefusal
      rw [h.array_eq] at htakes hrefusal
      have hdone := SectorArray.carriesOut_iff.2 ⟨htakes, hrefusal⟩
      refine ⟨h.identity, h.sectors, fun sector => ?_, ?_, ?_⟩
      · rw [hcontents, SectorArray.bytes_concat, h.contents]
        simp only [SectorArray.written?, hdone, and_true]
        split <;> rfl
      · simp [wrote, h.reads, SectorArray.readCount_concat, SectorCall.isRead]
      · simp [wrote, h.writes, SectorArray.writeCount_concat, hdone, SectorCall.isRead]

theorem reply_eq (h : Mirrors origin past device) (hcall : Carried device call reply after) :
    reply = origin.array.answer past call := by
  cases hcall with
  | refused hrefusal =>
      rw [h.array_eq] at hrefusal
      rw [SectorArray.answer, hrefusal]
  | read hrefusal =>
      rw [h.array_eq] at hrefusal
      rw [SectorArray.answer, hrefusal, h.contents]
      rfl
  | written _ hrefusal =>
      rw [h.array_eq] at hrefusal
      rw [SectorArray.answer, hrefusal]
      rfl

/-- A transfer that is taken ends, for the counters have room for it. -/
theorem exists_carried (h : Mirrors origin past device)
    (htakes : origin.array.takes call = true)
    (hreads : origin.array.readCount (past ++ [call]) < 0x100000000)
    (hwrites : origin.array.writeCount (past ++ [call]) < 0x100000000) :
    ∃ reply after, device.attempt call = (.ok reply, after) ∧
      Carried device call reply after := by
  have htakes' : device.array.takes call = true := by rwa [h.array_eq]
  cases hrefusal : device.array.refusal? call with
  | some error => exact ⟨_, _, attempt_of_refusal htakes' hrefusal, .refused hrefusal⟩
  | none =>
      have hdone := SectorArray.carriesOut_iff.2 ⟨htakes, h.array_eq ▸ hrefusal⟩
      cases call with
      | read sector buffer =>
          have hroom : device.reads + 1 < 0x100000000 := by
            simpa [SectorArray.readCount_concat, hdone, SectorCall.isRead, h.reads] using hreads
          exact ⟨_, _, attempt_read hrefusal hroom, .read hrefusal⟩
      | write sector data =>
          have hroom : device.writes + 1 < 0x100000000 := by
            simpa [SectorArray.writeCount_concat, hdone, SectorCall.isRead, h.writes] using hwrites
          exact ⟨_, _, attempt_write htakes' hrefusal hroom, .written htakes' hrefusal⟩

theorem attempt (h : Mirrors origin past device)
    (hreads : origin.array.readCount (past ++ [call]) < 0x100000000)
    (hwrites : origin.array.writeCount (past ++ [call]) < 0x100000000) :
    (device.attempt call).1 = origin.answer past call ∧
      Mirrors origin (past ++ [call]) (device.attempt call).2 := by
  rw [BlockDevice.answer]
  cases htakes : origin.array.takes call with
  | false =>
      have hnot : device.array.takes call = false := by rwa [h.array_eq]
      rw [attempt_of_not_takenBy hnot, h.name_eq]
      exact ⟨rfl, h.idle (SectorArray.carriesOut_of_not_takes htakes)⟩
  | true =>
      obtain ⟨reply, after, hattempt, hcarried⟩ := h.exists_carried htakes hreads hwrites
      rw [hattempt, h.reply_eq hcarried]
      exact ⟨rfl, h.carried hcarried⟩

/-- Counters that hold the transfers of a history held those of its beginnings. -/
theorem attempts {calls : List SectorCall} (hnew : Mirrors origin [] origin)
    (hreads : origin.array.readCount calls < 0x100000000)
    (hwrites : origin.array.writeCount calls < 0x100000000) :
    Mirrors origin calls (origin.attempts calls) := by
  induction calls using List.reverseRecOn with
  | nil => exact hnew
  | append_singleton past call ih =>
      have hfirst : past.Sublist (past ++ [call]) := List.sublist_append_left past [call]
      have hpast := ih (Nat.lt_of_le_of_lt hfirst.countP_le hreads)
        (Nat.lt_of_le_of_lt hfirst.countP_le hwrites)
      rw [attempts_concat]
      exact (hpast.attempt hreads hwrites).2

/-- Every transfer of a history that the counters hold is answered as by the array. -/
theorem before {later : List SectorCall} (hnew : Mirrors origin [] origin)
    (hreads : origin.array.readCount (past ++ call :: later) < 0x100000000)
    (hwrites : origin.array.writeCount (past ++ call :: later) < 0x100000000) :
    Mirrors origin past (origin.attempts past) ∧
      ((origin.attempts past).attempt call).1 = origin.answer past call := by
  rw [List.append_cons] at hreads hwrites
  have hnext : (past ++ [call]).Sublist (past ++ [call] ++ later) := List.sublist_append_left _ _
  have hpast : past.Sublist (past ++ [call] ++ later) := (List.sublist_append_left _ _).trans hnext
  have hmirrors := hnew.attempts (Nat.lt_of_le_of_lt hpast.countP_le hreads)
    (Nat.lt_of_le_of_lt hpast.countP_le hwrites)
  exact ⟨hmirrors, (hmirrors.attempt (Nat.lt_of_le_of_lt hnext.countP_le hreads)
    (Nat.lt_of_le_of_lt hnext.countP_le hwrites)).1⟩

end Mirrors

theorem driver_attemptRead (device : BlockDevice MemoryDisk) (sector : SectorNumber)
    (buffer : List UInt8) : (device.attemptRead sector buffer).2.2.driver = device.driver := by
  rw [attemptRead]
  split
  · split
    · rw [MemoryDisk.driver_read_eq]
      by_cases hdisk : sector < device.driver.sectors
      · rw [if_pos hdisk]
        cases nextCount device.reads <;> rfl
      · rw [if_neg hdisk]
    · rfl
  · rfl

/-- A foreign device keeps its disk, and what it is, also where a transfer halts. -/
theorem attempt_of_foreign (hforeign : device.type = .foreign) (call : SectorCall) :
    (device.attempt call).2.type = .foreign ∧ (device.attempt call).2.driver = device.driver := by
  cases call with
  | read sector buffer =>
      have hidentity := identity_attemptRead device sector buffer
      exact ⟨(congrArg (·.type) hidentity).trans hforeign, driver_attemptRead device sector buffer⟩
  | write sector data =>
      have hsame : (device.attempt (.write sector data)).2 = device :=
        attemptWrite_of_foreign hforeign sector data
      rw [hsame]
      exact ⟨hforeign, rfl⟩

theorem attempts_of_foreign {origin : BlockDevice MemoryDisk} (hforeign : origin.type = .foreign)
    (calls : List SectorCall) : (origin.attempts calls).type = .foreign ∧
      (origin.attempts calls).driver = origin.driver := by
  induction calls using List.reverseRecOn with
  | nil => exact ⟨hforeign, rfl⟩
  | append_singleton past call ih =>
      obtain ⟨htype, hdriver⟩ := ih
      obtain ⟨hkept, hsame⟩ := attempt_of_foreign htype call
      rw [attempts_concat]
      exact ⟨hkept, hsame.trans hdriver⟩

/-- Transfers that are asked of a device one after the other, and what each of them comes to behind
those before it. -/
structure ActsAsArray (origin : BlockDevice MemoryDisk) (calls : List SectorCall) : Prop where
  mirrors : Mirrors origin calls (origin.attempts calls)
  answers : ∀ {past later : List SectorCall} {call : SectorCall}, calls = past ++ call :: later →
    ((origin.attempts past).attempt call).1 = origin.answer past call
  succeeds_iff : ∀ {past later : List SectorCall} {call : SectorCall},
    calls = past ++ call :: later → origin.array.takes call = true →
      ((∃ bytes, ((origin.attempts past).attempt call).1 = .ok (call.carriedOut bytes)) ↔
        call.sector.toNat < min origin.size.toNat origin.driver.sectors.toNat ∧
          call.length = sectorSize)
  refuses : ∀ {past later : List SectorCall} {call : SectorCall} {error : TransferError},
    calls = past ++ call :: later → origin.array.takes call = true →
      origin.array.refusal? call = some error →
        (origin.attempts past).attempt call = (.ok (call.refused error), origin.attempts past)
  /-- Only a foreign device forbids a transfer, and only a write that fits it. -/
  forbids_iff : ∀ call : SectorCall, origin.array.takes call = false ↔ call.isRead = false ∧
    (call.sector < origin.size ∧ call.length = sectorSize) ∧ origin.type = .foreign
  forbids : ∀ {past later : List SectorCall} {call : SectorCall}, calls = past ++ call :: later →
    origin.array.takes call = false → (origin.attempts past).attempt call =
      (.error (.foreignWrite origin.name), origin.attempts past)
  foreign : origin.type = .foreign → (origin.attempts calls).driver = origin.driver

theorem answer_eq_carriedOut_iff {origin : BlockDevice MemoryDisk} {past : List SectorCall}
    (htakes : origin.array.takes call = true) :
    (∃ bytes, origin.answer past call = .ok (call.carriedOut bytes)) ↔
      origin.array.refusal? call = none := by
  rw [answer, if_pos htakes, SectorArray.answer]
  cases origin.array.refusal? call with
  | none => exact iff_of_true ⟨_, rfl⟩ rfl
  | some error =>
      refine iff_of_false ?_ (Option.some_ne_none error)
      rintro ⟨bytes, hbytes⟩
      cases call <;> cases hbytes

/-- A device over a disk in memory cannot be told from an array of sectors. -/
theorem acts_as_sector_array (index : Nat) (name : String) (array : SectorArray)
    (calls : List SectorCall) (hreads : array.readCount calls < 0x100000000)
    (hwrites : array.writeCount calls < 0x100000000) :
    ActsAsArray (.overMemory index name array) calls := by
  have hnew := Mirrors.overMemory index name array
  rw [← array_overMemory index name array] at hreads hwrites
  exact {
    mirrors := hnew.attempts hreads hwrites
    answers := fun hsplit => by
      subst hsplit
      exact (hnew.before hreads hwrites).2
    succeeds_iff := fun hsplit htakes => by
      subst hsplit
      rw [(hnew.before hreads hwrites).2, answer_eq_carriedOut_iff htakes,
        SectorArray.refusal?_eq_none_iff_lt_min]
      rfl
    refuses := fun hsplit htakes hrefusal => by
      subst hsplit
      rw [← (hnew.before hreads hwrites).1.array_eq] at htakes hrefusal
      rw [attempt_of_refusal htakes hrefusal]
    forbids_iff := fun _ => SectorCall.takenBy_eq_false_iff
    forbids := fun hsplit htakes => by
      subst hsplit
      have hpast := (hnew.before hreads hwrites).1
      rw [← hpast.array_eq] at htakes
      rw [attempt_of_not_takenBy htakes, hpast.name_eq]
    foreign := fun hforeign => (attempts_of_foreign hforeign calls).2 }

/-- Four sectors that a device shows of a disk of three. -/
def clippedArray : SectorArray := ⟨.scratch, 4, 3⟩

/-- A short buffer is the device's affair, and the sector behind the disk's end is the disk's. -/
def probeClipped : List SectorCall :=
  [.read 1 [], .write 1 (List.replicate sectorSize 7), .write 3 (List.replicate sectorSize 9),
    .read 4 [], .write 3 [], .write 2 (List.replicate sectorSize 5),
    .read 1 (List.replicate sectorSize 1), .read 0 (List.replicate sectorSize 1)]

theorem acts_as_sector_array_clipped :
    clippedArray.readCount probeClipped = 2 ∧ clippedArray.writeCount probeClipped = 2 ∧
      clippedArray.bytes probeClipped 1 = List.replicate sectorSize 7 ∧
      ActsAsArray (.overMemory 0 "hda" clippedArray) probeClipped := by
  have hreads : clippedArray.readCount probeClipped = 2 := by decide +kernel
  have hwrites : clippedArray.writeCount probeClipped = 2 := by decide +kernel
  refine ⟨hreads, hwrites, by decide +kernel, acts_as_sector_array 0 "hda" clippedArray _ ?_ ?_⟩
  · rw [hreads]
    decide
  · rw [hwrites]
    decide

end BlockDevice

end DemandPaging
