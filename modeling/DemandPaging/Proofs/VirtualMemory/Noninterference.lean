import DemandPaging.Proofs.VirtualMemory.Hollow
import DemandPaging.Proofs.VirtualMemory.Integrity

/-!
Noninterference between address spaces. Two machines whose calls differ in the bytes that one
process writes stay alike in all but that process's bytes, although frames and slots go from one
process to another without being cleared.
-/
namespace DemandPaging

/-- The call without the bytes that `secret` writes. -/
def MemoryCall.redact (secret : Pid) : MemoryCall → MemoryCall
  | .copyToUser pid addr data => .copyToUser pid addr (if pid = secret then zeroed data else data)
  | call => call

/-- The reply to a call without the bytes that `secret` reads. -/
def MemoryReply.redact (secret : Pid) : MemoryCall → MemoryReply → MemoryReply
  | .copyFromUser pid _ _, .bytes result got =>
    .bytes result (if pid = secret then zeroed got else got)
  | _, reply => reply

/-- Calls that are the same but for what `secret` writes are the same, or `secret` writes as many
bytes to the same place. -/
theorem MemoryCall.cases_of_redact {secret : Pid} {call call' : MemoryCall}
    (h : call.redact secret = call'.redact secret) :
    call = call' ∨ ∃ addr data data', call = .copyToUser secret addr data ∧
      call' = .copyToUser secret addr data' ∧ data.length = data'.length := by
  cases call with
  | copyToUser pid addr data =>
      cases call' with
      | copyToUser pid' addr' data' =>
          simp only [redact, copyToUser.injEq] at h
          obtain ⟨rfl, rfl, hdata⟩ := h
          by_cases hsecret : pid = secret
          · rw [if_pos hsecret, if_pos hsecret, zeroed_eq_zeroed] at hdata
            exact .inr ⟨addr, data, data', hsecret ▸ rfl, hsecret ▸ rfl, hdata⟩
          · rw [if_neg hsecret, if_neg hsecret] at hdata
            exact .inl (hdata ▸ rfl)
      | _ => cases h
  | _ => cases call' <;> first | exact .inl h | cases h

/-- Images that differ in the bytes of `secret` at most. -/
def MemoryImage.AgreeOff (secret : Pid) (image image' : MemoryImage) : Prop :=
  ∀ key, key.owner ≠ secret → image key = image' key

/-- Bytes that `secret` writes go to pages of `secret`. -/
theorem MemoryImage.AgreeOff.write {secret pid : Pid} {image image' : MemoryImage}
    (h : image.AgreeOff secret image') (addr : Nat) {data data' : List UInt8}
    (hdata : pid ≠ secret → data = data') :
    (image.write pid addr data).AgreeOff secret (image'.write pid addr data') := by
  intro key hkey
  simp only [MemoryImage.write, h key hkey]
  refine Option.map_congr fun contents _ => ?_
  by_cases howner : key.owner = pid
  · rw [hdata (howner ▸ hkey)]
  · rw [UserMemory.written_of_owner_ne howner, UserMemory.written_of_owner_ne howner]

theorem MemoryImage.AgreeOff.next {secret : Pid} {image image' : MemoryImage}
    (h : image.AgreeOff secret image') {call : MemoryCall} (hplain : call.isCopy = false)
    (moved moved' : Nat) (reply : MemoryReply) :
    (image.next moved call reply).AgreeOff secret (image'.next moved' call reply) := by
  have hput (key : UserPage) (contents? : Option Page) :
      (image.put key contents?).AgreeOff secret (image'.put key contents?) := by
    intro other hother
    simp only [put, h other hother]
  cases call with
  | copyFromUser => cases hplain
  | copyToUser => cases hplain
  | destroySpace pid =>
      intro key hkey
      simp only [MemoryImage.next, removeSpace, h key hkey]
  | mapZero pid addr kind writable =>
      cases reply with
      | done result =>
          cases result with
          | error error => exact h
          | ok => exact hput _ _
      | _ => exact h
  | unmap pid addr =>
      cases reply with
      | done result =>
          cases result with
          | error error => exact h
          | ok => exact hput _ _
      | _ => exact h
  | resolveFault pid fault =>
      cases reply with
      | done result =>
          cases result with
          | error error => exact h
          | ok =>
              -- Whether a page of `secret` was there makes no difference to the others.
              intro key hkey
              simp only [MemoryImage.next]
              by_cases heq : UserPage.containing pid fault.addr = key
              · rw [heq, h key hkey]
                split
                · exact h key hkey
                · exact hput _ _ key hkey
              · have hkept (memory : MemoryImage) (contents? : Option Page) :
                    memory.put (.containing pid fault.addr) contents? key = memory key :=
                  if_neg heq
                split <;> split <;> simp only [hkept, h key hkey]
      | _ => exact h
  | _ => exact h

/-- What may happen to a device between two calls, as that other sectors fail from then on. It
depends on no bytes and changes none. -/
structure Disturbance (δ ε : Type) [BlockDriver δ] [SectorStore δ] [BlockDriver ε]
    [HollowDriver δ ε] where
  change : δ → δ
  stored_change : ∀ driver, SectorStore.stored (change driver) = SectorStore.stored driver
  hollow_change : ∀ {driver driver' : δ},
    (HollowDriver.hollow driver : ε) = HollowDriver.hollow driver' →
      (HollowDriver.hollow (change driver) : ε) = HollowDriver.hollow (change driver')

/-- From now on these sectors fail. -/
def FaultyDisk.refault (readFails writeFails : SectorNumber → Bool) :
    Disturbance FaultyDisk HollowDisk where
  change faulty := faulty.withFaults readFails writeFails
  stored_change _ := rfl
  hollow_change h := congrArg (HollowDisk.mk · readFails writeFails) (congrArg (·.sectors) h)

namespace VirtualMemory

variable {δ ε φ π : Type} [BlockDriver δ] [SectorStore δ] [BlockDriver ε] [HollowDriver δ ε]
  {secret pid : Pid} {addr : Nat} {write : Bool}

/-- Two machines in order that differ in contents only, and those that processes other than `secret`
see are the same. -/
structure Indistinct (secret : Pid) (vm vm' : VirtualMemory δ φ π) : Prop where
  hollow_eq : (vm.hollow : VirtualMemory ε φ π) = vm'.hollow
  image : vm.user.image.AgreeOff secret vm'.user.image
  accounted : vm.Accounted none
  accounted' : vm'.Accounted none
  coherent : vm.Coherent
  coherent' : vm'.Coherent

/-- The same result, and machines that are alike. -/
abbrev EndsAlike {α : Type} (secret : Pid) (left right : α × VirtualMemory δ φ π) : Prop :=
  left.1 = right.1 ∧ Indistinct secret left.2 right.2

variable {vm vm' : VirtualMemory δ φ π}

omit [SectorStore δ] in
theorem hollow_patchFrame {number : FrameNumber} {frame : Frame}
    (hframe : vm.pool.frame? number = some frame) (start : Nat) (data : List UInt8) :
    ((vm.patchFrame number frame start data).hollow : VirtualMemory ε φ π) = vm.hollow := by
  have hpool := FramePool.hollow_replace hframe
    (show Frame.hollow { frame with contents := frame.contents.overwrite start data } =
      frame.hollow from rfl)
  simp only [hollow, PageStore.hollow, patchFrame, hpool]

omit [SectorStore δ] in
/-- Operations that are the same for hollow machines go together. -/
theorem together_of_hollowed {α : Type} {first second : Except Halt (α × VirtualMemory δ φ π)}
    (h : (hollowed first : Except Halt (α × VirtualMemory ε φ π)) = hollowed second) :
    Together (fun left right => left.1 = right.1 ∧
      (left.2.hollow : VirtualMemory ε φ π) = right.2.hollow) first second := by
  cases first with
  | error halt =>
      cases second with
      | error halt' =>
          cases h
          exact .halted halt
      | ok right => cases h
  | ok left =>
      cases second with
      | error halt => cases h
      | ok right =>
          obtain ⟨hresult, hafter⟩ := Prod.mk.inj (Except.ok.inj h)
          exact .ended ⟨hresult, hafter⟩

theorem Indistinct.disturb (h : Indistinct secret vm vm') (disturbance : Disturbance δ ε) :
    Indistinct secret (vm.withDriver (disturbance.change vm.swap.disk.driver))
      (vm'.withDriver (disturbance.change vm'.swap.disk.driver)) where
  hollow_eq := by
    have hdriver := congrArg (·.swap.disk.driver) h.hollow_eq
    change vm.hollow.withDriver (HollowDriver.hollow _) = vm'.hollow.withDriver _
    rw [h.hollow_eq]
    exact congrArg vm'.hollow.withDriver (disturbance.hollow_change hdriver)
  image := by
    rw [user_withDriver (disturbance.stored_change _),
      user_withDriver (disturbance.stored_change _)]
    exact h.image
  accounted := h.accounted.withDriver _
  accounted' := h.accounted'.withDriver _
  coherent := h.coherent.of_alike (fun _ => rfl) (.refl _)
  coherent' := h.coherent'.of_alike (fun _ => rfl) (.refl _)

/-- A fresh machine is like itself. -/
theorem indistinct_new {count : Nat} {pool : FramePool} (disk : BlockDevice δ)
    (hpool : FramePool.new count = .ok pool) (placement : φ) (policy : π) (stackLimit : Nat) :
    Indistinct secret (new (.new disk) pool placement policy stackLimit)
      (new (.new disk) pool placement policy stackLimit) where
  hollow_eq := rfl
  image _ _ := rfl
  accounted := accounted_new disk hpool placement policy stackLimit
  accounted' := accounted_new disk hpool placement policy stackLimit
  coherent := coherent_new disk pool placement policy stackLimit
  coherent' := coherent_new disk pool placement policy stackLimit

section Calls

variable [Placement φ] [Replacement π] [GentleReplacement π]

/-- An access that succeeds leads to the frame with the bytes of its page. -/
theorem exists_frame_of_access {mid : VirtualMemory δ φ π} {number : FrameNumber}
    (hbooks : vm.Accounted none) (h : vm.Coherent)
    (haccess : vm.access pid addr write = .ok (.ok number, mid)) :
    ∃ frame, mid.pool.frame? number = some frame ∧
      mid.user.image (.containing pid addr) = some frame.contents := by
  obtain ⟨-, hreached⟩ := reached_of_access haccess hbooks h
  cases hreached with
  | granted _ hheld hlocation =>
      obtain ⟨frame, hframe, -⟩ := (accounted_of_access hbooks haccess).exists_frame hheld hlocation
      refine ⟨frame, hframe, ?_⟩
      rw [UserMemory.image, page?_user_of_resident hheld hlocation hframe, Option.map_some]

/-- Machines stay alike where both write a chunk to the page they both have accessed. -/
theorem Indistinct.patchFrame (h : Indistinct secret vm vm') {mid mid' : VirtualMemory δ φ π}
    (hmid : Indistinct secret mid mid') {number : FrameNumber} {frame frame' : Frame}
    (haccess : vm.access pid addr true = .ok (.ok number, mid))
    (haccess' : vm'.access pid addr true = .ok (.ok number, mid'))
    (hframe : mid.pool.frame? number = some frame)
    (hframe' : mid'.pool.frame? number = some frame') {data data' : List UInt8} {count : Nat}
    (hcount : count = chunkLength addr data.length) (hlength : data.length = data'.length)
    (hdata : pid ≠ secret → data = data') :
    Indistinct secret (mid.patchFrame number frame (offsetInPage addr) (data.take count))
      (mid'.patchFrame number frame' (offsetInPage addr) (data'.take count)) where
  hollow_eq := by rw [hollow_patchFrame hframe, hollow_patchFrame hframe', hmid.hollow_eq]
  image := by
    rw [user_of_chunk h.accounted h.coherent haccess hframe hcount,
      user_of_chunk h.accounted' h.coherent' haccess' hframe' (hlength ▸ hcount),
      UserMemory.image_write, UserMemory.image_write]
    exact h.image.write addr fun hpublic => congrArg (·.take count) (hdata hpublic)
  accounted := hmid.accounted.patchFrame hframe _ _
  accounted' := hmid.accounted'.patchFrame hframe' _ _
  coherent := hmid.coherent.of_alike (fun _ => rfl) (.refl _)
  coherent' := hmid.coherent'.of_alike (fun _ => rfl) (.refl _)

variable [BlindReplacement π]

/-- What a script shows to all but `secret`: the replies up to its end or to the first call that
halts, and why that one halts. -/
def observe (secret : Pid) (vm : VirtualMemory δ φ π) :
    List (Disturbance δ ε × MemoryCall) → List MemoryReply × Option Halt
  | [] => ([], none)
  | (disturbance, call) :: script =>
    match (vm.withDriver (disturbance.change vm.swap.disk.driver)).perform call with
    | .error halt => ([], some halt)
    | .ok (reply, after) =>
      let (replies, halt?) := after.observe secret script
      (reply.redact secret call :: replies, halt?)

/-- The script without the bytes that `secret` writes. -/
def redacted (secret : Pid) (script : List (Disturbance δ ε × MemoryCall)) :
    List (Disturbance δ ε × MemoryCall) :=
  script.map fun (disturbance, call) => (disturbance, call.redact secret)

theorem Indistinct.access (h : Indistinct secret vm vm') (pid : Pid) (addr : Nat) (write : Bool) :
    Together (EndsAlike secret)
      (vm.access pid addr write) (vm'.access pid addr write) := by
  have hsame : hollowed (vm.access pid addr write) = hollowed (vm'.access pid addr write) := by
    rw [← access_hollow, ← access_hollow, h.hollow_eq]
  refine (together_of_hollowed hsame).mono fun haccess haccess' hrelated => ?_
  obtain ⟨huser, -⟩ := reached_of_access haccess h.accounted h.coherent
  obtain ⟨huser', -⟩ := reached_of_access haccess' h.accounted' h.coherent'
  exact ⟨hrelated.1, hrelated.2, huser ▸ huser' ▸ h.image, accounted_of_access h.accounted haccess,
    accounted_of_access h.accounted' haccess', coherent_of_access h.accounted h.coherent haccess,
    coherent_of_access h.accounted' h.coherent' haccess'⟩

theorem Indistinct.copyToUser (h : Indistinct secret vm vm') (pid : Pid) (addr : Nat)
    {data data' : List UInt8} (hlength : data.length = data'.length)
    (hdata : pid ≠ secret → data = data') :
    Together (EndsAlike secret)
      (vm.copyToUser pid addr data) (vm'.copyToUser pid addr data') := by
  induction hsize : data.length using Nat.strongRecOn generalizing vm vm' addr data data' with
  | ind size ih =>
      cases data with
      | nil =>
          obtain rfl := List.length_eq_zero_iff.1 hlength.symm
          rw [VirtualMemory.copyToUser, VirtualMemory.copyToUser]
          exact .ended ⟨rfl, h⟩
      | cons byte bytes =>
          obtain ⟨byte', bytes', rfl⟩ := List.exists_cons_of_length_eq_add_one hlength.symm
          have hlt := length_drop_chunkLength_lt addr byte bytes
          have hfits := offsetInPage_add_chunkLength_le addr (byte :: bytes).length
          rw [VirtualMemory.copyToUser, VirtualMemory.copyToUser, ← hlength]
          refine (h.access pid addr true).bind fun {left right} haccess haccess' hrelated => ?_
          obtain ⟨result, mid⟩ := left
          obtain ⟨result', mid'⟩ := right
          obtain ⟨rfl, hmid⟩ := hrelated
          cases result with
          | error error => exact .ended ⟨rfl, hmid⟩
          | ok number =>
              obtain ⟨frame, hframe, -⟩ := exists_frame_of_access h.accounted h.coherent haccess
              obtain ⟨frame', hframe', -⟩ :=
                exists_frame_of_access h.accounted' h.coherent' haccess'
              have hpatched :=
                h.patchFrame hmid haccess haccess' hframe hframe' rfl hlength hdata
              simp only
              rw [FramePool.writeBytes_of_fits hframe (by rw [List.length_take]; omega),
                FramePool.writeBytes_of_fits hframe' (by rw [List.length_take, ← hlength]; omega)]
              refine ih _ (hsize ▸ hlt) hpatched _ ?_ (fun hpublic => ?_) rfl
              · rw [List.length_drop, List.length_drop, hlength]
              · rw [hdata hpublic]

theorem Indistinct.copyFromUser (h : Indistinct secret vm vm') (pid : Pid) (addr : Nat)
    (buffer : List UInt8) :
    Together (fun left right => left.1 = right.1 ∧ left.2.1.length = right.2.1.length ∧
        (pid ≠ secret → left.2.1 = right.2.1) ∧ Indistinct secret left.2.2 right.2.2)
      (vm.copyFromUser pid addr buffer) (vm'.copyFromUser pid addr buffer) := by
  induction hsize : buffer.length using Nat.strongRecOn generalizing vm vm' addr buffer with
  | ind size ih =>
      cases buffer with
      | nil =>
          rw [VirtualMemory.copyFromUser, VirtualMemory.copyFromUser]
          exact .ended ⟨rfl, rfl, fun _ => rfl, h⟩
      | cons byte bytes =>
          have hlt := length_drop_chunkLength_lt addr byte bytes
          rw [VirtualMemory.copyFromUser, VirtualMemory.copyFromUser]
          refine (h.access pid addr false).bind fun {left right} haccess haccess' hrelated => ?_
          obtain ⟨result, mid⟩ := left
          obtain ⟨result', mid'⟩ := right
          obtain ⟨rfl, hmid⟩ := hrelated
          cases result with
          | error error => exact .ended ⟨rfl, rfl, fun _ => rfl, hmid⟩
          | ok number =>
              obtain ⟨frame, hframe, himage⟩ :=
                exists_frame_of_access h.accounted h.coherent haccess
              obtain ⟨frame', hframe', himage'⟩ :=
                exists_frame_of_access h.accounted' h.coherent' haccess'
              simp only
              rw [FramePool.frame_eq_ok.2 hframe, FramePool.frame_eq_ok.2 hframe']
              refine (ih _ (hsize ▸ hlt) hmid _ _ rfl).bind fun {left right} _ _ hrelated => ?_
              obtain ⟨result, rest, after⟩ := left
              obtain ⟨result', rest', after'⟩ := right
              obtain ⟨rfl, hrest, hbytes, hafter⟩ := hrelated
              refine .ended ⟨rfl, ?_, fun hpublic => ?_, hafter⟩
              · simp [Bytes.slice, hrest]
              · -- The page is seen by its process, so it is the same page for both.
                have hcontents : frame.contents = frame'.contents := by
                  have hsame := hmid.image (.containing pid addr) hpublic
                  rw [himage, himage'] at hsame
                  exact Option.some.inj hsame
                obtain rfl : rest = rest' := hbytes hpublic
                rw [hcontents]

/-- A call that moves no bytes is the same for alike machines. -/
theorem Indistinct.perform_plain (h : Indistinct secret vm vm') {call : MemoryCall}
    (hplain : call.isCopy = false) :
    Together (EndsAlike secret)
      (vm.perform call) (vm'.perform call) := by
  have hsame : hollowed (vm.perform call) = hollowed (vm'.perform call) := by
    rw [← perform_hollow vm hplain, ← perform_hollow vm' hplain, h.hollow_eq]
  refine (together_of_hollowed hsame).mono fun {left right} hcall hcall' hrelated => ?_
  obtain ⟨reply, after⟩ := left
  obtain ⟨reply', after'⟩ := right
  obtain ⟨rfl, hhollow⟩ := hrelated
  have hcases := perform_cases hcall
  have hcases' := perform_cases hcall'
  obtain ⟨moved, -, -, himage⟩ := hcases.keepsImage h.accounted h.coherent
  obtain ⟨moved', -, -, himage'⟩ := hcases'.keepsImage h.accounted' h.coherent'
  refine ⟨rfl, hhollow, ?_, hcases.accounted h.accounted, hcases'.accounted h.accounted',
    hcases.coherent h.accounted h.coherent, hcases'.coherent h.accounted' h.coherent'⟩
  rw [himage, himage']
  exact h.image.next hplain moved moved' reply

theorem Indistinct.perform (h : Indistinct secret vm vm') {call call' : MemoryCall}
    (hsame : call.redact secret = call'.redact secret) :
    Together (fun left right => left.1.redact secret call = right.1.redact secret call' ∧
        Indistinct secret left.2 right.2)
      (vm.perform call) (vm'.perform call') := by
  have hcopied (pid : Pid) (addr : Nat) {data data' : List UInt8}
      (hlength : data.length = data'.length) (hdata : pid ≠ secret → data = data') :
      Together (EndsAlike secret)
        (vm.perform (.copyToUser pid addr data)) (vm'.perform (.copyToUser pid addr data')) := by
    refine (h.copyToUser pid addr hlength hdata).bind fun {left right} _ _ hrelated => ?_
    obtain ⟨result, after⟩ := left
    obtain ⟨result', after'⟩ := right
    obtain ⟨rfl, hafter⟩ := hrelated
    exact .ended ⟨rfl, hafter⟩
  obtain rfl | ⟨addr, data, data', rfl, rfl, hlength⟩ := MemoryCall.cases_of_redact hsame
  · cases call with
    | copyFromUser pid addr buffer =>
        refine (h.copyFromUser pid addr buffer).bind fun {left right} _ _ hrelated => ?_
        obtain ⟨result, got, after⟩ := left
        obtain ⟨result', got', after'⟩ := right
        obtain ⟨rfl, hlength, hbytes, hafter⟩ := hrelated
        refine .ended ⟨?_, hafter⟩
        simp only [MemoryReply.redact]
        split
        · rw [zeroed_eq_zeroed.2 hlength]
        · rename_i hpublic
          rw [show got = got' from hbytes hpublic]
    | copyToUser pid addr data =>
        exact (hcopied pid addr rfl fun _ => rfl).mono fun _ _ hrelated => hrelated
    | _ =>
        refine (h.perform_plain rfl).mono fun _ _ hrelated => ?_
        exact ⟨congrArg _ hrelated.1, hrelated.2⟩
  · refine (hcopied secret addr hlength (absurd rfl)).mono fun _ _ hrelated => ?_
    exact hrelated

theorem Indistinct.observe_eq (h : Indistinct secret vm vm')
    {script script' : List (Disturbance δ ε × MemoryCall)}
    (hsame : redacted secret script = redacted secret script') :
    vm.observe secret script = vm'.observe secret script' := by
  induction script generalizing vm vm' script' with
  | nil =>
      obtain rfl := List.map_eq_nil_iff.1 hsame.symm
      rfl
  | cons step script ih =>
      obtain ⟨step', rest, rfl, hstep, hrest⟩ := List.map_eq_cons_iff.1 hsame.symm
      obtain ⟨disturbance, call⟩ := step
      obtain ⟨disturbance', call'⟩ := step'
      obtain ⟨rfl, hcall⟩ := Prod.mk.inj hstep
      have htogether := (h.disturb disturbance').perform hcall.symm
      rw [observe, observe]
      generalize (vm.withDriver _).perform call = outcome at htogether
      generalize (vm'.withDriver _).perform call' = outcome' at htogether
      cases htogether with
      | halted halt => rfl
      | ended hrelated => simp only [hrelated.1, ih hrelated.2 hrest.symm]

end Calls

/-- What one process writes, no other process ever learns: with a standard policy, on any device
whose answers do not depend on bytes, two scripts that differ in the bytes that `secret` writes show
the same. -/
theorem noninterference [Placement φ] {count stackLimit : Nat} {pool : FramePool}
    {disk : BlockDevice δ} {placement : φ} {policy : StandardReplacement}
    {script script' : List (Disturbance δ ε × MemoryCall)} (hpool : FramePool.new count = .ok pool)
    (hsame : redacted secret script = redacted secret script') :
    (new (.new disk) pool placement policy stackLimit).observe secret script =
      (new (.new disk) pool placement policy stackLimit).observe secret script' :=
  (indistinct_new disk hpool placement policy stackLimit).observe_eq hsame

/-- What a process with the number 2 might do with `bytes` while another one is at work on the same
frame, on a disk that cannot be read for a while. -/
def rehearsal (bytes : List UInt8) : List (Disturbance FaultyDisk HollowDisk × MemoryCall) :=
  let sound := FaultyDisk.refault (fun _ => false) (fun _ => false)
  let unreadable := FaultyDisk.refault (4 ≤ ·) (fun _ => false)
  [(sound, .createSpace 1), (sound, .createSpace 2), (sound, .mapZero 2 0 .ordinary true),
    (sound, .copyToUser 2 0 bytes), (sound, .mapZero 1 0 .ordinary true),
    (unreadable, .resolveFault 2 ⟨0, false, none⟩), (sound, .copyFromUser 1 0 [255]),
    (sound, .copyFromUser 2 0 [255])]

/-- The script is played to its end, and shows nothing of the byte that is written. -/
theorem noninterference_rehearsal :
    (worn.observe 2 (rehearsal [1])).2 = none ∧
      redacted 2 (rehearsal [1]) = redacted 2 (rehearsal [2]) ∧
      worn.observe 2 (rehearsal [1]) = worn.observe 2 (rehearsal [2]) := by
  have hend : (worn.observe 2 (rehearsal [1])).2 = none := by
    decide +kernel
  have hsame : redacted 2 (rehearsal [1]) = redacted 2 (rehearsal [2]) := rfl
  have hpool : FramePool.new 1 = .ok ⟨.replicate 1 .blank, [], 0⟩ := rfl
  exact ⟨hend, hsame, noninterference hpool hsame⟩

end VirtualMemory

end DemandPaging
