import DemandPaging.Proofs.VirtualMemory.Transfer

/-!
Copies in two parts. A copy may be cut anywhere, also in the middle of a page: the page that the
cut lies in is accessed once more, and finds everything as the first access left it.
-/
namespace DemandPaging

namespace Bytes

variable {n : Nat}

/-- Bytes that are put behind each other are put there at once. -/
theorem overwrite_append (block : Bytes n) {start : Nat} {first second : List UInt8}
    (h : start + first.length + second.length ≤ n) :
    (block.overwrite start first).overwrite (start + first.length) second =
      block.overwrite start (first ++ second) := by
  have hboth : start + (first ++ second).length ≤ n := by
    rw [List.length_append]
    omega
  rw [overwrite_eq_patch _ h, overwrite_eq_patch _ (by omega : start + first.length ≤ n),
    overwrite_eq_patch _ hboth, patch_patch]
  congr 1
  funext i
  by_cases hsecond : start + first.length ≤ i
  · rw [if_pos hsecond, if_pos (by omega), if_pos (by omega),
      List.getElem?_append_right (by omega), Nat.sub_sub,
      List.getElem?_eq_none (by omega : first.length ≤ i - start), Option.or_none]
  · rw [if_neg hsecond, Option.none_or]
    split
    · rw [List.getElem?_append_left (by omega)]
    · rfl

theorem slice_add (block : Bytes n) (start count rest : Nat) :
    block.slice start (count + rest) =
      block.slice start count ++ block.slice (start + count) rest := by
  rw [slice, slice, slice, List.take_add, List.drop_drop]

end Bytes

namespace FramePool

theorem writeBytes_append (pool : FramePool) (number : FrameNumber) {start : Nat}
    {first second : List UInt8} (h : start + first.length + second.length ≤ pageSize) :
    pool.writeBytes number start (first ++ second) =
      pool.writeBytes number start first >>= fun pool =>
        pool.writeBytes number (start + first.length) second := by
  cases hframe : pool.frame? number with
  | none =>
      have hnone : pool.frame number = .error (.noSuchFrame number.index) := by
        rw [FramePool.frame, hframe]
      simp only [writeBytes, hnone]
      rfl
  | some frame =>
      rw [writeBytes_of_fits hframe (by rw [List.length_append]; omega),
        writeBytes_of_fits hframe (by omega)]
      refine Eq.trans ?_ (writeBytes_of_fits (frame?_replace_self hframe _) h).symm
      rw [replace_replace, Bytes.overwrite_append _ h]

end FramePool

namespace VirtualMemory

variable {δ φ π : Type} [BlockDriver δ] [Placement φ] [Replacement π]
  {vm mid after : VirtualMemory δ φ π} {pid : Pid} {addr length moved : Nat} {write : Bool}
  {number : FrameNumber} {data buffer got first second : List UInt8}
  {result : Except MemoryError Unit}

/-- Copies `first` to user memory, and `second` behind it unless that fails. -/
def copyToUserInTurn (vm : VirtualMemory δ φ π) (pid : Pid) (addr : Nat)
    (first second : List UInt8) : Except Halt (Except MemoryError Unit × VirtualMemory δ φ π) := do
  match ← vm.copyToUser pid addr first with
  | (.error error, vm) => return (.error error, vm)
  | (.ok (), vm) => vm.copyToUser pid (addr + first.length) second

/-- Copies user memory into `first`, and what lies behind it into `second` unless that fails. -/
def copyFromUserInTurn (vm : VirtualMemory δ φ π) (pid : Pid) (addr : Nat)
    (first second : List UInt8) :
    Except Halt (Except MemoryError Unit × List UInt8 × VirtualMemory δ φ π) := do
  match ← vm.copyFromUser pid addr first with
  | (.error error, got, vm) => return (.error error, got ++ second, vm)
  | (.ok (), got, vm) =>
    let (result, rest, vm) ← vm.copyFromUser pid (addr + first.length) second
    return (result, got ++ rest, vm)

/-- The first chunk of a copy, and what is left. -/
theorem exists_chunk {data : List UInt8} (h : data ≠ []) (addr : Nat) :
    ∃ chunk rest, data = chunk ++ rest ∧ chunk ≠ [] ∧
      chunkLength addr (chunk.length + rest.length) = chunk.length := by
  obtain ⟨hne, hlength⟩ : _ ∧ (data.take (chunkLength addr data.length)).length = _ :=
    take_chunkLength h rfl
  refine ⟨_, _, (List.take_append_drop (chunkLength addr data.length) data).symm, hne, ?_⟩
  rw [← List.length_append, List.take_append_drop, hlength]

/-- Where the first part reaches the end of its page, so does the first chunk. -/
theorem chunkLength_of_reaches {rest : Nat} (h : pageSize - offsetInPage addr ≤ length) :
    chunkLength addr (length + rest) = chunkLength addr length := by
  simp only [chunkLength]
  omega

/-- Where it does not, the first chunk goes on into the second part. -/
theorem chunkLength_of_ends_within (h : length < pageSize - offsetInPage addr) (rest : Nat) :
    chunkLength addr length = length ∧ pageNumber (addr + length) = pageNumber addr ∧
      offsetInPage (addr + length) = offsetInPage addr + length ∧
      chunkLength addr (length + rest) = length + chunkLength (addr + length) rest := by
  have hlt := offsetInPage_lt addr
  have hpage : pageNumber (addr + length) = pageNumber addr := by
    simp only [pageNumber, offsetInPage, pageSize] at *
    omega
  have hoffset : offsetInPage (addr + length) = offsetInPage addr + length := by
    simp only [offsetInPage, pageSize] at *
    omega
  refine ⟨?_, hpage, hoffset, ?_⟩
  · simp only [chunkLength]
    omega
  · simp only [chunkLength, hoffset]
    omega

/-- A chunk that the first part holds whole is the first one of both parts. -/
theorem exists_chunk_of_reaches (hfirst : first ≠ [])
    (hreaches : pageSize - offsetInPage addr ≤ first.length) (second : List UInt8) :
    ∃ chunk rest, first = chunk ++ rest ∧ chunk ≠ [] ∧
      chunkLength addr (chunk.length + rest.length) = chunk.length ∧
      chunkLength addr (chunk.length + (rest ++ second).length) = chunk.length := by
  obtain ⟨chunk, rest, rfl, hchunk, hcount⟩ := exists_chunk hfirst addr
  refine ⟨chunk, rest, rfl, hchunk, hcount, ?_⟩
  rw [List.length_append] at hreaches ⊢
  rw [← Nat.add_assoc, chunkLength_of_reaches hreaches, hcount]

/-- Otherwise the first chunk is the first part with the chunk that the second one begins with. -/
theorem exists_chunk_of_ends_within (hsecond : second ≠ [])
    (hwithin : first.length < pageSize - offsetInPage addr) :
    ∃ chunk rest, second = chunk ++ rest ∧ chunk ≠ [] ∧
      chunkLength (addr + first.length) (chunk.length + rest.length) = chunk.length ∧
      chunkLength addr ((first ++ chunk).length + rest.length) = (first ++ chunk).length := by
  obtain ⟨chunk, rest, rfl, hchunk, hcount⟩ := exists_chunk hsecond (addr + first.length)
  obtain ⟨-, -, -, hboth⟩ := chunkLength_of_ends_within hwithin (chunk.length + rest.length)
  refine ⟨chunk, rest, rfl, hchunk, hcount, ?_⟩
  rw [List.length_append, Nat.add_assoc, hboth, hcount]

theorem copyToUserInTurn_nil (vm : VirtualMemory δ φ π) (pid : Pid) (addr : Nat)
    (first : List UInt8) :
    vm.copyToUserInTurn pid addr first [] = vm.copyToUser pid addr first := by
  rw [copyToUserInTurn]
  cases vm.copyToUser pid addr first with
  | error halt => rfl
  | ok reply =>
      obtain ⟨_ | _, mid⟩ := reply
      · rfl
      · simp only [bind, Except.bind, copyToUser]

/-- Where the cut lies in a page, both parts are written to the same frame. -/
theorem copyToUser_split_within (vm : VirtualMemory δ φ π) (pid : Pid) (hfirst : first ≠ [])
    (hsecond : second ≠ []) (hwithin : first.length < pageSize - offsetInPage addr) :
    vm.copyToUser pid addr (first ++ second) = vm.copyToUserInTurn pid addr first second := by
  obtain ⟨hwhole, hpage, hoffset, -⟩ := chunkLength_of_ends_within hwithin 0
  obtain ⟨chunk, rest, rfl, hchunk, hcount, hjoined⟩ := exists_chunk_of_ends_within hsecond hwithin
  have hfits := offsetInPage_add_chunkLength_le addr ((first ++ chunk).length + rest.length)
  rw [hjoined, List.length_append, ← Nat.add_assoc] at hfits
  have halone : vm.copyToUser pid addr (first ++ []) = _ :=
    copyToUser_chunk hfirst (by simpa using hwhole) vm pid
  rw [List.append_nil] at halone
  have hne : first ++ chunk ≠ [] := List.append_ne_nil_of_left_ne_nil hfirst _
  rw [← List.append_assoc, copyToUser_chunk hne hjoined, copyToUserInTurn, halone]
  cases haccess : vm.access pid addr true with
  | error halt => rfl
  | ok reply =>
      obtain ⟨_ | number, mid⟩ := reply
      · rfl
      · simp only [bind, Except.bind, mid.pool.writeBytes_append number hfits]
        cases mid.pool.writeBytes number (offsetInPage addr) first with
        | error halt => rfl
        | ok pool =>
            have hagain : ({ mid with pool } : VirtualMemory δ φ π).access pid
                (addr + first.length) true = .ok (.ok number, { mid with pool }) :=
              access_again haccess hpage rfl
            simp only [copyToUser, copyToUser_chunk hchunk hcount, hagain, hoffset, bind,
              Except.bind, List.length_append, Nat.add_assoc]

theorem copyToUser_split (vm : VirtualMemory δ φ π) (pid : Pid) (addr : Nat)
    (first second : List UInt8) :
    vm.copyToUser pid addr (first ++ second) = vm.copyToUserInTurn pid addr first second := by
  induction hlength : first.length using Nat.strongRecOn generalizing vm addr first with
  | ind length ih =>
      obtain rfl | hfirst := eq_or_ne first []
      · simp only [copyToUserInTurn, copyToUser]
        rfl
      obtain rfl | hsecond := eq_or_ne second []
      · rw [List.append_nil, copyToUserInTurn_nil]
      by_cases hreaches : pageSize - offsetInPage addr ≤ first.length
      · obtain ⟨chunk, rest, rfl, hchunk, hcount, hboth⟩ :=
          exists_chunk_of_reaches hfirst hreaches second
        have hlt : rest.length < length := by
          have hpos := List.length_pos_iff.2 hchunk
          rw [List.length_append] at hlength
          omega
        rw [List.append_assoc, copyToUser_chunk hchunk hboth, copyToUserInTurn,
          copyToUser_chunk hchunk hcount]
        cases haccess : vm.access pid addr true with
        | error halt => rfl
        | ok reply =>
            obtain ⟨_ | number, mid⟩ := reply
            · rfl
            · simp only [bind, Except.bind]
              cases mid.pool.writeBytes number (offsetInPage addr) chunk with
              | error halt => rfl
              | ok pool =>
                  refine (ih _ hlt { mid with pool } (addr + chunk.length) rest rfl).trans ?_
                  rw [copyToUserInTurn, List.length_append, Nat.add_assoc]
                  rfl
      · exact vm.copyToUser_split_within pid hfirst hsecond (Nat.lt_of_not_le hreaches)

theorem copyFromUserInTurn_nil (vm : VirtualMemory δ φ π) (pid : Pid) (addr : Nat)
    (first : List UInt8) :
    vm.copyFromUserInTurn pid addr first [] = vm.copyFromUser pid addr first := by
  rw [copyFromUserInTurn]
  cases vm.copyFromUser pid addr first with
  | error halt => rfl
  | ok reply =>
      obtain ⟨_ | _, got, mid⟩ := reply <;>
        simp [bind, Except.bind, copyFromUser, pure, Except.pure]

/-- Where the cut lies in a page, both parts are read from the same frame. -/
theorem copyFromUser_split_within (vm : VirtualMemory δ φ π) (pid : Pid) (hfirst : first ≠ [])
    (hsecond : second ≠ []) (hwithin : first.length < pageSize - offsetInPage addr) :
    vm.copyFromUser pid addr (first ++ second) =
      vm.copyFromUserInTurn pid addr first second := by
  obtain ⟨hwhole, hpage, hoffset, -⟩ := chunkLength_of_ends_within hwithin 0
  obtain ⟨chunk, rest, rfl, hchunk, hcount, hjoined⟩ := exists_chunk_of_ends_within hsecond hwithin
  have halone : vm.copyFromUser pid addr (first ++ []) = _ :=
    copyFromUser_chunk hfirst (by simpa using hwhole) vm pid
  rw [List.append_nil] at halone
  have hne : first ++ chunk ≠ [] := List.append_ne_nil_of_left_ne_nil hfirst _
  rw [← List.append_assoc, copyFromUser_chunk hne hjoined, copyFromUserInTurn, halone]
  cases haccess : vm.access pid addr false with
  | error halt => rfl
  | ok reply =>
      obtain ⟨_ | number, mid⟩ := reply
      · simp [bind, Except.bind, pure, Except.pure]
      · simp only [bind, Except.bind]
        cases hframe : mid.pool.frame number with
        | error halt => rfl
        | ok frame =>
            have hagain : mid.access pid (addr + first.length) false = .ok (.ok number, mid) :=
              access_again haccess hpage rfl
            simp only [copyFromUser, copyFromUser_chunk hchunk hcount, hagain, hoffset, bind,
              Except.bind, hframe, List.length_append, Nat.add_assoc, pure, Except.pure,
              Bytes.slice_add]
            cases mid.copyFromUser pid (addr + (first.length + chunk.length)) rest with
            | error halt => rfl
            | ok reply => simp

theorem copyFromUser_split (vm : VirtualMemory δ φ π) (pid : Pid) (addr : Nat)
    (first second : List UInt8) :
    vm.copyFromUser pid addr (first ++ second) =
      vm.copyFromUserInTurn pid addr first second := by
  induction hlength : first.length using Nat.strongRecOn generalizing vm addr first with
  | ind length ih =>
      obtain rfl | hfirst := eq_or_ne first []
      · simp only [copyFromUserInTurn, copyFromUser, bind, Except.bind, List.nil_append,
          List.length_nil, Nat.add_zero]
        cases vm.copyFromUser pid addr second <;> rfl
      obtain rfl | hsecond := eq_or_ne second []
      · rw [List.append_nil, copyFromUserInTurn_nil]
      by_cases hreaches : pageSize - offsetInPage addr ≤ first.length
      · obtain ⟨chunk, rest, rfl, hchunk, hcount, hboth⟩ :=
          exists_chunk_of_reaches hfirst hreaches second
        have hlt : rest.length < length := by
          have hpos := List.length_pos_iff.2 hchunk
          rw [List.length_append] at hlength
          omega
        rw [List.append_assoc, copyFromUser_chunk hchunk hboth, copyFromUserInTurn,
          copyFromUser_chunk hchunk hcount]
        cases haccess : vm.access pid addr false with
        | error halt => rfl
        | ok reply =>
            obtain ⟨_ | number, mid⟩ := reply
            · simp [bind, Except.bind, pure, Except.pure]
            · simp only [bind, Except.bind, ih _ hlt mid (addr + chunk.length) rest rfl,
                copyFromUserInTurn]
              cases mid.pool.frame number with
              | error halt => rfl
              | ok frame =>
                  cases mid.copyFromUser pid (addr + chunk.length) rest with
                  | error halt => rfl
                  | ok reply =>
                      obtain ⟨_ | _, got, final⟩ := reply
                      · simp [pure, Except.pure]
                      · simp only [pure, Except.pure, List.length_append, Nat.add_assoc]
                        cases final.copyFromUser pid (addr + (chunk.length + rest.length)) second
                          with
                        | error halt => rfl
                        | ok reply => simp
      · exact vm.copyFromUser_split_within pid hfirst hsecond (Nat.lt_of_not_le hreaches)

/-- The chunk that an access was made for lies in user space. -/
theorem add_chunkLength_le_of_access (h : vm.access pid addr write = .ok (.ok number, mid))
    (length : Nat) : addr + chunkLength addr length ≤ userLimit := by
  obtain ⟨-, hresult, -⟩ | ⟨huser, -⟩ := access_cases h
  · cases hresult
  · have hlt : addr < userLimit := of_decide_eq_true huser
    simp only [chunkLength, offsetInPage, pageSize, userLimit] at *
    omega

/-- A copy whose chunk was accessed lies in user space if what comes behind the chunk does. -/
theorem add_length_le_of_chunk {count : Nat}
    (haccess : vm.access pid addr write = .ok (.ok number, mid))
    (hcount : count = chunkLength addr data.length)
    (hbehind : data.drop count ≠ [] → addr + count + (data.drop count).length ≤ userLimit) :
    addr + data.length ≤ userLimit := by
  have hle := add_chunkLength_le_of_access haccess data.length
  rw [← hcount] at hle
  rw [List.length_drop] at hbehind
  by_cases hrest : data.drop count = []
  · have hall := List.drop_eq_nil_iff.1 hrest
    omega
  · have hlast := hbehind hrest
    omega

/-- A copy that succeeds ends in user space, so what comes next still has an address. -/
theorem CopyIn.add_length_le (hcases : CopyIn pid vm addr data result moved after)
    (hresult : result = .ok ()) (hne : data ≠ []) : addr + data.length ≤ userLimit := by
  induction hcases with
  | done => exact absurd rfl hne
  | stopped => cases hresult
  | chunk _ haccess _ hcount _ ih => exact add_length_le_of_chunk haccess hcount (ih hresult)

theorem CopyOut.add_length_le (hcases : CopyOut pid vm addr buffer result got moved after)
    (hresult : result = .ok ()) (hne : buffer ≠ []) : addr + buffer.length ≤ userLimit := by
  induction hcases with
  | done => exact absurd rfl hne
  | stopped => cases hresult
  | chunk _ haccess _ hcount _ ih => exact add_length_le_of_chunk haccess hcount (ih hresult)

/-- What it means that a copy can be cut. -/
structure CopiesInTurn (vm : VirtualMemory δ φ π) (pid : Pid) (addr : Nat)
    (first second : List UInt8) : Prop where
  toUser : vm.copyToUser pid addr (first ++ second) = vm.copyToUserInTurn pid addr first second
  fromUser :
    vm.copyFromUser pid addr (first ++ second) = vm.copyFromUserInTurn pid addr first second
  /-- The second part begins in user space or right behind it. -/
  toUserBound : ∀ {mid}, vm.copyToUser pid addr first = .ok (.ok (), mid) → first ≠ [] →
    addr + first.length ≤ userLimit
  fromUserBound : ∀ {mid got}, vm.copyFromUser pid addr first = .ok (.ok (), got, mid) →
    first ≠ [] → addr + first.length ≤ userLimit

/-- Whatever state the machine is in, a copy is the same as its two parts in turn. -/
theorem copies_in_turn (vm : VirtualMemory δ φ π) (pid : Pid) (addr : Nat)
    (first second : List UInt8) : vm.CopiesInTurn pid addr first second where
  toUser := vm.copyToUser_split pid addr first second
  fromUser := vm.copyFromUser_split pid addr first second
  toUserBound h hne := by
    obtain ⟨moved, hcases⟩ := copyToUser_cases h
    exact hcases.add_length_le rfl hne
  fromUserBound h hne := by
    obtain ⟨moved, hcases⟩ := copyFromUser_cases h
    exact hcases.add_length_le rfl hne

end VirtualMemory

end DemandPaging
