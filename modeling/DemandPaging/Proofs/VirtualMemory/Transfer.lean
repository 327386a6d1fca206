import DemandPaging.Proofs.VirtualMemory.UserView

/-!
What copies move. A copy that fails has moved the bytes of the pages before the one that could not
be accessed, and no others.
-/
namespace DemandPaging

theorem chunkLength_le (addr length : Nat) : VirtualMemory.chunkLength addr length ≤ length :=
  Nat.min_le_right _ _

namespace VirtualMemory

variable {δ φ π : Type} {vm mid after : VirtualMemory δ φ π} {pid : Pid} {addr length count : Nat}
  {write : Bool} {data buffer got : List UInt8} {result : Except MemoryError Unit} {moved : Nat}
  {page : AnonPage} {number : FrameNumber} {frame : Frame}

/-- A chunk that leaves something over ends where its page ends. -/
theorem offsetInPage_of_chunkLength_lt (h : chunkLength addr length < length) :
    offsetInPage (addr + chunkLength addr length) = 0 := by
  simp only [chunkLength, offsetInPage, pageSize] at *
  omega

/-- The first chunk does not depend on what follows it. -/
theorem chunkLength_add (hcount : count = chunkLength addr length)
    (hmoved : moved ≤ length - count) :
    chunkLength addr (count + moved) = count := by
  simp only [chunkLength] at *
  omega

/-- The first chunk of what is left to copy. -/
theorem take_chunkLength (hne : data ≠ []) (hcount : count = chunkLength addr data.length) :
    data.take count ≠ [] ∧ (data.take count).length = count := by
  have hlength : (data.take count).length = count := by
    rw [List.length_take, hcount]
    exact Nat.min_eq_left (chunkLength_le addr data.length)
  refine ⟨?_, hlength⟩
  have hpos := chunkLength_pos addr (List.length_pos_iff.2 hne)
  exact List.length_pos_iff.1 (by omega)

/-- How many bytes a copy of `buffer` moves: all of them if it succeeds, and otherwise those in
front of the first page whose access fails. `copies` tells which copies succeed, and where they
lead. -/
inductive Moves [BlockDriver δ] [Placement φ] [Replacement π]
    (copies : List UInt8 → VirtualMemory δ φ π → Prop) (pid : Pid) (addr : Nat) (write : Bool)
    (buffer : List UInt8) : Except MemoryError Unit → VirtualMemory δ φ π → Nat → Prop where
  | whole {after : VirtualMemory δ φ π} :
      Moves copies pid addr write buffer (.ok ()) after buffer.length
  | stopped {mid after : VirtualMemory δ φ π} {error : MemoryError} {moved : Nat} :
      moved < buffer.length → moved = 0 ∨ offsetInPage (addr + moved) = 0 →
      copies (buffer.take moved) mid →
      mid.access pid (addr + moved) write = .ok (.error error, after) →
      Moves copies pid addr write buffer (.error error) after moved

section Chunks

variable [BlockDriver δ] [Placement φ] [Replacement π]

theorem Moves.chunk {copies rest : List UInt8 → VirtualMemory δ φ π → Prop}
    (hcount : count = chunkLength addr buffer.length)
    (hcopies : ∀ {part mid}, part.length ≤ buffer.length - count → rest part mid →
      copies (buffer.take count ++ part) mid)
    (h : Moves rest pid (addr + count) write (buffer.drop count) result after moved) :
    Moves copies pid addr write buffer result after (count + moved) := by
  have hle : count ≤ buffer.length := hcount ▸ chunkLength_le addr buffer.length
  cases h with
  | whole =>
      rw [List.length_drop, Nat.add_sub_cancel' hle]
      exact .whole
  | stopped hlt hboundary hrest haccess =>
      rw [List.length_drop] at hlt
      refine .stopped (by omega) (.inr ?_) ?_ (Nat.add_assoc addr count moved ▸ haccess)
      · obtain rfl | hboundary := hboundary
        · rw [Nat.add_zero, hcount]
          exact offsetInPage_of_chunkLength_lt (by omega)
        · rw [← Nat.add_assoc]
          exact hboundary
      · rw [List.take_add]
        refine hcopies ?_ hrest
        rw [List.length_take, List.length_drop]
        omega

/-- What a copy does with its first chunk. -/
theorem copyToUser_chunk {chunk rest : List UInt8} (hne : chunk ≠ [])
    (hlength : chunkLength addr (chunk.length + rest.length) = chunk.length)
    (vm : VirtualMemory δ φ π) (pid : Pid) :
    vm.copyToUser pid addr (chunk ++ rest) = (do
      match ← vm.access pid addr true with
      | (.error error, vm) => return (.error error, vm)
      | (.ok number, vm) =>
        let pool ← vm.pool.writeBytes number (offsetInPage addr) chunk
        { vm with pool }.copyToUser pid (addr + chunk.length) rest) := by
  obtain ⟨byte, bytes, rfl⟩ := List.exists_cons_of_ne_nil hne
  rewrite [List.cons_append, copyToUser, ← List.cons_append, List.length_append, hlength,
    List.take_left' rfl, List.drop_left' rfl]
  rfl

theorem copyFromUser_chunk {chunk rest : List UInt8} (hne : chunk ≠ [])
    (hlength : chunkLength addr (chunk.length + rest.length) = chunk.length)
    (vm : VirtualMemory δ φ π) (pid : Pid) :
    vm.copyFromUser pid addr (chunk ++ rest) = (do
      match ← vm.access pid addr false with
      | (.error error, vm) => return (.error error, chunk ++ rest, vm)
      | (.ok number, vm) =>
        let frame ← vm.pool.frame number
        let (result, got, vm) ← vm.copyFromUser pid (addr + chunk.length) rest
        return (result,
          frame.contents.slice (offsetInPage addr) chunk.length ++ got, vm)) := by
  obtain ⟨byte, bytes, rfl⟩ := List.exists_cons_of_ne_nil hne
  rewrite [List.cons_append, copyFromUser, ← List.cons_append, List.length_append, hlength,
    List.drop_left' rfl]
  rfl

theorem copyToUser_append {chunk part : List UInt8} (hchunk : chunk ≠ [])
    (hlength : chunkLength addr (chunk.length + part.length) = chunk.length)
    (haccess : vm.access pid addr true = .ok (.ok number, mid))
    (hframe : mid.pool.frame? number = some frame) :
    vm.copyToUser pid addr (chunk ++ part) =
      (mid.patchFrame number frame (offsetInPage addr) chunk).copyToUser pid (addr + chunk.length)
        part := by
  have hfits := offsetInPage_add_chunkLength_le addr (chunk.length + part.length)
  rw [hlength] at hfits
  rw [copyToUser_chunk hchunk hlength, haccess]
  simp only [bind, Except.bind, FramePool.writeBytes_of_fits hframe hfits]
  rfl

theorem copyFromUser_append {chunk part : List UInt8} (hchunk : chunk ≠ [])
    (hlength : chunkLength addr (chunk.length + part.length) = chunk.length)
    (haccess : vm.access pid addr false = .ok (.ok number, mid))
    (hframe : mid.pool.frame? number = some frame)
    (hrest : mid.copyFromUser pid (addr + chunk.length) part = .ok (result, got, after)) :
    vm.copyFromUser pid addr (chunk ++ part) =
      .ok (result, frame.contents.slice (offsetInPage addr) chunk.length ++ got, after) := by
  rw [copyFromUser_chunk hchunk hlength, haccess]
  simp only [bind, Except.bind, FramePool.frame_eq_ok.2 hframe, hrest]
  rfl

theorem CopyIn.moves (hcases : CopyIn pid vm addr data result moved after) :
    Moves (fun part mid => vm.copyToUser pid addr part = .ok (.ok (), mid)) pid addr true data
      result after moved := by
  induction hcases with
  | done => exact .whole
  | stopped hne haccess =>
      exact .stopped (List.length_pos_iff.2 hne) (.inl rfl) (by rw [List.take_zero, copyToUser])
        haccess
  | chunk hne haccess hframe hcount hrest ih =>
      obtain ⟨hchunk, hlength⟩ := take_chunkLength hne hcount
      refine ih.chunk hcount fun hpart hcopied => ?_
      have hfirst := chunkLength_add hcount hpart
      rw [copyToUser_append hchunk (by rw [hlength, hfirst]) haccess hframe, hlength, hcopied]

theorem CopyOut.moves (hcases : CopyOut pid vm addr buffer result got moved after) :
    Moves (fun part mid => ∃ bytes, vm.copyFromUser pid addr part = .ok (.ok (), bytes, mid)) pid
      addr false buffer result after moved := by
  induction hcases with
  | done => exact .whole
  | stopped hne haccess =>
      exact .stopped (List.length_pos_iff.2 hne) (.inl rfl)
        ⟨_, by rw [List.take_zero, copyFromUser]⟩ haccess
  | chunk hne haccess hframe hcount hrest ih =>
      obtain ⟨hchunk, hlength⟩ := take_chunkLength hne hcount
      refine ih.chunk hcount fun hpart hrest => ?_
      obtain ⟨bytes, hcopied⟩ := hrest
      have hfirst := chunkLength_add hcount hpart
      rw [← hlength] at hcopied
      exact ⟨_, copyFromUser_append hchunk (by rw [hlength, hfirst]) haccess hframe hcopied⟩

end Chunks

variable [BlockDriver δ] [SectorStore δ]

/-- Bytes that go to the frame of a page go to the page, and to no other. -/
theorem Accounted.user_patchFrame (h : vm.Accounted none)
    (hheld : vm.held? (.containing pid addr) = some page)
    (hlocation : page.location = .resident number) (hframe : vm.pool.frame? number = some frame)
    (hfits : offsetInPage addr + data.length ≤ pageSize) :
    (vm.patchFrame number frame (offsetInPage addr) data).user = vm.user.write pid addr data := by
  have hcontents := FramePool.contents_replace_contents hframe
    (frame.contents.overwrite (offsetInPage addr) data)
  have hhome := home?_of_location hheld hlocation
  have hset : (vm.patchFrame number frame (offsetInPage addr) data).user =
      vm.user.set (.containing pid addr)
        (some ((vm.patchFrame number frame (offsetInPage addr) data).logical page)) := by
    refine user_eq_set (.containing pid addr) (some page) (fun _ => rfl) rfl (fun other => ?_) ?_
    · change vm.held? other = _
      split
      · rename_i heq
        rw [← heq, hheld]
      · rfl
    · intro other page hne hother
      cases hat : page.location with
      | resident used =>
          have hused : number ≠ used := by
            rintro rfl
            exact hne (h.eq_of_resident hhome (home?_of_location hother hat))
          exact (hcontents used).trans (if_neg hused)
      | swappedOut slot => rfl
  rw [UserMemory.write_of_page? (page?_user_of_resident hheld hlocation hframe) hfits, hset,
    logical, hlocation]
  congr 3
  exact (hcontents number).trans (if_pos rfl)

section Copies

variable [Placement φ] [Replacement π] [GentleReplacement π]

/-- A chunk is written to the page that was accessed for it. -/
theorem user_of_chunk (hbooks : vm.Accounted none) (h : vm.Coherent)
    (haccess : vm.access pid addr true = .ok (.ok number, mid))
    (hframe : mid.pool.frame? number = some frame)
    (hcount : count = chunkLength addr data.length) :
    (mid.patchFrame number frame (offsetInPage addr) (data.take count)).user =
      vm.user.write pid addr (data.take count) := by
  obtain ⟨hsame, hreached⟩ := reached_of_access haccess hbooks h
  cases hreached with
  | granted _ hheld hlocation =>
      rw [← hsame]
      refine (accounted_of_access hbooks haccess).user_patchFrame hheld hlocation hframe ?_
      have hfits := offsetInPage_add_chunkLength_le addr data.length
      rw [List.length_take]
      omega

theorem CopyIn.user_eq (hcases : CopyIn pid vm addr data result moved after)
    (hbooks : vm.Accounted none) (h : vm.Coherent) :
    after.user = vm.user.write pid addr (data.take moved) := by
  induction hcases with
  | done => rw [List.take_zero, UserMemory.write_nil]
  | stopped _ haccess =>
      rw [List.take_zero, UserMemory.write_nil]
      exact (reached_of_access haccess hbooks h).1
  | chunk hne haccess hframe hcount _ ih =>
      have hbooks' := (accounted_of_access hbooks haccess).patchFrame hframe
      have hcoherent := coherent_of_access hbooks h haccess
      rw [ih (hbooks' _ _) (hcoherent.of_alike (fun _ => rfl) (.refl _)),
        user_of_chunk hbooks h haccess hframe hcount, List.take_add, UserMemory.write_append,
        (take_chunkLength hne hcount).2]

/-- The bytes that a copy from user memory moves are those that processes see. -/
theorem CopyOut.bytes (hcases : CopyOut pid vm addr buffer result got moved after)
    (hbooks : vm.Accounted none) (h : vm.Coherent) :
    after.user = vm.user ∧ got.length = buffer.length ∧
      ∀ i, got[i]? = if i < moved then vm.user.byte? pid (addr + i) else buffer[i]? := by
  induction hcases with
  | done => exact ⟨rfl, rfl, fun i => by simp⟩
  | stopped _ haccess =>
      exact ⟨(reached_of_access haccess hbooks h).1, rfl, fun i => by simp⟩
  | chunk hne haccess hframe hcount _ ih =>
      rename_i vm mid after addr count moved buffer rest number frame result _
      obtain ⟨hsame, hreached⟩ := reached_of_access haccess hbooks h
      obtain ⟨hafter, hlength, hbytes⟩ := ih (accounted_of_access hbooks haccess)
        (coherent_of_access hbooks h haccess)
      have hfits := offsetInPage_add_chunkLength_le addr buffer.length
      have hle := chunkLength_le addr buffer.length
      have hslice : (frame.contents.slice (offsetInPage addr) count).length = count := by
        rw [Bytes.slice, List.length_take, List.length_drop, Bytes.length_toList]
        omega
      refine ⟨hafter.trans hsame, ?_, fun i => ?_⟩
      · rw [List.length_append, hslice, hlength, List.length_drop]
        omega
      · by_cases hi : i < count
        · rw [List.getElem?_append_left (by omega), if_pos (by omega), ← hsame]
          cases hreached with
          | granted _ hheld hlocation =>
              rw [UserMemory.byte?_add (page?_user_of_resident hheld hlocation hframe) (by omega),
                Bytes.slice, List.getElem?_take_of_lt hi, List.getElem?_drop]
        · rw [List.getElem?_append_right (by omega), hslice, hbytes, hsame, List.getElem?_drop,
            show addr + count + (i - count) = addr + i by omega,
            show count + (i - count) = i by omega]
          by_cases hin : i < count + moved
          · rw [if_pos hin, if_pos (by omega)]
          · rw [if_neg hin, if_neg (by omega)]

/-- What an access that fails means for a copy that starts with it. -/
theorem reach_of_denied {error : MemoryError} (hbooks : vm.Accounted none) (h : vm.Coherent)
    (hlength : 0 < length) (haccess : vm.access pid addr write = .ok (.error error, after)) :
    error.isInternal = true ∨ vm.user.reach pid addr write length = (.error error, 0) := by
  obtain ⟨-, hreached⟩ := reached_of_access haccess hbooks h
  cases hreached with
  | refused hrefused => exact .inr (by rw [UserMemory.reach_succ _ _ _ _ hlength, hrefused])
  | failed hinternal => exact .inl hinternal

theorem reach_of_granted (hbooks : vm.Accounted none) (h : vm.Coherent) (hlength : 0 < length)
    (haccess : vm.access pid addr write = .ok (.ok number, mid))
    (hcount : count = chunkLength addr length)
    (hrest : vm.user.reach pid (addr + count) write (length - count) = (result, moved)) :
    vm.user.reach pid addr write length = (result, count + moved) := by
  obtain ⟨-, hreached⟩ := reached_of_access haccess hbooks h
  cases hreached with
  | granted hgranted =>
      rw [UserMemory.reach_succ _ _ _ _ hlength, hgranted]
      simp only [← hcount, hrest]

/-- Unless the machine below fails, a copy goes as far as user memory lets it. -/
theorem CopyIn.reach (hcases : CopyIn pid vm addr data result moved after)
    (hbooks : vm.Accounted none) (h : vm.Coherent) :
    (∃ error, result = .error error ∧ error.isInternal = true) ∨
      vm.user.reach pid addr true data.length = (result, moved) := by
  induction hcases with
  | done => exact .inr (by rw [List.length_nil, UserMemory.reach])
  | stopped hne haccess =>
      obtain hinternal | hrefused := reach_of_denied hbooks h (List.length_pos_iff.2 hne) haccess
      · exact .inl ⟨_, rfl, hinternal⟩
      · exact .inr hrefused
  | chunk hne haccess hframe hcount _ ih =>
      have hbooks' := (accounted_of_access hbooks haccess).patchFrame hframe
      have hcoherent := coherent_of_access hbooks h haccess
      refine (ih (hbooks' _ _) (hcoherent.of_alike (fun _ => rfl) (.refl _))).imp_right ?_
      intro hrest
      rw [user_of_chunk hbooks h haccess hframe hcount, UserMemory.reach_write,
        List.length_drop] at hrest
      exact reach_of_granted hbooks h (List.length_pos_iff.2 hne) haccess hcount hrest

theorem CopyOut.reach (hcases : CopyOut pid vm addr buffer result got moved after)
    (hbooks : vm.Accounted none) (h : vm.Coherent) :
    (∃ error, result = .error error ∧ error.isInternal = true) ∨
      vm.user.reach pid addr false buffer.length = (result, moved) := by
  induction hcases with
  | done => exact .inr (by rw [List.length_nil, UserMemory.reach])
  | stopped hne haccess =>
      obtain hinternal | hrefused := reach_of_denied hbooks h (List.length_pos_iff.2 hne) haccess
      · exact .inl ⟨_, rfl, hinternal⟩
      · exact .inr hrefused
  | chunk hne haccess hframe hcount _ ih =>
      refine (ih (accounted_of_access hbooks haccess)
        (coherent_of_access hbooks h haccess)).imp_right ?_
      intro hrest
      rw [(reached_of_access haccess hbooks h).1, List.length_drop] at hrest
      exact reach_of_granted hbooks h (List.length_pos_iff.2 hne) haccess hcount hrest

end Copies

end VirtualMemory

end DemandPaging
