import DemandPaging.Proofs.StoreCalls

/-!
A slot keeps the page that was written to it until it is released or written again. Whatever else
is done to the store in between, the page comes back as it went out.
-/
namespace DemandPaging

namespace SwapArea

variable {δ : Type} [BlockDriver δ] [SectorStore δ] {area after : SwapArea δ}
  {slot other : SwapSlot} {contents : Page} {disk : BlockDevice δ}
  {data buffer buffer' : List UInt8} {result : Except TransferError Unit}

/-- The slot is in use and holds these contents. -/
structure Keeps (area : SwapArea δ) (slot : SwapSlot) (contents : Page) : Prop where
  taken : area.isTaken slot = true
  lt_slotCount : slot.index < area.slotCount
  slotPage_eq : area.disk.slotPage slot = contents

namespace Keeps

theorem withDisk (h : area.Keeps slot contents) (hsize : disk.size = area.disk.size)
    (hslot : disk.slotPage slot = area.disk.slotPage slot) :
    (area.withDisk disk).Keeps slot contents where
  taken := h.taken
  lt_slotCount := by
    rw [slotCount, SwapArea.withDisk, hsize]
    exact h.lt_slotCount
  slotPage_eq := hslot.trans h.slotPage_eq

theorem of_readRun (h : area.Keeps slot contents)
    (hrun : area.disk.readRun other.startSector slotSectors buffer = .ok (result, buffer', disk)) :
    (area.withDisk disk).Keeps slot contents :=
  h.withDisk (BlockDevice.size_of_readRun hrun) (BlockDevice.slotPage_of_readRun hrun slot)

theorem of_writeRun (h : area.Keeps slot contents) (hne : other ≠ slot)
    (hother : other.Addressable)
    (hrun : area.disk.writeRun other.startSector slotSectors data = .ok (result, disk)) :
    (area.withDisk disk).Keeps slot contents :=
  h.withDisk (BlockDevice.size_of_writeRun hrun)
    (BlockDevice.slotPage_of_writeRun_ne hrun hne hother
      (SwapSlot.addressable_of_lt h.lt_slotCount))

theorem insert (h : area.Keeps slot contents) (other : SwapSlot) :
    { area with taken := area.taken.insert other.index }.Keeps slot contents where
  taken := by rw [isTaken_insert area area.disk, h.taken, Bool.or_true]
  lt_slotCount := h.lt_slotCount
  slotPage_eq := h.slotPage_eq

theorem erase (h : area.Keeps slot contents) (hne : other ≠ slot) :
    { area with taken := area.taken.erase other.index }.Keeps slot contents where
  taken := by simp [isTaken_erase area area.disk, h.taken, hne]
  lt_slotCount := h.lt_slotCount
  slotPage_eq := h.slotPage_eq

/-- A slot that is in use is not the lowest free one. -/
theorem ne_of_isLowestFree (h : area.Keeps slot contents) (hother : area.IsLowestFree other) :
    other ≠ slot := by
  rintro rfl
  have htaken := h.taken
  rw [hother.free] at htaken
  cases htaken

end Keeps

/-- The slot that a page was written to keeps it. -/
theorem IsLowestFree.keeps (h : area.IsLowestFree slot)
    (hrun : area.disk.writeRun slot.startSector slotSectors contents.toList = .ok (.ok (), disk)) :
    ({ disk, taken := area.taken.insert slot.index } : SwapArea δ).Keeps slot contents where
  taken := by simp [isTaken_insert]
  lt_slotCount := by
    rw [slotCount, BlockDevice.size_of_writeRun hrun]
    exact h.lt_slotCount
  slotPage_eq := Bytes.ext (BlockDevice.slotPage_of_writeRun hrun contents.length_toList)

end SwapArea

/-- The slot that was handed out with a reply. -/
def StoreReply.slot? : StoreReply → Option SwapSlot
  | .area (.acquired slot?) => slot?
  | .movedOut (.ok slot) _ => some slot
  | _ => none

/-- Whether the event neither releases the slot nor writes to it. -/
def spares (slot : SwapSlot) : StoreCall × StoreReply → Bool
  | (.area (.release other), _) => other ≠ slot
  | (.area (.storePage other _), _) => other ≠ slot && other.Addressable
  | (.pageIn page _, .movedIn (.ok ()) _) => page.location ≠ .swappedOut slot
  | (.destroy page, _) => page.location ≠ .swappedOut slot
  | _ => true

namespace PlacedStore

variable {φ : Type} [Placement φ] {store after : PlacedStore φ} {slot : SwapSlot} {contents : Page}
  {call : StoreCall} {reply : StoreReply}

/-- What is kept in a slot is kept by every event that spares it, and the slot is not handed out. -/
theorem keeps_of_perform (h : store.swap.Keeps slot contents)
    (hspares : spares slot (call, reply) = true)
    (hcall : store.perform call = .ok (reply, after)) :
    after.swap.Keeps slot contents ∧ reply.slot? ≠ some slot := by
  cases call with
  | area call =>
      obtain ⟨⟨reply, swap⟩, harea, hcall⟩ := bind_eq_ok.1 hcall
      cases hcall
      cases SwapArea.perform_cases harea with
      | acquired _ hlowest =>
          refine ⟨h.insert _, fun heq => h.ne_of_isLowestFree hlowest ?_⟩
          simpa [StoreReply.slot?] using heq
      | full => exact ⟨h, nofun⟩
      | released => exact ⟨h.erase (of_decide_eq_true hspares), nofun⟩
      | stored hrun =>
          obtain ⟨hne, hother⟩ := Bool.and_eq_true_iff.1 hspares
          exact ⟨h.of_writeRun (of_decide_eq_true hne) (of_decide_eq_true hother) hrun, nofun⟩
      | loaded hrun => exact ⟨h.of_readRun hrun, nofun⟩
  | pool call =>
      obtain ⟨⟨reply, pool, placement⟩, -, hcall⟩ := bind_eq_ok.1 hcall
      cases hcall
      exact ⟨h, nofun⟩
  | tables call =>
      obtain ⟨⟨reply, tables⟩, -, hcall⟩ := bind_eq_ok.1 hcall
      cases hcall
      exact ⟨h, nofun⟩
  | pageOut page =>
      obtain ⟨⟨result, page', moved⟩, hout, hcall⟩ := bind_eq_ok.1 hcall
      cases hcall
      cases AnonPage.pageOut_cases hout with
      | notResident => exact ⟨h, nofun⟩
      | failed _ _ hlowest hrun =>
          exact ⟨h.of_writeRun (h.ne_of_isLowestFree hlowest) hlowest.addressable hrun, nofun⟩
      | moved _ _ _ hlowest hrun =>
          have hne := h.ne_of_isLowestFree hlowest
          refine ⟨(h.of_writeRun hne hlowest.addressable hrun).insert _, fun heq => hne ?_⟩
          simpa [StoreReply.slot?] using heq
  | pageIn page number =>
      obtain ⟨⟨result, page', moved⟩, hin, hcall⟩ := bind_eq_ok.1 hcall
      cases hcall
      cases AnonPage.pageIn_cases hin with
      | notSwappedOut => exact ⟨h, nofun⟩
      | failed _ _ hrun => exact ⟨h.of_readRun hrun, nofun⟩
      | moved hlocation _ _ hrun =>
          refine ⟨(h.of_readRun hrun).erase ?_, nofun⟩
          rintro rfl
          exact of_decide_eq_true hspares hlocation
  | destroy page =>
      obtain ⟨left, hdestroy, hcall⟩ := bind_eq_ok.1 hcall
      cases hcall
      cases AnonPage.destroy_cases hdestroy with
      | resident => exact ⟨h, nofun⟩
      | swappedOut hlocation =>
          refine ⟨h.erase ?_, nofun⟩
          rintro rfl
          exact of_decide_eq_true hspares hlocation
  | refault readFails writeFails =>
      cases hcall
      exact ⟨h.withDisk rfl rfl, nofun⟩

theorem keeps_of_calls {trace : List (StoreCall × StoreReply)} (h : store.swap.Keeps slot contents)
    (hcalls : Calls perform store trace after)
    (hspares : ∀ event ∈ trace, spares slot event = true) :
    after.swap.Keeps slot contents ∧ ∀ event ∈ trace, event.2.slot? ≠ some slot :=
  hcalls.invariant (fun hkeeps hevent hcall => keeps_of_perform hkeeps hevent hcall) hspares h

end PlacedStore

/-- The page that went out with `contents` is back, in the frame `target`. -/
structure RoundTrip (page back : AnonPage) (contents : Page) (slot : SwapSlot)
    (trace : List (StoreCall × StoreReply)) (before after : PageStore FaultyDisk)
    (target : FrameNumber) : Prop where
  page_eq : back = { page with location := .resident target }
  /-- No other frame has changed, and nothing but the bytes of this one. -/
  frames : ∃ old, before.pool.frame? target = some old ∧ ∀ other, after.pool.frame? other =
    if target = other then some { old with contents } else before.pool.frame? other
  taken : before.swap.isTaken slot = true
  released : ∀ other,
    after.swap.isTaken other = (!decide (slot = other) && before.swap.isTaken other)
  exclusive : ∀ event ∈ trace, event.2.slot? ≠ some slot

/-- Whatever happens to the store in between, a page comes back as it went out. -/
theorem swap_round_trip {φ : Type} [Placement φ] {page out back : AnonPage} {frame : Frame}
    {number target : FrameNumber} {slot : SwapSlot} {store middle final : PageStore FaultyDisk}
    {placement : φ} {before : PlacedStore φ} {trace : List (StoreCall × StoreReply)}
    (hlocation : page.location = .resident number)
    (hframe : store.pool.frame? number = some frame)
    (hout : page.pageOut store = .ok (.ok slot, out, middle))
    (hcalls : Calls PlacedStore.perform ⟨middle, placement⟩ trace before)
    (hspares : ∀ event ∈ trace, spares slot event = true)
    (hin : out.pageIn before.toPageStore target = .ok (.ok (), back, final)) :
    RoundTrip page back frame.contents slot trace before.toPageStore final target := by
  cases AnonPage.pageOut_cases hout with
  | moved hfrom hfound _ hlowest hwrite =>
      cases hlocation.symm.trans hfrom
      cases hframe.symm.trans hfound
      obtain ⟨hkept, hexclusive⟩ := PlacedStore.keeps_of_calls (hlowest.keeps hwrite) hcalls hspares
      cases AnonPage.pageIn_cases hin with
      | @moved _ old data disk hswapped hold htaken hread =>
          cases hswapped
          have hdata : data = frame.contents.toList := by
            rw [BlockDevice.buffer_of_readRun_slot hread old.contents.length_toList,
              hkept.slotPage_eq]
          refine ⟨rfl, ⟨old, hold, fun other => ?_⟩, htaken, fun other => ?_, hexclusive⟩
          · rw [hdata, old.filled_toList]
            exact FramePool.frame?_replace_of_some hold other _
          · exact SwapArea.isTaken_erase before.swap disk slot other

/-- A page with bytes of its own. -/
def guest : AnonPage := ⟨⟨1, 0⟩, true, .ordinary, .resident ⟨0⟩⟩

/-- The guest and another page in two frames, and a device with three slots. -/
def lodge : PageStore FaultyDisk where
  swap := .new ⟨0, "hda", .swap, 24, .sound (.new 24), 0, 0⟩
  pool :=
    { frames := #[.backing ⟨1, 0⟩ ((default : Page).overwrite 0 [1, 2, 3]), .backing ⟨1, 1⟩ default]
      queue := [⟨0⟩, ⟨1⟩]
      allocatedCount := 2 }
  tables := .empty

/-- The guest's frame goes to a new page, the other page goes out too, and a write to the last slot
fails. -/
def errands : List StoreCall :=
  [.refault (fun _ => false) (16 ≤ ·), .pool (.alloc ⟨2, 0⟩), .pool (.writeBytes ⟨0⟩ 0 [9]),
    .pageOut ⟨⟨1, 1⟩, true, .stack, .resident ⟨1⟩⟩, .area .acquire?,
    .area (.storePage ⟨2⟩ (default : Page).toList), .area (.release ⟨2⟩), .tables (.create 1)]

theorem swap_round_trip_lodge :
    ∃ out middle trace before back final, trace.map (·.1) = errands ∧
      guest.pageOut lodge = .ok (.ok ⟨0⟩, out, middle) ∧
      Calls PlacedStore.perform ⟨middle, StandardPlacement.ofName .firstFit⟩ trace before ∧
      (∀ event ∈ trace, spares ⟨0⟩ event = true) ∧
      out.pageIn before.toPageStore ⟨1⟩ = .ok (.ok (), back, final) ∧
      RoundTrip guest back ((default : Page).overwrite 0 [1, 2, 3]) ⟨0⟩ trace before.toPageStore
        final ⟨1⟩ := by
  have hok : (do
      let moved ← guest.pageOut lodge
      let done ←
        performAll PlacedStore.perform ⟨moved.2.2, StandardPlacement.ofName .firstFit⟩ errands
      let ending ← moved.2.1.pageIn done.2.toPageStore ⟨1⟩
      return (moved.1, done.1.all (spares ⟨0⟩), ending.1)) = .ok (.ok ⟨0⟩, true, .ok ()) := by
    decide +kernel
  obtain ⟨⟨result, out, middle⟩, hout, hok⟩ := bind_eq_ok.1 hok
  obtain ⟨⟨trace, before⟩, htrace, hok⟩ := bind_eq_ok.1 hok
  obtain ⟨⟨done, back, final⟩, hin, hok⟩ := bind_eq_ok.1 hok
  obtain ⟨hcalls, hrun⟩ := Calls.of_performAll htrace
  obtain ⟨rfl, hspares, rfl⟩ :
      result = .ok ⟨0⟩ ∧ trace.all (spares ⟨0⟩) = true ∧ done = .ok () := by
    simpa [pure, Except.pure] using hok
  have hspares := List.all_eq_true.1 hspares
  exact ⟨out, middle, trace, before, back, final, hcalls, hout, hrun, hspares, hin,
    swap_round_trip rfl rfl hout hrun hspares hin⟩

end DemandPaging
