import DemandPaging.Proofs.StoreCalls

/-!
What a swap area tells of the calls that were made on it. The slots in use are those that were taken
and not given back since, and it is always the lowest free one that is taken next. So no slot is
handed out twice, and none is lost.
-/
namespace DemandPaging

/-- A call of the swap area and what came of it: its reply, or the cause that it halted for. -/
abbrev SlotEvent := AreaCall × Except Halt AreaReply

/-- Whether a page is moved to or from the device. -/
def AreaCall.isTransfer : AreaCall → Bool
  | .storePage .. | .loadPage .. => true
  | .acquire | .acquire? | .release _ => false

namespace SlotEvent

/-- The slot that is handed out. -/
def taken? : SlotEvent → Option SwapSlot
  | (_, .ok (.acquired slot?)) => slot?
  | _ => none

/-- The slot that is given back. -/
def returned? : SlotEvent → Option SwapSlot
  | (.release slot, .ok .released) => some slot
  | _ => none

end SlotEvent

variable {trace past between later : List SlotEvent} {event first again : SlotEvent}
  {slot other : SwapSlot}

/-- The slot was handed out, and it has not been given back since. -/
def HeldAfter (trace : List SlotEvent) (slot : SwapSlot) : Prop :=
  ∃ past event later, trace = past ++ event :: later ∧ event.taken? = some slot ∧
    ∀ next ∈ later, next.returned? ≠ some slot

theorem not_heldAfter_nil (slot : SwapSlot) : ¬ HeldAfter [] slot := by
  rintro ⟨past, event, later, hsplit, -⟩
  cases past <;> cases hsplit

theorem heldAfter_concat : HeldAfter (trace ++ [event]) slot ↔
    event.taken? = some slot ∨ (HeldAfter trace slot ∧ event.returned? ≠ some slot) := by
  constructor
  · rintro ⟨past, taking, later, hsplit, htaken, hkept⟩
    obtain ⟨rfl, rfl, rfl⟩ | ⟨rest, rfl, rfl⟩ := concat_eq_append_cons.1 hsplit
    · exact .inl htaken
    · obtain ⟨hrest, hlast⟩ := List.forall_mem_append.1 hkept
      exact .inr ⟨⟨past, taking, rest, rfl, htaken, hrest⟩, hlast event List.mem_cons_self⟩
  · rintro (htaken | ⟨⟨past, taking, later, rfl, htaken, hkept⟩, hstays⟩)
    · exact ⟨trace, event, [], rfl, htaken, nofun⟩
    · refine ⟨past, taking, later ++ [event], by simp, htaken, fun next hnext => ?_⟩
      obtain hnext | hnext := List.mem_append.1 hnext
      · exact hkept next hnext
      · rwa [List.mem_singleton.1 hnext]

theorem SwapSlot.index_lt_of_ne (hle : slot.index ≤ other.index) (hne : slot ≠ other) :
    slot.index < other.index := by
  obtain ⟨index⟩ := slot
  obtain ⟨otherIndex⟩ := other
  exact Nat.lt_of_le_of_ne hle fun heq => hne (congrArg SwapSlot.mk heq)

namespace SwapArea

variable {δ : Type} {area after : SwapArea δ} {disk : BlockDevice δ}

/-- A slot can be taken exactly if it is the lowest free one. -/
theorem exists_acquire?_iff :
    (∃ after, area.acquire? = some (slot, after)) ↔ area.IsLowestFree slot := by
  constructor
  · rintro ⟨after, h⟩
    exact (acquire?_eq_some h).1
  · intro h
    have hindex : firstBelow? (fun index => !area.taken.contains index) area.slotCount =
        some slot.index := by
      refine firstBelow?_eq_some_iff.2 ⟨h.lt_slotCount, ?_, fun index hlt => ?_⟩
      · simpa [isTaken] using h.free
      · simpa [isTaken] using h.lower ⟨index⟩ hlt
    exact ⟨_, by rw [acquire?, hindex]; rfl⟩

theorem acquire?_eq_none_iff : area.acquire? = none ↔
    ∀ slot : SwapSlot, slot.index < area.slotCount → area.isTaken slot = true := by
  rw [acquire?, Option.map_eq_none_iff, firstBelow?_eq_none_iff]
  refine ⟨fun h slot hlt => ?_, fun h index hlt => ?_⟩
  · simpa [isTaken] using h slot.index hlt
  · simpa [isTaken] using h ⟨index⟩ hlt

/-- Where a slot is free, one can be taken that is no higher. -/
theorem exists_acquire?_of_free (hlt : slot.index < area.slotCount)
    (hfree : area.isTaken slot = false) :
    ∃ lowest after, area.acquire? = some (lowest, after) ∧ lowest.index ≤ slot.index := by
  cases hacquire : area.acquire? with
  | none =>
      have htaken := acquire?_eq_none_iff.1 hacquire slot hlt
      rw [hfree] at htaken
      cases htaken
  | some taken =>
      obtain ⟨lowest, after⟩ := taken
      refine ⟨lowest, after, rfl, Nat.le_of_not_lt fun habove => ?_⟩
      have htaken := (acquire?_eq_some hacquire).1.lower slot habove
      rw [hfree] at htaken
      cases htaken

/-- A slot that is taken can be given back at once, and the area is as it was. -/
theorem release_of_acquire? (h : area.acquire? = some (slot, after)) :
    after.release slot = .ok area := by
  obtain ⟨hlowest, rfl⟩ := acquire?_eq_some h
  have htaken : ({ area with taken := area.taken.insert slot.index } : SwapArea δ).isTaken slot =
      true := by simp [isTaken_insert area area.disk]
  rw [release_def, if_pos htaken, erase_insert_of_free hlowest.free]

section Attempts

variable [BlockDriver δ]

variable {call : AreaCall} {halt : Halt} {reached : SwapArea δ}

theorem attempt_acquire (area : SwapArea δ) : area.attempt .acquire =
    match area.acquire? with
    | some (slot, after) => (.ok (.acquired (some slot)), after)
    | none => (.error (.swapExhausted area.slotCount), area) := by
  rw [attempt, attemptAcquire]
  cases area.acquire? <;> rfl

theorem attempt_release (area : SwapArea δ) (slot : SwapSlot) : area.attempt (.release slot) =
    if area.isTaken slot then
      (.ok .released, { area with taken := area.taken.erase slot.index })
    else
      (.error (.releasingFreeSlot slot.index), area) := by
  by_cases htaken : area.isTaken slot = true <;> simp only [attempt, attemptRelease, htaken] <;> rfl

/-- A transfer marks no slot, whatever comes of it, and the device stays the one that it is. -/
theorem attempt_of_isTransfer (area : SwapArea δ) (htransfer : call.isTransfer = true) :
    (area.attempt call).2.taken = area.taken ∧
      (area.attempt call).2.disk.identity = area.disk.identity := by
  cases call with
  | acquire | acquire? | release => cases htransfer
  | storePage slot data =>
      by_cases hlength : data.length = pageSize
      · simp only [attempt, attemptStorePage, if_pos hlength]
        exact ⟨trivial, BlockDevice.identity_attemptWriteRun _ _ _ _⟩
      · simp only [attempt, attemptStorePage, if_neg hlength]
        exact ⟨trivial, trivial⟩
  | loadPage slot buffer =>
      by_cases hlength : buffer.length = pageSize
      · simp only [attempt, attemptLoadPage, if_pos hlength]
        exact ⟨trivial, BlockDevice.identity_attemptReadRun _ _ _ _⟩
      · simp only [attempt, attemptLoadPage, if_neg hlength]
        exact ⟨trivial, trivial⟩

/-- A slot is looked up before it is marked, so a call that halts has marked none. -/
theorem attempt_of_halt (h : area.attempt call = (.error halt, reached)) :
    reached.taken = area.taken ∧ reached.disk.identity = area.disk.identity := by
  cases hcall : call.isTransfer with
  | true =>
      have hkept := attempt_of_isTransfer area hcall
      rwa [h] at hkept
  | false =>
      cases call with
      | storePage | loadPage => cases hcall
      | acquire =>
          rw [attempt_acquire] at h
          split at h <;> cases h
          exact ⟨rfl, rfl⟩
      | acquire? =>
          rw [attempt] at h
          split at h <;> cases h
      | release slot =>
          rw [attempt_release] at h
          split at h <;> cases h
          exact ⟨rfl, rfl⟩

/-- A call as it is seen by one who goes on after a halt, from the area that was reached by then.
What becomes of the device in the meantime is left open. -/
inductive Attempted (area : SwapArea δ) : SlotEvent → SwapArea δ → Prop where
  | replied {call : AreaCall} {reply : AreaReply} {after : SwapArea δ} :
      area.attempt call = (.ok reply, after) → Attempted area (call, .ok reply) after
  | halted {call : AreaCall} {halt : Halt} {reached : SwapArea δ} {disk : BlockDevice δ} :
      area.attempt call = (.error halt, reached) → disk.size = reached.disk.size →
      Attempted area (call, .error halt) (reached.withDisk disk)

/-- The area that events lead to, from no slot in use. -/
inductive Reaches (disk : BlockDevice δ) : List SlotEvent → SwapArea δ → Prop where
  | new : Reaches disk [] (.new disk)
  | concat {trace : List SlotEvent} {event : SlotEvent} {area after : SwapArea δ} :
      Reaches disk trace area → Attempted area event after → Reaches disk (trace ++ [event]) after

/-- What becomes of the slots in an event. -/
theorem Attempted.isTaken_eq (h : Attempted area event after) (slot : SwapSlot) :
    after.isTaken slot = true ↔ event.taken? = some slot ∨
      (area.isTaken slot = true ∧ event.returned? ≠ some slot) := by
  cases h with
  | halted hcall =>
      simp [SlotEvent.taken?, SlotEvent.returned?, isTaken, withDisk, (attempt_of_halt hcall).1]
  | replied hcall =>
      cases perform_cases (settle_eq_ok.2 hcall) with
      | acquired =>
          simp [SlotEvent.taken?, SlotEvent.returned?, isTaken_insert area area.disk]
      | full => simp [SlotEvent.taken?, SlotEvent.returned?]
      | released =>
          simp [SlotEvent.taken?, SlotEvent.returned?, isTaken_erase area area.disk, and_comm]
      | stored => simp [SlotEvent.taken?, SlotEvent.returned?, isTaken, withDisk]
      | loaded => simp [SlotEvent.taken?, SlotEvent.returned?, isTaken, withDisk]

theorem Attempted.size_disk (h : Attempted area event after) :
    after.disk.size = area.disk.size := by
  cases h with
  | halted hcall hsize => exact hsize.trans (congrArg (·.size) (attempt_of_halt hcall).2)
  | replied hcall =>
      cases perform_cases (settle_eq_ok.2 hcall) with
      | acquired | full | released => rfl
      | stored hrun => exact BlockDevice.size_of_writeRun hrun
      | loaded hrun => exact BlockDevice.size_of_readRun hrun

/-- A slot that is handed out is the lowest one that was free. -/
theorem Attempted.isLowestFree (h : Attempted area event after)
    (htaken : event.taken? = some slot) : area.IsLowestFree slot := by
  cases h with
  | halted => cases htaken
  | replied hcall =>
      cases perform_cases (settle_eq_ok.2 hcall) with
      | acquired _ hlowest =>
          cases htaken
          exact hlowest
      | full | released | stored | loaded => cases htaken

/-- The events have led from no slot in use to the slots that are in use now. -/
structure Tallied (disk : BlockDevice δ) (trace : List SlotEvent) (area : SwapArea δ) : Prop where
  size : area.disk.size = disk.size
  bounded : area.Bounded
  held : ∀ slot, area.isTaken slot = true ↔ HeldAfter trace slot

theorem Tallied.attempted (h : Tallied disk trace area) (hevent : Attempted area event after) :
    Tallied disk (trace ++ [event]) after where
  size := hevent.size_disk.trans h.size
  bounded slot htaken := by
    rw [slotCount, hevent.size_disk]
    obtain htaken | ⟨htaken, -⟩ := (hevent.isTaken_eq slot).1 htaken
    · exact (hevent.isLowestFree htaken).lt_slotCount
    · exact h.bounded slot htaken
  held slot := by rw [hevent.isTaken_eq, h.held, heldAfter_concat]

namespace Reaches

theorem tallied (h : Reaches disk trace area) : Tallied disk trace area := by
  induction h with
  | new =>
      refine ⟨rfl, bounded_new disk, fun slot => iff_of_false ?_ (not_heldAfter_nil slot)⟩
      rw [isTaken_new]
      exact Bool.false_ne_true
  | concat _ hlast ih => exact ih.attempted hlast

/-- The areas before and after one of the events. -/
theorem exists_attempted (h : Reaches disk (past ++ event :: later) area) :
    ∃ before after, Reaches disk past before ∧ Attempted before event after := by
  generalize htrace : past ++ event :: later = trace at h
  induction h generalizing later with
  | new => cases past <;> cases htrace
  | concat hpast hlast ih =>
      obtain ⟨rfl, rfl, rfl⟩ | ⟨rest, rfl, rfl⟩ := concat_eq_append_cons.1 htrace.symm
      · exact ⟨_, _, hpast, hlast⟩
      · exact ih rfl

/-- A slot that is handed out a second time was given back in between. -/
theorem exists_returned (h : Reaches disk (past ++ first :: (between ++ again :: later)) area)
    (hfirst : first.taken? = some slot) (hagain : again.taken? = some slot) :
    ∃ event ∈ between, event.returned? = some slot := by
  rw [← List.cons_append, ← List.append_assoc] at h
  obtain ⟨before, after, hbefore, hattempted⟩ := h.exists_attempted
  have hfree := (hattempted.isLowestFree hagain).free
  by_contra hkept
  have hheld : HeldAfter (past ++ first :: between) slot :=
    ⟨past, first, between, rfl, hfirst, fun event hmem heq => hkept ⟨event, hmem, heq⟩⟩
  rw [(hbefore.tallied.held slot).2 hheld] at hfree
  cases hfree

theorem of_calls {calls : List (AreaCall × AreaReply)} (h : Reaches disk trace area)
    (hcalls : Calls perform area calls after) :
    Reaches disk (trace ++ calls.map fun (call, reply) => (call, .ok reply)) after := by
  induction hcalls generalizing trace with
  | nil => rwa [List.map_nil, List.append_nil]
  | @cons _ _ _ call reply rest hcall _ ih =>
      rw [List.map_cons, ← List.singleton_append, ← List.append_assoc]
      exact ih (h.concat (.replied (settle_eq_ok.1 hcall)))

end Reaches

/-- Taking the lowest slot again and again comes to every free one. -/
def ComesUp (area : SwapArea δ) (slot : SwapSlot) : Prop :=
  ∃ calls after, Calls perform area calls after ∧ (∀ call ∈ calls, call.1 = .acquire?) ∧
    (.acquire?, .acquired (some slot)) ∈ calls

theorem perform_of_acquire? (h : area.acquire? = some (slot, after)) :
    area.perform .acquire? = .ok (.acquired (some slot), after) := by
  rw [perform, attempt, h]
  rfl

theorem ComesUp.of_acquire? (hacquire : area.acquire? = some (other, after))
    (h : other ≠ slot → after.ComesUp slot) : area.ComesUp slot := by
  have hcall := perform_of_acquire? hacquire
  by_cases heq : other = slot
  · subst heq
    exact ⟨_, after, .cons hcall .nil, by simp, List.mem_cons_self⟩
  · obtain ⟨calls, final, hcalls, hall, hmem⟩ := h heq
    exact ⟨_, final, .cons hcall hcalls, List.forall_mem_cons.2 ⟨rfl, hall⟩,
      List.mem_cons_of_mem _ hmem⟩

theorem comesUp_of_free (hlt : slot.index < area.slotCount) (hfree : area.isTaken slot = false) :
    area.ComesUp slot := by
  -- Slots more than `gap` below this one are in use, and each call takes the lowest that is not.
  obtain ⟨gap, hlow⟩ : ∃ gap, ∀ other : SwapSlot, other.index + gap < slot.index →
      area.isTaken other = true := ⟨slot.index, fun other h => absurd h (by omega)⟩
  induction gap generalizing area with
  | zero =>
      obtain ⟨lowest, after, hacquire, hle⟩ := exists_acquire?_of_free hlt hfree
      refine .of_acquire? hacquire fun hne => ?_
      have hfound := (acquire?_eq_some hacquire).1.free
      rw [hlow lowest (SwapSlot.index_lt_of_ne hle hne)] at hfound
      cases hfound
  | succ gap ih =>
      obtain ⟨lowest, after, hacquire, hle⟩ := exists_acquire?_of_free hlt hfree
      refine .of_acquire? hacquire fun hne => ?_
      obtain ⟨hlowest, rfl⟩ := acquire?_eq_some hacquire
      have hreached : slot.index ≤ lowest.index + (gap + 1) := by
        by_contra hbelow
        have htaken := hlow lowest (Nat.lt_of_not_le hbelow)
        rw [hlowest.free] at htaken
        cases htaken
      refine ih hlt ?_ fun other hother => ?_
      · simpa [isTaken_insert area area.disk, hne] using hfree
      · rw [isTaken_insert area area.disk, Bool.or_eq_true, decide_eq_true_iff]
        by_cases heq : lowest = other
        · exact .inl heq
        · have hle : other.index ≤ lowest.index := by omega
          exact .inr (hlowest.lower other (SwapSlot.index_lt_of_ne hle (Ne.symm heq)))

/-- What the events of `trace` have made of the slots of `disk`, and what the next call is going to
make of them. -/
structure LowestFirst (disk : BlockDevice δ) (trace : List SlotEvent) (area : SwapArea δ) :
    Prop where
  slotCount : area.slotCount = disk.size.toNat / slotSectors
  inRange : ∀ slot, area.isTaken slot = true → slot.index < area.slotCount
  held : ∀ slot, area.isTaken slot = true ↔ HeldAfter trace slot
  counted : area.freeSlots +
    (List.range area.slotCount).countP (fun index => area.isTaken ⟨index⟩) = area.slotCount
  /-- A slot that was handed out twice was given back in between. -/
  exclusive : ∀ {past between later : List SlotEvent} {first again : SlotEvent} {slot : SwapSlot},
    trace = past ++ first :: (between ++ again :: later) → first.taken? = some slot →
    again.taken? = some slot → ∃ event ∈ between, event.returned? = some slot
  lowest : ∀ slot, (∃ after, area.acquire? = some (slot, after)) ↔ area.IsLowestFree slot
  takes : ∀ {slot : SwapSlot} {after : SwapArea δ}, area.acquire? = some (slot, after) →
    area.acquire = .ok (slot, after) ∧ after.disk = area.disk ∧
      ∀ other, after.isTaken other = (decide (slot = other) || area.isTaken other)
  undone : ∀ {slot : SwapSlot} {after : SwapArea δ}, area.acquire? = some (slot, after) →
    after.release slot = .ok area
  full : area.acquire? = none ↔
    ∀ slot : SwapSlot, slot.index < area.slotCount → area.isTaken slot = true
  exhausted : area.acquire? = none → area.perform .acquire? = .ok (.acquired none, area) ∧
    area.acquire = .error (.swapExhausted area.slotCount) ∧
    area.attempt .acquire = (.error (.swapExhausted area.slotCount), area)
  release_iff : ∀ slot, (∃ after, area.release slot = .ok after) ↔
    slot.index < area.slotCount ∧ area.isTaken slot = true
  refuses : ∀ slot : SwapSlot, area.slotCount ≤ slot.index ∨ area.isTaken slot = false →
    area.release slot = .error (.releasingFreeSlot slot.index) ∧
      area.attempt (.release slot) = (.error (.releasingFreeSlot slot.index), area)
  returns : ∀ {slot : SwapSlot} {after : SwapArea δ}, area.release slot = .ok after →
    after.disk = area.disk ∧
      (∀ other, after.isTaken other = (!decide (slot = other) && area.isTaken other)) ∧
      after.ComesUp slot
  /-- Neither a transfer nor a call that halts changes a slot. -/
  stays : ∀ {event : SlotEvent} {after : SwapArea δ}, area.Attempted event after →
    event.1.isTransfer = true ∨ (∃ halt, event.2 = .error halt) → after.taken = area.taken

theorem Tallied.lowestFirst (h : Tallied disk trace area) (hreaches : Reaches disk trace area) :
    LowestFirst disk trace area where
  slotCount := by rw [slotCount, h.size]
  inRange := h.bounded
  held := h.held
  counted := by
    rw [← h.bounded.size_taken_eq]
    exact Nat.sub_add_cancel h.bounded.size_taken_le
  exclusive hsplit hfirst hagain := (hsplit ▸ hreaches).exists_returned hfirst hagain
  lowest _ := exists_acquire?_iff
  takes {slot after} hacquire := by
    refine ⟨by rw [acquire_def, hacquire], ?_, isTaken_of_acquire? hacquire⟩
    rw [(acquire?_eq_some hacquire).2]
  undone := release_of_acquire?
  full := acquire?_eq_none_iff
  exhausted hnone := by
    refine ⟨?_, by rw [acquire_def, hnone], by rw [attempt_acquire, hnone]⟩
    rw [perform, attempt, hnone]
    rfl
  release_iff slot := by
    constructor
    · rintro ⟨after, hrelease⟩
      have htaken := (release_eq_ok hrelease).1
      exact ⟨h.bounded slot htaken, htaken⟩
    · rintro ⟨-, htaken⟩
      exact ⟨_, by rw [release_def, if_pos htaken]⟩
  refuses slot hslot := by
    have hfree : area.isTaken slot ≠ true := by
      rintro htaken
      obtain hout | hfree := hslot
      · exact absurd (h.bounded slot htaken) (Nat.not_lt_of_le hout)
      · rw [hfree] at htaken
        cases htaken
    exact ⟨by rw [release_def, if_neg hfree], by rw [attempt_release, if_neg hfree]⟩
  returns {slot after} hrelease := by
    obtain ⟨htaken, rfl⟩ := release_eq_ok hrelease
    refine ⟨rfl, isTaken_of_release hrelease, comesUp_of_free (h.bounded slot htaken) ?_⟩
    simp [isTaken_erase area area.disk]
  stays hattempted hevent := by
    cases hattempted with
    | halted hcall => exact (attempt_of_halt hcall).1
    | replied hcall =>
        cases perform_cases (settle_eq_ok.2 hcall) with
        | full | stored | loaded => rfl
        | acquired hacquire =>
            obtain htransfer | ⟨_, hhalt⟩ := hevent
            · obtain rfl | rfl := hacquire <;> cases htransfer
            · cases hhalt
        | released => obtain htransfer | ⟨_, hhalt⟩ := hevent <;> contradiction

/-- The lowest free slot is taken first, whatever was taken, given back and moved before. -/
theorem slots_lowest_first (h : Reaches disk trace area) : LowestFirst disk trace area :=
  h.tallied.lowestFirst h

end Attempts

/-- Three slots, and three sectors that are left over. -/
def uneven : BlockDevice FaultyDisk := ⟨0, "hda", .swap, 27, .sound (.new 27), 0, 0⟩

/-- All slots are taken, and the one in the middle goes back and is taken again. -/
def fillUneven : List AreaCall :=
  [.acquire, .acquire?, .acquire, .acquire?, .release ⟨1⟩, .storePage ⟨0⟩ (default : Page).toList,
    .acquire?]

/-- In the end a fourth slot is asked for, and one is given back that is not there. -/
theorem slots_lowest_first_uneven :
    ∃ trace area, trace.map (·.1) = fillUneven ++ [.acquire, .release ⟨3⟩] ∧
      (.acquire?, .ok (.acquired (some ⟨1⟩))) ∈ trace ∧ Reaches uneven trace area ∧
      LowestFirst uneven trace area ∧ area.slotCount = 3 ∧ area.freeSlots = 0 := by
  have hok : (do
      let (calls, area) ← performAll perform (new uneven) fillUneven
      return (calls.getLast?, area.acquire?.isNone, area.slotCount, area.freeSlots,
        area.isTaken ⟨3⟩)) =
          .ok (some (.acquire?, .acquired (some ⟨1⟩)), true, 3, 0, false) := by
    decide +kernel
  obtain ⟨⟨calls, area⟩, hcalls, hend⟩ := bind_eq_ok.1 hok
  obtain ⟨hcalled, hrun⟩ := Calls.of_performAll hcalls
  obtain ⟨hlast, hnone, hcount, hfree, hout⟩ :
      calls.getLast? = some (.acquire?, .acquired (some ⟨1⟩)) ∧ area.acquire? = none ∧
        area.slotCount = 3 ∧ area.freeSlots = 0 ∧ area.isTaken ⟨3⟩ = false := by
    simpa [pure, Except.pure] using hend
  have hacquire : area.attempt .acquire = (.error (.swapExhausted 3), area) := by
    rw [attempt_acquire, hnone, hcount]
  have hrelease : area.attempt (.release ⟨3⟩) = (.error (.releasingFreeSlot 3), area) := by
    rw [attempt_release, hout]
    rfl
  have hreaches := ((Reaches.new.of_calls hrun).concat (.halted hacquire rfl)).concat
    (.halted hrelease rfl)
  refine ⟨_, area, ?_, ?_, hreaches, slots_lowest_first hreaches, hcount, hfree⟩
  · simp [Function.comp_def, ← hcalled]
  · simp [List.mem_of_getLast? hlast]

end SwapArea

end DemandPaging
