import DemandPaging.Proofs.VirtualMemory.EvictFirst
import DemandPaging.Proofs.VirtualMemory.Turnover

/-!
First in, first out over a whole run. The queue has the pages that live in frames in the order in
which they came, whatever failed or was unmapped meanwhile, and every eviction tries the first of
them.
-/
namespace DemandPaging

namespace PageEvent

variable {past events later : List PageEvent} {event : PageEvent} {key : UserPage}
  {keys : List UserPage}

/-- How many events there were when the page of `key` last came to live in a frame, that one
included; none if it never did. -/
def began (events : List PageEvent) (key : UserPage) : Nat :=
  events.length - (since events key).length

theorem length_since_le (events : List PageEvent) (key : UserPage) :
    (since events key).length ≤ events.length := by
  rw [← events.length_reverse]
  exact (List.takeWhile_sublist _).length_le

theorem began_le_length (events : List PageEvent) (key : UserPage) :
    began events key ≤ events.length :=
  Nat.sub_le _ _

theorem began_append (past events : List PageEvent) (key : UserPage) :
    began (past ++ events) key =
      if .settled key ∈ events then past.length + began events key else began past key := by
  have hle := length_since_le events key
  rw [began, since_append]
  split
  · rw [began, List.length_append]
    omega
  · rw [began, List.length_append, List.length_append, List.length_reverse]
    omega

theorem began_append_of_not_mem (past : List PageEvent) (h : .settled key ∉ events) :
    began (past ++ events) key = began past key := by
  rw [began_append, if_neg h]

theorem began_pos (h : .settled key ∈ events) : 0 < began events key := by
  refine Nat.sub_pos_of_lt ((length_since_le events key).lt_of_ne fun hlength => ?_)
  rw [← events.length_reverse] at hlength
  have hall := (List.takeWhile_prefix _).eq_of_length hlength
  have hmem := List.mem_reverse.2 h
  rw [← hall] at hmem
  simpa using List.mem_takeWhile_imp hmem

/-- The page that an eviction took. -/
def victim? : PageEvent → Option UserPage
  | evicted key => some key
  | settled _ | dropped _ | touched _ _ => none

/-- When the pages came that were evicted in `events`, after `past`, in the order in which they
left. -/
def victims (past : List PageEvent) : List PageEvent → List Nat
  | [] => []
  | event :: later => (event.victim?.map (began past)).toList ++ victims (past ++ [event]) later

theorem victims_append (past events later : List PageEvent) :
    victims past (events ++ later) = victims past events ++ victims (past ++ events) later := by
  induction events generalizing past with
  | nil => simp [victims]
  | cons event events ih => simp [victims, ih]

theorem victims_eq_nil (h : ∀ event ∈ events, event.victim? = none) : victims past events = [] := by
  induction events generalizing past with
  | nil => rfl
  | cons event events ih =>
      obtain ⟨hfirst, hrest⟩ := List.forall_mem_cons.1 h
      rw [victims, hfirst, ih hrest]
      rfl

theorem victims_map_evicted (past : List PageEvent) (keys : List UserPage) :
    victims past (keys.map .evicted) = keys.map (began past) := by
  induction keys generalizing past with
  | nil => rfl
  | cons key keys ih =>
      have hsame : began (past ++ [.evicted key]) = began past :=
        funext fun other => began_append_of_not_mem past (by simp)
      rw [List.map_cons, victims, ih, hsame]
      rfl

theorem le_length_of_mem_victims {start : Nat} (h : start ∈ victims past events) :
    start ≤ (past ++ events).length := by
  induction events generalizing past with
  | nil => cases h
  | cons event events ih =>
      rw [victims, List.mem_append] at h
      obtain hfirst | hrest := h
      · obtain ⟨key, -, rfl⟩ := Option.map_eq_some_iff.1 (Option.mem_toList.1 hfirst)
        have hle := began_le_length past key
        rw [List.length_append]
        omega
      · rw [List.append_cons]
        exact ih hrest

theorem le_length_of_mem_arrivals {start : Nat}
    (h : start ∈ victims [] past ++ keys.map (began past)) : start ≤ past.length := by
  obtain hvictim | hkey := List.mem_append.1 h
  · exact le_length_of_mem_victims hvictim
  · obtain ⟨key, -, rfl⟩ := List.mem_map.1 hkey
    exact began_le_length past key

/-- Who comes now comes after everything that has happened so far. -/
theorem length_lt_began_append (past : List PageEvent) (h : .settled key ∈ events) :
    past.length < began (past ++ events) key := by
  have hpos := began_pos h
  rw [began_append, if_pos h]
  omega

end PageEvent

namespace VirtualMemory

open PageEvent (began victims)

variable {δ φ π : Type} {past : List PageEvent}

section Changes

variable {vm after : VirtualMemory δ φ π} {key : UserPage}

/-- The pages that are evicted between two states have lost their frames and are still mapped. -/
theorem exists_victims_changes (vm after : VirtualMemory δ φ π) (past : List PageEvent) :
    ∃ gone : List UserPage, gone.Nodup ∧ (∀ key ∈ gone, vm.isResident key = true ∧
      after.isResident key = false ∧ after.cell? key ≠ none) ∧
      victims past (vm.changes after) = gone.map (began past) := by
  refine ⟨(vm.residentKeys.filter (!after.isResident ·)).filter after.pages.contains,
    (vm.nodup_residentKeys.filter _).filter _, ?_, ?_⟩
  · intro key hkey
    simp only [List.mem_filter, mem_residentKeys, contains_pages, Bool.not_eq_true'] at hkey
    exact ⟨hkey.1.1, hkey.1.2, hkey.2⟩
  · simp only [changes, PageEvent.victims_append, PageEvent.victims_map_evicted]
    rw [PageEvent.victims_eq_nil, PageEvent.victims_eq_nil, List.append_nil, List.append_nil]
    · intro event hevent
      obtain ⟨key, -, rfl⟩ := List.mem_map.1 hevent
      rfl
    · intro event hevent
      obtain ⟨key, -, rfl⟩ := List.mem_map.1 hevent
      rfl

theorem Turnover.exists_kept (h : Turnover vm after) :
    ∃ (kept : List UserPage) (fresh : Option UserPage),
      after.residents = kept ++ fresh.toList ∧ kept.Sublist vm.residents ∧
      (∀ key ∈ fresh, key ∉ vm.residents) ∧
      ∀ gone : List UserPage, gone.Nodup → (∀ key ∈ gone, key ∈ vm.residents ∧
        key ∉ after.residents ∧ after.cell? key ≠ none) → (gone ++ kept).Sublist vm.residents := by
  cases h with
  | arrived fresh hresidents hfresh =>
      refine ⟨vm.residents, fresh, hresidents, .refl _, hfresh, fun gone _ hgone => ?_⟩
      have hnone : gone = [] := List.eq_nil_iff_forall_not_mem.2 fun key hkey => by
        obtain ⟨hbefore, hafter, -⟩ := hgone key hkey
        rw [hresidents] at hafter
        exact hafter (List.mem_append_left _ hbefore)
      rw [hnone]
      exact .refl _
  | evicted fresh hfirst hresidents hfresh =>
      rename_i oldest rest
      refine ⟨rest, fresh, hresidents, hfirst ▸ List.sublist_cons_self _ _, hfresh,
        fun gone hnodup hgone => ?_⟩
      have honly : ∀ key ∈ gone, key = oldest := by
        intro key hkey
        obtain ⟨hbefore, hafter, -⟩ := hgone key hkey
        rw [hfirst, List.mem_cons] at hbefore
        rw [hresidents] at hafter
        exact hbefore.resolve_right fun hmem => hafter (List.mem_append_left _ hmem)
      have hsublist : gone.Sublist [oldest] := by
        rw [List.eq_replicate_of_mem honly, List.nodup_replicate] at hnodup
        rw [List.eq_replicate_of_mem honly]
        exact (List.replicate_sublist_replicate oldest).2 hnodup
      rw [hfirst]
      exact hsublist.append (.refl rest)
  | discarded hsublist hgoneCell =>
      refine ⟨after.residents, none, by simp, hsublist, nofun, fun gone _ hgone => ?_⟩
      have hnone : gone = [] := List.eq_nil_iff_forall_not_mem.2 fun key hkey => by
        obtain ⟨hbefore, hafter, hcell⟩ := hgone key hkey
        exact hcell (hgoneCell key hbefore hafter)
      rw [hnone]
      exact hsublist

end Changes

variable {vm mid after : VirtualMemory δ φ StandardReplacement}

/-- Those who were evicted and those who still have their frames came in this order. -/
structure Queued (past : List PageEvent) (vm : VirtualMemory δ φ StandardReplacement) : Prop where
  policy : vm.policy = .fifo ⟨⟩
  settled : ∀ {key}, key ∈ vm.residents → .settled key ∈ past
  arrivals : (victims [] past ++ vm.residents.map (began past)).Pairwise (· < ·)

theorem Queued.turnover (h : Queued past vm) (hbooks : vm.Accounted none)
    (hafter : after.Accounted none) (hpolicy : after.policy = .fifo ⟨⟩)
    (hturnover : Turnover vm after) : Queued (past ++ vm.changes after) after := by
  obtain ⟨gone, hnodup, hgone, hvictims⟩ := exists_victims_changes vm after past
  obtain ⟨kept, fresh, hresidents, hkept, hfresh, hleft⟩ := hturnover.exists_kept
  have hstayed {key : UserPage} (hkey : key ∈ kept) : .settled key ∉ vm.changes after := by
    rw [settled_mem_changes]
    rintro ⟨-, hnew⟩
    exact Bool.false_ne_true (hnew.symm.trans (hbooks.mem_residents.1 (hkept.mem hkey)))
  have hcame {key : UserPage} (hkey : key ∈ fresh) : .settled key ∈ vm.changes after := by
    have hmem : key ∈ after.residents := by simp [hresidents, Option.mem_def.1 hkey]
    rw [settled_mem_changes]
    refine ⟨hafter.mem_residents.1 hmem, ?_⟩
    rw [Bool.eq_false_iff, ne_eq, ← hbooks.mem_residents]
    exact hfresh key hkey
  refine ⟨hpolicy, ?_, ?_⟩
  · intro key hkey
    rw [hresidents, List.mem_append, Option.mem_toList] at hkey
    rw [List.mem_append]
    exact hkey.imp (fun hkey => h.settled (hkept.mem hkey)) hcame
  · have hsame : kept.map (began (past ++ vm.changes after)) = kept.map (began past) :=
      List.map_congr_left fun key hkey => PageEvent.began_append_of_not_mem past (hstayed hkey)
    have hlost : ∀ key ∈ gone, key ∈ vm.residents ∧ key ∉ after.residents ∧
        after.cell? key ≠ none := by
      intro key hkey
      obtain ⟨hbefore, hlost, hcell⟩ := hgone key hkey
      rw [hbooks.mem_residents, hafter.mem_residents, hlost]
      exact ⟨hbefore, Bool.false_ne_true, hcell⟩
    have hsublist := (hleft gone hnodup hlost).map (began past)
    have hold := h.arrivals.sublist ((List.Sublist.refl (victims [] past)).append hsublist)
    rw [PageEvent.victims_append, List.nil_append, hvictims, hresidents, List.map_append, hsame,
      ← List.append_assoc, List.append_assoc (victims [] past), ← List.map_append,
      List.pairwise_append]
    refine ⟨hold, by cases fresh <;> simp, fun start hstart finish hfinish => ?_⟩
    obtain ⟨key, hkey, rfl⟩ := List.mem_map.1 hfinish
    have hsettled := hcame (Option.mem_toList.1 hkey)
    exact (PageEvent.le_length_of_mem_arrivals hstart).trans_lt
      (PageEvent.length_lt_began_append past hsettled)

theorem Queued.touched (h : Queued past vm) (pid : Pid) (addr : Nat) (write : Bool) :
    Queued (past ++ [.touched (.containing pid addr) write])
      { vm with tables := vm.tables.marked pid addr write } := by
  have hsame : began (past ++ [.touched (.containing pid addr) write]) = began past :=
    funext fun key => PageEvent.began_append_of_not_mem past (by simp)
  have hvictims : victims [] (past ++ [.touched (.containing pid addr) write]) =
      victims [] past := by
    rw [PageEvent.victims_append]
    simp [victims, PageEvent.victim?]
  refine ⟨h.policy, fun hkey => List.mem_append_left _ (h.settled hkey), ?_⟩
  rw [hsame, hvictims]
  exact h.arrivals

variable [BlockDriver δ] [Placement φ] [CompletePlacement φ] [ValidPlacement φ]
  {drift : δ → δ → Prop}

theorem keeps_queued : Keeps drift
    (Queued : List PageEvent → VirtualMemory δ φ StandardReplacement → Prop) where
  drifted h _ := ⟨h.policy, h.settled, h.arrivals⟩
  called hvm h hcopy hcall := by
    have hcases := perform_cases hcall
    have hturnover := hcases.turnover hcopy hvm.accounted h.policy
    exact h.turnover hvm.accounted (hvm.of_perform hcall).accounted
      (hcases.keepsParts.fifo h.policy) hturnover
  readied hvm h hready :=
    h.turnover hvm.accounted (hvm.of_readied hready).accounted (hready.keepsParts.fifo h.policy)
      (hready.turnover hvm.accounted h.policy)
  touched h := h.touched _ _ _
  patched h hframe := by
    refine ⟨h.policy, fun hkey => ?_, ?_⟩
    · rw [residents_patchFrame hframe] at hkey
      exact h.settled hkey
    · rw [residents_patchFrame hframe]
      exact h.arrivals

omit [BlockDriver δ] [Placement φ] [CompletePlacement φ] [ValidPlacement φ] in
theorem queued_new {count stackLimit : Nat} {pool : FramePool} {disk : BlockDevice δ}
    {placement : φ} (hpool : FramePool.new count = .ok pool) :
    Queued [] (new (.new disk) pool placement (.fifo ⟨⟩) stackLimit) := by
  obtain ⟨-, rfl⟩ := FramePool.new_eq_ok hpool
  exact ⟨rfl, nofun, .nil⟩

/-- The queue is the order of arrival in `events`, evictions start with its first page, and no call
changes the order of the pages that stay. -/
structure EvictsInOrder (vm : VirtualMemory δ φ StandardReplacement) (events : List PageEvent) :
    Prop where
  mem_residents : ∀ {key}, key ∈ vm.residents ↔ vm.isResident key = true
  settled : ∀ {key}, key ∈ vm.residents → .settled key ∈ events
  arrivals : (victims [] events ++ vm.residents.map (began events)).Pairwise (· < ·)
  exhausted : (∀ key, vm.isResident key = false) → vm.evictPage = .ok (.error .outOfFrames, vm)
  oldest : ∀ {key}, vm.isResident key = true → ∃ oldest page,
    vm.isResident oldest = true ∧ vm.cell? oldest = some ⟨false, some page⟩ ∧
    (∀ other, vm.isResident other = true → other ≠ oldest →
      began events oldest < began events other) ∧
    vm.evictPage = vm.pageOutPage oldest page
  failed : ∀ {error after}, vm.evictPage = .ok (.error error, after) →
    after.residents = vm.residents
  mapZero : ∀ {pid addr} kind writable, vm.pool.allocatedCount = vm.pool.size →
    Mappable vm pid addr →
      vm.mapZero pid addr kind writable = vm.evictFirst (·.mapZero pid addr kind writable)
  resolveFault : ∀ {pid fault}, vm.pool.allocatedCount = vm.pool.size →
    inUserSpace fault.addr = true → NeedsFrame vm pid fault →
      vm.resolveFault pid fault = vm.evictFirst (·.resolveFault pid fault)
  obtainFrame : ∀ {key}, vm.pool.allocatedCount ≠ vm.pool.size → vm.NotInMemory key →
    (vm.seeking key).obtainFrame key = (vm.seeking key).obtainFrameWithin key 0
  performed : ∀ {call reply after}, call.isCopy = false → vm.perform call = .ok (reply, after) →
    Turnover vm after
  accessed : ∀ {pid addr write result after}, vm.access pid addr write = .ok (result, after) →
    Turnover vm after

theorem Queued.evictsInOrder {events : List PageEvent} (h : Queued events vm) (hvm : vm.Orderly) :
    vm.EvictsInOrder events where
  mem_residents := hvm.accounted.mem_residents
  settled := h.settled
  arrivals := h.arrivals
  exhausted hnone := by
    have heviction := hvm.accounted.searching.fifoEviction h.policy
    generalize vm.evictPage = outcome at heviction ⊢
    cases heviction with
    | exhausted => rfl
    | tried hresidents hcell hlocation hhead =>
        rename_i oldest _ _ _
        have hmem : oldest ∈ vm.residents := hresidents ▸ List.mem_cons_self
        rw [hvm.accounted.mem_residents, hnone] at hmem
        cases hmem
  oldest hkey := by
    have heviction := hvm.accounted.searching.fifoEviction h.policy
    rw [← hvm.accounted.mem_residents] at hkey
    generalize vm.evictPage = outcome at heviction ⊢
    cases heviction with
    | exhausted hnil =>
        rw [hnil] at hkey
        cases hkey
    | tried hresidents hcell =>
        have hsorted := (List.pairwise_append.1 h.arrivals).2.1
        rw [hresidents, List.map_cons, List.pairwise_cons] at hsorted
        refine ⟨_, _, ?_, hcell, fun other hother hne => ?_, rfl⟩
        · rw [← hvm.accounted.mem_residents, hresidents]
          exact List.mem_cons_self
        · rw [← hvm.accounted.mem_residents, hresidents, List.mem_cons] at hother
          exact hsorted.1 _ (List.mem_map_of_mem (hother.resolve_left hne))
  failed hevict := by
    obtain ⟨_, -, hsame⟩ | ⟨slot, oldest, hok, -⟩ :=
      hvm.accounted.searching.residents_of_evictPage h.policy hevict
    · exact hsame
    · cases hok
  mapZero kind writable hfull hmappable :=
    hvm.accounted.mapZero_eq_evictFirst hmappable hfull kind writable
  resolveFault hfull huser hneeds := hvm.accounted.resolveFault_eq_evictFirst huser hneeds hfull
  obtainFrame hroom habsent := hvm.accounted.obtainFrame_of_room habsent hroom
  performed hcopy hcall := (perform_cases hcall).turnover hcopy hvm.accounted h.policy
  accessed haccess := by
    obtain ⟨mid, hready, ⟨error, -, rfl⟩ | ⟨number, -, rfl⟩⟩ := hvm.access_cases haccess
    · exact hready.turnover hvm.accounted h.policy
    · exact (hready.turnover hvm.accounted h.policy).withTables _

omit [Placement φ] [CompletePlacement φ] [ValidPlacement φ] in
/-- First in, first out evicts the pages in the order in which they came, whatever the device
does. -/
theorem evictions_follow_arrivals {count stackLimit : Nat} {pool : FramePool}
    {disk : BlockDevice δ} {placement : StandardPlacement}
    {trace : List (MemoryCall × MemoryReply)}
    {vm : VirtualMemory δ StandardPlacement StandardReplacement}
    (hpool : FramePool.new count = .ok pool)
    (hrun : Run (fun _ _ => True) (new (.new disk) pool placement (.fifo ⟨⟩) stackLimit) trace vm) :
    (∃ events, History (fun _ _ => True) (new (.new disk) pool placement (.fifo ⟨⟩) stackLimit)
      trace events vm) ∧
    ∀ events, History (fun _ _ => True) (new (.new disk) pool placement (.fifo ⟨⟩) stackLimit)
      trace events vm → ∀ driver, (vm.withDriver driver).EvictsInOrder events := by
  refine ⟨hrun.exists_history, fun events hhistory driver => ?_⟩
  obtain ⟨hqueued, hvm⟩ :=
    hhistory.invariant keeps_queued (orderly_new hpool) (queued_new hpool)
  have hdrifted : Queued events (vm.withDriver driver) :=
    ⟨hqueued.policy, hqueued.settled, hqueued.arrivals⟩
  exact hdrifted.evictsInOrder (hvm.withDriver driver)

/-- A machine with two frames and room for two pages on its disk. -/
def twoFrames : VirtualMemory FaultyDisk StandardPlacement StandardReplacement :=
  new (.new ⟨0, "hda", .swap, 16, .sound (.new 16), 0, 0⟩) ⟨.replicate 2 .blank, [], 0⟩
    (.ofName .nextFit) (.fifo ⟨⟩) 0

/-- The third page evicts the first one, which evicts the second one as it comes back. -/
theorem evictions_follow_arrivals_twoFrames :
    ∃ trace vm, trace.map (·.1) = [.createSpace 1, .mapZero 1 0 .ordinary true,
        .mapZero 1 4096 .ordinary true, .mapZero 1 8192 .ordinary true,
        .copyFromUser 1 0 [0]] ∧
      Run (fun _ _ => True) twoFrames trace vm ∧ vm.residents = [⟨1, 2⟩, ⟨1, 0⟩] ∧
      (∃ events, History (fun _ _ => True) twoFrames trace events vm) ∧
      ∀ events, History (fun _ _ => True) twoFrames trace events vm →
        ∀ driver, (vm.withDriver driver).EvictsInOrder events := by
  have hqueue : (twoFrames.run [.createSpace 1, .mapZero 1 0 .ordinary true,
      .mapZero 1 4096 .ordinary true, .mapZero 1 8192 .ordinary true,
      .copyFromUser 1 0 [0]]).map (·.2.residents) = .ok [⟨1, 2⟩, ⟨1, 0⟩] := by
    decide +kernel
  have hpool : FramePool.new 2 = .ok ⟨.replicate 2 .blank, [], 0⟩ := rfl
  obtain ⟨⟨replies, vm⟩, hcalls, hresidents⟩ := map_eq_ok.1 hqueue
  obtain ⟨trace, hnames, hrun⟩ := exists_run_of_run (fun _ _ => True) (fun _ => trivial) hcalls
  exact ⟨trace, vm, hnames, hrun, hresidents, evictions_follow_arrivals hpool hrun⟩

end VirtualMemory

end DemandPaging
