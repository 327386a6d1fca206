import Mathlib.Data.List.TakeWhile
import Mathlib.Data.Nat.ModEq
import DemandPaging.Proofs.Selection

/-!
What the clock chooses, said without a hand that moves. The frames that may be evicted are listed
once round from the hand; the victim is the first of them whose page was not accessed, or the first
of all where every page was.
-/
namespace DemandPaging

namespace Clock

variable {pool : FramePool} {clock : Clock} {tables : AddressSpaces} {steps : Nat}
  {number other victim : FrameNumber} {numbers : List FrameNumber}

/-- The frame that the hand comes to in `distance` steps. -/
def ahead (clock : Clock) (pool : FramePool) (distance : Nat) : FrameNumber :=
  ⟨(clock.hand + distance) % pool.size⟩

/-- The frames that may be evicted among the next `steps`, in the order the hand comes to them. -/
def path (clock : Clock) (pool : FramePool) (steps : Nat) : List FrameNumber :=
  ((List.range steps).map (clock.ahead pool)).filter pool.isEvictable

/-- The frames that may be evicted, in cyclic order from the hand. -/
def candidates (clock : Clock) (pool : FramePool) : List FrameNumber := clock.path pool pool.size

theorem mem_candidates : number ∈ clock.candidates pool ↔ pool.isEvictable number = true := by
  rw [candidates, path, List.mem_filter, List.mem_map]
  refine ⟨fun h => h.2, fun h => ⟨?_, h⟩⟩
  obtain ⟨frame, hframe, -⟩ := FramePool.isEvictable_iff.1 h
  obtain ⟨distance, hlt, hmod⟩ := exists_add_mod_eq clock.hand (FramePool.index_lt_size hframe)
  exact ⟨distance, List.mem_range.2 hlt, by rw [ahead, hmod]⟩

theorem nodup_candidates : (clock.candidates pool).Nodup := by
  refine List.Nodup.filter _ (List.Nodup.map_on ?_ List.nodup_range)
  intro first hfirst second hsecond heq
  have hmod : (clock.hand + first) % pool.size = (clock.hand + second) % pool.size :=
    congrArg (·.index) heq
  have hcongr : first % pool.size = second % pool.size := Nat.ModEq.add_left_cancel' _ hmod
  rwa [Nat.mod_eq_of_lt (List.mem_range.1 hfirst), Nat.mod_eq_of_lt (List.mem_range.1 hsecond)]
    at hcongr

theorem path_succ (clock : Clock) (pool : FramePool) (steps : Nat) :
    clock.path pool (steps + 1) =
      if pool.isEvictable (clock.here pool) then
        clock.here pool :: (clock.advance pool).path pool steps
      else (clock.advance pool).path pool steps := by
  have hnext (distance : Nat) :
      clock.ahead pool (distance + 1) = (clock.advance pool).ahead pool distance := by
    rw [ahead, ahead, advance, Nat.mod_add_mod, Nat.add_assoc, Nat.add_comm 1 distance]
  simp only [path, List.range_succ_eq_map, List.map_cons, List.map_map, List.filter_cons,
    Function.comp_def, hnext]
  rfl

/-- In two rounds the hand comes to all of them twice. -/
theorem path_two_rounds (clock : Clock) (pool : FramePool) :
    clock.path pool (2 * pool.size) = clock.candidates pool ++ clock.candidates pool := by
  have hround (distance : Nat) :
      clock.ahead pool (pool.size + distance) = clock.ahead pool distance := by
    rw [ahead, ahead, Nat.add_left_comm, Nat.add_mod_left]
  rw [candidates, path, Nat.two_mul, List.range_add, List.map_append, List.filter_append,
    List.map_map]
  simp only [Function.comp_def, hround]
  rfl

/-- The first frame of a list that is not spared. Those before it have been spared once then. -/
def pick (pool : FramePool) :
    (numbers : List FrameNumber) → AddressSpaces → Option FrameNumber × AddressSpaces
  | [], tables => (none, tables)
  | number :: numbers, tables =>
    if spares pool tables number.index then pick pool numbers (spare pool tables number)
    else (some number, tables)

theorem sweep_eq_pick (pool : FramePool) (clock : Clock) (tables : AddressSpaces) (steps : Nat) :
    pick pool (clock.path pool steps) tables =
      ((sweep pool clock tables steps).victim, (sweep pool clock tables steps).tables) := by
  induction steps generalizing clock tables with
  | zero => rfl
  | succ steps ih =>
      rw [path_succ, sweep_succ]
      split
      · rw [pick]
        split
        · exact ih _ _
        · rfl
      · exact ih _ _

/-- Behind its victim the hand stops. -/
theorem policy_of_victim (h : (sweep pool clock tables steps).victim = some victim) :
    (sweep pool clock tables steps).policy = ⟨(victim.index + 1) % pool.size⟩ := by
  induction steps generalizing clock tables with
  | zero => cases h
  | succ steps ih =>
      rw [sweep_succ] at h ⊢
      by_cases hevictable : pool.isEvictable (clock.here pool) = true
      · by_cases hspared : spares pool tables (clock.here pool).index = true
        · rw [if_pos hevictable, if_pos hspared] at h ⊢
          exact ih h
        · rw [if_pos hevictable, if_neg hspared] at h ⊢
          cases h
          rw [here, advance, Nat.mod_add_mod]
      · rw [if_neg hevictable] at h ⊢
        exact ih h

/-- Where nothing may be evicted the hand goes round and nothing else happens. -/
theorem sweep_of_path_eq_nil (h : clock.path pool (steps + 1) = []) :
    sweep pool clock tables (steps + 1) =
      { victim := none, policy := ⟨(clock.hand + (steps + 1)) % pool.size⟩, tables } := by
  induction steps generalizing clock with
  | zero =>
      rw [path_succ] at h
      split at h
      · cases h
      · rename_i hstays
        rw [sweep_succ, if_neg hstays]
        rfl
  | succ steps ih =>
      rw [path_succ] at h
      split at h
      · cases h
      · rename_i hstays
        rw [sweep_succ, if_neg hstays, ih h, advance, Nat.mod_add_mod, Nat.add_assoc,
          Nat.add_comm 1]

theorem pick_append (pool : FramePool) (numbers numbers' : List FrameNumber)
    (tables : AddressSpaces) :
    pick pool (numbers ++ numbers') tables =
      match pick pool numbers tables with
      | (none, tables) => pick pool numbers' tables
      | found => found := by
  induction numbers generalizing tables with
  | nil => rfl
  | cons number numbers ih =>
      rw [List.cons_append, pick, pick]
      split
      · exact ih _
      · rfl

/-- The tables once each frame of a list has been spared. -/
def spareAll (pool : FramePool) (tables : AddressSpaces) (numbers : List FrameNumber) :
    AddressSpaces :=
  numbers.foldl (spare pool) tables

theorem contains_spare (pool : FramePool) (tables : AddressSpaces) (number : FrameNumber)
    (pid : Pid) : (spare pool tables number).contains pid = tables.contains pid := by
  rw [spare]
  cases pool.owner? number with
  | none => rfl
  | some key => exact AddressSpaces.contains_setFlag _ _ _ _ _ _

theorem entry?_spareAll (pool : FramePool) (tables : AddressSpaces) (numbers : List FrameNumber)
    (pid : Pid) (addr : Nat) :
    AddressSpaces.entry? (spareAll pool tables numbers) pid addr =
      if ∃ number ∈ numbers, pool.owner? number = some (.containing pid addr) then
        (tables.entry? pid addr).map (·.unaccessed)
      else tables.entry? pid addr := by
  induction numbers generalizing tables with
  | nil => simp [spareAll]
  | cons number numbers ih =>
      rw [spareAll, List.foldl_cons]
      refine (ih _).trans ?_
      rw [entry?_spare]
      by_cases hfirst : pool.owner? number = some (.containing pid addr)
      · cases tables.entry? pid addr <;> simp [hfirst, PageTableEntry.unaccessed_unaccessed]
      · simp [hfirst]

theorem contains_spareAll (pool : FramePool) (tables : AddressSpaces)
    (numbers : List FrameNumber) (pid : Pid) :
    (spareAll pool tables numbers).contains pid = tables.contains pid := by
  induction numbers generalizing tables with
  | nil => rfl
  | cons number numbers ih => exact (ih _).trans (contains_spare pool tables number pid)

/-- Each page has one frame among them at most. -/
def Exclusive (pool : FramePool) (numbers : List FrameNumber) : Prop :=
  ∀ first ∈ numbers, ∀ second ∈ numbers, ∀ key, pool.owner? first = some key →
    pool.owner? second = some key → first = second

/-- Sparing a frame does not change whether the frame of another page is spared. -/
theorem spares_spare (h : ∀ key, pool.owner? number = some key → pool.owner? other ≠ some key) :
    spares pool (spare pool tables number) other.index = spares pool tables other.index := by
  simp only [spares, AddressSpaces.isSet_eq, entry?_spare, UserPage.containing_base]
  cases hother : pool.owner? other with
  | none => rfl
  | some key => rw [Option.any_some, Option.any_some, if_neg fun hnumber => h key hnumber hother]

/-- Where the frames of a list belong to different pages, sparing one leaves the others as they
were, so they can be judged by the tables at the outset. -/
theorem pick_of_exclusive (p : FrameNumber → Bool) (hnodup : numbers.Nodup)
    (hexclusive : Exclusive pool numbers)
    (hspares : ∀ number ∈ numbers, spares pool tables number.index = p number) :
    pick pool numbers tables =
      (numbers.find? (!p ·), spareAll pool tables (numbers.takeWhile p)) := by
  induction numbers generalizing tables with
  | nil => rfl
  | cons number numbers ih =>
      obtain ⟨hnew, hnodup⟩ := List.nodup_cons.1 hnodup
      rw [pick, hspares number List.mem_cons_self]
      cases hp : p number with
      | false => simp [hp, spareAll]
      | true =>
          -- The frames behind it are judged by tables in which this one was spared.
          rw [if_pos rfl, ih hnodup, List.find?_cons_of_neg (by simp [hp]),
            List.takeWhile_cons_of_pos hp, spareAll, spareAll, List.foldl_cons]
          · intro first hfirst second hsecond
            exact hexclusive first (List.mem_cons_of_mem _ hfirst) second
              (List.mem_cons_of_mem _ hsecond)
          · intro other hother
            rw [← hspares other (List.mem_cons_of_mem _ hother)]
            refine spares_spare fun key hkey hother' => ?_
            have heq := hexclusive number List.mem_cons_self other
              (List.mem_cons_of_mem _ hother) key hkey hother'
            exact hnew (heq ▸ hother)

/-- A frame that was spared has no chance left. -/
theorem spares_spareAll (h : number ∈ numbers) :
    spares pool (spareAll pool tables numbers) number.index = false := by
  simp only [spares, AddressSpaces.isSet_eq, entry?_spareAll, UserPage.containing_base]
  cases hnumber : pool.owner? number with
  | none => rfl
  | some key =>
      rw [Option.any_some, if_pos ⟨number, h, hnumber⟩, PageTableEntry.any_unaccessed]

/-- If the first round spares all of them, the second one takes the first. -/
theorem pick_two_rounds (hnodup : numbers.Nodup) (hexclusive : Exclusive pool numbers)
    (hnonempty : numbers ≠ []) (tables : AddressSpaces) :
    ∃ victim,
      (numbers.find? fun number => !spares pool tables number.index).or numbers.head? =
        some victim ∧
      pick pool (numbers ++ numbers) tables =
        (some victim, spareAll pool tables
          (numbers.takeWhile fun number => spares pool tables number.index)) := by
  rw [pick_append, pick_of_exclusive (fun number => spares pool tables number.index) hnodup
    hexclusive fun _ _ => rfl]
  cases hfound : numbers.find? fun number => !spares pool tables number.index with
  | some victim => exact ⟨victim, rfl, rfl⟩
  | none =>
      -- All of them were spared, so in the second round the first one is not.
      have hall : numbers.takeWhile (fun number => spares pool tables number.index) = numbers := by
        rw [List.takeWhile_eq_self_iff]
        intro number hmem
        simpa using List.find?_eq_none.1 hfound number hmem
      obtain ⟨victim, rest, rfl⟩ := List.exists_cons_of_ne_nil hnonempty
      refine ⟨victim, rfl, ?_⟩
      rw [hall]
      show pick pool (victim :: rest) _ = _
      rw [pick, spares_spareAll List.mem_cons_self]
      rfl

/-- The candidates before the first whose page was not accessed. -/
def spared (clock : Clock) (pool : FramePool) (tables : AddressSpaces) : List FrameNumber :=
  (clock.candidates pool).takeWhile fun number => spares pool tables number.index

/-- The first candidate whose page was not accessed, or the first of all if each one was. -/
def next? (clock : Clock) (pool : FramePool) (tables : AddressSpaces) : Option FrameNumber :=
  ((clock.candidates pool).find? fun number => !spares pool tables number.index).or
    (clock.candidates pool).head?

/-- What second chance asks of a choice. -/
structure SecondChance (clock : Clock) (pool : FramePool) (tables : AddressSpaces)
    (choice : Choice Clock) : Prop where
  /-- The hand goes round, and nothing else happens. -/
  exhausted : (∀ number, pool.isEvictable number = false) →
    choice = { victim := none, policy := ⟨clock.hand % pool.size⟩, tables }
  found : ∀ number, pool.isEvictable number = true →
    ∃ victim, choice.victim = some victim ∧ pool.isEvictable victim = true
  first : ∀ number, pool.isEvictable number = true → Exclusive pool (clock.candidates pool) →
    ∃ victim, clock.next? pool tables = some victim ∧ choice.victim = some victim ∧
      choice.policy = ⟨(victim.index + 1) % pool.size⟩ ∧
      (∀ pid, choice.tables.contains pid = tables.contains pid) ∧
      ∀ pid addr, choice.tables.entry? pid addr =
        if ∃ number ∈ clock.spared pool tables,
            pool.owner? number = some (.containing pid addr) then
          (tables.entry? pid addr).map (·.unaccessed)
        else tables.entry? pid addr

/-- Wherever its hand stands, the clock chooses by second chance. -/
theorem second_chance (clock : Clock) (pool : FramePool) (tables : AddressSpaces)
    (hsize : 0 < pool.size) : SecondChance clock pool tables (clock.choose pool tables) := by
  refine ⟨fun hnone => ?_, fun number hevictable => ?_, fun number hevictable hexclusive => ?_⟩
  · have hpath : clock.path pool (2 * pool.size - 1 + 1) = [] := by
      refine List.filter_eq_nil_iff.2 fun number _ => ?_
      rw [hnone number]
      exact Bool.false_ne_true
    rw [choose_eq_sweep hsize, show 2 * pool.size = 2 * pool.size - 1 + 1 by omega,
      sweep_of_path_eq_nil hpath, show 2 * pool.size - 1 + 1 = pool.size * 2 by omega,
      Nat.add_mul_mod_self_left]
  · obtain ⟨victim, hvictim⟩ := clock.choose_victim tables hevictable
    exact ⟨victim, hvictim, choose_evictable hvictim⟩
  · have hnonempty : clock.candidates pool ≠ [] :=
      List.ne_nil_of_mem (mem_candidates.2 hevictable)
    obtain ⟨victim, hfirst, hpick⟩ := pick_two_rounds nodup_candidates hexclusive hnonempty tables
    rw [← path_two_rounds, sweep_eq_pick, ← choose_eq_sweep hsize] at hpick
    obtain ⟨hvictim, htables⟩ := Prod.mk.inj hpick
    refine ⟨victim, hfirst, hvictim, ?_, fun pid => ?_, fun pid addr => ?_⟩
    · rw [choose_eq_sweep hsize] at hvictim ⊢
      exact policy_of_victim hvictim
    · rw [htables]
      exact contains_spareAll pool tables _ pid
    · rw [htables]
      exact entry?_spareAll pool tables _ pid addr

/-- Five frames: a free one, a pinned one, and one whose process has no address space. -/
def mixedPool : FramePool where
  frames := #[.backing ⟨1, 0⟩ default, .blank, .granted ⟨1, 1⟩ default, .backing ⟨2, 0⟩ default,
    .backing ⟨1, 2⟩ default]
  queue := [⟨0⟩, ⟨2⟩, ⟨3⟩, ⟨4⟩]
  allocatedCount := 4

/-- Both pages of process 1 that can be evicted were accessed. -/
def mixedTables : AddressSpaces :=
  ⟨(∅ : Std.ExtTreeMap Pid PageDirectory).insert 1
    ⟨((∅ : Std.ExtTreeMap Nat PageTableEntry).insert 0
      ((PageTableEntry.mapping 0 true).withFlag .accessed true)).insert 2
      ((PageTableEntry.mapping 4 true).withFlag .accessed true)⟩⟩

/-- A hand that a larger pool left behind goes on at the last frame. -/
theorem second_chance_hand_left_behind :
    0 < mixedPool.size ∧ (⟨9⟩ : Clock).candidates mixedPool = [⟨4⟩, ⟨0⟩, ⟨3⟩] ∧
      Exclusive mixedPool ((⟨9⟩ : Clock).candidates mixedPool) ∧
      ((⟨9⟩ : Clock).choose mixedPool mixedTables).victim = some ⟨3⟩ ∧
      ((⟨9⟩ : Clock).choose mixedPool mixedTables).tables.isSet .accessed 1 0 = false := by
  have hcandidates : (⟨9⟩ : Clock).candidates mixedPool = [⟨4⟩, ⟨0⟩, ⟨3⟩] := by decide +kernel
  have hexclusive : Exclusive mixedPool ((⟨9⟩ : Clock).candidates mixedPool) := by
    rw [hcandidates]
    unfold Exclusive
    decide +kernel
  have hsize : 0 < mixedPool.size := by decide
  obtain ⟨victim, hfirst, hvictim, -, -, hentries⟩ :=
    (second_chance ⟨9⟩ mixedPool mixedTables hsize).first ⟨4⟩ (by decide) hexclusive
  refine ⟨hsize, hcandidates, hexclusive, ?_, ?_⟩
  · rw [hvictim, ← hfirst]
    decide +kernel
  · rw [AddressSpaces.isSet_eq, hentries]
    decide +kernel

end Clock

end DemandPaging
