import DemandPaging.Proofs.Selection
import Mathlib.Data.List.Rotate
import Mathlib.Data.Nat.ModEq

/-!
Next fit goes round. A search takes the first free index in cyclic order from the position, and the
position moves on behind it. So no free index is passed over, and one that stays free is found
within a round.
-/
namespace DemandPaging

theorem firstFrom?_eq_find? (p : Nat → Bool) (start count : Nat) :
    firstFrom? p start count = (List.range' start count).find? p := by
  induction count generalizing start with
  | zero => rfl
  | succ count ih =>
      rw [firstFrom?, List.range'_succ, List.find?_cons, ih]
      cases p start <;> rfl

theorem firstBelow?_eq_find? (p : Nat → Bool) (bound : Nat) :
    firstBelow? p bound = (List.range bound).find? p := by
  rw [firstBelow?, firstFrom?_eq_find?, List.range_eq_range']

/-- The numbers below `size` in cyclic order from `start`. -/
def cyclicFrom (start size : Nat) : List Nat := (List.range size).rotate start

theorem map_add_mod_range (start size : Nat) :
    (List.range size).map (fun distance => (start + distance) % size) =
      cyclicFrom (start % size) size := by
  rw [cyclicFrom]
  refine List.ext_getElem (by simp) fun distance _ _ => ?_
  simp [List.getElem_rotate, Nat.add_comm]

theorem mem_cyclicFrom {start size index : Nat} : index ∈ cyclicFrom start size ↔ index < size := by
  rw [cyclicFrom, List.mem_rotate, List.mem_range]

theorem CoreMap.forall_mem_allocated_iff {coreMap : CoreMap} :
    (∀ status ∈ coreMap, status.allocated = true) ↔
      ∀ index < coreMap.size, coreMap.isFree index = false := by
  rw [Array.forall_mem_iff_forall_getElem]
  refine forall₂_congr fun index hindex => ?_
  rw [isFree, Array.getElem?_eq_getElem hindex, Option.any_some, Bool.not_eq_false']

namespace NextFit

variable {fit : NextFit} {coreMap : CoreMap} {maps : List CoreMap}
  {index other found distance further nearer size : Nat}

theorem place?_eq_find? (fit : NextFit) (coreMap : CoreMap) :
    fit.place? coreMap =
      (cyclicFrom (fit.position % coreMap.size) coreMap.size).find? coreMap.isFree := by
  rw [place?, firstBelow?_eq_find?, ← map_add_mod_range, List.find?_map]
  rfl

/-- A search, with what it found and the algorithm before and after it. -/
structure Search where
  before : NextFit
  coreMap : CoreMap
  found : Option Nat
  after : NextFit

/-- The searches of one object, each on the core map of its time. -/
def searches (fit : NextFit) : List CoreMap → List Search
  | [] => []
  | coreMap :: later =>
      ⟨fit, coreMap, (fit.place coreMap).1, (fit.place coreMap).2⟩ ::
        (fit.place coreMap).2.searches later

/-- The first free index in cyclic order from the position, if there is one; the next search starts
behind it. -/
structure Search.FirstAround (search : Search) : Prop where
  eq_find? : search.found =
    (cyclicFrom (search.before.position % search.coreMap.size) search.coreMap.size).find?
      search.coreMap.isFree
  none_iff : search.found = none ↔ ∀ status ∈ search.coreMap, status.allocated = true
  stays : search.found = none → search.after = search.before
  inRange : ∀ index, search.found = some index →
    index < search.coreMap.size ∧ search.coreMap.isFree index = true
  moves : ∀ index, search.found = some index →
    search.after.position = (index + 1) % search.coreMap.size

theorem place_eq_some (h : (fit.place coreMap).1 = some found) :
    fit.place? coreMap = some found ∧
      (fit.place coreMap).2 = ⟨(found + 1) % coreMap.size⟩ := by
  rw [place] at h ⊢
  cases hplace : fit.place? coreMap with
  | none =>
      rw [hplace] at h
      cases h
  | some index =>
      rw [hplace] at h
      cases h
      exact ⟨rfl, rfl⟩

theorem place_fst (fit : NextFit) (coreMap : CoreMap) :
    (fit.place coreMap).1 = fit.place? coreMap := by
  rw [place]
  cases fit.place? coreMap <;> rfl

theorem firstAround_place (fit : NextFit) (coreMap : CoreMap) :
    Search.FirstAround ⟨fit, coreMap, (fit.place coreMap).1, (fit.place coreMap).2⟩ where
  eq_find? := by rw [place_fst, place?_eq_find?]
  none_iff := by
    rw [place_fst, place?_eq_find?, List.find?_eq_none, CoreMap.forall_mem_allocated_iff]
    simp only [mem_cyclicFrom, Bool.not_eq_true]
  stays hnone := by
    have hnone : fit.place? coreMap = none := (place_fst fit coreMap).symm.trans hnone
    simp only [place, hnone]
  inRange index hfound := by
    have hplaced : (Placement.place fit coreMap).1 = some index := hfound
    have hfree : coreMap.isFree index = true := ValidPlacement.isFree hplaced
    exact ⟨CoreMap.lt_size_of_isFree hfree, hfree⟩
  moves _ hfound := by rw [(place_eq_some hfound).2]

/-- The search comes to the index in `distance` steps. -/
structure Ahead (fit : NextFit) (size index distance : Nat) : Prop where
  lt : distance < size
  arrives : (fit.position + distance) % size = index

theorem exists_ahead (fit : NextFit) (h : index < size) :
    ∃ distance, fit.Ahead size index distance := by
  obtain ⟨distance, hlt, hmod⟩ := exists_add_mod_eq fit.position h
  exact ⟨distance, hlt, hmod⟩

theorem Ahead.unique (h : fit.Ahead size index distance) (h' : fit.Ahead size index further) :
    distance = further := by
  have hmod : fit.position + distance ≡ fit.position + further [MOD size] :=
    h.arrives.trans h'.arrives.symm
  exact (Nat.ModEq.add_left_cancel' _ hmod).eq_of_lt_of_lt h.lt h'.lt

/-- No free index is passed over. -/
theorem Ahead.exists_found (h : fit.Ahead coreMap.size index distance)
    (hfree : coreMap.isFree index = true) :
    ∃ found nearer, (fit.place coreMap).1 = some found ∧ nearer ≤ distance ∧
      fit.Ahead coreMap.size found nearer := by
  obtain ⟨found, hfound⟩ := CompletePlacement.place_eq_some fit hfree
  obtain ⟨nearer, hnearer, hindex⟩ :=
    Option.map_eq_some_iff.1 ((place_fst fit coreMap).symm.trans hfound)
  obtain ⟨hlt, -, hpassed⟩ := firstBelow?_eq_some_iff.1 hnearer
  refine ⟨found, nearer, hfound, ?_, hlt, hindex⟩
  by_contra hbehind
  have hallocated : coreMap.isFree ((fit.position + distance) % coreMap.size) = false :=
    hpassed distance (Nat.lt_of_not_le hbehind)
  rw [h.arrives, hfree] at hallocated
  cases hallocated

/-- What lies behind the index that was found is nearer by what the position has moved. -/
theorem Ahead.place (h : fit.Ahead coreMap.size index distance)
    (hfound : (fit.place coreMap).1 = some found) (hahead : fit.Ahead coreMap.size found nearer)
    (hlt : nearer < distance) :
    (fit.place coreMap).2.Ahead coreMap.size index (distance - (nearer + 1)) := by
  refine ⟨by have := h.lt; omega, ?_⟩
  rw [(place_eq_some hfound).2, ← hahead.arrives, Nat.mod_add_mod, Nat.add_assoc,
    Nat.mod_add_mod, ← h.arrives]
  congr 1
  omega

/-- The index that was found comes up last. -/
theorem ahead_found (hfound : (fit.place coreMap).1 = some found) :
    (fit.place coreMap).2.Ahead coreMap.size found (coreMap.size - 1) := by
  have hlt : found < coreMap.size := ((firstAround_place fit coreMap).inRange found hfound).1
  refine ⟨by omega, ?_⟩
  rw [(place_eq_some hfound).2, Nat.mod_add_mod, Nat.add_assoc, Nat.add_sub_cancel' (by omega),
    Nat.add_mod_right, Nat.mod_eq_of_lt hlt]

/-- The searches are made on core maps of the same length in which the index is free. -/
def StaysFree (size index : Nat) (window : List Search) : Prop :=
  ∀ search ∈ window, search.coreMap.size = size ∧ search.coreMap.isFree index = true

def Finds (index : Nat) (window : List Search) : Prop :=
  ∃ search ∈ window, search.found = some index

/-- Every search that finds another index comes nearer. -/
theorem Ahead.finds (h : fit.Ahead size index distance)
    (hfree : StaysFree size index (fit.searches maps)) (hlong : distance < maps.length) :
    Finds index (fit.searches maps) := by
  induction maps generalizing fit distance with
  | nil => cases hlong
  | cons coreMap later ih =>
      obtain ⟨⟨rfl, hnow⟩, hlater⟩ := List.forall_mem_cons.1 hfree
      obtain ⟨found, nearer, hfound, hle, hahead⟩ := h.exists_found hnow
      obtain hlt | rfl := Nat.lt_or_eq_of_le hle
      · have hlong : distance < later.length + 1 := hlong
        obtain ⟨search, hsearch, heq⟩ :=
          ih (h.place hfound hahead hlt) hlater (by omega)
        exact ⟨search, List.mem_cons_of_mem _ hsearch, heq⟩
      · obtain rfl : found = index := hahead.arrives.symm.trans h.arrives
        exact ⟨_, List.mem_cons_self, hfound⟩

/-- Of two indices ahead, the nearer one is not left behind if it stays free. -/
theorem Ahead.finds_before (h : fit.Ahead size index distance)
    (hother : fit.Ahead size other further) (hlt : distance < further)
    {between future : List Search} {search : Search}
    (hsplit : fit.searches maps = between ++ search :: future)
    (hfree : StaysFree size index (between ++ [search])) (hlast : search.found = some other) :
    Finds index between := by
  induction maps generalizing fit distance further between with
  | nil => cases between <;> cases hsplit
  | cons coreMap later ih =>
      cases between with
      | nil =>
          cases hsplit
          obtain ⟨rfl, hnow⟩ := hfree _ List.mem_cons_self
          obtain ⟨found, nearer, hfound, hle, hahead⟩ := h.exists_found hnow
          cases hfound.symm.trans hlast
          have hfar := hahead.unique hother
          omega
      | cons first between =>
          obtain ⟨rfl, hrest⟩ := List.cons.inj hsplit
          obtain ⟨⟨rfl, hnow⟩, hlater⟩ := List.forall_mem_cons.1 hfree
          obtain ⟨found, nearer, hfound, hle, hahead⟩ := h.exists_found hnow
          obtain hnear | rfl := Nat.lt_or_eq_of_le hle
          · obtain ⟨picked, hpicked, heq⟩ :=
              ih (h.place hfound hahead hnear) (hother.place hfound hahead (by omega)) (by omega)
                hrest hlater
            exact ⟨picked, List.mem_cons_of_mem _ hpicked, heq⟩
          · obtain rfl : found = index := hahead.arrives.symm.trans h.arrives
            exact ⟨_, List.mem_cons_self, hfound⟩

theorem map_coreMap_searches (fit : NextFit) (maps : List CoreMap) :
    (fit.searches maps).map (·.coreMap) = maps := by
  induction maps generalizing fit with
  | nil => rfl
  | cons coreMap later ih => rw [searches, List.map_cons, ih]

theorem isChain_searches (fit : NextFit) (maps : List CoreMap) :
    List.IsChain (fun search next => next.before = search.after) (fit.searches maps) := by
  induction maps generalizing fit with
  | nil => exact .nil
  | cons coreMap later ih =>
      cases later with
      | nil => exact .singleton _
      | cons next later => exact .cons_cons rfl (ih (fit.place coreMap).2)

/-- What was done after other searches is done from some position as well. -/
theorem searches_eq_append {past later : List Search} (h : fit.searches maps = past ++ later) :
    ∃ (state : NextFit) (rest : List CoreMap), state.searches rest = later := by
  induction past generalizing fit maps with
  | nil => exact ⟨fit, maps, h⟩
  | cons first past ih =>
      cases maps with
      | nil => cases h
      | cons coreMap rest => exact ih (List.cons.inj h).2

/-- The first searches are those on the first core maps. -/
theorem searches_map_coreMap {window future : List Search}
    (h : fit.searches maps = window ++ future) :
    fit.searches (window.map (·.coreMap)) = window := by
  induction window generalizing fit maps with
  | nil => rfl
  | cons first window ih =>
      cases maps with
      | nil => cases h
      | cons coreMap rest =>
          obtain ⟨rfl, hlater⟩ := List.cons.inj h
          rw [List.map_cons, searches, ih hlater]

theorem searches_of_infix {window : List Search} (h : window <:+: fit.searches maps) :
    ∃ (state : NextFit) (rest : List CoreMap), state.searches rest = window := by
  obtain ⟨past, future, hsplit⟩ := h
  rw [List.append_assoc] at hsplit
  obtain ⟨state, rest, hrest⟩ := searches_eq_append hsplit.symm
  exact ⟨state, window.map (·.coreMap), searches_map_coreMap hrest⟩

theorem firstAround_of_mem {search : Search} (h : search ∈ fit.searches maps) :
    search.FirstAround := by
  induction maps generalizing fit with
  | nil => cases h
  | cons coreMap later ih =>
      obtain rfl | h := List.mem_cons.1 h
      · exact firstAround_place fit coreMap
      · exact ih h

/-- Each search is a cyclic first fit that goes on from the one before it, and no index starves. -/
structure RoundRobin (fit : NextFit) (maps : List CoreMap) : Prop where
  onMaps : (fit.searches maps).map (·.coreMap) = maps
  started : ∀ search ∈ (fit.searches maps).head?, search.before = fit
  chained : List.IsChain (fun search next => next.before = search.after) (fit.searches maps)
  firstAround : ∀ search ∈ fit.searches maps, search.FirstAround
  /-- What stays free in `size` searches in a row is found by one of them. -/
  fair : ∀ {window : List Search} {size index : Nat}, window <:+: fit.searches maps →
    window.length = size → index < size → StaysFree size index window → Finds index window
  /-- What stays free until another index is found again is found before. -/
  inTurn : ∀ {past between future : List Search} {first again : Search} {index other : Nat},
    fit.searches maps = past ++ first :: (between ++ again :: future) →
    first.found = some other → again.found = some other → index ≠ other →
    StaysFree first.coreMap.size index (between ++ [again]) → Finds index between

/-- An index that is not the last one found comes up before it. -/
theorem Ahead.lt_of_ne (h : fit.Ahead size index distance) (hlast : fit.Ahead size other (size - 1))
    (hne : index ≠ other) : distance < size - 1 := by
  have hdistance : distance ≠ size - 1 := by
    rintro rfl
    exact hne (h.arrives.symm.trans hlast.arrives)
  have hlt := h.lt
  omega

theorem roundRobin_searches (fit : NextFit) (maps : List CoreMap) : RoundRobin fit maps where
  onMaps := map_coreMap_searches fit maps
  started := by
    cases maps with
    | nil => nofun
    | cons => rintro _ ⟨⟩; rfl
  chained := isChain_searches fit maps
  firstAround _ := firstAround_of_mem
  fair {window size index} hwindow hlength hindex hfree := by
    obtain ⟨state, rest, rfl⟩ := searches_of_infix hwindow
    obtain ⟨distance, hahead⟩ := exists_ahead state hindex
    refine hahead.finds hfree ?_
    rw [← map_coreMap_searches state rest, List.length_map, hlength]
    exact hahead.lt
  inTurn {past between future first again index other} hsplit hfirst hagain hne hfree := by
    obtain ⟨state, rest, hrest⟩ := searches_eq_append hsplit
    cases rest with
    | nil => cases hrest
    | cons coreMap rest =>
        obtain ⟨rfl, hlater⟩ := List.cons.inj hrest
        have hlast := ahead_found hfirst
        obtain ⟨hsize, hnow⟩ := hfree again (List.mem_append_right _ List.mem_cons_self)
        obtain ⟨distance, hahead⟩ := exists_ahead (state.place coreMap).2
          (hsize ▸ CoreMap.lt_size_of_isFree hnow)
        exact hahead.finds_before hlast (hahead.lt_of_ne hlast hne) hlater hfree hagain

end NextFit
end DemandPaging
