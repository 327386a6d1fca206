import DemandPaging.Proofs.Swapping

/-!
Calls of the parts that pages live on, as data: of the swap area, the frame pool and the page
tables, and of pages that move between them. Calls that are made one after the other form a trace
with the replies they got.
-/
namespace DemandPaging

section Traces

/-- Where a list that ends in `last` can be cut. -/
theorem concat_eq_append_cons {α : Type} {items before behind : List α} {last item : α} :
    items ++ [last] = before ++ item :: behind ↔
      (behind = [] ∧ items = before ∧ last = item) ∨
        ∃ rest, behind = rest ++ [last] ∧ items = before ++ item :: rest := by
  constructor
  · intro h
    obtain rfl | ⟨rest, final, rfl⟩ := List.eq_nil_or_concat behind
    · obtain ⟨rfl, hlast⟩ := List.append_inj' h rfl
      exact .inl ⟨rfl, rfl, List.singleton_inj.1 hlast⟩
    · rw [List.concat_eq_append, ← List.cons_append, ← List.append_assoc] at h
      obtain ⟨rfl, hlast⟩ := List.append_inj' h rfl
      exact .inr ⟨rest, by rw [List.concat_eq_append, List.singleton_inj.1 hlast], rfl⟩
  · rintro (⟨rfl, rfl, rfl⟩ | ⟨rest, rfl, rfl⟩)
    · rfl
    · rw [List.append_assoc, List.cons_append]

variable {σ κ ρ : Type} {perform : σ → κ → Except Halt (ρ × σ)}

/-- Calls that were carried out one after the other, none of which halted. -/
inductive Calls (perform : σ → κ → Except Halt (ρ × σ)) : σ → List (κ × ρ) → σ → Prop where
  | nil {state : σ} : Calls perform state [] state
  | cons {state mid after : σ} {call : κ} {reply : ρ} {trace : List (κ × ρ)} :
      perform state call = .ok (reply, mid) → Calls perform mid trace after →
      Calls perform state ((call, reply) :: trace) after

/-- Carries out calls one after the other; the events come in the order of the calls. -/
def performAll (perform : σ → κ → Except Halt (ρ × σ)) (state : σ) :
    List κ → Except Halt (List (κ × ρ) × σ)
  | [] => .ok ([], state)
  | call :: calls => do
    let (reply, state) ← perform state call
    let (trace, state) ← performAll perform state calls
    return ((call, reply) :: trace, state)

theorem Calls.of_performAll {state after : σ} {calls : List κ} {trace : List (κ × ρ)}
    (h : performAll perform state calls = .ok (trace, after)) :
    trace.map (·.1) = calls ∧ Calls perform state trace after := by
  induction calls generalizing state trace after with
  | nil =>
      cases h
      exact ⟨rfl, .nil⟩
  | cons call calls ih =>
      obtain ⟨⟨reply, mid⟩, hcall, h⟩ := bind_eq_ok.1 h
      obtain ⟨⟨rest, final⟩, hrest, h⟩ := bind_eq_ok.1 h
      cases h
      obtain ⟨rfl, hcalls⟩ := ih hrest
      exact ⟨rfl, .cons hcall hcalls⟩

/-- The calls before an event, the event and the calls behind it. -/
theorem Calls.split {state after : σ} {past later : List (κ × ρ)} {call : κ} {reply : ρ}
    (h : Calls perform state (past ++ (call, reply) :: later) after) :
    ∃ mid next, Calls perform state past mid ∧ perform mid call = .ok (reply, next) ∧
      Calls perform next later after := by
  induction past generalizing state with
  | nil =>
      cases h with
      | cons hcall hlater => exact ⟨state, _, .nil, hcall, hlater⟩
  | cons first past ih =>
      cases h with
      | cons hfirst hrest =>
          obtain ⟨mid, next, hpast, hcall, hlater⟩ := ih hrest
          exact ⟨mid, next, .cons hfirst hpast, hcall, hlater⟩

/-- What every event of a kind keeps, a trace of such events keeps, and what the invariant tells of
one event holds of all. -/
theorem Calls.invariant {Inv : σ → Prop} {Allowed Shown : κ × ρ → Prop}
    (hstep : ∀ {state after call reply}, Inv state → Allowed (call, reply) →
      perform state call = .ok (reply, after) → Inv after ∧ Shown (call, reply))
    {state after : σ} {trace : List (κ × ρ)} (h : Calls perform state trace after)
    (hallowed : ∀ event ∈ trace, Allowed event) (hinv : Inv state) :
    Inv after ∧ ∀ event ∈ trace, Shown event := by
  induction h with
  | nil => exact ⟨hinv, nofun⟩
  | cons hcall _ ih =>
      obtain ⟨hfirst, hrest⟩ := List.forall_mem_cons.1 hallowed
      obtain ⟨hmid, hshown⟩ := hstep hinv hfirst hcall
      obtain ⟨hafter, hall⟩ := ih hrest hmid
      exact ⟨hafter, List.forall_mem_cons.2 ⟨hshown, hall⟩⟩

/-- What every call keeps of the calls before it and the state that they led to, holds behind all of
them. -/
theorem Calls.history (Inv : List (κ × ρ) → σ → Prop)
    (hstep : ∀ {past state after call reply}, Inv past state →
      perform state call = .ok (reply, after) → Inv (past ++ [(call, reply)]) after)
    {past trace : List (κ × ρ)} {state after : σ} (h : Calls perform state trace after)
    (hinv : Inv past state) : Inv (past ++ trace) after := by
  induction h generalizing past with
  | nil => rwa [List.append_nil]
  | @cons _ _ _ call reply rest hcall _ ih =>
      have hnext : Inv (past ++ [(call, reply)] ++ rest) _ := ih (hstep hinv hcall)
      rwa [List.append_assoc] at hnext

end Traces

inductive AreaCall where
  | acquire
  | acquire?
  | release (slot : SwapSlot)
  | storePage (slot : SwapSlot) (data : List UInt8)
  | loadPage (slot : SwapSlot) (buffer : List UInt8)
deriving DecidableEq, Repr

inductive AreaReply where
  | acquired (slot? : Option SwapSlot)
  | released
  | stored (result : Except TransferError Unit)
  | loaded (result : Except TransferError Unit) (buffer : List UInt8)
deriving DecidableEq, Repr

namespace SwapArea

variable {δ : Type} [BlockDriver δ]

/-- A call, and what has become of the area then, also where the call halts. -/
def attempt (area : SwapArea δ) : AreaCall → Except Halt AreaReply × SwapArea δ
  | .acquire =>
    let (result, area) := area.attemptAcquire
    (result.map fun slot => .acquired (some slot), area)
  | .acquire? =>
    match area.acquire? with
    | none => (.ok (.acquired none), area)
    | some (slot, area) => (.ok (.acquired (some slot)), area)
  | .release slot =>
    let (result, area) := area.attemptRelease slot
    (result.map fun _ => .released, area)
  | .storePage slot data =>
    let (result, area) := area.attemptStorePage slot data
    (result.map .stored, area)
  | .loadPage slot buffer =>
    let (result, buffer, area) := area.attemptLoadPage slot buffer
    (result.map (.loaded · buffer), area)

def perform (area : SwapArea δ) (call : AreaCall) : Except Halt (AreaReply × SwapArea δ) :=
  settle (area.attempt call)

/-- One call of the area, read off its reply. -/
inductive Performed (area : SwapArea δ) : AreaCall → AreaReply → SwapArea δ → Prop where
  | acquired {call : AreaCall} {slot : SwapSlot} : call = .acquire ∨ call = .acquire? →
      area.IsLowestFree slot → Performed area call (.acquired (some slot))
        { area with taken := area.taken.insert slot.index }
  | full : area.acquire? = none → Performed area .acquire? (.acquired none) area
  | released {slot : SwapSlot} : area.isTaken slot = true →
      Performed area (.release slot) .released
        { area with taken := area.taken.erase slot.index }
  | stored {slot : SwapSlot} {data : List UInt8} {result : Except TransferError Unit}
      {disk : BlockDevice δ} :
      area.disk.writeRun slot.startSector slotSectors data = .ok (result, disk) →
      Performed area (.storePage slot data) (.stored result) (area.withDisk disk)
  | loaded {slot : SwapSlot} {buffer buffer' : List UInt8} {result : Except TransferError Unit}
      {disk : BlockDevice δ} :
      area.disk.readRun slot.startSector slotSectors buffer = .ok (result, buffer', disk) →
      Performed area (.loadPage slot buffer) (.loaded result buffer') (area.withDisk disk)

theorem perform_cases {area after : SwapArea δ} {call : AreaCall} {reply : AreaReply}
    (h : area.perform call = .ok (reply, after)) : Performed area call reply after := by
  have h : area.attempt call = (.ok reply, after) := settle_eq_ok.1 h
  cases call with
  | acquire =>
      simp only [attempt] at h
      rcases hacquire : area.attemptAcquire with ⟨_ | slot, taken⟩ <;>
        rw [hacquire] at h <;> cases h
      obtain ⟨hslot, rfl⟩ := acquire_eq_ok (settle_eq_ok.2 hacquire)
      exact .acquired (.inl rfl) hslot
  | acquire? =>
      simp only [attempt] at h
      split at h
      · rename_i hnone
        cases h
        exact .full hnone
      · rename_i slot taken hsome
        obtain ⟨hslot, rfl⟩ := acquire?_eq_some hsome
        cases h
        exact .acquired (.inr rfl) hslot
  | release slot =>
      simp only [attempt] at h
      rcases hrelease : area.attemptRelease slot with ⟨_ | _, released⟩ <;>
        rw [hrelease] at h <;> cases h
      obtain ⟨htaken, rfl⟩ := release_eq_ok (map_eq_ok.2 ⟨_, settle_eq_ok.2 hrelease, rfl⟩)
      exact .released htaken
  | storePage slot data =>
      simp only [attempt] at h
      rcases hstore : area.attemptStorePage slot data with ⟨_ | result, stored⟩ <;>
        rw [hstore] at h <;> cases h
      obtain ⟨disk, hrun, rfl⟩ := storePage_eq_ok (settle_eq_ok.2 hstore)
      exact .stored hrun
  | loadPage slot buffer =>
      simp only [attempt] at h
      rcases hload : area.attemptLoadPage slot buffer with ⟨_ | result, buffer', loaded⟩ <;>
        rw [hload] at h <;> cases h
      obtain ⟨disk, hrun, rfl⟩ := loadPage_eq_ok (settle_eq_ok.2 hload)
      exact .loaded hrun

end SwapArea

inductive PoolCall where
  | alloc (owner : UserPage)
  | free (number : FrameNumber)
  | pin (number : FrameNumber)
  | unpin (number : FrameNumber)
  | moveToBack (number : FrameNumber)
  | writeBytes (number : FrameNumber) (start : Nat) (data : List UInt8)
deriving DecidableEq, Repr

inductive PoolReply where
  | allocated (number? : Option FrameNumber)
  | done
deriving DecidableEq, Repr

/-- A call of the pool together with the algorithm that its frames are placed by. -/
def FramePool.perform {φ : Type} [Placement φ] (pool : FramePool) (placement : φ) :
    PoolCall → Except Halt (PoolReply × FramePool × φ)
  | .alloc owner => do
    let (number?, pool, placement) ← pool.alloc placement owner
    return (.allocated number?, pool, placement)
  | .free number => return (.done, ← pool.free number, placement)
  | .pin number => return (.done, ← pool.pin number, placement)
  | .unpin number => return (.done, ← pool.unpin number, placement)
  | .moveToBack number => return (.done, pool.moveToBack number, placement)
  | .writeBytes number start data => return (.done, ← pool.writeBytes number start data, placement)

inductive TableCall where
  | create (pid : Pid)
  | destroy (pid : Pid)
  | map (pid : Pid) (addr : Nat) (frame : FrameNumber) (writable : Bool)
  | unmap (pid : Pid) (addr : Nat)
  | setFlag (flag : EntryFlag) (pid : Pid) (addr : Nat) (on : Bool)
deriving DecidableEq, Repr

inductive TableReply where
  | created (fresh : Bool)
  /-- Nothing where there is no address space, and `false` where the page was mapped. -/
  | mapped (fresh? : Option Bool)
  | done
deriving DecidableEq, Repr

def AddressSpaces.perform (spaces : AddressSpaces) :
    TableCall → Except Halt (TableReply × AddressSpaces)
  | .create pid =>
    match spaces.create? pid with
    | none => return (.created false, spaces)
    | some spaces => return (.created true, spaces)
  | .destroy pid => return (.done, spaces.destroy pid)
  | .map pid addr frame writable => do
    match ← spaces.map pid addr frame writable with
    | .noSpace => return (.mapped none, spaces)
    | .alreadyPresent => return (.mapped (some false), spaces)
    | .done spaces => return (.mapped (some true), spaces)
  | .unmap pid addr => return (.done, spaces.unmap pid addr)
  | .setFlag flag pid addr on => return (.done, spaces.setFlag flag pid addr on)

/-- A store with the algorithm that the frames of its pool are placed by. -/
structure PlacedStore (φ : Type) extends PageStore FaultyDisk where
  placement : φ

inductive StoreCall where
  | area (call : AreaCall)
  | pool (call : PoolCall)
  | tables (call : TableCall)
  | pageOut (page : AnonPage)
  | pageIn (page : AnonPage) (number : FrameNumber)
  | destroy (page : AnonPage)
  /-- From now on these sectors of the disk fail. -/
  | refault (readFails writeFails : SectorNumber → Bool)

inductive StoreReply where
  | area (reply : AreaReply)
  | pool (reply : PoolReply)
  | tables (reply : TableReply)
  | movedOut (result : Except PagingError SwapSlot) (page : AnonPage)
  | movedIn (result : Except PagingError Unit) (page : AnonPage)
  | done

namespace PlacedStore

variable {φ : Type} [Placement φ]

def perform (store : PlacedStore φ) : StoreCall → Except Halt (StoreReply × PlacedStore φ)
  | .area call => do
    let (reply, swap) ← store.swap.perform call
    return (.area reply, { store with swap })
  | .pool call => do
    let (reply, pool, placement) ← store.pool.perform store.placement call
    return (.pool reply, { store with pool, placement })
  | .tables call => do
    let (reply, tables) ← store.tables.perform call
    return (.tables reply, { store with tables })
  | .pageOut page => do
    let (result, page, moved) ← page.pageOut store.toPageStore
    return (.movedOut result page, { store with toPageStore := moved })
  | .pageIn page number => do
    let (result, page, moved) ← page.pageIn store.toPageStore number
    return (.movedIn result page, { store with toPageStore := moved })
  | .destroy page => do
    let left ← page.destroy store.toPageStore
    return (.done, { store with toPageStore := left })
  | .refault readFails writeFails =>
    let driver := store.swap.disk.driver.withFaults readFails writeFails
    return (.done, { store with swap := store.swap.withDisk { store.swap.disk with driver } })

end PlacedStore

end DemandPaging
