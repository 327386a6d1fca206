import DemandPaging.Lock.Mutex
import DemandPaging.Proofs.HeldValue

/-!
The locks agree: each of them is a value with a flag to its one user. A ticket lock has given out
as many tickets as it was taken times, all of which were served but the one that is out, so an
attempt that fails leaves nothing behind.
-/
namespace DemandPaging

namespace SpinLock

theorem isSome_lock {α : Type} {spin : SpinLock α} {guard? : Option SpinGuard}
    (h : spin.held = guard?.isSome) (failures : Nat) :
    (spin.lock failures).isSome = guard?.isNone := by
  rw [lock_eq, h]
  cases guard? <;> rfl

/-- The flag tells whether the guard is out. -/
def invariant : LockInvariant SpinLock SpinGuard where
  Holds _ spin guard? := spin.held = guard?.isSome
  new _ := rfl
  value_new _ := rfl
  lock {_ _ spin} h _ := by
    have hfree : ¬ spin.held = true := by simp [h]
    refine ⟨⟨⟩, { spin with held := true }, ?_, congrArg Except.ok (if_neg hfree), rfl, rfl⟩
    exact (lock_eq 0 spin).trans (if_neg hfree)
  tryLock_held h _ := congrArg Except.ok (if_pos h)
  unlock {_ _ spin _} _ := ⟨{ spin with held := false }, rfl, rfl, rfl⟩
  isLocked h := h
  setValue _ h := h
  value_setValue _ _ := rfl
  describe _ hdisplay := nomatch hdisplay
  describe_held _ hdisplay := nomatch hdisplay

end SpinLock

namespace TicketLock

variable {α : Type} {taken : Nat} {tickets : TicketLock α} {guard? : Option TicketGuard}

/-- The numbers of a ticket lock that was taken `taken` times. -/
structure InTurn (taken : Nat) (tickets : TicketLock α) (guard? : Option TicketGuard) : Prop where
  given : tickets.nextTicket.toNat = taken
  free : guard? = none → tickets.nextTicket = tickets.nowServing
  held : ∀ guard ∈ guard?, guard.ticket = tickets.nowServing ∧
    tickets.nextTicket.toNat = tickets.nowServing.toNat + 1

theorem successor_of_lt {ticket : UInt64} (h : ticket.toNat + 1 < UInt64.size) :
    successor ticket = .ok (ticket + 1) ∧ (ticket + 1).toNat = ticket.toNat + 1 := by
  refine ⟨if_pos h, ?_⟩
  rw [UInt64.toNat_add]
  exact Nat.mod_eq_of_lt h

theorem InTurn.successor_nextTicket (h : tickets.InTurn taken guard?)
    (room : taken < UInt64.size - 1) :
    successor tickets.nextTicket = .ok (tickets.nextTicket + 1) ∧
      (tickets.nextTicket + 1).toNat = taken + 1 := by
  rw [← h.given] at room ⊢
  exact successor_of_lt (by omega)

theorem InTurn.nowServing_ne {guard : TicketGuard} (h : tickets.InTurn taken (some guard)) :
    tickets.nowServing ≠ tickets.nextTicket := by
  obtain ⟨-, hnext⟩ := h.held guard rfl
  intro heq
  rw [heq] at hnext
  omega

/-- A lock that is free serves the ticket that it gives out next. -/
theorem InTurn.exists_taken (h : tickets.InTurn taken none) (room : taken < UInt64.size - 1) :
    ∃ guard after, tickets.lock = some (guard, after) ∧
      tickets.tryLock = .ok (some guard, after) ∧ after.InTurn (taken + 1) (some guard) ∧
      after.value = tickets.value := by
  obtain ⟨hsuccessor, htoNat⟩ := h.successor_nextTicket room
  have hserving : tickets.nowServing = tickets.nextTicket := (h.free rfl).symm
  refine ⟨⟨tickets.nextTicket⟩, { tickets with nextTicket := tickets.nextTicket + 1 },
    if_pos hserving, ?_, ⟨htoNat, nofun, ?_⟩, rfl⟩
  · simp only [tryLock, hsuccessor, hserving]
    rfl
  · rintro _ ⟨⟩
    exact ⟨hserving.symm, by rw [htoNat, hserving, h.given]⟩

/-- An attempt that fails takes no ticket. -/
theorem InTurn.tryLock_held {guard : TicketGuard} (h : tickets.InTurn taken (some guard))
    (room : taken < UInt64.size - 1) : tickets.tryLock = .ok (none, tickets) := by
  obtain ⟨hsuccessor, -⟩ := h.successor_nextTicket room
  simp only [tryLock, hsuccessor]
  exact if_neg h.nowServing_ne

theorem InTurn.exists_unlock {guard : TicketGuard} (h : tickets.InTurn taken (some guard)) :
    ∃ after, tickets.unlock guard = .ok after ∧ after.InTurn taken none ∧
      after.value = tickets.value := by
  obtain ⟨hticket, hnext⟩ := h.held guard rfl
  have hroom : guard.ticket.toNat + 1 < UInt64.size := by
    rw [hticket, ← hnext]
    exact tickets.nextTicket.toNat_lt_size
  obtain ⟨hsuccessor, htoNat⟩ := successor_of_lt hroom
  refine ⟨{ tickets with nowServing := guard.ticket + 1 }, ?_, ⟨h.given, fun _ => ?_, nofun⟩, rfl⟩
  · simp only [unlock, hsuccessor]
    rfl
  · apply UInt64.toNat_inj.1
    rw [htoNat, hnext, hticket]

theorem InTurn.isLocked_eq (h : tickets.InTurn taken guard?) :
    tickets.isLocked = guard?.isSome := by
  cases guard? with
  | none => simp [isLocked, h.free rfl]
  | some guard => simp [isLocked, h.nowServing_ne]

def invariant : LockInvariant TicketLock TicketGuard where
  Holds := InTurn
  new _ := ⟨rfl, fun _ => rfl, nofun⟩
  value_new _ := rfl
  lock h := h.exists_taken
  tryLock_held h := h.tryLock_held
  unlock h := h.exists_unlock
  isLocked h := h.isLocked_eq
  setValue _ h := ⟨h.given, h.free, h.held⟩
  value_setValue _ _ := rfl
  describe _ hdisplay := nomatch hdisplay
  describe_held _ hdisplay := nomatch hdisplay

end TicketLock

namespace ShownLock

variable {L : Type → Type} {G : Type} [ExclusiveLock L G]

/-- A lock that is shown keeps the invariant of the lock inside. -/
def invariant (I : LockInvariant L G) : LockInvariant (ShownLock L) G where
  Holds taken shown guard? := I.Holds taken shown.inner guard?
  new value := I.new value
  value_new value := I.value_new value
  lock h room := by
    obtain ⟨guard, after, hlock, htryLock, hafter, hvalue⟩ := I.lock h room
    refine ⟨guard, ⟨after⟩, ?_, ?_, hafter, hvalue⟩
    · simp only [ExclusiveLock.lock, hlock, Option.map_some]
    · simp only [ExclusiveLock.tryLock, htryLock]
      rfl
  tryLock_held h room := by
    simp only [ExclusiveLock.tryLock, I.tryLock_held h room]
    rfl
  unlock h := by
    obtain ⟨after, hunlock, hafter, hvalue⟩ := I.unlock h
    refine ⟨⟨after⟩, ?_, hafter, hvalue⟩
    simp only [ExclusiveLock.unlock, hunlock]
    rfl
  isLocked h := I.isLocked h
  setValue value h := I.setValue value h
  value_setValue value shown := I.value_setValue value shown.inner
  describe text hdisplay h room := by
    cases hdisplay
    -- The guard is out only while the text is made.
    obtain ⟨guard, held, -, htryLock, hheld, hvalue⟩ := I.lock h room
    obtain ⟨after, hunlock, hafter, hsame⟩ := I.unlock hheld
    refine ⟨⟨after⟩, ?_, hafter, hsame.trans hvalue⟩
    simp only [describe, htryLock, bind, Except.bind, hunlock, hvalue]
    rfl
  describe_held text hdisplay h room := by
    cases hdisplay
    simp only [describe, I.tryLock_held h room]
    rfl

end ShownLock

/-- What a lock does in either state: it is taken at once, or an attempt leaves it as it was. -/
structure LockSession.FreeOrHeld {L : Type → Type} {G α : Type} [ExclusiveLock L G]
    (session : LockSession L G α) : Prop where
  isLocked : ExclusiveLock.isLocked session.lock = session.guard?.isSome
  free : session.guard? = none → ∃ guard after,
    ExclusiveLock.lock session.lock = some (guard, after) ∧
      ExclusiveLock.tryLock session.lock = .ok (some guard, after)
  held : session.guard?.isSome = true →
    ExclusiveLock.tryLock session.lock = .ok (none, session.lock)
  describe_held : ∀ {display : LockDisplay L α} (text : α → String),
    ExclusiveLock.describe? = some display → session.guard?.isSome = true →
      display text session.lock = .ok ("Mutex \x7b <locked> \x7d", session.lock)

/-- A new lock under `actions`, beside a value with a flag: the replies are the same, no action
halts, and in the end the user sees the same. `Stands` is true of the lock then, and of the guard
that is out. -/
structure ActsAsHeldValue (L : Type → Type) {G α : Type} [ExclusiveLock L G] (shows : Bool)
    (text : α → String) (initial : α) (actions : List (LockAction α))
    (Stands : L α → Option G → Prop) : Prop where
  replies : (LockSession.new initial : LockSession L G α).run text actions =
    (HeldValue.free initial).answers shows text actions
  ends : ((LockSession.new initial : LockSession L G α).play text actions).2.map
    (·.map LockSession.seen) = .ok ((HeldValue.free initial).afterAll? actions)
  stands : ∀ {session : LockSession L G α},
    ((LockSession.new initial : LockSession L G α).play text actions).2 = .ok (some session) →
      session.FreeOrHeld ∧ Stands session.lock session.guard?

namespace LockInvariant

open ExclusiveLock (shows)

variable {L : Type → Type} {G α : Type} [ExclusiveLock L G] {taken : Nat}

theorem seen_new (I : LockInvariant L G) (initial : α) :
    (LockSession.new initial : LockSession L G α).seen = .free initial :=
  LockSession.seen_mk (I.value_new initial) none

theorem holds_new (I : LockInvariant L G) (initial : α) :
    I.Holds 0 (LockSession.new initial : LockSession L G α).lock
      (LockSession.new initial : LockSession L G α).guard? :=
  I.new initial

theorem freeOrHeld (I : LockInvariant L G) {session : LockSession L G α}
    (h : I.Holds taken session.lock session.guard?) (room : taken < UInt64.size - 1) :
    session.FreeOrHeld := by
  obtain ⟨lock, _ | guard⟩ := session
  · obtain ⟨guard, after, hlock, htryLock, -⟩ := I.lock h room
    exact ⟨I.isLocked h, fun _ => ⟨guard, after, hlock, htryLock⟩, nofun, nofun⟩
  · exact ⟨I.isLocked h, nofun, fun _ => I.tryLock_held h room,
      fun text hdisplay _ => I.describe_held text hdisplay h room⟩

theorem actsAsHeldValue (I : LockInvariant L G) (text : α → String) (initial : α)
    (actions : List (LockAction α))
    (room : (HeldValue.free initial).acquisitions (shows L α) actions < UInt64.size - 1) :
    ActsAsHeldValue L (shows L α) text initial actions
      (I.Holds ((HeldValue.free initial).acquisitions (shows L α) actions)) := by
  obtain ⟨after?, hplay, hafter, hholds⟩ :=
    I.exists_play text actions (I.holds_new initial) (by rwa [I.seen_new, Nat.zero_add])
  rw [I.seen_new] at hplay hafter hholds
  rw [Nat.zero_add] at hholds
  refine ⟨congrArg Prod.fst hplay, ?_, fun {session} hsession => ?_⟩
  · rw [hplay]
    exact congrArg Except.ok hafter
  · rw [hplay] at hsession
    cases hsession
    exact ⟨I.freeOrHeld (hholds _ rfl) room, hholds _ rfl⟩

end LockInvariant

theorem ActsAsHeldValue.mono {L : Type → Type} {G α : Type} [ExclusiveLock L G] {shows : Bool}
    {text : α → String} {initial : α} {actions : List (LockAction α)}
    {Stands Stands' : L α → Option G → Prop}
    (h : ActsAsHeldValue L shows text initial actions Stands)
    (hstands : ∀ lock guard?, Stands lock guard? → Stands' lock guard?) :
    ActsAsHeldValue L shows text initial actions Stands' :=
  { h with stands := fun hsession => (h.stands hsession).imp_right (hstands _ _) }

/-- The locks of either kind, and the mutex over each of them. Only the mutex can be shown. -/
structure LocksAgree {α : Type} (text : α → String) (initial : α)
    (actions : List (LockAction α)) : Prop where
  mutex : ActsAsHeldValue Mutex true text initial actions fun mutex guard? =>
    mutex.inner.InTurn ((HeldValue.free initial).acquisitions true actions) guard?
  ticketLock : ActsAsHeldValue TicketLock false text initial actions fun tickets guard? =>
    tickets.InTurn ((HeldValue.free initial).acquisitions false actions) guard?
  /-- The failures of an exchange do not make anybody wait. -/
  spinLock : ActsAsHeldValue SpinLock false text initial actions fun spin guard? =>
    ∀ failures, (spin.lock failures).isSome = guard?.isNone
  spinningMutex : ActsAsHeldValue SpinningMutex true text initial actions fun mutex guard? =>
    ∀ failures, (mutex.inner.lock failures).isSome = guard?.isNone

/-- In one user's hands the locks cannot be told from a value with a flag, as long as there are
tickets. -/
theorem locks_agree {α : Type} (text : α → String) (initial : α) (actions : List (LockAction α))
    (room : (HeldValue.free initial).acquisitions true actions < UInt64.size - 1) :
    LocksAgree text initial actions := by
  have hroom : (HeldValue.free initial).acquisitions false actions < UInt64.size - 1 :=
    Nat.lt_of_le_of_lt ((HeldValue.free initial).acquisitions_le false actions) room
  exact {
    mutex := (ShownLock.invariant TicketLock.invariant).actsAsHeldValue text initial actions room
    ticketLock := TicketLock.invariant.actsAsHeldValue text initial actions hroom
    spinLock := (SpinLock.invariant.actsAsHeldValue text initial actions hroom).mono
      fun _ _ hheld failures => SpinLock.isSome_lock hheld failures
    spinningMutex :=
      ((ShownLock.invariant SpinLock.invariant).actsAsHeldValue text initial actions room).mono
        fun _ _ hheld failures => SpinLock.isSome_lock hheld failures }

/-- Attempts that fail, and a lock that is shown while it is held and while it is free. -/
def contention : List (LockAction Int) :=
  [.tryLock, .tryLock, .describe, .set 5, .isLocked, .unlock, .describe, .setUnlocked 9, .lock,
    .get, .tryLock, .describeGuard, .unlock, .unlock]

theorem locks_agree_contention :
    (HeldValue.free 7).acquisitions true contention = 3 ∧
      (HeldValue.free 7).afterAll? contention = some (.free 9) ∧
      LocksAgree toString 7 contention :=
  ⟨by decide, by decide, locks_agree toString 7 contention (by decide)⟩

namespace LockSession

variable {L : Type → Type} {G α : Type} [ExclusiveLock L G] {session after : LockSession L G α}
  {text : α → String} {actions : List (LockAction α)} {replies : List (LockReply α)}

theorem play_append (h : session.play text actions = (replies, .ok (some after)))
    (more : List (LockAction α)) : session.play text (actions ++ more) =
      (replies ++ (after.play text more).1, (after.play text more).2) := by
  induction actions generalizing session replies with
  | nil =>
      cases h
      rfl
  | cons action actions ih =>
      simp only [play, List.cons_append] at h ⊢
      split at h
      · cases h
      · cases h
      · rename_i reply next hperform
        obtain ⟨hreplies, hrest⟩ := Prod.mk.inj h
        simp only [ih (Prod.ext rfl hrest), ← hreplies, List.cons_append]

end LockSession

/-- Takes the lock and gives it back, so many times. -/
def LockAction.rounds {α : Type} : Nat → List (LockAction α)
  | 0 => []
  | count + 1 => .lock :: .unlock :: rounds count

open LockAction (rounds)

namespace HeldValue

variable {α : Type}

theorem acquisitions_rounds_append (shows : Bool) (value : α) (count : Nat)
    (more : List (LockAction α)) : (free value).acquisitions shows (rounds count ++ more) =
      count + (free value).acquisitions shows more := by
  induction count with
  | zero => exact (Nat.zero_add _).symm
  | succ count ih =>
      have hround : (free value).acquisitions shows (rounds (count + 1) ++ more) =
          1 + (0 + (free value).acquisitions shows (rounds count ++ more)) := rfl
      rw [hround, ih]
      omega

theorem acquisitions_rounds (shows : Bool) (value : α) (count : Nat) :
    (free value).acquisitions shows (rounds count) = count := by
  have hrounds := acquisitions_rounds_append shows value count []
  rw [List.append_nil] at hrounds
  exact hrounds

theorem afterAll?_rounds (value : α) (count : Nat) :
    (free value).afterAll? (rounds count) = some (free value) := by
  induction count with
  | zero => rfl
  | succ count ih => exact ih

end HeldValue

theorem LockInvariant.exists_play_rounds {L : Type → Type} {G α : Type} [ExclusiveLock L G]
    (I : LockInvariant L G) (text : α → String) (initial : α) (count : Nat)
    (room : count < UInt64.size - 1) :
    ∃ replies lock, (LockSession.new initial : LockSession L G α).play text (rounds count) =
        (replies, .ok (some ⟨lock, none⟩)) ∧ I.Holds count lock none := by
  obtain ⟨after?, hplay, hafter, hholds⟩ := I.exists_play text (rounds count)
    (I.holds_new initial) (by rwa [I.seen_new, HeldValue.acquisitions_rounds, Nat.zero_add])
  rw [I.seen_new, HeldValue.afterAll?_rounds] at hafter
  rw [I.seen_new, HeldValue.acquisitions_rounds, Nat.zero_add] at hholds
  obtain ⟨⟨lock, _ | guard⟩, rfl, hfree⟩ := Option.map_eq_some_iff.1 hafter
  · exact ⟨_, lock, hplay, hholds _ rfl⟩
  · cases congrArg HeldValue.held hfree

namespace TicketLock

variable {α : Type} {tickets : TicketLock α} {guard? : Option TicketGuard}

theorem InTurn.tryLock_soldOut (h : tickets.InTurn (UInt64.size - 1) guard?) :
    tickets.tryLock = .error .ticketOverflow := by
  have hsoldOut : ¬ tickets.nextTicket.toNat + 1 < UInt64.size := by
    rw [h.given]
    decide
  simp only [tryLock, successor, if_neg hsoldOut]
  rfl

/-- The tickets last for no more acquisitions: with the last one out, the next attempt halts. -/
theorem exists_play_soldOut (text : α → String) (initial : α) :
    ∃ actions : List (LockAction α),
      (HeldValue.free initial).acquisitions false actions = UInt64.size - 1 ∧
      ((LockSession.new initial : LockSession TicketLock TicketGuard α).play text actions).2 =
        .error .ticketOverflow := by
  obtain ⟨replies, tickets, hplay, hfree⟩ :=
    invariant.exists_play_rounds text initial (UInt64.size - 2) (by decide)
  refine ⟨rounds (UInt64.size - 2) ++ [.lock, .tryLock], ?_, ?_⟩
  · rw [HeldValue.acquisitions_rounds_append]
    rfl
  · -- The rounds leave one ticket, and the attempt needs a number behind the one it would get.
    obtain ⟨guard, after, hlock, -, hheld, -⟩ := InTurn.exists_taken hfree (by decide)
    have hlast : LockSession.perform text ⟨tickets, none⟩ .lock =
        .ok (.value after.value, some ⟨after, some guard⟩) := by
      simp only [LockSession.perform, ExclusiveLock.lock, hlock]
      rfl
    have hsoldOut : LockSession.perform text ⟨after, some guard⟩ .tryLock =
        .error .ticketOverflow := by
      simp only [LockSession.perform, ExclusiveLock.tryLock, hheld.tryLock_soldOut]
      rfl
    simp only [LockSession.play_append hplay, LockSession.play, hlast, hsoldOut]

end TicketLock

end DemandPaging
