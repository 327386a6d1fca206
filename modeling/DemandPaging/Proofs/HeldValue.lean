import DemandPaging.Lock.Session

/-!
A lock in one user's hands is a value that he holds or does not hold. This is so of every lock that
keeps an invariant of its own, which is said of a lock that was taken a number of times and of the
guard that is out, if one is.
-/
namespace DemandPaging

/-- A value, and whether its user holds it. -/
structure HeldValue (α : Type) where
  value : α
  held : Bool
deriving DecidableEq, Repr

namespace HeldValue

variable {α : Type}

def free (value : α) : HeldValue α := ⟨value, false⟩

def description (text : α → String) (state : HeldValue α) : String :=
  if state.held then "Mutex \x7b <locked> \x7d"
  else "Mutex \x7b data: " ++ text state.value ++ " \x7d"

/-- The reply to an action, of a lock that can be shown or of one that cannot. -/
def answer (shows : Bool) (text : α → String) (state : HeldValue α) : LockAction α → LockReply α
  | .lock => if state.held then .wouldBlock else .value state.value
  | .tryLock => .flag !state.held
  | .unlock => .flag state.held
  | .get => if state.held then .value state.value else .nothing
  | .set _ => if state.held then .flag true else .notAllowed
  | .setUnlocked _ => if state.held then .notAllowed else .flag true
  | .takeValue => if state.held then .notAllowed else .value state.value
  | .isLocked => .flag state.held
  | .describe => if shows then .text (state.description text) else .notAllowed
  | .describeGuard => if state.held && shows then .text (text state.value) else .notAllowed

/-- What there is behind an action; nothing is left behind a value that was taken out. -/
def after? (state : HeldValue α) : LockAction α → Option (HeldValue α)
  | .lock | .tryLock => some { state with held := true }
  | .unlock => some { state with held := false }
  | .set value => some (if state.held then { state with value } else state)
  | .setUnlocked value => some (if state.held then state else { state with value })
  | .takeValue => if state.held then some state else none
  | .get | .isLocked | .describe | .describeGuard => some state

/-- How often an action takes the lock. To show a lock that is free takes it, too. -/
def takings (shows : Bool) (state : HeldValue α) : LockAction α → Nat
  | .lock | .tryLock => if state.held then 0 else 1
  | .describe => if shows && !state.held then 1 else 0
  | .unlock | .get | .set _ | .setUnlocked _ | .takeValue | .isLocked | .describeGuard => 0

/-- The replies to actions, up to the one that takes the value out. -/
def answers (shows : Bool) (text : α → String) (state : HeldValue α) :
    List (LockAction α) → List (LockReply α)
  | [] => []
  | action :: actions =>
    state.answer shows text action ::
      match state.after? action with
      | none => []
      | some after => after.answers shows text actions

def afterAll? (state : HeldValue α) : List (LockAction α) → Option (HeldValue α)
  | [] => some state
  | action :: actions =>
    match state.after? action with
    | none => none
    | some after => after.afterAll? actions

def acquisitions (shows : Bool) (state : HeldValue α) : List (LockAction α) → Nat
  | [] => 0
  | action :: actions =>
    state.takings shows action +
      match state.after? action with
      | none => 0
      | some after => after.acquisitions shows actions

theorem takings_le (shows : Bool) (state : HeldValue α) (action : LockAction α) :
    state.takings shows action ≤ state.takings true action := by
  cases action with
  | describe => cases shows <;> simp [takings]
  | lock | tryLock | unlock | get | set | setUnlocked | takeValue | isLocked | describeGuard =>
      exact Nat.le_refl _

/-- A lock that cannot be shown is not taken for that. -/
theorem acquisitions_le (shows : Bool) (state : HeldValue α) (actions : List (LockAction α)) :
    state.acquisitions shows actions ≤ state.acquisitions true actions := by
  induction actions generalizing state with
  | nil => exact Nat.le_refl _
  | cons action actions ih =>
      rw [acquisitions, acquisitions]
      apply Nat.add_le_add (state.takings_le shows action)
      cases state.after? action with
      | none => exact Nat.le_refl _
      | some after => exact ih after

end HeldValue

/-- What is true of a lock at all times, and what its operations come to where it is. -/
structure LockInvariant (L : Type → Type) (G : Type) [ExclusiveLock L G] where
  /-- Said of the number of times that the lock was taken, and of the guard that is out. -/
  Holds {α : Type} : Nat → L α → Option G → Prop
  new {α : Type} (value : α) : Holds 0 (ExclusiveLock.new value : L α) none
  value_new {α : Type} (value : α) : ExclusiveLock.value (ExclusiveLock.new value : L α) = value
  /-- A lock that is free is taken at once, either way. -/
  lock {α : Type} {taken : Nat} {lock : L α} : Holds taken lock none → taken < UInt64.size - 1 →
    ∃ guard after, ExclusiveLock.lock lock = some (guard, after) ∧
      ExclusiveLock.tryLock lock = .ok (some guard, after) ∧
      Holds (taken + 1) after (some guard) ∧ ExclusiveLock.value after = ExclusiveLock.value lock
  tryLock_held {α : Type} {taken : Nat} {lock : L α} {guard : G} : Holds taken lock (some guard) →
    taken < UInt64.size - 1 → ExclusiveLock.tryLock lock = .ok (none, lock)
  unlock {α : Type} {taken : Nat} {lock : L α} {guard : G} : Holds taken lock (some guard) →
    ∃ after, ExclusiveLock.unlock guard lock = .ok after ∧ Holds taken after none ∧
      ExclusiveLock.value after = ExclusiveLock.value lock
  isLocked {α : Type} {taken : Nat} {lock : L α} {guard? : Option G} : Holds taken lock guard? →
    ExclusiveLock.isLocked lock = guard?.isSome
  setValue {α : Type} {taken : Nat} {lock : L α} {guard? : Option G} (value : α) :
    Holds taken lock guard? → Holds taken (ExclusiveLock.setValue value lock) guard?
  value_setValue {α : Type} (value : α) (lock : L α) :
    ExclusiveLock.value (ExclusiveLock.setValue value lock) = value
  /-- To be shown, a lock that is free is taken and given back. -/
  describe {α : Type} {taken : Nat} {lock : L α} {display : LockDisplay L α} (text : α → String) :
    ExclusiveLock.describe? = some display → Holds taken lock none → taken < UInt64.size - 1 →
      ∃ after, display text lock =
          .ok (HeldValue.description text ⟨ExclusiveLock.value lock, false⟩, after) ∧
        Holds (taken + 1) after none ∧ ExclusiveLock.value after = ExclusiveLock.value lock
  describe_held {α : Type} {taken : Nat} {lock : L α} {guard : G} {display : LockDisplay L α}
    (text : α → String) : ExclusiveLock.describe? = some display →
      Holds taken lock (some guard) → taken < UInt64.size - 1 → display text lock =
        .ok (HeldValue.description text ⟨ExclusiveLock.value lock, true⟩, lock)

/-- Whether a lock can be shown. -/
def ExclusiveLock.shows (L : Type → Type) {G : Type} (α : Type) [ExclusiveLock L G] : Bool :=
  (ExclusiveLock.describe? : Option (LockDisplay L α)).isSome

namespace LockSession

variable {L : Type → Type} {G α : Type} [ExclusiveLock L G]

/-- What the user knows of his lock. -/
def seen (session : LockSession L G α) : HeldValue α := ⟨session.value, session.guard?.isSome⟩

theorem seen_mk {lock : L α} {value : α} (h : ExclusiveLock.value lock = value)
    (guard? : Option G) : (⟨lock, guard?⟩ : LockSession L G α).seen = ⟨value, guard?.isSome⟩ := by
  rw [← h]
  rfl

end LockSession

namespace LockInvariant

open ExclusiveLock (shows)

variable {L : Type → Type} {G α : Type} [ExclusiveLock L G] {taken : Nat}
  {session : LockSession L G α} {text : α → String}

/-- An action is answered as by a value with a flag, and leaves one behind. -/
structure Serves (I : LockInvariant L G) (taken : Nat) (text : α → String)
    (session : LockSession L G α) (action : LockAction α) (after? : Option (LockSession L G α)) :
    Prop where
  perform_eq : session.perform text action =
    .ok (session.seen.answer (shows L α) text action, after?)
  seen_eq : after?.map LockSession.seen = session.seen.after? action
  holds : ∀ after ∈ after?,
    I.Holds (taken + session.seen.takings (shows L α) action) after.lock after.guard?

theorem serves_some {I : LockInvariant L G} {action : LockAction α} {after : LockSession L G α}
    (hperform : session.perform text action =
      .ok (session.seen.answer (shows L α) text action, some after))
    (hseen : session.seen.after? action = some after.seen)
    (hafter : I.Holds (taken + session.seen.takings (shows L α) action) after.lock after.guard?) :
    I.Serves taken text session action (some after) where
  perform_eq := hperform
  seen_eq := hseen.symm
  holds := by
    rintro _ ⟨⟩
    exact hafter

/-- A lock that cannot be shown is not touched for it. -/
theorem serves_describe_none {I : LockInvariant L G}
    (h : I.Holds taken session.lock session.guard?)
    (hdisplay : (ExclusiveLock.describe? : Option (LockDisplay L α)) = none) :
    I.Serves taken text session .describe (some session) := by
  have hshows : shows L α = false := congrArg Option.isSome hdisplay
  apply serves_some
  · simp only [LockSession.perform, hdisplay, hshows]
    rfl
  · rfl
  · rw [hshows]
    exact h

/-- A lock that is free answers as a value that nobody holds. -/
theorem exists_serves_free (I : LockInvariant L G) (text : α → String) {lock : L α}
    (h : I.Holds taken lock none) (room : taken < UInt64.size - 1) (action : LockAction α) :
    ∃ after?, I.Serves taken text ⟨lock, none⟩ action after? := by
  cases action with
  | lock =>
      obtain ⟨guard, after, hlock, -, hafter, hvalue⟩ := I.lock h room
      refine ⟨some ⟨after, some guard⟩, serves_some ?_ ?_ hafter⟩
      · simp only [LockSession.perform, hlock, hvalue]
        rfl
      · exact congrArg some (LockSession.seen_mk hvalue (some guard)).symm
  | tryLock =>
      obtain ⟨guard, after, -, htryLock, hafter, hvalue⟩ := I.lock h room
      refine ⟨some ⟨after, some guard⟩, serves_some ?_ ?_ hafter⟩
      · simp only [LockSession.perform, htryLock]
        rfl
      · exact congrArg some (LockSession.seen_mk hvalue (some guard)).symm
  | setUnlocked value =>
      refine ⟨some ⟨ExclusiveLock.setValue value lock, none⟩,
        serves_some rfl ?_ (I.setValue value h)⟩
      exact congrArg some (LockSession.seen_mk (I.value_setValue value lock) none).symm
  | takeValue => exact ⟨none, rfl, rfl, nofun⟩
  | isLocked =>
      refine ⟨some ⟨lock, none⟩, serves_some ?_ rfl h⟩
      simp only [LockSession.perform, I.isLocked h]
      rfl
  | describe =>
      cases hdisplay : (ExclusiveLock.describe? : Option (LockDisplay L α)) with
      | none => exact ⟨_, serves_describe_none h hdisplay⟩
      | some display =>
          have hshows : shows L α = true := congrArg Option.isSome hdisplay
          obtain ⟨after, hshown, hafter, hvalue⟩ := I.describe text hdisplay h room
          refine ⟨some ⟨after, none⟩, serves_some ?_ ?_ ?_⟩
          · simp only [LockSession.perform, hdisplay, hshown, hshows]
            rfl
          · exact congrArg some (LockSession.seen_mk hvalue none).symm
          · rw [hshows]
            exact hafter
  | unlock | get | set | describeGuard => exact ⟨some ⟨lock, none⟩, serves_some rfl rfl h⟩

/-- A lock whose guard is out answers as a value that is held. -/
theorem exists_serves_held (I : LockInvariant L G) (text : α → String) {lock : L α} {guard : G}
    (h : I.Holds taken lock (some guard)) (room : taken < UInt64.size - 1)
    (action : LockAction α) : ∃ after?, I.Serves taken text ⟨lock, some guard⟩ action after? := by
  cases action with
  | tryLock =>
      refine ⟨some ⟨lock, some guard⟩, serves_some ?_ rfl h⟩
      simp only [LockSession.perform, I.tryLock_held h room]
      rfl
  | unlock =>
      obtain ⟨after, hunlock, hafter, hvalue⟩ := I.unlock h
      refine ⟨some ⟨after, none⟩, serves_some ?_ ?_ hafter⟩
      · simp only [LockSession.perform, hunlock]
        rfl
      · exact congrArg some (LockSession.seen_mk hvalue none).symm
  | set value =>
      refine ⟨some ⟨ExclusiveLock.setValue value lock, some guard⟩,
        serves_some rfl ?_ (I.setValue value h)⟩
      exact congrArg some (LockSession.seen_mk (I.value_setValue value lock) (some guard)).symm
  | isLocked =>
      refine ⟨some ⟨lock, some guard⟩, serves_some ?_ rfl h⟩
      simp only [LockSession.perform, I.isLocked h]
      rfl
  | describe =>
      cases hdisplay : (ExclusiveLock.describe? : Option (LockDisplay L α)) with
      | none => exact ⟨_, serves_describe_none h hdisplay⟩
      | some display =>
          have hshows : shows L α = true := congrArg Option.isSome hdisplay
          have hshown := I.describe_held text hdisplay h room
          refine ⟨some ⟨lock, some guard⟩, serves_some ?_ rfl ?_⟩
          · simp only [LockSession.perform, hdisplay, hshown, hshows]
            rfl
          · rw [hshows]
            exact h
  | describeGuard =>
      refine ⟨some ⟨lock, some guard⟩, serves_some ?_ rfl h⟩
      rw [shows]
      cases hdisplay : (ExclusiveLock.describe? : Option (LockDisplay L α)) with
      | none | some => simp only [LockSession.perform, hdisplay]; rfl
  | lock | get | setUnlocked | takeValue =>
      exact ⟨some ⟨lock, some guard⟩, serves_some rfl rfl h⟩

/-- What one action comes to, in either state of the lock. -/
theorem exists_serves (I : LockInvariant L G) (text : α → String)
    (h : I.Holds taken session.lock session.guard?) (room : taken < UInt64.size - 1)
    (action : LockAction α) : ∃ after?, I.Serves taken text session action after? := by
  obtain ⟨lock, _ | guard⟩ := session
  · exact I.exists_serves_free text h room action
  · exact I.exists_serves_held text h room action

/-- Actions one after the other are answered as by a value with a flag. -/
theorem exists_play (I : LockInvariant L G) (text : α → String) (actions : List (LockAction α))
    (h : I.Holds taken session.lock session.guard?)
    (room : taken + session.seen.acquisitions (shows L α) actions < UInt64.size - 1) :
    ∃ after? : Option (LockSession L G α), session.play text actions =
        (session.seen.answers (shows L α) text actions, .ok after?) ∧
      after?.map LockSession.seen = session.seen.afterAll? actions ∧
      ∀ after ∈ after?, I.Holds (taken + session.seen.acquisitions (shows L α) actions)
        after.lock after.guard? := by
  -- Each action moves the session on, and the number of takings with it.
  induction actions generalizing taken session with
  | nil =>
      refine ⟨some session, rfl, rfl, ?_⟩
      rintro _ ⟨⟩
      exact h
  | cons action actions ih =>
      obtain ⟨next?, hserves⟩ := I.exists_serves text h (by omega) action
      cases next? with
      | none =>
          have hnone : session.seen.after? action = none := hserves.seen_eq.symm
          simp only [LockSession.play, hserves.perform_eq, HeldValue.answers, HeldValue.afterAll?,
            hnone]
          exact ⟨none, rfl, rfl, nofun⟩
      | some next =>
          have hnext : session.seen.after? action = some next.seen := hserves.seen_eq.symm
          simp only [HeldValue.acquisitions, hnext, ← Nat.add_assoc] at room ⊢
          obtain ⟨after?, hplay, hafter, hholds⟩ := ih (hserves.holds next rfl) room
          refine ⟨after?, ?_, ?_, hholds⟩
          · simp only [LockSession.play, hserves.perform_eq, hplay, HeldValue.answers, hnext]
          · rw [HeldValue.afterAll?, hnext]
            exact hafter

end LockInvariant

end DemandPaging
