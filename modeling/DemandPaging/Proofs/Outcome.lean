import DemandPaging.Halt

/-!
Sequencing of operations that may halt. One that ends well had only parts that ended well, and one
that halts does so for a cause of one of its parts.
-/
namespace DemandPaging

variable {α β : Type}

theorem bind_eq_ok {first : Except Halt α} {next : α → Except Halt β} {result : β} :
    first >>= next = .ok result ↔ ∃ mid, first = .ok mid ∧ next mid = .ok result := by
  cases first with
  | error halt => simp [bind, Except.bind]
  | ok mid => simp [bind, Except.bind]

theorem map_eq_ok {first : Except Halt α} {f : α → β} {result : β} :
    first.map f = .ok result ↔ ∃ mid, first = .ok mid ∧ f mid = result := by
  cases first with
  | error halt => simp [Except.map]
  | ok mid => simp [Except.map]

theorem map_eq_error {first : Except Halt α} {f : α → β} {halt : Halt} :
    first.map f = .error halt ↔ first = .error halt := by
  cases first with
  | error halt => simp [Except.map]
  | ok mid => simp [Except.map]

/-- Operations that agree up to a map agree in sequence. -/
theorem bind_eq_map {α' β' : Type} {first : Except Halt α} {first' : Except Halt α'}
    {f : α → α'} {next : α → Except Halt β} {next' : α' → Except Halt β'} {g : β → β'}
    (hfirst : first' = first.map f)
    (hnext : ∀ mid, first = .ok mid → next' (f mid) = (next mid).map g) :
    first' >>= next' = (first >>= next).map g := by
  subst hfirst
  cases first with
  | error halt => rfl
  | ok mid => exact hnext mid rfl

/-- What follows the same operation on both sides agrees up to a map. -/
theorem bind_congr_map {β' : Type} {first : Except Halt α} {next : α → Except Halt β}
    {next' : α → Except Halt β'} {g : β → β'}
    (hnext : ∀ mid, first = .ok mid → next' mid = (next mid).map g) :
    first >>= next' = (first >>= next).map g := by
  cases first with
  | error halt => rfl
  | ok mid => exact hnext mid rfl

/-- An operation that halts does so for one of the allowed causes. -/
def HaltsOnly (allowed : Halt → Prop) (outcome : Except Halt α) : Prop :=
  ∀ halt, outcome = .error halt → allowed halt

namespace HaltsOnly

variable {allowed allowed' : Halt → Prop} {outcome : Except Halt α}

theorem ok (result : α) : HaltsOnly allowed (.ok result : Except Halt α) := nofun

theorem error {halt : Halt} (h : allowed halt) :
    HaltsOnly allowed (.error halt : Except Halt α) := by
  rintro _ ⟨⟩
  exact h

theorem mono (h : HaltsOnly allowed outcome) (hallowed : ∀ halt, allowed halt → allowed' halt) :
    HaltsOnly allowed' outcome :=
  fun halt hhalt => hallowed halt (h halt hhalt)

theorem bind {next : α → Except Halt β} (hfirst : HaltsOnly allowed outcome)
    (hnext : ∀ mid, outcome = .ok mid → HaltsOnly allowed (next mid)) :
    HaltsOnly allowed (outcome >>= next) := by
  cases outcome with
  | error halt => exact error (hfirst halt rfl)
  | ok mid => exact hnext mid rfl

/-- An operation that never halts. -/
theorem exists_ok (h : HaltsOnly (fun _ => False) outcome) : ∃ result, outcome = .ok result := by
  cases outcome with
  | error halt => exact (h halt rfl).elim
  | ok result => exact ⟨result, rfl⟩

end HaltsOnly

/-- Two operations that halt alike, or both end well with results in relation. -/
inductive Together (R : α → β → Prop) : Except Halt α → Except Halt β → Prop where
  | halted (halt : Halt) : Together R (.error halt) (.error halt)
  | ended {first : α} {second : β} : R first second → Together R (.ok first) (.ok second)

theorem Together.bind {α' β' : Type} {R : α → β → Prop} {S : α' → β' → Prop}
    {first : Except Halt α} {second : Except Halt β} {next : α → Except Halt α'}
    {next' : β → Except Halt β'} (h : Together R first second)
    (hnext : ∀ {mid mid'}, first = .ok mid → second = .ok mid' → R mid mid' →
      Together S (next mid) (next' mid')) : Together S (first >>= next) (second >>= next') := by
  cases h with
  | halted halt => exact .halted halt
  | ended hrelated => exact hnext rfl rfl hrelated

theorem Together.mono {R S : α → β → Prop} {first : Except Halt α}
    {second : Except Halt β} (h : Together R first second)
    (hmono : ∀ {a b}, first = .ok a → second = .ok b → R a b → S a b) :
    Together S first second := by
  cases h with
  | halted halt => exact .halted halt
  | ended hrelated => exact .ended (hmono rfl rfl hrelated)

end DemandPaging
