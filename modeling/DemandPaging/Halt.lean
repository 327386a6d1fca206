import DemandPaging.Transcript

/-!
Fatal causes. An operation that meets one stops the machine: nothing of its state is left to
observe, unlike an error, which is returned and leaves a state to go on from.
-/
namespace DemandPaging

inductive Halt where
  /-- A pool with more frames than a page table entry can name. -/
  | poolTooLarge (frames : Nat)
  | noSuchFrame (frame : Nat)
  /-- A placement algorithm chose a frame that is in use. -/
  | placedOnAllocated (frame : Nat)
  | freeingUnallocated (frame : Nat)
  | pinningUnallocated (frame : Nat)
  /-- A frame is freed while the pool counts none as allocated. -/
  | allocatedUnderflow
  | bytesOutsideFrame (start count : Nat)
  /-- A frame number that does not fit the field of a page table entry. -/
  | frameNumberTooWide (frame : Nat)
  | foreignWrite (device : String)
  /-- A transfer counter has no next value. -/
  | transferCountOverflow
  | registryTooLarge (capacity : Nat)
  /-- A page transfer with a buffer that is not one page. -/
  | notOnePage (length : Nat)
  | swapExhausted (slots : Nat)
  | releasingFreeSlot (slot : Nat)
  /-- A ticket lock has no next ticket. -/
  | ticketOverflow
  /-- The operation would wait for a page lock that nobody is going to release, or would try
  again for ever. -/
  | waitsForever
deriving DecidableEq, Repr

namespace Halt

/-- The text a cause is reported with, for those that have one. -/
def message? : Halt → Option String
  | poolTooLarge frames => some s!"{frames} frames do not fit in a page table entry"
  | freeingUnallocated frame => some s!"freeing unallocated frame {frame}"
  | foreignWrite device => some s!"{device}: cannot write to foreign block"
  | swapExhausted slots => some s!"swap space exhausted ({slots} slots in use)"
  | releasingFreeSlot slot => some s!"releasing free swap slot {slot}"
  | _ => none

/-- What is said on the way down. -/
def lastWords : Halt → Transcript
  | swapExhausted slots =>
    .errorLine s!"Swap: no free slot left among {slots} slots"
  | _ => .empty

end Halt

/-- What there is to go on with after an operation: nothing if it halted, whatever it had come to
by then. -/
def settle {α σ : Type} : Except Halt α × σ → Except Halt (α × σ)
  | (.ok result, state) => .ok (result, state)
  | (.error halt, _) => .error halt

theorem settle_eq_ok {α σ : Type} {attempt : Except Halt α × σ} {result : α} {state : σ} :
    settle attempt = .ok (result, state) ↔ attempt = (.ok result, state) := by
  obtain ⟨outcome, reached⟩ := attempt
  cases outcome <;> simp [settle]

end DemandPaging
