import DemandPaging.Replacement.Basic

/-!
Replacement by a script: the choices are given beforehand, and each may first tamper with the
page tables. Also the sum of two policies.
-/
namespace DemandPaging

structure ScriptedMapping where
  pid : Pid
  addr : Nat
  frame : FrameNumber
deriving DecidableEq, Repr

/-- One call: an address space to destroy, a writable mapping to make where it can be made, and
the answer. -/
structure ScriptedChoice where
  destroy : Option Pid
  mapping : Option ScriptedMapping
  pick : Option FrameNumber
deriving DecidableEq, Repr

namespace ScriptedChoice

def tamper (choice : ScriptedChoice) (tables : AddressSpaces) : Except Halt AddressSpaces :=
  let tables := choice.destroy.elim tables tables.destroy
  match choice.mapping with
  | none => .ok tables
  | some mapping => do
    match ← tables.map mapping.pid mapping.addr mapping.frame true with
    | .done tables => return tables
    | _ => return tables

end ScriptedChoice

/-- The calls still to come; after the last one nothing is chosen. -/
structure ReplacementScript where
  choices : List ScriptedChoice
deriving DecidableEq, Repr

namespace ReplacementScript

def choose (script : ReplacementScript) (tables : AddressSpaces) :
    Except Halt (Choice ReplacementScript) :=
  match script.choices with
  | [] => .ok { victim := none, policy := script, tables }
  | choice :: choices => do
    let tables ← choice.tamper tables
    return { victim := choice.pick, policy := ⟨choices⟩, tables }

instance : Replacement ReplacementScript := ⟨fun script _ tables => script.choose tables⟩

end ReplacementScript

instance {π ρ : Type} [Replacement π] [Replacement ρ] : Replacement (π ⊕ ρ) where
  choose
    | .inl left, pool, tables => do
      let choice ← Replacement.choose left pool tables
      return { choice with policy := .inl choice.policy }
    | .inr right, pool, tables => do
      let choice ← Replacement.choose right pool tables
      return { choice with policy := .inr choice.policy }

end DemandPaging
