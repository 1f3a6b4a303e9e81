/-!
# Faults

An evaluation that does not return ends in a **fault**: a kind and a text. Kinds
form a small hierarchy, of which two facts matter:

* a broken classifier contract is a type fault (`FaultKind.isTypeError`);
* an exhausted iterator that escapes a lazily evaluated condition is reported as
  a runtime fault (`Fault.sealed`).
-/

namespace Narrowing

/-- The kind of a fault. `named` covers every kind without a rule of its own. -/
inductive FaultKind where
  | contract
  | contractWarning
  | typeError
  | valueError
  | attributeError
  | frozenField
  | keyError
  | runtimeError
  | zeroDivision
  | stopIteration
  | malformed
  | named (name : String)
deriving DecidableEq, Repr

namespace FaultKind

/-- The name under which a fault of this kind is reported. -/
def name : FaultKind → String
  | contract => "ClassifierContractError"
  | contractWarning => "RefinementContractWarning"
  | typeError => "TypeError"
  | valueError => "ValueError"
  | attributeError => "AttributeError"
  | frozenField => "FrozenInstanceError"
  | keyError => "KeyError"
  | runtimeError => "RuntimeError"
  | zeroDivision => "ZeroDivisionError"
  | stopIteration => "StopIteration"
  | malformed => "BadInput"
  | named n => n

/-- The kinds that have a constructor of their own. -/
def proper : List FaultKind :=
  [contract, contractWarning, typeError, valueError, attributeError, frozenField, keyError,
    runtimeError, zeroDivision, stopIteration]

/-- The kind reported under a name. -/
def ofName (n : String) : FaultKind :=
  (proper.find? fun k => k.name == n).getD (named n)

/-- **Type faults.** A broken contract is one of them. -/
def isTypeError : FaultKind → Bool
  | contract | typeError => true
  | _ => false

end FaultKind

/-- A fault: its kind, and the text that goes with it. -/
structure Fault where
  kind : FaultKind
  text : String
deriving DecidableEq, Repr

namespace Fault

/-- An exhausted iterator cannot leave a lazily evaluated condition as such: it
becomes a runtime fault with a fixed text. Every other fault passes unchanged. -/
def sealed (f : Fault) : Fault :=
  if f.kind = .stopIteration then ⟨.runtimeError, "generator raised StopIteration"⟩ else f

theorem sealed_of_ne {f : Fault} (h : f.kind ≠ .stopIteration) : f.sealed = f := by
  simp [sealed, h]

/-- A fault passes unchanged exactly when it is no exhausted iterator. -/
theorem sealed_eq_iff {f : Fault} : f.sealed = f ↔ f.kind ≠ .stopIteration := by
  refine ⟨fun h hf => ?_, sealed_of_ne⟩
  rw [sealed, if_pos hf] at h
  rw [← h] at hf
  cases hf

/-- Sealing twice is sealing once. -/
theorem sealed_sealed (f : Fault) : f.sealed.sealed = f.sealed := by
  unfold sealed
  by_cases h : f.kind = .stopIteration <;> simp [h]

end Fault

/-- A check run as part of a lazily evaluated condition (`Fault.sealed`). -/
def sealedCheck {β : Type} (x : Except Fault β) : Except Fault β := x.mapError Fault.sealed

/-- A type fault with this text. -/
def typeFault {β : Type} (text : String) : Except Fault β := .error ⟨.typeError, text⟩

/-- A missing attribute of an object, under the name of the object's species. -/
def missingAttribute {β : Type} (species field : String) : Except Fault β :=
  .error ⟨.attributeError, s!"'{species}' object has no attribute '{field}'"⟩

end Narrowing
