import Narrowing.Menagerie.Making
import Narrowing.Menagerie.Targets
import Narrowing.Target.Subscript

/-!
# Operators on the menagerie

Some objects that are no targets can be looked up in or joined by bars, and what comes of it
then stands in the place of a target.

* `Value.item`: what an object holds under a key (`__getitem__`);
* `Value.join?`: what two objects come to when they are joined (`__or__`);
* `operators`: the operators of the menagerie.
-/

namespace Narrowing.Menagerie

namespace Value

/-- The value under a key. The key is compared with those of the same fingerprint. -/
def valueUnder (key : Value) : List Value → List Value → Except Fault (Option Value)
  | k :: ks, v :: vs => do
      if ← isStoredAs key k then return some v else valueUnder key ks vs
  | _, _ => .ok Option.none

/-- A fault that names a key that is not there. -/
def missingKey {β : Type} (key : Target Value Species) : Except Fault β := do
  let shown ← key.display model
  throw ⟨.keyError, shown⟩

/-- **What an object holds under a key.** -/
def item (v : Value) (key : Target Value Species) : Except Fault (Target Value Species) := do
  match v with
  | atom (.text _ _ s) => do
      let c ← Target.lookUp model int? (fun other => s!"string indices must be integers, not '{other}'")
        "string index out of range" s.toList key
      return .object (ofString 0 (String.singleton c))
  | atom (.octets _ bs) => do
      let b ← Target.lookUp model int?
        (fun other => s!"byte indices must be integers or slices, not {other}") "index out of range"
        bs key
      return .object (ofInt 0 b.toNat)
  | dict _ keys values => do
      key.hashable model
      match ofTarget? key with
      | Option.none => missingKey key
      | some k =>
          match ← valueUnder k keys values with
          | some found => return found.asTarget
          | Option.none => missingKey key
  | ofSpecies .color => do
      key.hashable model
      match (ofTarget? key).bind text? with
      | some "RED" => return .object (atom (.color .red))
      | some "BLUE" => return .object (atom (.color .blue))
      | _ => missingKey key
  | ofSpecies .level => do
      key.hashable model
      match (ofTarget? key).bind text? with
      | some "LOW" => return .object (atom (.level .low))
      | some "HIGH" => return .object (atom (.level .high))
      | _ => missingKey key
  | _ => typeFault s!"'{v.species.title.name}' object is not subscriptable"

/-- The bits that are set in one integer or in another. A negative one has all high bits set. -/
def joinBits : Int → Int → Int
  | .ofNat m, .ofNat n => .ofNat (m ||| n)
  | .ofNat m, .negSucc n | .negSucc n, .ofNat m => .negSucc (n ^^^ (n &&& m))
  | .negSucc m, .negSucc n => .negSucc (m &&& n)

/-- **What two objects come to when they are joined by a bar**: truth values to a truth value,
integers to an integer, and dictionaries to one with the entries of both. -/
def join? (v w : Value) : Option (Except Fault Value) :=
  match v, w with
  | bool a, bool b => some (.ok (bool (a || b)))
  | dict i ks vs, dict _ ls ws => some do
      let kept ← (ls.zip ws).foldlM (fun kept (k, x) => insertEntry k x kept) (ks.zip vs)
      return dict i (kept.map Prod.fst) (kept.map Prod.snd)
  | v, w =>
      match v.int?, w.int? with
      | some m, some n => some (.ok (ofInt 0 (joinBits m n)))
      | _, _ => Option.none

end Value

/-- **The operators of the menagerie.** -/
def operators : Operators Value Species where
  arity := Species.arity
  item := Value.item
  place? := Value.int?
  join? := Value.join?
  comparesUnhashable := false
  plain := Value.plain

end Narrowing.Menagerie
