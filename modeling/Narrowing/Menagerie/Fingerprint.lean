import Narrowing.Menagerie.Display
import Narrowing.Outcome

/-!
# Fingerprints of objects

What objects answer to `hash`. Numbers that are equal have equal fingerprints, whatever their form; so have texts and
octets that are stored alike. A tuple is fingerprinted by its members, a hit like the
tuple of its payload, and all misses share one fingerprint. A container that can
change, and a point, have none (`__hash__` is `None`).
-/

namespace Narrowing.Menagerie

/-- A text as it is stored: as few octets for each character as the widest one needs. -/
def storedText (s : String) : List Nat :=
  let codes := s.toList.map Char.toNat
  if codes.all (· < 0x100) then codes
  else if codes.all (· < 0x10000) then codes.flatMap fun n => [n % 256, n / 256]
  else codes.flatMap fun n => [n % 256, n / 256 % 256, n / 65536 % 256, n / 16777216]

/-- The refusal of an object without a fingerprint. -/
def unhashable {β : Type} (s : Species) : Except Fault β :=
  typeFault s!"unhashable type: '{s.title.name}'"

/-- The fingerprint that comes with an identity. -/
def Identity.fingerprint : Identity → Fingerprint
  | shared => .ofName ""
  | token n => .ofToken n

namespace Atom

/-- The fingerprint of an object without parts. -/
def fingerprint : Atom → Fingerprint
  | none => .ofName "None"
  | bool b => .ofNumber (if b then 1 else 0)
  | int _ _ n => .ofNumber (Binary.ofInt n).residue
  | float i x => if x.number = .notANumber then i.fingerprint else .ofNumber x.number.residue
  | text _ _ s => .ofOctets (storedText s)
  | octets _ bs => .ofOctets (bs.map UInt8.toNat)
  | color c => .ofOctets (storedText c.name)
  | level l => .ofNumber l.number
  | species s => .ofName s.display
  | miss _ _ => .ofName (Species.display .miss)
  | liar i _ => i.fingerprint

end Atom

namespace Value

mutual

/-- **The fingerprint of an object.** -/
def fingerprint : Value → Except Fault Fingerprint
  | atom a => .ok a.fingerprint
  | sequence _ .list _ => unhashable .list
  | sequence _ _ items => do return .ofList (← fingerprintEach items)
  | dict .. => unhashable .dict
  | creature i s _ => if s = .point then unhashable .point else .ok i.fingerprint
  | hit _ _ payload => Outcome.printOfHit (fingerprint payload)
  | settings _ debug strict => do return .ofList [← fingerprint debug, ← fingerprint strict]

/-- The fingerprints of members, up to the first that has none. -/
def fingerprintEach : List Value → Except Fault (List Fingerprint)
  | [] => .ok []
  | v :: vs => do return (← fingerprint v) :: (← fingerprintEach vs)

end

end Value

end Narrowing.Menagerie
