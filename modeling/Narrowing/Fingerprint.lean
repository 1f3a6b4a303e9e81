/-!
# Fingerprints

Equal objects that may stand in a set have equal fingerprints. A fingerprint is a
code: a tag that says what is fingerprinted, followed by the data, so that
fingerprints of different shapes never collide, save for the empty text, which shares
the fingerprint of zero. It is what `hash` tells of an object.
-/

namespace Narrowing

/-- The fingerprint of an object. -/
structure Fingerprint where
  code : List Int
deriving DecidableEq, Repr

namespace Fingerprint

/-- The fingerprint of a number: `-1` is reserved, and `-2` stands in for it. -/
def ofNumber (n : Int) : Fingerprint := ⟨[0, if n = -1 then -2 else n]⟩

/-- The fingerprint of a text or of raw octets: that of the stored octets. -/
def ofOctets : List Nat → Fingerprint
  | [] => ofNumber 0
  | bs => ⟨1 :: (bs.length : Int) :: bs.map Int.ofNat⟩

/-- The fingerprint of an object that is only equal to itself. -/
def ofToken (n : Nat) : Fingerprint := ⟨[2, n]⟩

/-- The fingerprint of a sequence: the fingerprints of its members, in order. -/
def ofList (fs : List Fingerprint) : Fingerprint :=
  ⟨3 :: (fs.length : Int) :: fs.flatMap fun f => (f.code.length : Int) :: f.code⟩

/-- The fingerprint of a thing that exists once, under its name. -/
def ofName (s : String) : Fingerprint := ⟨4 :: s.toList.map fun c => (c.toNat : Int)⟩

end Fingerprint

end Narrowing
