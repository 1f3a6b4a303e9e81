import Narrowing.Proofs.Sameness

/-!
# Lawful equality

A literal drops an option that an earlier one of its species is equal to. Nobody notices where equality
among the objects of the species is symmetric and transitive, and the species itself is equal to no other
one: such a species is **lawful**. So are those of the values that literals are meant for. The empty
value, truth values, integers, texts and octets are compared by their value, and the members of an
enumeration by what they are, or by the value that is mixed in.

* `ObjectModel.LawfulSpecies`: what `==` is assumed to do among the objects of a species.
* `Target.Matches`: a candidate is an option, by its own account and of the very same species.
* `Target.Matches.congr`: of two options that a literal takes for one, a candidate is both or neither.
* `Target.LawfulEquality`: what is assumed of `==` among the parts of a target.
-/

namespace Narrowing

variable {α κ : Type} [DecidableEq α] [DecidableEq κ] {M : ObjectModel α κ}

namespace ObjectModel

/-- An object says, on being asked, that it is equal to another one. -/
def Equals (M : ObjectModel α κ) (a b : α) : Prop := (M.equal a b >>= M.truth) = .ok true

/-- **A lawful species**: equality among its objects is symmetric and transitive, as is asked of every
`==`, and the species is equal to itself alone, as it is unless it belongs to a species with an `==` of its
own. Reflexivity is not asked for, since a literal looks at identity first. -/
structure LawfulSpecies (M : ObjectModel α κ) (k : κ) : Prop where
  alone : ∀ d, Target.sameSpecies M k d = true ∨ Target.sameSpecies M d k = true → d = k
  symm : ∀ a b, M.speciesOf a = k → M.speciesOf b = k → M.Equals a b → M.Equals b a
  trans : ∀ a b c, M.speciesOf a = k → M.speciesOf b = k → M.speciesOf c = k →
    M.Equals a b → M.Equals b c → M.Equals a c

end ObjectModel

namespace Target

/-- Whether a candidate is one of the values of a literal: of the same species, and equal to it by its
own account. -/
def Matches (M : ObjectModel α κ) (c v : α) : Prop :=
  M.speciesOf v = M.speciesOf c ∧ (M.equal c v >>= M.truth) = .ok true

/-- Options that a literal takes for one are of one species, and the same object or equal. -/
theorem sameOption_cases {o p : α} (hlaw : M.LawfulSpecies (M.speciesOf o))
    (h : sameOption M o p = true) : M.speciesOf p = M.speciesOf o ∧ (o = p ∨ M.Equals o p) := by
  rw [sameOption, Bool.and_eq_true, Bool.or_eq_true, decide_eq_true_eq] at h
  refine ⟨hlaw.alone _ (.inl h.1), ?_⟩
  by_cases heq : o = p
  · exact .inl heq
  · have halike := ObjectModel.alike_of_interchangeable (h.2.resolve_left heq)
    rw [ObjectModel.alike, if_neg heq] at halike
    exact .inr halike

theorem sameSpecies_of_sameOption {o p : α} (h : sameOption M o p = true) :
    sameSpecies M (M.speciesOf o) (M.speciesOf p) = true := by
  rw [sameOption, Bool.and_eq_true] at h
  exact h.1

/-- **Of two options that a literal takes for one, a candidate is both or neither**, if its species is
lawful. -/
theorem Matches.congr {c o p : α} (hlaw : M.LawfulSpecies (M.speciesOf c))
    (h : sameOption M o p = true) : Matches M c o ↔ Matches M c p := by
  constructor
  · rintro ⟨ho, hequal⟩
    obtain ⟨hspecies, rfl | hsame⟩ := sameOption_cases (by rwa [ho]) h
    · exact ⟨ho, hequal⟩
    · have hp : M.speciesOf p = M.speciesOf c := hspecies.trans ho
      exact ⟨hp, hlaw.trans c o p rfl ho hp hequal hsame⟩
  · rintro ⟨hp, hequal⟩
    have hsame := sameSpecies_of_sameOption h
    rw [hp] at hsame
    have ho : M.speciesOf o = M.speciesOf c := hlaw.alone _ (.inr hsame)
    obtain ⟨-, rfl | hsame⟩ := sameOption_cases (by rwa [ho]) h
    · exact ⟨ho, hequal⟩
    · exact ⟨ho, hlaw.trans c p o rfl hp ho hequal (hlaw.symm o p ho hp hsame)⟩

/-- **What is assumed of `==`** among the parts of some leaves: the species of a literal option is lawful,
a species that a leaf is checked by is equal to itself alone, and a plain object is equal to no species.
All species and objects that leave `==` as it is are so. -/
structure LawfulEquality (M : ObjectModel α κ) (pool : List (Target α κ)) : Prop where
  options : ∀ l ∈ pool, ∀ o ∈ l.literalOptions, M.LawfulSpecies (M.speciesOf o)
  species : ∀ l ∈ pool, ∀ c, l.checkedBy? = some c → ∀ d,
    M.alike (M.ofSpecies c) (M.ofSpecies d) = .ok true → d = c
  objects : ∀ w, object w ∈ pool → ∀ c,
    M.alike (M.ofSpecies c) w ≠ .ok true ∧ M.alike w (M.ofSpecies c) ≠ .ok true

end Target

end Narrowing
