import Narrowing.Menagerie.Making
import Narrowing.Menagerie.Model
import Narrowing.Proofs.ShortCircuit

/-!
# Complements pushed inwards

A complement of stages is any of their complements, and a complement of siblings is all of theirs.
Pushed inwards like this, complements come to stand on leaves alone: this is the **normal form** of a
formula.

* `Formula.normalForm`, `Formula.opposite`: the normal form of a formula and that of its complement.
* `Formula.normalForm_walk`: a normal form walks as its formula does, and the one of a complement
  visits the same leaves and comes to the complement.
* `Formula.normalForm_run`: a refinement and the one that is built from the normal form do the same.
-/

namespace Narrowing

variable {ι α κ σ ℓ : Type}

namespace Formula

mutual

/-- **The normal form of a formula**: its complements are pushed inwards at every level. -/
def normalForm : Formula ℓ → Formula ℓ
  | leaf l => leaf l
  | all handle stages => all handle (normalFormEach stages)
  | any handle siblings => any handle (normalFormEach siblings)
  | complement handle inner => opposite handle inner

/-- The normal forms of some formulas. -/
def normalFormEach : List (Formula ℓ) → List (Formula ℓ)
  | [] => []
  | e :: es => normalForm e :: normalFormEach es

/-- **The normal form of a complement.** A leaf keeps it, a single stage takes it over, and two of
them cancel out. Otherwise it turns stages into siblings, and siblings into stages. -/
def opposite (handle : Nat) : Formula ℓ → Formula ℓ
  | leaf l => complement handle (leaf l)
  | all _ [stage] => opposite handle stage
  | all outer stages => any outer (oppositeEach handle stages)
  | any outer siblings => all outer (oppositeEach handle siblings)
  | complement _ inner => normalForm inner

/-- The normal forms of the complements of some formulas. -/
def oppositeEach (handle : Nat) : List (Formula ℓ) → List (Formula ℓ)
  | [] => []
  | e :: es => opposite handle e :: oppositeEach handle es

end

/-- **Formulas in normal form**: complements stand on leaves only. -/
inductive IsNormal : Formula ℓ → Prop where
  | leaf (l) : IsNormal (leaf l)
  | complement (handle l) : IsNormal (complement handle (.leaf l))
  | all {handle stages} (h : ∀ e ∈ stages, IsNormal e) : IsNormal (all handle stages)
  | any {handle siblings} (h : ∀ e ∈ siblings, IsNormal e) : IsNormal (any handle siblings)

theorem length_normalFormEach (es : List (Formula ℓ)) : (normalFormEach es).length = es.length := by
  induction es with
  | nil => rfl
  | cons e es ih => rw [normalFormEach, List.length_cons, List.length_cons, ih]

theorem forall_mem_normalFormEach {P : Formula ℓ → Prop} {es : List (Formula ℓ)} :
    (∀ e ∈ normalFormEach es, P e) ↔ ∀ e ∈ es, P e.normalForm := by
  induction es with
  | nil => simp [normalFormEach]
  | cons e es ih => rw [normalFormEach, List.forall_mem_cons, List.forall_mem_cons, ih]

theorem length_oppositeEach (handle : Nat) (es : List (Formula ℓ)) :
    (oppositeEach handle es).length = es.length := by
  induction es with
  | nil => rfl
  | cons e es ih => rw [oppositeEach, List.length_cons, List.length_cons, ih]

theorem forall_mem_oppositeEach {P : Formula ℓ → Prop} {handle : Nat} {es : List (Formula ℓ)} :
    (∀ e ∈ oppositeEach handle es, P e) ↔ ∀ e ∈ es, P (e.opposite handle) := by
  induction es with
  | nil => simp [oppositeEach]
  | cons e es ih => rw [oppositeEach, List.forall_mem_cons, List.forall_mem_cons, ih]

/-- The complement of stages is that of the single stage, or any of their complements. -/
theorem opposite_all (handle outer : Nat) (stages : List (Formula ℓ)) :
    (∃ stage, stages = [stage] ∧ opposite handle (all outer stages) = opposite handle stage) ∨
    (stages.length ≠ 1 ∧
      opposite handle (all outer stages) = any outer (oppositeEach handle stages)) := by
  match stages with
  | [] => exact .inr ⟨nofun, rfl⟩
  | [stage] => exact .inl ⟨stage, rfl, rfl⟩
  | _ :: _ :: more => exact .inr ⟨by simp, rfl⟩

/-- **A normal form is normal**, and so is that of a complement. -/
theorem isNormal_normalForm (e : Formula ℓ) :
    e.normalForm.IsNormal ∧ ∀ handle, (e.opposite handle).IsNormal := by
  induction e with
  | leaf l => exact ⟨.leaf l, fun handle => .complement handle l⟩
  | all outer stages ih =>
    refine ⟨.all (forall_mem_normalFormEach.2 fun e he => (ih e he).1), fun handle => ?_⟩
    rcases opposite_all handle outer stages with ⟨stage, rfl, heq⟩ | ⟨-, heq⟩
    · rw [heq]
      exact (ih stage List.mem_cons_self).2 handle
    · rw [heq]
      exact .any (forall_mem_oppositeEach.2 fun e he => (ih e he).2 handle)
  | any outer siblings ih =>
    exact ⟨.any (forall_mem_normalFormEach.2 fun e he => (ih e he).1), fun handle =>
      .all (forall_mem_oppositeEach.2 fun e he => (ih e he).2 handle)⟩
  | complement outer inner ih => exact ⟨ih.2 outer, fun _ => ih.1⟩

namespace WellFormed

/-- **A normal form can be built** where its formula can, and so can that of a complement. -/
theorem normalForm {e : Formula ℓ} (h : e.WellFormed) :
    e.normalForm.WellFormed ∧ ∀ handle, (e.opposite handle).WellFormed := by
  induction h with
  | leaf l => exact ⟨.leaf l, fun _ => .complement (.leaf l)⟩
  | @all outer stages hlen _ ih =>
    refine ⟨.all (by rwa [length_normalFormEach])
      (forall_mem_normalFormEach.2 fun e he => (ih e he).1), fun handle => ?_⟩
    rcases opposite_all handle outer stages with ⟨stage, rfl, heq⟩ | ⟨hne, heq⟩
    · rw [heq]
      exact (ih stage List.mem_cons_self).2 handle
    · rw [heq]
      refine .any ?_ (forall_mem_oppositeEach.2 fun e he => (ih e he).2 handle)
      rw [length_oppositeEach]
      omega
  | @any outer siblings hlen _ ih =>
    refine ⟨.any (by rwa [length_normalFormEach])
      (forall_mem_normalFormEach.2 fun e he => (ih e he).1), fun handle => ?_⟩
    refine .all ?_ (forall_mem_oppositeEach.2 fun e he => (ih e he).2 handle)
    rw [length_oppositeEach]
    omega
  | complement _ ih => exact ⟨ih.2 _, fun _ => ih.1⟩

/-- **A fault has to leave a lazily evaluated condition** on its way out of a normal form exactly
when it has to do so on its way out of the formula. -/
theorem isLazy_normalForm {e : Formula ℓ} (h : e.WellFormed) :
    e.normalForm.isLazy = e.isLazy ∧ ∀ handle, (e.opposite handle).isLazy = e.isLazy := by
  induction h with
  | leaf l => exact ⟨rfl, fun _ => rfl⟩
  | @all outer stages hlen _ ih =>
    -- a single stage is the stage itself, with no condition of its own
    by_cases hone : stages.length = 1
    · obtain ⟨stage, rfl⟩ := List.length_eq_one_iff.1 hone
      exact ih stage List.mem_cons_self
    · have hlong : 2 ≤ stages.length := by omega
      refine ⟨?_, fun handle => ?_⟩
      · rw [Formula.normalForm, isLazy_all hlong, isLazy_all]
        rw [length_normalFormEach]
        exact hlong
      · rcases opposite_all handle outer stages with ⟨stage, rfl, -⟩ | ⟨-, heq⟩
        · exact absurd rfl hone
        · rw [heq, isLazy_all hlong]
          rfl
  | @any outer siblings hlen _ ih =>
    refine ⟨rfl, fun handle => ?_⟩
    rw [opposite, isLazy_all]
    · rfl
    · rw [length_oppositeEach]
      exact hlen
  | complement _ ih => exact ⟨ih.2 _, fun _ => ih.1⟩

end WellFormed

variable {M : ObjectModel α κ} {act : ℓ → Eval σ α α}

theorem walkEach_normalForm (go : Bool) {es : List (Formula ℓ)}
    (h : ∀ e ∈ es, ∀ s, e.normalForm.walk M act s = e.walk M act s) (s : Session σ α) :
    walkEach M act go (normalFormEach es) s = walkEach M act go es s := by
  induction es generalizing s with
  | nil => rfl
  | cons e es ih =>
    rw [List.forall_mem_cons] at h
    simp only [normalFormEach, walkEach, h.1, ih h.2]

/-- Complements are gone through as long as each of them gives the verdict `!go`: what they are
complements of gives the verdict `go` then. -/
theorem walkEach_opposite (go : Bool) (handle : Nat) {es : List (Formula ℓ)}
    (h : ∀ e ∈ es, ∀ s, (e.opposite handle).walk M act s = (e.walk M act s).negate)
    (s : Session σ α) :
    walkEach M act (!go) (oppositeEach handle es) s = (walkEach M act go es s).negate := by
  induction es generalizing s with
  | nil => rfl
  | cons e es ih =>
    rw [List.forall_mem_cons] at h
    have hturn : (e.walk M act s).negate.ending = .verdict (!go) ↔
        (e.walk M act s).ending = .verdict go := Ending.negate_eq_verdict
    rw [oppositeEach, walkEach, walkEach, h.1]
    by_cases hgo : (e.walk M act s).ending = .verdict go
    · simp only [if_pos hgo, if_pos (hturn.2 hgo), ih h.2]
      rfl
    · simp only [if_neg hgo, if_neg (mt hturn.1 hgo)]

/-- **A normal form walks as its formula**, and the one of a complement visits the same leaves and
comes to the complement. -/
theorem normalForm_walk (e : Formula ℓ) :
    (∀ s, e.normalForm.walk M act s = e.walk M act s) ∧
    ∀ handle s, (e.opposite handle).walk M act s = (e.walk M act s).negate := by
  -- the formula and its complement go together, for a complement hands each over to the other
  induction e with
  | leaf l => exact ⟨fun _ => rfl, fun _ _ => rfl⟩
  | all outer stages ih =>
    refine ⟨fun s => walkEach_normalForm true (fun e he => (ih e he).1) s, fun handle s => ?_⟩
    rcases opposite_all handle outer stages with ⟨stage, rfl, heq⟩ | ⟨-, heq⟩
    · rw [heq, walk, walkEach_single]
      exact (ih stage List.mem_cons_self).2 handle s
    · rw [heq]
      exact walkEach_opposite true handle (fun e he => (ih e he).2 handle) s
  | any outer siblings ih =>
    exact ⟨fun s => walkEach_normalForm false (fun e he => (ih e he).1) s, fun handle s =>
      walkEach_opposite false handle (fun e he => (ih e he).2 handle) s⟩
  | complement outer inner ih =>
    refine ⟨fun s => ih.2 outer s, fun _ s => ?_⟩
    rw [opposite, ih.1, walk, Walk.negate_negate]

variable [DecidableEq α] [DecidableEq κ] {call : ι → α → Eval σ α α} {x : α}
  {leafOf : ℓ → Refinement ι α κ}

/-- **A refinement does what the one of its normal form does.** A well-formed formula has a normal
form, in which complements stand on leaves only, and both are built into refinements. Where the leaves
answer a candidate with truth values, if they answer, the two refinements visit the same leaves, in
the same order; they come to the same answer or to the same fault, in the same session. -/
theorem normalForm_run {e : Formula ℓ} (hform : e.WellFormed)
    (hleaf : ∀ l s v t, ((leafOf l).run M call x).runFrom s = (.ok v, t) → ∃ b, v = M.ofBool b) :
    e.normalForm.IsNormal ∧
    ∃ r q, e.build leafOf = .ok r ∧ e.normalForm.build leafOf = .ok q ∧ ∀ s,
      (e.normalForm.walk M (asking M call leafOf x) s).visits =
        (e.walk M (asking M call leafOf x) s).visits ∧
      (q.run M call x).runFrom s = (r.run M call x).runFrom s := by
  obtain ⟨r, hr⟩ : ∃ r, e.build leafOf = .ok r := hform.build_ok
  obtain ⟨q, hq⟩ : ∃ q, e.normalForm.build leafOf = .ok q := hform.normalForm.1.build_ok
  refine ⟨e.isNormal_normalForm.1, r, q, hr, hq, fun s => ?_⟩
  have hwalk : e.normalForm.walk M (asking M call leafOf x) s =
      e.walk M (asking M call leafOf x) s := e.normalForm_walk.1 s
  -- where the leaves answer with truth values, the walk determines the run
  refine ⟨congrArg Walk.visits hwalk, ?_⟩
  rw [run_eq e.normalForm hq hleaf s, run_eq e hr hleaf s, hwalk, hform.isLazy_normalForm.1]

open Menagerie in
/-- The complement of a stage before two siblings, of which the first ends in an exhausted iterator:
the fault leaves the siblings, or the stages that they are turned into, as a runtime fault. Both
refinements call the same two predicates, and not the third. -/
theorem normalForm_run_exhausted :
    let call : Fin 3 → Value → Eval Unit Value Value := fun i _ =>
      if i = 1 then throw ⟨.stopIteration, ""⟩ else pure (.bool true)
    let e : Formula (Fin 3) := .complement 2 (.all 1 [.leaf 0, .any 0 [.leaf 1, .leaf 2]])
    let r : Refinement (Fin 3) Value Species :=
      .complement 2 (.all 1 [.function 0, .any 0 [.function 1, .function 2]])
    let q : Refinement (Fin 3) Value Species :=
      .any 1 [.complement 2 (.function 0),
        .all 0 [.complement 2 (.function 1), .complement 2 (.function 2)]]
    let out := (r.run model (onTape call) .none).runFrom ⟨.record, [], ([], ())⟩
    e.WellFormed ∧ e.build .function = .ok r ∧ e.normalForm.build .function = .ok q ∧
    (q.run model (onTape call) .none).runFrom ⟨.record, [], ([], ())⟩ = out ∧
    out.1 = .error ⟨.runtimeError, "generator raised StopIteration"⟩ ∧
    out.2.calls = [(0, .none), (1, .none)] := by
  intro call e r q out
  have hsiblings : (Formula.any 0 [.leaf 1, .leaf 2] : Formula (Fin 3)).WellFormed :=
    .any (by decide) (by simp [WellFormed.leaf])
  have hform : e.WellFormed := .complement (.all (by decide) (by simp [WellFormed.leaf, hsiblings]))
  have hleaf : ∀ (i : Fin 3) (s : Session (List (Fin 3 × Value) × Unit) Value) v t,
      (((.function i : Refinement (Fin 3) Value Species)).run model (onTape call) .none).runFrom s =
        (.ok v, t) → ∃ b, v = model.ofBool b := by
    intro i s v t h
    rw [Refinement.run, runFrom_onTape] at h
    by_cases hi : i = 1
    · subst hi
      cases h
    · simp only [call, if_neg hi] at h
      cases h
      exact ⟨true, rfl⟩
  obtain ⟨-, r', q', hr, hq, hrun⟩ := normalForm_run (M := model) hform hleaf
  cases hr
  cases hq
  exact ⟨hform, rfl, rfl, (hrun _).2, rfl, rfl⟩

end Formula

end Narrowing
