import Mathlib.Logic.Relation
import Narrowing.Menagerie.Species

/-!
# Descent

Whether a species descends from another is found out by a walk up the family tree that stops after a
number of steps. The family tree has no cycles, since every step up comes nearer to the root, and no
species is further below the root than the walk is long. So the walk finds all that lies above.

* `Species.depth`, `Species.depth_lt_of_mem_parents`: how far a species is below the root;
* `Species.descends_iff`: **a species descends from those that some steps up lead to**.
-/

namespace Narrowing.Menagerie.Species

open Relation

variable {s above : Species} {height : Nat}

/-- How many steps a species is below the root, by its longest way. -/
def depth : Species → Nat
  | object => 0
  | puppy | catDog => 4
  | cat | dog | orange | mango | banana => 3
  | bool | level | intHeir | textHeir | pair | hitHeir _ | both | missHeir _ | sortOf .. | pet | fruit
  | vegetable | inner | box | point | wild | hermit | bomb | echo | falsy | boolBomb | badDisplay
  | nothing => 2
  | _ => 1

theorem depth_lt_of_mem_parents {s t : Species} (h : t ∈ s.parents) : t.depth < s.depth := by
  cases s <;> simp only [parents, List.mem_cons, List.not_mem_nil, or_false] at h <;>
    rcases h with rfl | rfl <;> simp [depth]

theorem depth_le (s : Species) : s.depth ≤ 5 := by
  cases s <;> simp [depth]

theorem mem_lineage_self (height : Nat) (s : Species) : s ∈ lineage height s := by
  cases height with
  | zero => exact List.mem_singleton_self s
  | succ height => exact List.mem_cons_self

theorem reflTransGen_of_mem_lineage (h : above ∈ lineage height s) :
    ReflTransGen (fun t u => u ∈ t.parents) s above := by
  induction height generalizing s with
  | zero =>
    rw [lineage, List.mem_singleton] at h
    rw [h]
  | succ height ih =>
    rw [lineage, List.mem_cons, List.mem_flatMap] at h
    rcases h with rfl | ⟨t, ht, h⟩
    · exact .refl
    · exact .head ht (ih h)

/-- Nothing above a species is missed on a way up of as many steps as it is below the root. -/
theorem mem_lineage_of_reflTransGen (hheight : s.depth ≤ height)
    (h : ReflTransGen (fun t u => u ∈ t.parents) s above) : above ∈ lineage height s := by
  induction h using ReflTransGen.head_induction_on generalizing height with
  | refl => exact mem_lineage_self height above
  | head hstep _ ih =>
    cases height with
    | zero => exact absurd (depth_lt_of_mem_parents hstep) (by omega)
    | succ height =>
      have hlt := depth_lt_of_mem_parents hstep
      rw [lineage, List.mem_cons, List.mem_flatMap]
      exact .inr ⟨_, hstep, ih (by omega)⟩

/-- **A species descends from those that some steps up lead to.** -/
theorem descends_iff :
    descends s above = true ↔ ReflTransGen (fun t u => u ∈ t.parents) s above := by
  rw [descends, List.contains_iff_mem]
  exact ⟨reflTransGen_of_mem_lineage, mem_lineage_of_reflTransGen (depth_le s)⟩

end Narrowing.Menagerie.Species
