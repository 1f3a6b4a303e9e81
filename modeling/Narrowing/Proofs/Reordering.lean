import Mathlib.Data.List.Forall2
import Narrowing.Menagerie.Making
import Narrowing.Menagerie.Model
import Narrowing.Proofs.ShortCircuit

/-!
# Parts in another order

Leaves that are functions of the candidate have a verdict each, or end in a fault. In another order of
stages and siblings other leaves are asked, and a fault may come to light or be passed by; but no order
turns one verdict into the other.

* `Formula.Reordered`: formulas that differ in the order of their parts, at any depth.
* `Formula.walk_verdict`: a verdict is the truth of the formula, whatever the leaves that have not been
  asked are taken for.
* `Formula.reordering_keeps_verdict`: two orders never come to different verdicts, and they come to
  the same one where no leaf ends in a fault.
-/

namespace Narrowing

variable {ι α κ σ ℓ : Type}

namespace Formula

/-- **Formulas that differ in the order of their parts**: stages and siblings change places, at any
depth. The handles are of no account. -/
inductive Reordered : Formula ℓ → Formula ℓ → Prop where
  | leaf (l) : Reordered (leaf l) (leaf l)
  | all {handle handle' es fs gs} (h : List.Forall₂ Reordered es fs) (hperm : fs.Perm gs) :
      Reordered (all handle es) (all handle' gs)
  | any {handle handle' es fs gs} (h : List.Forall₂ Reordered es fs) (hperm : fs.Perm gs) :
      Reordered (any handle es) (any handle' gs)
  | complement {handle handle' e f} (h : Reordered e f) :
      Reordered (complement handle e) (complement handle' f)

mutual

/-- The leaves of a formula, from left to right. -/
def leaves : Formula ℓ → List ℓ
  | leaf l => [l]
  | all _ es | any _ es => leavesEach es
  | complement _ inner => leaves inner

/-- The leaves of some formulas, from left to right. -/
def leavesEach : List (Formula ℓ) → List ℓ
  | [] => []
  | e :: es => leaves e ++ leavesEach es

end

theorem mem_leavesEach {es : List (Formula ℓ)} {l : ℓ} :
    l ∈ leavesEach es ↔ ∃ e ∈ es, l ∈ e.leaves := by
  induction es with
  | nil => simp [leavesEach]
  | cons e es ih => simp [leavesEach, ih]

theorem holdsAll_eq_all (v : ℓ → Bool) (es : List (Formula ℓ)) :
    holdsAll v es = (es.map (holds v)).all id := by
  induction es with
  | nil => rfl
  | cons e es ih => rw [holdsAll, ih, List.map_cons, List.all_cons, id]

theorem holdsAny_eq_any (v : ℓ → Bool) (es : List (Formula ℓ)) :
    holdsAny v es = (es.map (holds v)).any id := by
  induction es with
  | nil => rfl
  | cons e es ih => rw [holdsAny, ih, List.map_cons, List.any_cons, id]

namespace Reordered

variable {e f : Formula ℓ} {es fs gs : List (Formula ℓ)}

/-- What holds of the counterparts of all parts holds of the parts in their new order. -/
theorem forall_mem (h : List.Forall₂ Reordered es fs) (hperm : fs.Perm gs) {P : Formula ℓ → Prop}
    (hP : ∀ e ∈ es, ∀ f, e.Reordered f → P f) : ∀ g ∈ gs, P g := by
  suffices hfs : ∀ f ∈ fs, P f from fun g hg => hfs g (hperm.mem_iff.2 hg)
  clear hperm
  induction h with
  | nil => exact List.forall_mem_nil P
  | cons hhead _ ih =>
    rw [List.forall_mem_cons] at hP ⊢
    exact ⟨hP.1 _ hhead, ih hP.2⟩

theorem length_eq (h : List.Forall₂ Reordered es fs) (hperm : fs.Perm gs) : gs.length = es.length := by
  rw [h.length_eq, hperm.length_eq]

/-- A formula that can be built can be built in another order. -/
theorem wellFormed (h : e.Reordered f) (he : e.WellFormed) : f.WellFormed := by
  induction he generalizing f with
  | leaf l =>
    cases h
    exact .leaf l
  | all hlen _ ih =>
    cases h with
    | all h hperm =>
      refine .all ?_ (forall_mem h hperm fun e he f hf => ih e he hf)
      rw [length_eq h hperm]
      exact hlen
  | any hlen _ ih =>
    cases h with
    | any h hperm =>
      refine .any ?_ (forall_mem h hperm fun e he f hf => ih e he hf)
      rw [length_eq h hperm]
      exact hlen
  | complement _ ih =>
    cases h with
    | complement h => exact .complement (ih h)

theorem leavesEach_subset (h : List.Forall₂ Reordered es fs) (hperm : fs.Perm gs)
    (ih : ∀ e ∈ es, ∀ f, e.Reordered f → ∀ l ∈ f.leaves, l ∈ e.leaves) :
    ∀ l ∈ leavesEach gs, l ∈ leavesEach es := by
  intro l hl
  obtain ⟨g, hg, hl⟩ := mem_leavesEach.1 hl
  have hparts : ∀ g ∈ gs, l ∈ g.leaves → ∃ e ∈ es, l ∈ e.leaves :=
    forall_mem h hperm fun e he f hf hl => ⟨e, he, ih e he f hf l hl⟩
  exact mem_leavesEach.2 (hparts g hg hl)

/-- The leaves in another order are leaves of the formula. -/
theorem leaves_subset (h : e.Reordered f) : ∀ l ∈ f.leaves, l ∈ e.leaves := by
  induction e generalizing f with
  | leaf l =>
    cases h
    exact fun _ hl => hl
  | all handle es ih =>
    cases h with
    | all h hperm => exact leavesEach_subset h hperm fun e he f hf => ih e he hf
  | any handle es ih =>
    cases h with
    | any h hperm => exact leavesEach_subset h hperm fun e he f hf => ih e he hf
  | complement handle inner ih =>
    cases h with
    | complement h => exact fun l hl => ih h l hl

/-- The parts have the same truths, in another order. -/
theorem map_holds_perm {v : ℓ → Bool} (h : List.Forall₂ Reordered es fs) (hperm : fs.Perm gs)
    (ih : ∀ e ∈ es, ∀ f, e.Reordered f → e.holds v = f.holds v) :
    (es.map (holds v)).Perm (gs.map (holds v)) := by
  suffices hsame : es.map (holds v) = fs.map (holds v) by
    rw [hsame]
    exact hperm.map (holds v)
  clear hperm
  induction h with
  | nil => rfl
  | cons hhead _ ihtail =>
    rw [List.forall_mem_cons] at ih
    rw [List.map_cons, List.map_cons, ih.1 _ hhead, ihtail ih.2]

/-- **The truth of a formula is a matter of its parts, and not of their order.** -/
theorem holds_eq {v : ℓ → Bool} (h : e.Reordered f) : e.holds v = f.holds v := by
  induction e generalizing f with
  | leaf l =>
    cases h
    rfl
  | all handle es ih =>
    cases h with
    | all h hperm =>
      rw [holds, holds, holdsAll_eq_all, holdsAll_eq_all]
      exact (map_holds_perm h hperm fun e he f hf => ih e he hf).all_eq
  | any handle es ih =>
    cases h with
    | any h hperm =>
      rw [holds, holds, holdsAny_eq_any, holdsAny_eq_any]
      exact (map_holds_perm h hperm fun e he f hf => ih e he hf).any_eq
  | complement handle inner ih =>
    cases h with
    | complement h => exact congrArg (!·) (ih h)

end Reordered

section Truth

variable {M : ObjectModel α κ} {act : ℓ → Eval σ α α}

theorem walkEach_visits_subset (go : Bool) {es : List (Formula ℓ)}
    (h : ∀ e ∈ es, ∀ s, ∀ l ∈ (e.walk M act s).visits, l ∈ e.leaves) (s : Session σ α) :
    ∀ l ∈ (walkEach M act go es s).visits, l ∈ leavesEach es := by
  induction es generalizing s with
  | nil => exact fun l hl => hl
  | cons e es ih =>
    rw [List.forall_mem_cons] at h
    intro l hl
    rw [walkEach] at hl
    rw [leavesEach, List.mem_append]
    by_cases hgo : (e.walk M act s).ending = .verdict go
    · simp only [if_pos hgo] at hl
      exact (List.mem_append.1 hl).imp (h.1 s l) (ih h.2 _ l)
    · simp only [if_neg hgo] at hl
      exact .inl (h.1 s l hl)

/-- Only leaves of the formula are visited. -/
theorem visits_subset (e : Formula ℓ) (s : Session σ α) :
    ∀ l ∈ (e.walk M act s).visits, l ∈ e.leaves := by
  induction e generalizing s with
  | leaf l => exact fun k hk => hk
  | all handle stages ih => exact walkEach_visits_subset true (fun e he => ih e he) s
  | any handle siblings ih => exact walkEach_visits_subset false (fun e he => ih e he) s
  | complement handle inner ih => exact ih s

/-- **A walk comes to a verdict** where every leaf of the formula does. -/
theorem walk_returns {e : Formula ℓ}
    (h : ∀ l ∈ e.leaves, ∀ s, ∃ b, (act l).ending M s = .verdict b) (s : Session σ α) :
    ∃ b, (e.walk M act s).ending = .verdict b := by
  rcases (walk_sound e s).ended with hverdict | ⟨earlier, l, hvisits, hend⟩
  · exact hverdict
  · have hl : l ∈ (e.walk M act s).visits := by
      rw [hvisits]
      exact List.mem_append_right _ List.mem_cons_self
    obtain ⟨b, hb⟩ := h l (visits_subset e s l hl) (after act earlier s)
    exact ⟨b, hend.trans hb⟩

variable {v : ℓ → Bool} (hv : ∀ l s b, (act l).ending M s = .verdict b → v l = b)

theorem walkEach_verdict (go : Bool) {es : List (Formula ℓ)}
    (h : ∀ e ∈ es, ∀ s b, (e.walk M act s).ending = .verdict b → e.holds v = b) {s : Session σ α}
    {b : Bool} (hw : (walkEach M act go es s).ending = .verdict b) :
    (if go then holdsAll v es else holdsAny v es) = b := by
  induction es generalizing s with
  | nil =>
    cases hw
    cases go <;> rfl
  | cons e es ih =>
    rw [List.forall_mem_cons] at h
    rw [walkEach] at hw
    by_cases hgo : (e.walk M act s).ending = .verdict go
    · simp only [if_pos hgo] at hw
      have hrest := ih h.2 hw
      have he := h.1 s go hgo
      cases go
      · rw [if_neg Bool.false_ne_true] at hrest ⊢
        rw [holdsAny, he, hrest, Bool.false_or]
      · rw [if_pos rfl] at hrest ⊢
        rw [holdsAll, he, hrest, Bool.true_and]
    · -- the part has settled the matter: its verdict is not `go`
      simp only [if_neg hgo] at hw
      have he := h.1 s b hw
      obtain rfl : b = !go := Bool.eq_not.2 fun hb => hgo (hb ▸ hw)
      cases go
      · rw [if_neg Bool.false_ne_true, holdsAny, he, Bool.not_false, Bool.true_or]
      · rw [if_pos rfl, holdsAll, he, Bool.not_true, Bool.false_and]

include hv in
/-- **A verdict is the truth of the formula**, where leaves count as they answer. A leaf that never
gives a verdict may be taken for either. -/
theorem walk_verdict (e : Formula ℓ) {s : Session σ α} {b : Bool}
    (h : (e.walk M act s).ending = .verdict b) : e.holds v = b := by
  induction e generalizing s b with
  | leaf l => exact hv l s b h
  | all handle stages ih => exact walkEach_verdict true (fun e he _ _ => ih e he) h
  | any handle siblings ih => exact walkEach_verdict false (fun e he _ _ => ih e he) h
  | complement handle inner ih =>
    rw [walk, Walk.negate] at h
    have hinner : (inner.walk M act s).ending = .verdict (!b) := by
      rw [← Ending.negate_eq_verdict, Bool.not_not]
      exact h
    rw [holds, ih hinner, Bool.not_not]

end Truth

section Order

variable [DecidableEq α] [DecidableEq κ] {M : ObjectModel α κ} {call : ι → α → Eval σ α α} {x : α}
  {leafOf : ℓ → Refinement ι α κ} {r q : Refinement ι α κ} {e f : Formula ℓ}
  {verdict : ℓ → Except Fault Bool}
  (hleaf : ∀ l (s : Session σ α),
    (((leafOf l).run M call x).runFrom s).1 = (verdict l).map M.ofBool)

include hleaf

/-- A leaf ends in its verdict, or in its fault. -/
theorem leaf_ending (l : ℓ) (s : Session σ α) : (asking M call leafOf x l).ending M s =
    match verdict l with | .ok b => .verdict b | .error f => .raised f := by
  rw [Eval.ending, hleaf]
  rcases verdict l with f | b
  · rfl
  · exact Ending.of_truth (M.truth_ofBool b)

theorem leaf_ofBool (l : ℓ) {s t : Session σ α} {v : α}
    (h : ((leafOf l).run M call x).runFrom s = (.ok v, t)) : ∃ b, v = M.ofBool b := by
  have hanswer := hleaf l s
  rw [h] at hanswer
  obtain ⟨b, -, hb⟩ := map_eq_ok hanswer.symm
  exact ⟨b, hb.symm⟩

/-- **What a refinement answers is the truth of its formula.** -/
theorem run_holds (hr : e.build leafOf = .ok r) {s : Session σ α} {v : α}
    (h : ((r.run M call x).runFrom s).1 = .ok v) :
    v = M.ofBool (e.holds fun l => (verdict l).toOption.getD false) := by
  -- a leaf that ends in a fault is taken for false: no verdict rests on it
  have hrun := run_eq e hr (fun l s v t => leaf_ofBool hleaf l) s
  rw [hrun] at h
  obtain ⟨b, hb, rfl⟩ := Ending.verdict_of_answer h
  rw [walk_verdict (fun l s b hl => ?_) e hb]
  rw [leaf_ending hleaf] at hl
  rcases hverdict : verdict l with f | c
  · rw [hverdict] at hl
    cases hl
  · rw [hverdict] at hl
    cases hl
    rfl

/-- A refinement answers where every leaf of its formula has a verdict. -/
theorem run_returns (hr : e.build leafOf = .ok r) (h : ∀ l ∈ e.leaves, ∃ b, verdict l = .ok b)
    (s : Session σ α) : ∃ v, ((r.run M call x).runFrom s).1 = .ok v := by
  have hwalk : ∃ b, (e.walk M (asking M call leafOf x) s).ending = .verdict b := by
    refine walk_returns (fun l hl s => ?_) s
    obtain ⟨b, hb⟩ := h l hl
    exact ⟨b, by rw [leaf_ending hleaf, hb]⟩
  obtain ⟨b, hb⟩ := hwalk
  refine ⟨M.ofBool b, ?_⟩
  rw [run_eq e hr (fun l s v t => leaf_ofBool hleaf l) s, hb]
  rfl

/-- **Another order never turns a verdict around.** A well-formed formula and one with its parts in
another order are both built into refinements. Where the leaves are functions of the candidate, with a
verdict or a fault each, the two refinements give the same verdict if they both give one, in whatever
sessions they are asked; and they do give one if no leaf of the formula ends in a fault. -/
theorem reordering_keeps_verdict (h : e.Reordered f) (hform : e.WellFormed) :
    ∃ r q, e.build leafOf = .ok r ∧ f.build leafOf = .ok q ∧
      (∀ s t v w, ((r.run M call x).runFrom s).1 = .ok v → ((q.run M call x).runFrom t).1 = .ok w →
        v = w ∧ (v = M.ofBool true ∨ v = M.ofBool false)) ∧
      ((∀ l ∈ e.leaves, ∀ g, verdict l ≠ .error g) → ∃ b, ∀ s t,
        ((r.run M call x).runFrom s).1 = .ok (M.ofBool b) ∧
        ((q.run M call x).runFrom t).1 = .ok (M.ofBool b)) := by
  obtain ⟨r, hr⟩ : ∃ r, e.build leafOf = .ok r := hform.build_ok
  obtain ⟨q, hq⟩ : ∃ q, f.build leafOf = .ok q := (h.wellFormed hform).build_ok
  refine ⟨r, q, hr, hq, fun s t v w hv hw => ?_, fun hverdict => ?_⟩
  · have hv := run_holds hleaf hr hv
    have hw := run_holds hleaf hq hw
    refine ⟨by rw [hv, hw, h.holds_eq], ?_⟩
    rw [hv]
    cases e.holds fun l => (verdict l).toOption.getD false
    · exact .inr rfl
    · exact .inl rfl
  -- no leaf of the other formula ends in a fault either, for it has the same leaves
  · have hok : ∀ l ∈ e.leaves, ∃ b, verdict l = .ok b := by
      intro l hl
      rcases hl' : verdict l with g | b
      · exact absurd hl' (hverdict l hl g)
      · exact ⟨b, rfl⟩
    refine ⟨e.holds fun l => (verdict l).toOption.getD false, fun s t => ⟨?_, ?_⟩⟩
    · obtain ⟨v, hv⟩ := run_returns hleaf hr hok s
      rw [hv, run_holds hleaf hr hv]
    · obtain ⟨w, hw⟩ := run_returns hleaf hq (fun l hl => hok l (h.leaves_subset l hl)) t
      rw [hw, run_holds hleaf hq hw, h.holds_eq]

end Order

open Menagerie in
/-- A leaf that rejects before one that ends in a fault, and a sibling that accepts, behind these and in
front of them: the verdict is the same. In the second order neither stage is asked. -/
theorem reordering_keeps_verdict_key :
    let verdict : Fin 3 → Except Fault Bool := fun i =>
      if i = 1 then .error ⟨.keyError, "'missing'"⟩ else .ok (i = 2)
    let call : Fin 3 → Value → Eval Unit Value Value := fun i _ =>
      Eval.ofExcept ((verdict i).map model.ofBool)
    let e : Formula (Fin 3) := .any 1 [.all 0 [.leaf 0, .leaf 1], .leaf 2]
    let f : Formula (Fin 3) := .any 1 [.leaf 2, .all 0 [.leaf 1, .leaf 0]]
    let r : Refinement (Fin 3) Value Species := .any 1 [.all 0 [.function 0, .function 1], .function 2]
    let q : Refinement (Fin 3) Value Species := .any 1 [.function 2, .all 0 [.function 1, .function 0]]
    let s : Session Unit Value := ⟨.record, [], ()⟩
    e.Reordered f ∧ e.WellFormed ∧ e.build .function = .ok r ∧ f.build .function = .ok q ∧
    ((r.run model call .none).runFrom s).1 = .ok (.bool true) ∧
    ((q.run model call .none).runFrom s).1 = ((r.run model call .none).runFrom s).1 := by
  intro verdict call e f r q s
  have hstages : Formula.Reordered (.all 0 [.leaf 0, .leaf 1]) (.all 0 [.leaf 1, .leaf (0 : Fin 3)]) :=
    .all (.cons (.leaf 0) (.cons (.leaf 1) .nil)) (.swap _ _ _)
  have hreordered : e.Reordered f := .any (.cons hstages (.cons (.leaf 2) .nil)) (.swap _ _ _)
  have hform : e.WellFormed := by
    have hstages : (Formula.all 0 [.leaf 0, .leaf 1] : Formula (Fin 3)).WellFormed :=
      .all (by decide) (by simp [WellFormed.leaf])
    exact .any (by decide) (by simp [WellFormed.leaf, hstages])
  have hleaf : ∀ (i : Fin 3) (s : Session Unit Value),
      (((.function i : Refinement (Fin 3) Value Species).run model call .none).runFrom s).1 =
        (verdict i).map model.ofBool := by
    intro i s
    rw [Refinement.run, Eval.runFrom_ofExcept]
  obtain ⟨r', q', hr, hq, hsame, -⟩ := reordering_keeps_verdict hleaf hreordered hform
  cases hr
  cases hq
  have hv : ((r.run model call .none).runFrom s).1 = .ok (.bool true) := rfl
  obtain ⟨w, hw⟩ : ∃ w, ((q.run model call .none).runFrom s).1 = .ok w := ⟨_, rfl⟩
  refine ⟨hreordered, hform, rfl, rfl, hv, ?_⟩
  rw [hv, hw, (hsame s s _ w hv hw).1]

end Formula

end Narrowing
