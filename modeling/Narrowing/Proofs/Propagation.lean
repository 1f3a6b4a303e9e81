import Narrowing.Menagerie.Making
import Narrowing.Menagerie.Model
import Narrowing.Proofs.Formula

/-!
# Faults on their way out of a formula

A refinement that is built from a formula asks the leaves that the formula visits, in the same
order and one in the session that the other has left.

* `Formula.run_walk`: the refinement runs as the formula walks. What it answers, or the fault that
  it ends in, shows what the walk comes to (`Ending.Shown`).
* `Formula.fault_propagates`: a leaf that ends in a fault is the last one to be asked, and the
  whole evaluation ends in this fault. An exhausted iterator alone is changed on its way, as soon
  as it has to leave a lazily evaluated condition.
-/

namespace Narrowing

variable {ι α κ σ ℓ : Type}

namespace Ending

/-- **An ending shows in an answer**: as its truth, or as the fault, which is sealed where it
has left a lazily evaluated condition (`seals`). -/
inductive Shown (M : ObjectModel α κ) (seals : Bool) : Ending → Except Fault α → Prop where
  | verdict {b v} (h : M.truth v = .ok b) : Shown M seals (verdict b) (.ok v)
  | raised (f) : Shown M seals (raised f) (.error (if seals then f.sealed else f))
  | answer {f v} (h : M.truth v = .error f) : Shown M seals (untold f) (.ok v)
  | untold (f g) : Shown M seals (untold f) (.error g)

/-- The answer that an ending shows in, where all answers are truth values. -/
def answer (M : ObjectModel α κ) (seals : Bool) : Ending → Except Fault α
  | verdict b => .ok (M.ofBool b)
  | raised f | untold f => .error (if seals then f.sealed else f)

/-- An answer shows that an ending is a verdict. -/
theorem verdict_of_answer {M : ObjectModel α κ} {seals : Bool} {e : Ending} {v : α}
    (h : e.answer M seals = .ok v) : ∃ b, e = .verdict b ∧ v = M.ofBool b := by
  cases e with
  | verdict b =>
    cases h
    exact ⟨b, rfl, rfl⟩
  | raised f | untold f => cases h

theorem answer_eq_ok {M : ObjectModel α κ} {seals : Bool} {e : Ending} {v : α}
    (h : e.answer M seals = .ok v) : v = M.ofBool true ∨ v = M.ofBool false := by
  obtain ⟨b, -, rfl⟩ := verdict_of_answer h
  cases b
  · exact .inr rfl
  · exact .inl rfl

/-- An ending settles a lazily evaluated condition. -/
inductive Settled : Ending → Except Fault Bool → Prop where
  | verdict (b) : Settled (verdict b) (.ok b)
  | raised (f) : Settled (raised f) (.error f.sealed)
  | untold (f g) : Settled (untold f) (.error g)

theorem shown_of (M : ObjectModel α κ) (a : Except Fault α) : (of M a).Shown M false a := by
  rcases a with f | v
  · exact .raised f
  rcases h : M.truth v with f | b
  · rw [of_untold h]
    exact .answer h
  · rw [of_truth h]
    exact .verdict h

/-- A truth value that an ending shows in is the answer. -/
theorem Shown.eq_answer {M : ObjectModel α κ} {seals : Bool} {e : Ending} {a : Except Fault α}
    (h : e.Shown M seals a) (htruth : ∀ v, a = .ok v → ∃ b, v = M.ofBool b)
    (htold : ∀ f, e ≠ .untold f) : a = e.answer M seals := by
  cases h with
  | verdict hv =>
    obtain ⟨b, rfl⟩ := htruth _ rfl
    rw [M.truth_ofBool] at hv
    cases hv
    rfl
  | raised f => rfl
  | answer _ | untold _ _ => exact absurd rfl (htold _)

/-- A condition that is settled answers with its truth, as the ending shows. -/
theorem Settled.shown {M : ObjectModel α κ} {e : Ending} {b : Except Fault Bool} (h : e.Settled b) :
    e.Shown M true (b.map M.ofBool) := by
  cases h with
  | verdict b => exact .verdict (M.truth_ofBool b)
  | raised f => exact .raised f
  | untold f g => exact .untold f g

end Ending

/-- **An outcome traces a walk**: it ends as the walk shows, in the session that the visited
leaves leave. -/
structure Walk.Traced (M : ObjectModel α κ) (act : ℓ → Eval σ α α) (w : Walk ℓ) (seals : Bool)
    (s : Session σ α) (out : Except Fault α × Session σ α) : Prop where
  shown : w.ending.Shown M seals out.1
  session : out.2 = after act w.visits s

/-- The outcome of a lazily evaluated condition concludes a walk: it is settled by the ending, in
the session that the visited leaves leave. -/
structure Walk.Concluded (act : ℓ → Eval σ α α) (w : Walk ℓ) (s : Session σ α)
    (out : Except Fault Bool × Session σ α) : Prop where
  settled : w.ending.Settled out.1
  session : out.2 = after act w.visits s

namespace Walk

variable {M : ObjectModel α κ} {act : ℓ → Eval σ α α} {w u : Walk ℓ} {seals : Bool} {s : Session σ α}
  {x : Eval σ α α} {y : Eval σ α Bool}

/-- The truth of an answer, asked for in a lazily evaluated condition. -/
theorem Traced.judged (h : w.Traced M act seals s (x.runFrom s)) :
    w.Concluded act s ((x.sealed >>= fun v => Eval.ofExcept (M.truth v)).runFrom s) := by
  rcases hx : x.runFrom s with ⟨a, t⟩
  have hsealed : x.sealed.runFrom s = (sealedCheck a, t) := by rw [Eval.runFrom_sealed, hx]
  rw [hx] at h
  obtain ⟨hshown, hsession⟩ := h
  rcases w with ⟨visits, ending⟩
  cases hshown with
  | verdict hv =>
    rw [Eval.runFrom_bind_ok hsealed, hv, Eval.runFrom_ofExcept]
    exact ⟨.verdict _, hsession⟩
  | raised f =>
    rw [Eval.runFrom_bind_error hsealed]
    refine ⟨?_, hsession⟩
    cases seals with
    | false => exact .raised f
    | true =>
      -- a fault that has left one condition leaves the next one unchanged
      have hseal : Ending.Settled (.raised f) (.error f.sealed.sealed) := by
        rw [Fault.sealed_sealed]
        exact .raised f
      exact hseal
  | answer hv =>
    rw [Eval.runFrom_bind_ok hsealed, hv, Eval.runFrom_ofExcept]
    exact ⟨.untold _ _, hsession⟩
  | untold f g =>
    rw [Eval.runFrom_bind_error hsealed]
    exact ⟨.untold _ _, hsession⟩

/-- The complement of what an evaluation answers. -/
theorem Traced.negate (h : w.Traced M act seals s (x.runFrom s)) :
    w.negate.Traced M act seals s ((x >>= fun v =>
      Eval.ofExcept (M.truth v) >>= fun b => pure (M.ofBool (!b))).runFrom s) := by
  rcases hx : x.runFrom s with ⟨a, t⟩
  rw [hx] at h
  obtain ⟨hshown, hsession⟩ := h
  rcases w with ⟨visits, ending⟩
  cases hshown with
  | @verdict b v hv =>
    rw [Eval.runFrom_bind_ok hx, hv]
    exact ⟨.verdict (M.truth_ofBool _), hsession⟩
  | raised f =>
    rw [Eval.runFrom_bind_error hx]
    exact ⟨.raised f, hsession⟩
  | @answer f v hv =>
    rw [Eval.runFrom_bind_ok hx, hv]
    exact ⟨.untold f f, hsession⟩
  | untold f g =>
    rw [Eval.runFrom_bind_error hx]
    exact ⟨.untold f g, hsession⟩

/-- The answer of a lazily evaluated condition. -/
theorem Concluded.answer (h : w.Concluded act s (y.runFrom s)) :
    w.Traced M act true s ((M.ofBool <$> y).runFrom s) := by
  rw [Eval.runFrom_map]
  exact ⟨h.settled.shown, h.session⟩

/-- A condition that is not decided yet goes on in the session that has been reached. -/
theorem Concluded.goOn {b : Bool} (h : w.Concluded act s (y.runFrom s)) (hw : w.ending = .verdict b)
    {next : Bool → Eval σ α Bool}
    (hnext : u.Concluded act (after act w.visits s) ((next b).runFrom (after act w.visits s))) :
    (w.followedBy u).Concluded act s ((y >>= next).runFrom s) := by
  rcases hy : y.runFrom s with ⟨a, t⟩
  rw [hy] at h
  obtain ⟨hsettled, rfl⟩ := h
  rw [hw] at hsettled
  cases hsettled
  rw [Eval.runFrom_bind_ok hy]
  refine ⟨hnext.settled, ?_⟩
  rw [hnext.session]
  exact (after_append act w.visits u.visits s).symm

/-- A condition that is decided, or that ends in a fault, is not gone on with. -/
theorem Concluded.stop (h : w.Concluded act s (y.runFrom s)) {next : Bool → Eval σ α Bool}
    (hnext : ∀ b, w.ending = .verdict b → next b = pure b) :
    w.Concluded act s ((y >>= next).runFrom s) := by
  rcases hy : y.runFrom s with ⟨a, t⟩
  rw [hy] at h
  obtain ⟨hsettled, hsession⟩ := h
  rcases w with ⟨visits, ending⟩
  cases hsettled with
  | verdict b =>
    rw [Eval.runFrom_bind_ok hy, hnext b rfl]
    exact ⟨.verdict b, hsession⟩
  | raised f =>
    rw [Eval.runFrom_bind_error hy]
    exact ⟨.raised f, hsession⟩
  | untold f g =>
    rw [Eval.runFrom_bind_error hy]
    exact ⟨.untold f g, hsession⟩

end Walk

namespace Formula

variable [DecidableEq α] [DecidableEq κ] {M : ObjectModel α κ} {call : ι → α → Eval σ α α} {x : α}
  {leafOf : ℓ → Refinement ι α κ} {r : Refinement ι α κ} {rs : List (Refinement ι α κ)}

/-- What leaves that are these refinements do with a candidate. -/
abbrev asking (M : ObjectModel α κ) (call : ι → α → Eval σ α α) (leafOf : ℓ → Refinement ι α κ) (x : α)
    (l : ℓ) : Eval σ α α :=
  (leafOf l).run M call x

/-- Refinements asked from left to right, as long as each of them gives the verdict `go`. -/
def runWhile (M : ObjectModel α κ) (call : ι → α → Eval σ α α) (go : Bool)
    (rs : List (Refinement ι α κ)) (x : α) : Eval σ α Bool :=
  if go then Refinement.runAll M call rs x else Refinement.runAny M call rs x

theorem runWhile_nil (go : Bool) : runWhile M call go [] x = pure go := by
  cases go <;> simp [runWhile, Refinement.runAll, Refinement.runAny]

theorem runWhile_cons (go : Bool) : runWhile M call go (r :: rs) x =
    ((r.run M call x).sealed >>= fun v => Eval.ofExcept (M.truth v)) >>= fun b =>
      if b = go then runWhile M call go rs x else pure b := by
  cases go with
  | true =>
    simp only [runWhile, Refinement.runAll, bind_assoc, if_true]
    congr 1; funext v; congr 1; funext b
    cases b <;> rfl
  | false =>
    simp only [runWhile, Refinement.runAny, bind_assoc, Bool.false_eq_true, if_false]
    congr 1; funext v; congr 1; funext b
    cases b <;> rfl

/-- Refinements built from formulas that run as these walk, asked one after the other. -/
theorem runWhile_walk (go : Bool) {act : ℓ → Eval σ α α} {es : List (Formula ℓ)}
    (h : buildEach leafOf es = .ok rs)
    (hrun : ∀ e ∈ es, ∀ r, e.build leafOf = .ok r → ∀ s,
      (e.walk M act s).Traced M act e.isLazy s ((r.run M call x).runFrom s)) (s : Session σ α) :
    (walkEach M act go es s).Concluded act s ((runWhile M call go rs x).runFrom s) := by
  induction es generalizing rs s with
  | nil =>
    cases h
    rw [runWhile_nil]
    exact ⟨.verdict go, rfl⟩
  | cons e es ih =>
    obtain ⟨r, hr, h⟩ := bind_eq_ok h
    obtain ⟨rs, hrs, h⟩ := bind_eq_ok h
    cases h
    -- the rest is asked in the session that the first one leaves, if it has come to `go`
    have hjudged := (hrun e List.mem_cons_self r hr s).judged
    rw [runWhile_cons, walkEach]
    by_cases hgo : (e.walk M act s).ending = .verdict go
    · simp only [if_pos hgo]
      refine hjudged.goOn hgo ?_
      rw [if_pos rfl]
      exact ih hrs (fun e he => hrun e (List.mem_cons_of_mem _ he)) _
    · simp only [if_neg hgo]
      refine hjudged.stop fun b hb => if_neg ?_
      rintro rfl
      exact hgo hb

/-- **A refinement runs as its formula walks.** It asks the leaves that are visited, in the order
of the walk, and leaves the session that they leave. A fault that a leaf ends in is what the
refinement ends in, sealed where it has to leave a lazily evaluated condition. -/
theorem run_walk (e : Formula ℓ) (h : e.build leafOf = .ok r) (s : Session σ α) :
    (e.walk M (asking M call leafOf x) s).Traced M (asking M call leafOf x) e.isLazy s
      ((r.run M call x).runFrom s) := by
  induction e generalizing r s with
  | leaf l =>
    cases h
    exact ⟨Ending.shown_of M _, rfl⟩
  | all handle stages ih =>
    obtain ⟨rs, hrs, h⟩ := bind_eq_ok h
    rcases allOf_eq_ok h with rfl | ⟨hlen, rfl⟩
    · -- a single stage is built into that stage itself, without a condition around it
      obtain ⟨e, rfl, hr⟩ := buildEach_single hrs
      rw [walk, walkEach_single]
      exact ih e List.mem_cons_self hr s
    · rw [isLazy_all (by rw [← length_buildEach hrs]; exact hlen), Refinement.run]
      exact (runWhile_walk true hrs (fun e he r hr s => ih e he hr s) s).answer
  | any handle siblings ih =>
    obtain ⟨rs, hrs, h⟩ := bind_eq_ok h
    obtain ⟨-, rfl⟩ := anyOf_eq_ok h
    rw [Refinement.run]
    exact (runWhile_walk false hrs (fun e he r hr s => ih e he hr s) s).answer
  | complement handle inner ih =>
    obtain ⟨q, hq, h⟩ := bind_eq_ok h
    cases h
    rw [Refinement.run]
    exact (ih hq s).negate

/-- Only bare predicates and ready-made classifiers answer with anything but a truth value. -/
theorem run_answer (hf : ∀ f, r ≠ .function f) (hq : ∀ handle q, r ≠ .readymade handle q)
    {s t : Session σ α} {v : α} (h : (r.run M call x).runFrom s = (.ok v, t)) :
    ∃ b, v = M.ofBool b := by
  cases r with
  | function f => exact absurd rfl (hf f)
  | readymade handle q => exact absurd rfl (hq handle q)
  | classified handle classifier checking target title =>
    rw [Refinement.run, Contract.enforce] at h
    obtain ⟨outcome, u, -, h⟩ := Eval.runFrom_bind_eq_ok h
    obtain ⟨-, u', -, h⟩ := Eval.runFrom_bind_eq_ok h
    cases h
    exact ⟨_, rfl⟩
  | all handle stages | any handle siblings =>
    rw [Refinement.run, map_eq_pure_bind] at h
    obtain ⟨b, u, -, h⟩ := Eval.runFrom_bind_eq_ok h
    cases h
    exact ⟨b, rfl⟩
  | complement handle inner =>
    rw [Refinement.run] at h
    obtain ⟨answer, u, -, h⟩ := Eval.runFrom_bind_eq_ok h
    obtain ⟨b, u', -, h⟩ := Eval.runFrom_bind_eq_ok h
    cases h
    exact ⟨_, rfl⟩

/-- **Where the leaves answer with truth values, the walk determines the run**, down to the object
that is answered. -/
theorem run_eq (e : Formula ℓ) (h : e.build leafOf = .ok r)
    (hleaf : ∀ l s v t, ((leafOf l).run M call x).runFrom s = (.ok v, t) → ∃ b, v = M.ofBool b)
    (s : Session σ α) : (r.run M call x).runFrom s =
      ((e.walk M (asking M call leafOf x) s).ending.answer M e.isLazy,
        after (asking M call leafOf x) (e.walk M (asking M call leafOf x) s).visits s) := by
  have htraced : (e.walk M (asking M call leafOf x) s).Traced M (asking M call leafOf x) e.isLazy s
      ((r.run M call x).runFrom s) := run_walk e h s
  have htruth : ∀ v t, (r.run M call x).runFrom s = (.ok v, t) → ∃ b, v = M.ofBool b := by
    intro v t hv
    rcases build_cases e h with ⟨l, rfl⟩ | ⟨hf, hq⟩
    · exact hleaf l s v t hv
    · exact run_answer hf hq hv
  have htold : ∀ f, (e.walk M (asking M call leafOf x) s).ending ≠ .untold f := by
    intro f hf
    rcases (walk_sound e s).ended with ⟨b, hb⟩ | ⟨earlier, l, -, hend⟩
    · rw [hf] at hb
      cases hb
    · -- the last leaf would have to answer with something that is no truth value
      rw [hf, Eval.ending] at hend
      rcases hrun : ((leafOf l).run M call x).runFrom
        (after (asking M call leafOf x) earlier s) with ⟨g | v, t⟩
      · rw [hrun] at hend
        cases hend
      · obtain ⟨b, rfl⟩ := hleaf l _ v t hrun
        rw [hrun, Ending.of_truth (M.truth_ofBool b)] at hend
        cases hend
  refine Prod.ext (htraced.shown.eq_answer (fun v hv => ?_) htold) htraced.session
  exact htruth v _ (Prod.ext hv rfl)

open Menagerie

/-- **A fault propagates through every combination, unless it is an exhausted iterator.** A
visited leaf that ends in a fault is the last one. The evaluation ends in the session that this
leaf has left, and in the fault of the leaf: in this very one exactly when the fault is no
exhausted iterator, or has no lazily evaluated condition to leave. -/
theorem fault_propagates {e : Formula ℓ} (h : e.build leafOf = .ok r) {s t : Session σ α} {l : ℓ}
    {earlier later : List ℓ} {f : Fault}
    (hvisit : (e.walk M (asking M call leafOf x) s).visits = earlier ++ l :: later)
    (hraise : ((leafOf l).run M call x).runFrom (after (asking M call leafOf x) earlier s) =
      (.error f, t)) :
    later = [] ∧
    (r.run M call x).runFrom s = (.error (if e.isLazy then f.sealed else f), t) ∧
    (((r.run M call x).runFrom s).1 = .error f ↔ f.kind ≠ .stopIteration ∨ e.isLazy = false) := by
  have hend : ((leafOf l).run M call x).ending M
      (after (asking M call leafOf x) earlier s) = .raised f := by
    rw [Eval.ending, hraise]
    rfl
  -- a leaf that gives no verdict is the last one, and the walk ends as it does
  obtain ⟨hlast, hwalk⟩ : later = [] ∧
      (e.walk M (asking M call leafOf x) s).ending = .raised f := by
    rcases (walk_sound e s).visited hvisit with ⟨b, hb⟩ | ⟨hlast, hw⟩
    · rw [hend] at hb
      cases hb
    · exact ⟨hlast, hw.trans hend⟩
  have htraced : (e.walk M (asking M call leafOf x) s).Traced M (asking M call leafOf x) e.isLazy s
      ((r.run M call x).runFrom s) := run_walk e h s
  have hanswer : ((r.run M call x).runFrom s).1 = .error (if e.isLazy then f.sealed else f) := by
    have hshown := htraced.shown
    rw [hwalk] at hshown
    generalize ((r.run M call x).runFrom s).1 = answer at hshown ⊢
    cases hshown
    rfl
  have hsession : ((r.run M call x).runFrom s).2 = t := by
    rw [htraced.session, hvisit, hlast, after_append]
    exact congrArg Prod.snd hraise
  refine ⟨hlast, Prod.ext hanswer hsession, ?_⟩
  rw [hanswer, Except.error.injEq]
  cases e.isLazy with
  | false => simp
  | true => simp only [if_true, Fault.sealed_eq_iff, Bool.true_eq_false, or_false]

/-- The key fault of the first of two siblings under a complement is what the whole ends in. -/
theorem fault_propagates_key :
    let call : Bool → Value → Eval Unit Value Value :=
      fun b _ => if b then throw ⟨.keyError, "'colour'"⟩ else pure (.bool true)
    let e : Formula Bool := .complement 1 (.any 0 [.leaf true, .leaf false])
    let r : Refinement Bool Value Species := .complement 1 (.any 0 [.function true, .function false])
    e.build (fun b => .function b) = .ok r ∧
    (r.run model call (.ofInt 0 1)).runFrom ⟨.record, [], ()⟩ =
      (.error ⟨.keyError, "'colour'"⟩, ⟨.record, [], ()⟩) := by
  intro call e r
  have hbuilt : e.build (fun b => (.function b : Refinement Bool Value Species)) = .ok r := rfl
  have hvisit : (e.walk model (fun b => (.function b : Refinement Bool Value Species).run model call
      (.ofInt 0 1)) ⟨.record, [], ()⟩).visits = [] ++ true :: [] := rfl
  exact ⟨hbuilt, (fault_propagates hbuilt hvisit rfl).2.1⟩

/-- **An exhausted iterator does not get out of two stages**: what the first stage ends in is a
fault of its own, and the evaluation ends in a runtime fault. -/
theorem exhausted_stage :
    let call : Bool → Value → Eval Unit Value Value :=
      fun b _ => if b then throw ⟨.stopIteration, ""⟩ else pure (.bool true)
    let e : Formula Bool := .all 0 [.leaf true, .leaf false]
    ∃ r : Refinement Bool Value Species, e.build (fun b => .function b) = .ok r ∧
      (call true (.ofInt 0 1)).runFrom ⟨.record, [], ()⟩ =
        (.error ⟨.stopIteration, ""⟩, ⟨.record, [], ()⟩) ∧
      (r.run model call (.ofInt 0 1)).runFrom ⟨.record, [], ()⟩ =
        (.error ⟨.runtimeError, "generator raised StopIteration"⟩, ⟨.record, [], ()⟩) :=
  ⟨_, rfl, rfl, rfl⟩

end Formula

end Narrowing
