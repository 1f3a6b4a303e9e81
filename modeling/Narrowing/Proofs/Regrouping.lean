import Narrowing.Proofs.Leaves
import Narrowing.Proofs.Reordering

/-!
# Chains in groups

Stages of stages are stages, and siblings of siblings are siblings: in whatever groups a sequence of
refinements is put, the chain asks them from left to right up to the first that settles it. What it
answers is a truth value, though its leaves may answer with anything; and a chain that is a single
stage is that stage itself.

* `Formula.IsChain`: stages within stages only, or siblings within siblings only.
* `Formula.IsChain.build_single`: a chain over a single leaf is that leaf.
* `Formula.IsChain.walk_eq`: a chain visits its leaves as they are visited without groups.
* `Formula.IsChain.run_eq`: a chain of two or more leaves runs as they do without groups.
* `Formula.regrouping_keeps_run`: two groupings of a sequence do the same.
-/

namespace Narrowing

variable {ι α κ σ ℓ β γ : Type}

namespace Eval

variable {x : Eval σ α β}

/-- **An evaluation that never ends in an exhausted iterator.** -/
def IsCalm (x : Eval σ α β) : Prop :=
  ∀ s f t, x.runFrom s = (.error f, t) → f.kind ≠ .stopIteration

/-- A lazily evaluated condition does not change a calm evaluation. -/
theorem IsCalm.sealed_eq (h : x.IsCalm) : x.sealed = x := by
  funext s
  have hsealed : x.sealed.runFrom s = x.runFrom s := by
    rw [runFrom_sealed, sealedCheck_eq_self fun f hf => h s f _ (Prod.ext hf rfl)]
  exact hsealed

/-- What comes out of a lazily evaluated condition is calm. -/
theorem isCalm_sealed (x : Eval σ α β) : x.sealed.IsCalm := by
  intro s f t h
  rw [runFrom_sealed] at h
  rcases hx : (x.runFrom s).1 with g | b
  · rw [hx] at h
    cases h
    exact Fault.sealed_eq_iff.1 g.sealed_sealed
  · rw [hx] at h
    cases h

/-- Steps are calm if each of them is, where it is started. -/
theorem IsCalm.bind {next : β → Eval σ α γ} (hx : x.IsCalm)
    (hnext : ∀ s b t, x.runFrom s = (.ok b, t) → ∀ f u, (next b).runFrom t = (.error f, u) →
      f.kind ≠ .stopIteration) : (x >>= next).IsCalm := by
  intro s f u h
  rcases hs : x.runFrom s with ⟨g | b, t⟩
  · rw [runFrom_bind_error hs] at h
    cases h
    exact hx s f u hs
  · rw [runFrom_bind_ok hs] at h
    exact hnext s b t hs f u h

end Eval

namespace Formula

/-- **Chains**: formulas with stages only, at least one in each group, or with siblings only, at least
two in each group. A chain goes on as long as its leaves give the verdict `go`. -/
inductive IsChain : Bool → Formula ℓ → Prop where
  | leaf (go l) : IsChain go (leaf l)
  | all {handle stages} (hlen : 1 ≤ stages.length) (h : ∀ e ∈ stages, IsChain true e) :
      IsChain true (all handle stages)
  | any {handle siblings} (hlen : 2 ≤ siblings.length) (h : ∀ e ∈ siblings, IsChain false e) :
      IsChain false (any handle siblings)

variable {go : Bool} {e f : Formula ℓ} {es fs : List (Formula ℓ)}

/-- A chain can be built. -/
theorem IsChain.wellFormed (h : e.IsChain go) : e.WellFormed := by
  induction h with
  | leaf _ l => exact .leaf l
  | all hlen _ ih => exact .all hlen ih
  | any hlen _ ih => exact .any hlen ih

theorem length_le_leavesEach (h : ∀ e ∈ es, 1 ≤ e.leaves.length) :
    es.length ≤ (leavesEach es).length := by
  induction es with
  | nil => exact Nat.zero_le _
  | cons e es ih =>
    rw [List.forall_mem_cons] at h
    have hrest := ih h.2
    rw [leavesEach, List.length_append, List.length_cons]
    omega

/-- A chain has a leaf. -/
theorem IsChain.length_leaves (h : e.IsChain go) : 1 ≤ e.leaves.length := by
  induction h with
  | leaf _ l => exact Nat.le_refl 1
  | all hlen _ ih => exact Nat.le_trans hlen (length_le_leavesEach ih)
  | any hlen _ ih => exact Nat.le_trans (Nat.le_of_succ_le hlen) (length_le_leavesEach ih)

/-- **A chain over a single leaf is that leaf.** -/
theorem IsChain.build_single {leafOf : ℓ → Refinement ι α κ} {r : Refinement ι α κ} {l : ℓ}
    (h : e.IsChain go) (hr : e.build leafOf = .ok r) (hl : e.leaves = [l]) : r = leafOf l := by
  induction h generalizing r with
  | leaf go k =>
    cases hl
    cases hr
    rfl
  | @all handle stages hlen hchain ih =>
    obtain ⟨rs, hrs, hall⟩ := bind_eq_ok hr
    have hstages := length_le_leavesEach fun e he => (hchain e he).length_leaves
    rw [leaves] at hl
    rcases allOf_eq_ok hall with rfl | ⟨hlong, rfl⟩
    · obtain ⟨e, rfl, hstage⟩ := buildEach_single hrs
      rw [leavesEach, leavesEach, List.append_nil] at hl
      exact ih e List.mem_cons_self hstage hl
    · rw [length_buildEach hrs] at hlong
      rw [hl] at hstages
      exact absurd (Nat.le_trans hlong hstages) (by simp)
  | @any handle siblings hlen hchain ih =>
    -- siblings have two leaves or more
    have hsiblings := length_le_leavesEach fun e he => (hchain e he).length_leaves
    rw [leaves] at hl
    rw [hl] at hsiblings
    exact absurd (Nat.le_trans hlen hsiblings) (by simp)

section Walk

variable {M : ObjectModel α κ} {act : ℓ → Eval σ α α}

/-- Formulas are gone through in two parts, the second where the first has left off. -/
theorem walkEach_append (s : Session σ α) : walkEach M act go (es ++ fs) s =
    if (walkEach M act go es s).ending = .verdict go then
      (walkEach M act go es s).followedBy
        (walkEach M act go fs (after act (walkEach M act go es s).visits s))
    else walkEach M act go es s := by
  induction es generalizing s with
  | nil => simp only [walkEach, Walk.followedBy, after, List.foldl_nil, List.nil_append, if_true]
  | cons e es ih =>
    rw [List.cons_append, walkEach, walkEach]
    by_cases hgo : (e.walk M act s).ending = .verdict go
    · simp only [if_pos hgo, ih]
      by_cases hrest : (walkEach M act go es (after act (e.walk M act s).visits s)).ending = .verdict go
      · simp only [hrest, if_true, Walk.followedBy, after_append, List.append_assoc]
      · simp only [hrest, if_false, Walk.followedBy]
    · simp only [if_neg hgo]

theorem walkEach_leavesEach
    (h : ∀ e ∈ es, ∀ s, e.walk M act s = walkEach M act go (e.leaves.map .leaf) s) (s : Session σ α) :
    walkEach M act go es s = walkEach M act go ((leavesEach es).map .leaf) s := by
  induction es generalizing s with
  | nil => rfl
  | cons e es ih =>
    rw [List.forall_mem_cons] at h
    rw [leavesEach, List.map_append, walkEach_append, walkEach, h.1]
    simp only [ih h.2]

/-- **A chain visits its leaves as they are visited without groups.** -/
theorem IsChain.walk_eq (h : e.IsChain go) (s : Session σ α) :
    e.walk M act s = walkEach M act go (e.leaves.map .leaf) s := by
  induction h generalizing s with
  | leaf go l => exact (walkEach_single go (.leaf l) s).symm
  | all _ _ ih => exact walkEach_leavesEach (fun e he s => ih e he s) s
  | any _ _ ih => exact walkEach_leavesEach (fun e he s => ih e he s) s

/-- Leaves are visited from the first one on, without a gap. -/
theorem walkEach_visits_prefix (ls : List ℓ) (s : Session σ α) :
    (walkEach M act go (ls.map .leaf) s).visits <+: ls := by
  induction ls generalizing s with
  | nil => exact List.nil_prefix
  | cons l ls ih =>
    rw [List.map_cons, walkEach]
    split
    · exact (List.prefix_append_right_inj [l]).2 (ih _)
    · exact List.prefix_append [l] ls

end Walk

section Run

variable [DecidableEq α] [DecidableEq κ] {M : ObjectModel α κ} {call : ι → α → Eval σ α α} {x : α}
  {leafOf : ℓ → Refinement ι α κ} {r : Refinement ι α κ} {rs qs : List (Refinement ι α κ)}

/-- What a refinement answers, tested for its truth in a lazily evaluated condition. -/
abbrev judged (M : ObjectModel α κ) (call : ι → α → Eval σ α α) (x : α) (r : Refinement ι α κ) :
    Eval σ α Bool :=
  (r.run M call x).sealed >>= fun v => Eval.ofExcept (M.truth v)

/-- **A refinement whose answers can be tested for their truth** without an exhausted iterator. -/
def Testable (M : ObjectModel α κ) (call : ι → α → Eval σ α α) (x : α) (r : Refinement ι α κ) : Prop :=
  ∀ s v t, (r.run M call x).runFrom s = (.ok v, t) → ∀ g, M.truth v = .error g →
    g.kind ≠ .stopIteration

theorem runWhile_single (go : Bool) : runWhile M call go [r] x = judged M call x r := by
  rw [runWhile_cons]
  have hlast : (fun b : Bool => if b = go then runWhile M call go [] x else pure b) = pure := by
    funext b
    rw [runWhile_nil]
    split
    · rename_i hb
      rw [hb]
    · rfl
  rw [hlast, bind_pure]

/-- Refinements are asked in two parts, the second if the first leaves the matter open. -/
theorem runWhile_append : runWhile M call go (rs ++ qs) x =
    runWhile M call go rs x >>= fun b => if b = go then runWhile M call go qs x else pure b := by
  induction rs with
  | nil => simp only [List.nil_append, runWhile_nil, pure_bind, if_true]
  | cons r rs ih =>
    rw [List.cons_append, runWhile_cons, runWhile_cons, ih]
    refine Eq.trans ?_ (bind_assoc (judged M call x r) _ _).symm
    refine congrArg (judged M call x r >>= ·) (funext fun b => ?_)
    by_cases hb : b = go
    · simp only [if_pos hb]
    · simp only [if_neg hb, pure_bind]

theorem isCalm_judged (h : Testable M call x r) : (judged M call x r).IsCalm := by
  refine (Eval.isCalm_sealed _).bind fun s v t hv f u hf => ?_
  rw [Eval.runFrom_ofExcept] at hf
  rw [Eval.runFrom_sealed, Prod.mk.injEq, sealedCheck_eq_ok] at hv
  have hrun : (r.run M call x).runFrom s = (.ok v, t) := Prod.ext hv.1 hv.2
  exact h s v t hrun f (congrArg Prod.fst hf)

theorem isCalm_runWhile (h : ∀ r ∈ rs, Testable M call x r) : (runWhile M call go rs x).IsCalm := by
  induction rs with
  | nil =>
    rw [runWhile_nil]
    intro s f t hf
    cases hf
  | cons r rs ih =>
    rw [List.forall_mem_cons] at h
    rw [runWhile_cons]
    refine (isCalm_judged h.1).bind fun s b t _ f u hf => ?_
    split at hf
    · exact ih h.2 t f u hf
    · cases hf

/-- A verdict that has been told is judged as it is, behind the seal. -/
theorem judged_of_run {W : Eval σ α Bool} (h : r.run M call x = M.ofBool <$> W) :
    judged M call x r = W.sealed := by
  funext s
  have hsame : (judged M call x r).runFrom s = W.sealed.runFrom s := by
    rw [judged, h, Eval.runFrom_sealed]
    have hmap := Eval.runFrom_map M.ofBool W s
    rcases hW : W.runFrom s with ⟨g | b, t⟩
    · have hsealed : (M.ofBool <$> W).sealed.runFrom s = (.error g.sealed, t) := by
        rw [Eval.runFrom_sealed, hmap, hW]
        rfl
      rw [Eval.runFrom_bind_error hsealed]
      rfl
    · have hsealed : (M.ofBool <$> W).sealed.runFrom s = (.ok (M.ofBool b), t) := by
        rw [Eval.runFrom_sealed, hmap, hW]
        rfl
      rw [Eval.runFrom_bind_ok hsealed, Eval.runFrom_ofExcept, M.truth_ofBool]
      rfl
  exact hsame

/-- Groups are asked as their leaves are, if this is so of each group that has two or more. -/
theorem runWhile_groups (hchain : ∀ e ∈ es, e.IsChain go) (hbuilt : buildEach leafOf es = .ok rs)
    (htruth : ∀ l ∈ leavesEach es, Testable M call x (leafOf l))
    (h : ∀ e ∈ es, ∀ r, e.build leafOf = .ok r → 2 ≤ e.leaves.length →
      (∀ l ∈ e.leaves, Testable M call x (leafOf l)) →
      r.run M call x = M.ofBool <$> runWhile M call go (e.leaves.map leafOf) x) :
    runWhile M call go rs x = runWhile M call go ((leavesEach es).map leafOf) x := by
  induction es generalizing rs with
  | nil =>
    cases hbuilt
    rfl
  | cons e es ih =>
    obtain ⟨r, hr, hbuilt⟩ := bind_eq_ok hbuilt
    obtain ⟨rs, hrs, hbuilt⟩ := bind_eq_ok hbuilt
    cases hbuilt
    rw [List.forall_mem_cons] at hchain h
    rw [leavesEach, List.forall_mem_append] at htruth
    have hgroup : judged M call x r = runWhile M call go (e.leaves.map leafOf) x := by
      -- a group of one is its leaf; a longer one has sealed its faults and answers with a truth value
      rcases Nat.eq_or_lt_of_le hchain.1.length_leaves with hone | hmore
      · obtain ⟨l, hl⟩ := List.length_eq_one_iff.1 hone.symm
        rw [hchain.1.build_single hr hl, hl, List.map_singleton, runWhile_single]
      · rw [judged_of_run (h.1 r hr hmore htruth.1)]
        exact (isCalm_runWhile (List.forall_mem_map.2 htruth.1)).sealed_eq
    rw [leavesEach, List.map_append, runWhile_append, ← hgroup, ← ih hchain.2 hrs htruth.2 h.2]
    exact runWhile_cons go

/-- **A chain of two or more leaves runs as they do without groups.** -/
theorem IsChain.run_eq (he : e.IsChain go) (h : e.build leafOf = .ok r) (hlen : 2 ≤ e.leaves.length)
    (htruth : ∀ l ∈ e.leaves, Testable M call x (leafOf l)) :
    r.run M call x = M.ofBool <$> runWhile M call go (e.leaves.map leafOf) x := by
  induction he generalizing r with
  | leaf go l => exact absurd hlen (by simp [leaves])
  | @all handle stages _ hchain ih =>
    obtain ⟨rs, hrs, h⟩ := bind_eq_ok h
    rcases allOf_eq_ok h with rfl | ⟨-, rfl⟩
    · -- a single stage is built into that stage, which has all the leaves
      obtain ⟨e, rfl, hr⟩ := buildEach_single hrs
      rw [leaves, leavesEach, leavesEach, List.append_nil] at hlen htruth ⊢
      exact ih e List.mem_cons_self hr hlen htruth
    · rw [Refinement.run]
      exact congrArg (M.ofBool <$> ·) (runWhile_groups hchain hrs htruth fun e he r => ih e he)
  | @any handle siblings _ hchain ih =>
    obtain ⟨rs, hrs, h⟩ := bind_eq_ok h
    obtain ⟨-, rfl⟩ := anyOf_eq_ok h
    rw [Refinement.run]
    exact congrArg (M.ofBool <$> ·) (runWhile_groups hchain hrs htruth fun e he r => ih e he)

/-- **Regrouping a chain changes nothing.** Two chains that group the same leaves, in the same order,
are both built into refinements. Over a single leaf both are that leaf. With any candidate for which
the answers of the leaves can be tested for their truth, both chains make the same walk along the
leaves, from the first one on and without a gap; they come to the same answer or fault, in the
session that the visited leaves leave. With two or more leaves the answer is a truth value, whatever
the leaves answer with. -/
theorem regrouping_keeps_run (M : ObjectModel α κ) (call : ι → α → Eval σ α α)
    (leafOf : ℓ → Refinement ι α κ) (he : e.IsChain go) (hf : f.IsChain go)
    (hleaves : e.leaves = f.leaves) :
    ∃ r q, e.build leafOf = .ok r ∧ f.build leafOf = .ok q ∧
      (∀ l, e.leaves = [l] → r = leafOf l ∧ q = leafOf l) ∧
      ∀ x, (∀ l ∈ e.leaves, Testable M call x (leafOf l)) → ∀ s,
        (q.run M call x).runFrom s = (r.run M call x).runFrom s ∧
        f.walk M (asking M call leafOf x) s = e.walk M (asking M call leafOf x) s ∧
        (e.walk M (asking M call leafOf x) s).visits <+: e.leaves ∧
        ((r.run M call x).runFrom s).2 =
          after (asking M call leafOf x) (e.walk M (asking M call leafOf x) s).visits s ∧
        (2 ≤ e.leaves.length → ∀ v, ((r.run M call x).runFrom s).1 = .ok v →
          v = M.ofBool true ∨ v = M.ofBool false) := by
  obtain ⟨r, hr⟩ : ∃ r, e.build leafOf = .ok r := he.wellFormed.build_ok
  obtain ⟨q, hq⟩ : ∃ q, f.build leafOf = .ok q := hf.wellFormed.build_ok
  have hsingle : ∀ l, e.leaves = [l] → r = leafOf l ∧ q = leafOf l := fun l hl =>
    ⟨he.build_single hr hl, hf.build_single hq (hleaves ▸ hl)⟩
  refine ⟨r, q, hr, hq, hsingle, fun x htruth s => ⟨?_, ?_, ?_, ?_, fun hlen v hv => ?_⟩⟩
  -- a single leaf may answer with any object, several leaves come to a truth value
  · rcases Nat.eq_or_lt_of_le he.length_leaves with hone | hmore
    · obtain ⟨l, hl⟩ := List.length_eq_one_iff.1 hone.symm
      rw [(hsingle l hl).1, (hsingle l hl).2]
    · rw [he.run_eq hr hmore htruth, hf.run_eq hq (hleaves ▸ hmore) (hleaves ▸ htruth), hleaves]
  · rw [he.walk_eq, hf.walk_eq, hleaves]
  · rw [he.walk_eq]
    exact walkEach_visits_prefix e.leaves s
  · exact (run_walk e hr s).session
  · rw [he.run_eq hr hlen htruth, Eval.runFrom_map] at hv
    obtain ⟨b, -, rfl⟩ := map_eq_ok hv
    cases b
    · exact .inr rfl
    · exact .inl rfl

end Run

open Menagerie in
/-- An answer that is no truth value, and then an exhausted iterator, which is a runtime fault behind
one condition and behind two: the first leaf is not asked again in the third place. -/
theorem regrouping_keeps_run_exhausted :
    let call : Bool → Value → Eval Unit Value Value := fun b x =>
      if b then pure x else throw ⟨.stopIteration, "1"⟩
    let e : Formula Bool := .all 1 [.all 0 [.leaf true, .leaf false], .leaf true]
    let f : Formula Bool := .all 1 [.leaf true, .all 0 [.all 2 [.leaf false], .leaf true]]
    let r : Refinement Bool Value Species :=
      .all 1 [.all 0 [.function true, .function false], .function true]
    let q : Refinement Bool Value Species :=
      .all 1 [.function true, .all 0 [.function false, .function true]]
    let s : Session (List (Bool × Value) × Unit) Value := ⟨.record, [], ([], ())⟩
    let out := (q.run model (onTape call) (.ofInt 0 5)).runFrom s
    e.IsChain true ∧ f.IsChain true ∧ e.leaves = f.leaves ∧
    (∀ b, Testable model (onTape call) (.ofInt 0 5) (.function b)) ∧
    out = (r.run model (onTape call) (.ofInt 0 5)).runFrom s ∧
    out.1 = .error ⟨.runtimeError, "generator raised StopIteration"⟩ ∧
    out.2.calls = [(true, .ofInt 0 5), (false, .ofInt 0 5)] := by
  intro call e f r q s out
  have he : e.IsChain true := by
    have hgroup : (all 0 [leaf true, leaf false]).IsChain true :=
      .all (by decide) (by simp [IsChain.leaf])
    exact .all (by decide) (by simp [hgroup, IsChain.leaf])
  have hf : f.IsChain true := by
    have hsingle : (all 2 [leaf false]).IsChain true := .all (by decide) (by simp [IsChain.leaf])
    have hgroup : (all 0 [all 2 [leaf false], leaf true]).IsChain true :=
      .all (by decide) (by simp [hsingle, IsChain.leaf])
    exact .all (by decide) (by simp [hgroup, IsChain.leaf])
  have htruth : ∀ b, Testable model (onTape call) (.ofInt 0 5) (.function b) := by
    intro b s v t h g hg
    rw [Refinement.run] at h
    cases b with
    | false => cases h
    | true =>
      cases h
      cases hg
  obtain ⟨r', q', hr, hq, -, hrun⟩ :=
    regrouping_keeps_run model (onTape call) .function he hf rfl
  cases hr
  cases hq
  obtain ⟨hsame, -⟩ := hrun (.ofInt 0 5) (fun b _ => htruth b) s
  exact ⟨he, hf, rfl, htruth, hsame, rfl, rfl⟩

end Formula

end Narrowing
