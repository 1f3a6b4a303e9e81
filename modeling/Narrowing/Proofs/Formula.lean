import Narrowing.Proofs.Evaluation
import Narrowing.Refinement.Construction

/-!
# Formulas over leaves

A **formula** combines leaves the way refinements are combined. Its leaves are asked from left
to right, and none is asked once the verdict is settled: `Formula.walk` tells which leaves are
visited, and what the formula comes to.

* `Formula.build`: the refinement that a formula stands for.
* `Formula.walk_sound`: every visited leaf gives a verdict, or it is the last one, and the walk
  ends as this leaf does.
-/

namespace Narrowing

/-- **Formulas** over leaves `ℓ`. The handles are those of the refinements to be built. -/
inductive Formula (ℓ : Type) where
  | leaf (l : ℓ)
  | all (handle : Nat) (stages : List (Formula ℓ))
  | any (handle : Nat) (siblings : List (Formula ℓ))
  | complement (handle : Nat) (inner : Formula ℓ)

/-- **What an evaluation comes to**: a verdict, a fault, or an answer that leaves the question
whether it is true without an answer. -/
inductive Ending where
  | verdict (b : Bool)
  | raised (f : Fault)
  | untold (f : Fault)
deriving DecidableEq, Repr

/-- The leaves that are visited, in this order, and what the visits come to. -/
structure Walk (ℓ : Type) where
  visits : List ℓ
  ending : Ending
deriving DecidableEq, Repr

variable {ι α κ σ ℓ : Type}

namespace Ending

/-- What an answer or a fault comes to. -/
def of (M : ObjectModel α κ) : Except Fault α → Ending
  | .error f => raised f
  | .ok v =>
      match M.truth v with
      | .ok b => verdict b
      | .error f => untold f

/-- The complement of a verdict. Anything else stays as it is. -/
def negate : Ending → Ending
  | verdict b => verdict (!b)
  | raised f => raised f
  | untold f => untold f

/-- The complement of an ending is a verdict where the ending is the other one. -/
theorem negate_eq_verdict {e : Ending} {b : Bool} :
    e.negate = .verdict (!b) ↔ e = .verdict b := by
  cases e <;> simp [negate]

theorem of_truth {M : ObjectModel α κ} {v : α} {b : Bool} (h : M.truth v = .ok b) :
    of M (.ok v) = verdict b := by
  simp only [of, h]

theorem of_untold {M : ObjectModel α κ} {v : α} {f : Fault} (h : M.truth v = .error f) :
    of M (.ok v) = untold f := by
  simp only [of, h]

end Ending

namespace Walk

/-- The walk of a complement. -/
def negate (w : Walk ℓ) : Walk ℓ := ⟨w.visits, w.ending.negate⟩

/-- A walk that goes on with another one. -/
def followedBy (w u : Walk ℓ) : Walk ℓ := ⟨w.visits ++ u.visits, u.ending⟩

theorem negate_negate (w : Walk ℓ) : w.negate.negate = w := by
  rcases w with ⟨visits, ending⟩
  cases ending <;> simp [negate, Ending.negate]

end Walk

/-- What an evaluation started in a session comes to. -/
def Eval.ending (M : ObjectModel α κ) (x : Eval σ α α) (s : Session σ α) : Ending :=
  .of M (x.runFrom s).1

/-- The session that some leaves leave, asked one after the other. -/
def after (act : ℓ → Eval σ α α) (visits : List ℓ) (s : Session σ α) : Session σ α :=
  visits.foldl (fun t l => ((act l).runFrom t).2) s

theorem after_append (act : ℓ → Eval σ α α) (earlier later : List ℓ) (s : Session σ α) :
    after act (earlier ++ later) s = after act later (after act earlier s) :=
  List.foldl_append

/-- **A walk is sound**: every visited leaf gives a verdict, or is the last one, and the walk ends
as this leaf does. A walk that comes to no verdict has such a leaf. -/
structure Walk.Sound (M : ObjectModel α κ) (act : ℓ → Eval σ α α) (s : Session σ α) (w : Walk ℓ) :
    Prop where
  visited : ∀ {earlier l later}, w.visits = earlier ++ l :: later →
    (∃ b, (act l).ending M (after act earlier s) = .verdict b) ∨
    (later = [] ∧ w.ending = (act l).ending M (after act earlier s))
  ended : (∃ b, w.ending = .verdict b) ∨ ∃ earlier l, w.visits = earlier ++ [l] ∧
    w.ending = (act l).ending M (after act earlier s)

namespace Walk.Sound

variable {M : ObjectModel α κ} {act : ℓ → Eval σ α α} {s : Session σ α} {w u : Walk ℓ}

theorem leaf (l : ℓ) : Sound M act s ⟨[l], (act l).ending M s⟩ where
  visited := by
    intro earlier l' later h
    cases earlier with
    | nil => cases h; exact .inr ⟨rfl, rfl⟩
    | cons k earlier => simp at h
  ended := .inr ⟨[], l, rfl, rfl⟩

theorem done (b : Bool) : Sound M act s ⟨[], .verdict b⟩ where
  visited h := by simp at h
  ended := .inl ⟨b, rfl⟩

/-- Only verdicts have a complement of their own. -/
theorem negate (h : Sound M act s w) : Sound M act s w.negate := by
  have hsame : (∃ b, w.ending = .verdict b) ∨ w.ending.negate = w.ending := by
    cases w.ending with
    | verdict b => exact .inl ⟨b, rfl⟩
    | raised f | untold f => exact .inr rfl
  refine ⟨fun hv => ?_, ?_⟩
  · rcases h.visited hv with hb | ⟨hlast, hend⟩
    · exact .inl hb
    · rcases hsame with ⟨b, hb⟩ | hsame
      · exact .inl ⟨b, by rw [← hend, hb]⟩
      · exact .inr ⟨hlast, hsame.trans hend⟩
  · rcases hsame with ⟨b, hb⟩ | hsame
    · exact .inl ⟨!b, by rw [Walk.negate, hb]; rfl⟩
    · have hend : w.negate.ending = w.ending := hsame
      rw [hend]
      exact h.ended

/-- A walk that has come to a verdict can go on. -/
theorem followedBy {b : Bool} (hw : Sound M act s w) (hb : w.ending = .verdict b)
    (hu : Sound M act (after act w.visits s) u) : Sound M act s (w.followedBy u) := by
  refine ⟨fun {earlier l later} hv => ?_, ?_⟩
  · rcases List.append_eq_append_iff.1 hv with ⟨between, rfl, hu'⟩ | ⟨between, hw', hlater⟩
    · rw [after_append]
      exact hu.visited hu'
    · cases between with
      | nil =>
        rw [List.append_nil] at hw'
        have hfirst : u.visits = [] ++ l :: later := hlater.symm
        rw [← hw']
        exact hu.visited hfirst
      | cons k between =>
        -- the leaf belongs to the first walk, which has come to a verdict
        cases hlater
        rcases hw.visited hw' with hverdict | ⟨-, hend⟩
        · exact .inl hverdict
        · exact .inl ⟨b, by rw [← hend, hb]⟩
  · rcases hu.ended with hverdict | ⟨earlier, l, hvisits, hend⟩
    · exact .inl hverdict
    · refine .inr ⟨w.visits ++ earlier, l, ?_, ?_⟩
      · rw [Walk.followedBy, hvisits, List.append_assoc]
      · rw [after_append]
        exact hend

end Walk.Sound

namespace Formula

/-- **Induction on a formula**: what holds of a combination when it holds of every part. -/
@[elab_as_elim, induction_eliminator]
theorem induct {P : Formula ℓ → Prop} (leaf : ∀ l, P (.leaf l))
    (all : ∀ handle stages, (∀ e ∈ stages, P e) → P (.all handle stages))
    (any : ∀ handle siblings, (∀ e ∈ siblings, P e) → P (.any handle siblings))
    (complement : ∀ handle inner, P inner → P (.complement handle inner)) : ∀ e, P e
  | .leaf l => leaf l
  | .all handle stages => all handle stages fun e _ => induct leaf all any complement e
  | .any handle siblings => any handle siblings fun e _ => induct leaf all any complement e
  | .complement handle inner =>
      complement handle inner (induct leaf all any complement inner)

/-- Whether a fault has to leave a lazily evaluated condition on its way out of a formula. A
single stage is no condition. -/
def isLazy : Formula ℓ → Bool
  | leaf _ => false
  | all _ [e] => e.isLazy
  | all _ _ | any _ _ => true
  | complement _ inner => inner.isLazy

mutual

/-- **The refinement that a formula stands for**, where its leaves are these refinements. -/
def build (leafOf : ℓ → Refinement ι α κ) : Formula ℓ → Except Fault (Refinement ι α κ)
  | leaf l => .ok (leafOf l)
  | all handle stages => do Refinement.allOf handle (← buildEach leafOf stages)
  | any handle siblings => do Refinement.anyOf handle (← buildEach leafOf siblings)
  | complement handle inner => do return .complement handle (← build leafOf inner)

/-- Some formulas built from left to right. -/
def buildEach (leafOf : ℓ → Refinement ι α κ) :
    List (Formula ℓ) → Except Fault (List (Refinement ι α κ))
  | [] => .ok []
  | e :: es => do return (← build leafOf e) :: (← buildEach leafOf es)

end

variable (M : ObjectModel α κ) (act : ℓ → Eval σ α α)

mutual

/-- **The walk of a formula** whose leaves act in a session. -/
def walk : Formula ℓ → Session σ α → Walk ℓ
  | leaf l, s => ⟨[l], (act l).ending M s⟩
  | all _ stages, s => walkEach true stages s
  | any _ siblings, s => walkEach false siblings s
  | complement _ inner, s => (walk inner s).negate

/-- Formulas from left to right, as long as each of them gives the verdict `go`. -/
def walkEach (go : Bool) : List (Formula ℓ) → Session σ α → Walk ℓ
  | [], _ => ⟨[], .verdict go⟩
  | e :: es, s =>
      let w := walk e s
      if w.ending = .verdict go then w.followedBy (walkEach go es (after act w.visits s)) else w

end

variable {M act} {leafOf : ℓ → Refinement ι α κ} {r : Refinement ι α κ} {rs : List (Refinement ι α κ)}
  {handle : Nat} {es : List (Formula ℓ)}

/-- What a list of stages is built into. -/
theorem allOf_eq_ok (h : Refinement.allOf handle rs = .ok r) :
    rs = [r] ∨ (2 ≤ rs.length ∧ r = .all handle rs) := by
  match rs with
  | [] => cases h
  | [stage] => cases h; exact .inl rfl
  | stage :: next :: more =>
    cases h
    exact .inr ⟨by simp only [List.length_cons]; omega, rfl⟩

theorem anyOf_eq_ok (h : Refinement.anyOf handle rs = .ok r) :
    2 ≤ rs.length ∧ r = .any handle rs := by
  unfold Refinement.anyOf at h
  split at h
  · cases h
  · cases h
    exact ⟨by omega, rfl⟩

theorem length_buildEach (h : buildEach leafOf es = .ok rs) :
    rs.length = es.length := by
  induction es generalizing rs with
  | nil => cases h; rfl
  | cons e es ih =>
    obtain ⟨_, -, h⟩ := bind_eq_ok h
    obtain ⟨rest, hrest, h⟩ := bind_eq_ok h
    cases h
    rw [List.length_cons, List.length_cons, ih hrest]

/-- What is built into a single refinement is a single formula. -/
theorem buildEach_single (h : buildEach leafOf es = .ok [r]) :
    ∃ e, es = [e] ∧ e.build leafOf = .ok r := by
  match es, length_buildEach h with
  | [e], _ =>
    obtain ⟨q, hq, h⟩ := bind_eq_ok h
    cases h
    exact ⟨e, rfl, hq⟩

/-- A built refinement is a leaf or a combination. -/
theorem build_cases (e : Formula ℓ) (h : e.build leafOf = .ok r) : (∃ l, r = leafOf l) ∨
    ((∀ f, r ≠ .function f) ∧ ∀ handle q, r ≠ .readymade handle q) := by
  induction e generalizing r with
  | leaf l =>
    cases h
    exact .inl ⟨l, rfl⟩
  | all handle stages ih =>
    obtain ⟨rs, hrs, h⟩ := bind_eq_ok h
    rcases allOf_eq_ok h with rfl | ⟨-, rfl⟩
    · obtain ⟨e, he, hr⟩ := buildEach_single hrs
      subst he
      exact ih e List.mem_cons_self hr
    · exact .inr ⟨nofun, nofun⟩
  | any handle siblings _ =>
    obtain ⟨rs, -, h⟩ := bind_eq_ok h
    obtain ⟨-, rfl⟩ := anyOf_eq_ok h
    exact .inr ⟨nofun, nofun⟩
  | complement handle inner _ =>
    obtain ⟨q, -, h⟩ := bind_eq_ok h
    cases h
    exact .inr ⟨nofun, nofun⟩

theorem isLazy_all (h : 2 ≤ es.length) :
    (all handle es).isLazy = true := by
  match es with
  | [] | [_] => simp at h
  | _ :: _ :: _ => rfl

/-- A single stage walks as it does on its own. -/
theorem walkEach_single (go : Bool) (e : Formula ℓ) (s : Session σ α) :
    walkEach M act go [e] s = e.walk M act s := by
  rw [walkEach]
  by_cases hgo : (e.walk M act s).ending = .verdict go
  · rw [if_pos hgo]
    simp only [walkEach, Walk.followedBy, List.append_nil]
    rw [← hgo]
  · rw [if_neg hgo]

theorem walkEach_sound (go : Bool) (h : ∀ e ∈ es, ∀ s, (e.walk M act s).Sound M act s)
    (s : Session σ α) : (walkEach M act go es s).Sound M act s := by
  induction es generalizing s with
  | nil => exact .done go
  | cons e es ih =>
    have he := h e List.mem_cons_self s
    rw [walkEach]
    by_cases hgo : (e.walk M act s).ending = .verdict go
    · simp only [if_pos hgo]
      exact he.followedBy hgo (ih (fun e he => h e (List.mem_cons_of_mem _ he)) _)
    · simp only [if_neg hgo]
      exact he

/-- **A walk goes on as long as there are verdicts**, and ends as the first leaf that gives none. -/
theorem walk_sound (e : Formula ℓ) (s : Session σ α) : (e.walk M act s).Sound M act s := by
  induction e generalizing s with
  | leaf l => exact .leaf l
  | all handle stages ih => exact walkEach_sound true ih s
  | any handle siblings ih => exact walkEach_sound false ih s
  | complement handle inner ih => exact (ih s).negate

end Formula

end Narrowing
