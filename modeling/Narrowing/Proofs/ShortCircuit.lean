import Narrowing.Menagerie.Making
import Narrowing.Menagerie.Model
import Narrowing.Proofs.Enforcement
import Narrowing.Proofs.Propagation

/-!
# The shortest evaluation

A formula over leaves with verdicts is true or false, and it takes only some of the leaves to tell
which. Verdicts are told for every place in which a leaf stands, by a formula over marked leaves.

* `Formula.holds`: the truth of a formula.
* `Formula.asked`: the leaves that have to be asked from left to right to tell the truth.
* `Formula.walk_course`: the walk of a formula asks these leaves, up to the first that ends in a
  fault.
* `Formula.shortest_evaluation`: so does every refinement that is built from a formula; it calls
  their classifiers, each with the candidate itself, and answers with the truth.
-/

namespace Narrowing

variable {ι α κ σ ℓ : Type}

namespace Formula

variable {ℓ' : Type}

mutual

/-- A formula with other leaves in the same places. -/
def map (g : ℓ → ℓ') : Formula ℓ → Formula ℓ'
  | leaf l => leaf (g l)
  | all handle stages => all handle (mapEach g stages)
  | any handle siblings => any handle (mapEach g siblings)
  | complement handle inner => complement handle (map g inner)

/-- Some formulas with other leaves in the same places. -/
def mapEach (g : ℓ → ℓ') : List (Formula ℓ) → List (Formula ℓ')
  | [] => []
  | e :: es => map g e :: mapEach g es

end

variable (v : ℓ → Bool)

mutual

/-- **The truth of a formula**: all stages hold, any sibling does, and a complement is turned
around. -/
def holds : Formula ℓ → Bool
  | leaf l => v l
  | all _ stages => holdsAll stages
  | any _ siblings => holdsAny siblings
  | complement _ inner => !holds inner

/-- Whether all of some formulas hold. -/
def holdsAll : List (Formula ℓ) → Bool
  | [] => true
  | e :: es => holds e && holdsAll es

/-- Whether any of some formulas holds. -/
def holdsAny : List (Formula ℓ) → Bool
  | [] => false
  | e :: es => holds e || holdsAny es

end

mutual

/-- **The leaves that have to be asked**, in this order. A stage is asked about only if all the
stages before it hold, and a sibling only if none before it does. -/
def asked : Formula ℓ → List ℓ
  | leaf l => [l]
  | all _ stages => askedEach true stages
  | any _ siblings => askedEach false siblings
  | complement _ inner => asked inner

/-- The leaves of formulas from left to right, as long as each of them gives the verdict `go`. -/
def askedEach (go : Bool) : List (Formula ℓ) → List ℓ
  | [] => []
  | e :: es => asked e ++ if holds v e = go then askedEach go es else []

end

/-- Later parts are asked about only if every earlier one gives the verdict `go`. -/
theorem askedEach_append (go : Bool) (before after : List (Formula ℓ)) :
    askedEach v go (before ++ after) = askedEach v go before ++
      if ∀ e ∈ before, e.holds v = go then askedEach v go after else [] := by
  induction before with
  | nil => simp [askedEach]
  | cons e es ih =>
    simp only [List.cons_append, askedEach, ih, List.forall_mem_cons]
    by_cases hgo : e.holds v = go
    · simp only [hgo, if_true, true_and, List.append_assoc]
    · simp only [hgo, if_false, false_and, List.append_nil]

/-- **Formulas that can be built**: there is at least one stage, and at least two siblings. -/
inductive WellFormed : Formula ℓ → Prop where
  | leaf (l) : WellFormed (leaf l)
  | all {handle stages} (hlen : 1 ≤ stages.length) (h : ∀ e ∈ stages, WellFormed e) :
      WellFormed (all handle stages)
  | any {handle siblings} (hlen : 2 ≤ siblings.length) (h : ∀ e ∈ siblings, WellFormed e) :
      WellFormed (any handle siblings)
  | complement {handle inner} (h : WellFormed inner) : WellFormed (complement handle inner)

variable {v} {leafOf : ℓ → Refinement ι α κ}

theorem buildEach_ok {es : List (Formula ℓ)} (h : ∀ e ∈ es, ∃ r, e.build leafOf = .ok r) :
    ∃ rs, buildEach leafOf es = .ok rs := by
  induction es with
  | nil => exact ⟨[], rfl⟩
  | cons e es ih =>
    obtain ⟨r, hr⟩ := h e List.mem_cons_self
    obtain ⟨rs, hrs⟩ := ih fun e he => h e (List.mem_cons_of_mem _ he)
    exact ⟨r :: rs, by rw [buildEach, hr, hrs]; rfl⟩

/-- A well-formed formula is built into a refinement. -/
theorem WellFormed.build_ok {e : Formula ℓ} (h : e.WellFormed) : ∃ r, e.build leafOf = .ok r := by
  induction h with
  | leaf l => exact ⟨leafOf l, rfl⟩
  | @all handle stages hlen _ ih =>
    obtain ⟨rs, hrs⟩ := buildEach_ok ih
    have hrs_len := length_buildEach hrs
    rw [build, hrs]
    match rs with
    | [] => rw [← hrs_len] at hlen; cases hlen
    | [r] => exact ⟨r, rfl⟩
    | r :: q :: rest => exact ⟨.all handle (r :: q :: rest), rfl⟩
  | @any handle siblings hlen _ ih =>
    obtain ⟨rs, hrs⟩ := buildEach_ok ih
    have hlong : ¬rs.length < 2 := by rw [length_buildEach hrs]; omega
    refine ⟨.any handle rs, ?_⟩
    rw [build, hrs]
    exact if_neg hlong
  | @complement handle inner _ ih =>
    obtain ⟨r, hr⟩ := ih
    exact ⟨.complement handle r, by rw [build, hr]; rfl⟩

theorem mapEach_mark (es : List (Formula ℓ))
    (h : ∀ e ∈ es, (e.map fun l => (l, true)).map Prod.fst = e) :
    mapEach Prod.fst (mapEach (fun l => (l, true)) es) = es := by
  induction es with
  | nil => rfl
  | cons e es ih =>
    rw [mapEach, mapEach, h e List.mem_cons_self, ih fun e he => h e (List.mem_cons_of_mem _ he)]

/-- The marks do not touch the leaves. -/
theorem map_mark (e : Formula ℓ) : (e.map fun l => (l, true)).map Prod.fst = e := by
  induction e with
  | leaf l => rfl
  | all handle stages ih => rw [map, map, mapEach_mark stages ih]
  | any handle siblings ih => rw [map, map, mapEach_mark siblings ih]
  | complement handle inner ih => rw [map, map, ih]

end Formula

/-- **Marked leaves asked one after the other**, from a session on, as long as each of them answers
as it is marked: those that are asked, the fault that the last of them ends in, if it does, and the
session that is left. -/
inductive Course (M : ObjectModel α κ) (act : ℓ → Eval σ α α) :
    List (ℓ × Bool) → Session σ α → List ℓ → Option Fault → Session σ α → Prop where
  | done (s) : Course M act [] s [] none s
  | told {l b marked s t called f u} (h : (act l).runFrom s = (.ok (M.ofBool b), t))
      (rest : Course M act marked t called f u) :
      Course M act ((l, b) :: marked) s (l :: called) f u
  | raised {l b marked s f t} (h : (act l).runFrom s = (.error f, t)) :
      Course M act ((l, b) :: marked) s [l] (some f) t

namespace Course

variable {M : ObjectModel α κ} {act : ℓ → Eval σ α α} {marked later : List (ℓ × Bool)}
  {s t u : Session σ α} {called more : List ℓ} {f : Option Fault} {g : Fault}

/-- A course without a fault goes on. -/
theorem append (h : Course M act marked s called none t) (hlater : Course M act later t more f u) :
    Course M act (marked ++ later) s (called ++ more) f u := by
  generalize hnone : (none : Option Fault) = o at h
  induction h with
  | done s => exact hlater
  | told hl _ ih => exact .told hl (ih hlater hnone)
  | raised _ => cases hnone

/-- A course that has ended in a fault does not go on. -/
theorem append_raised (h : Course M act marked s called (some g) t) (later : List (ℓ × Bool)) :
    Course M act (marked ++ later) s called (some g) t := by
  generalize hsome : some g = o at h ⊢
  induction h with
  | done s => cases hsome
  | told hl _ ih => exact .told hl (ih hsome)
  | raised hl => exact .raised hl

/-- A course ends in a fault early, or goes on. -/
theorem split (h : Course M act (marked ++ later) s called f u) :
    (∃ g, f = some g ∧ Course M act marked s called (some g) u) ∨
    ∃ first more t, called = first ++ more ∧ Course M act marked s first none t ∧
      Course M act later t more f u := by
  induction marked generalizing s called with
  | nil => exact .inr ⟨[], called, s, rfl, .done s, h⟩
  | cons p marked ih =>
    cases h with
    | told hl rest =>
      rcases ih rest with ⟨g, rfl, hg⟩ | ⟨first, more, t, rfl, hfirst, hmore⟩
      · exact .inl ⟨g, rfl, .told hl hg⟩
      · exact .inr ⟨_, more, t, rfl, .told hl hfirst, hmore⟩
    | raised hl => exact .inl ⟨_, rfl, .raised hl⟩

/-- A course leaves the session that the called leaves leave. -/
theorem after_eq (h : Course M act marked s called f u) : after act called s = u := by
  induction h with
  | done s => rfl
  | told hl _ ih =>
    rw [after, List.foldl_cons, hl]
    exact ih
  | raised hl => exact congrArg Prod.snd hl

/-- Without a fault, all the leaves have been called. -/
theorem called_eq (h : Course M act marked s called none u) : called = marked.map Prod.fst := by
  generalize hnone : (none : Option Fault) = o at h
  induction h with
  | done s => rfl
  | told _ _ ih => rw [ih hnone, List.map_cons]
  | raised _ => cases hnone

/-- What a formula comes to, given its truth and the fault that the course of its leaves ends in. -/
def ending (truth : Bool) : Option Fault → Ending
  | none => .verdict truth
  | some f => .raised f

end Course

namespace Formula

variable {M : ObjectModel α κ} {act : ℓ → Eval σ α α} {s u : Session σ α} {called : List ℓ}
  {f : Option Fault}

/-- The truth of stages or siblings: that of the first one that is not `go`, if there is one. -/
def settled (go : Bool) (marked : List (Formula (ℓ × Bool))) : Bool :=
  if go then holdsAll Prod.snd marked else holdsAny Prod.snd marked

theorem settled_cons (go : Bool) (m : Formula (ℓ × Bool)) (ms : List (Formula (ℓ × Bool))) :
    settled go (m :: ms) = if m.holds Prod.snd = go then settled go ms else m.holds Prod.snd := by
  unfold settled
  cases go <;> cases h : m.holds Prod.snd <;> simp [holdsAll, holdsAny, h]

theorem walkEach_course (go : Bool) {marked : List (Formula (ℓ × Bool))}
    (h : ∀ m ∈ marked, ∀ {s called f u}, Course M act (m.asked Prod.snd) s called f u →
      (m.map Prod.fst).walk M act s = ⟨called, Course.ending (m.holds Prod.snd) f⟩)
    (hcourse : Course M act (askedEach Prod.snd go marked) s called f u) :
    walkEach M act go (mapEach Prod.fst marked) s = ⟨called, Course.ending (settled go marked) f⟩ := by
  induction marked generalizing s called with
  | nil =>
    cases hcourse
    cases go <;> rfl
  | cons m ms ih =>
    rw [mapEach, walkEach, settled_cons]
    rw [askedEach] at hcourse
    have hm : ∀ {s called f u}, Course M act (m.asked Prod.snd) s called f u →
        (m.map Prod.fst).walk M act s = ⟨called, Course.ending (m.holds Prod.snd) f⟩ :=
      h m List.mem_cons_self
    -- the course ends within the first part, or goes through it and on to the others
    rcases hcourse.split with ⟨g, rfl, hraised⟩ | ⟨first, more, t, rfl, hfirst, hmore⟩
    · rw [hm hraised]
      exact if_neg fun h => by cases h
    · rw [hm hfirst]
      by_cases hgo : m.holds Prod.snd = go
      · rw [if_pos hgo] at hmore
        have hrest := ih (fun m hm => h m (List.mem_cons_of_mem _ hm)) hmore
        simp only [Course.ending, hgo, if_true, hfirst.after_eq, hrest]
        rfl
      · rw [if_neg hgo] at hmore
        cases hmore
        simp only [Course.ending, Ending.verdict.injEq, hgo, if_false, List.append_nil]

/-- **A formula walks along the leaves that have to be asked**, and comes to its truth, or to the
fault of the first leaf that ends in one. -/
theorem walk_course (marked : Formula (ℓ × Bool))
    (h : Course M act (marked.asked Prod.snd) s called f u) :
    (marked.map Prod.fst).walk M act s = ⟨called, Course.ending (marked.holds Prod.snd) f⟩ := by
  induction marked generalizing s called f u with
  | leaf l =>
    rcases l with ⟨l, b⟩
    cases h with
    | told hl rest =>
      cases rest
      rw [map, walk, Eval.ending, hl, Ending.of_truth (M.truth_ofBool b)]
      rfl
    | raised hl =>
      rw [map, walk, Eval.ending, hl]
      rfl
  | all handle stages ih => exact walkEach_course true (fun m hm => ih m hm) h
  | any handle siblings ih => exact walkEach_course false (fun m hm => ih m hm) h
  | complement handle inner ih =>
    rw [map, walk, ih h]
    cases f <;> rfl

theorem exists_courseEach (go : Bool) {es : List (Formula ℓ)} (s : Session σ α)
    (h : ∀ e ∈ es, ∀ s, ∃ (marked : Formula (ℓ × Bool)) (called : _) (f : _) (u : _),
      marked.map Prod.fst = e ∧ Course M act (marked.asked Prod.snd) s called f u) :
    ∃ marked called f u, mapEach Prod.fst marked = es ∧
      Course M act (askedEach Prod.snd go marked) s called f u := by
  induction es generalizing s with
  | nil => exact ⟨[], [], none, s, rfl, .done s⟩
  | cons e es ih =>
    obtain ⟨m, called, f, t, hm, hcourse⟩ := h e List.mem_cons_self s
    -- the marks of what is not asked about are of no account
    have hrest : mapEach Prod.fst (mapEach (fun l => (l, true)) es) = es :=
      mapEach_mark es fun e _ => map_mark e
    cases f with
    | some g =>
      refine ⟨m :: mapEach (fun l => (l, true)) es, called, some g, t, ?_, ?_⟩
      · rw [mapEach, hm, hrest]
      · exact hcourse.append_raised _
    | none =>
      by_cases hgo : m.holds Prod.snd = go
      · obtain ⟨ms, more, f, u, hms, hmore⟩ := ih t fun e he => h e (List.mem_cons_of_mem _ he)
        refine ⟨m :: ms, called ++ more, f, u, by rw [mapEach, hm, hms], ?_⟩
        rw [askedEach, if_pos hgo]
        exact hcourse.append hmore
      · refine ⟨m :: mapEach (fun l => (l, true)) es, called, none, t, by rw [mapEach, hm, hrest], ?_⟩
        rw [askedEach, if_neg hgo, List.append_nil]
        exact hcourse

/-- **Every formula can be marked with the verdicts of its leaves**, where these answer with truth
values. -/
theorem exists_course (hact : ∀ l s v t, (act l).runFrom s = (.ok v, t) → ∃ b, v = M.ofBool b)
    (e : Formula ℓ) (s : Session σ α) : ∃ (marked : Formula (ℓ × Bool)) (called : _) (f : _) (u : _),
      marked.map Prod.fst = e ∧ Course M act (marked.asked Prod.snd) s called f u := by
  induction e generalizing s with
  | leaf l =>
    rcases hrun : (act l).runFrom s with ⟨f | v, t⟩
    · exact ⟨.leaf (l, true), [l], some f, t, rfl, .raised hrun⟩
    · obtain ⟨b, rfl⟩ := hact l s v t hrun
      exact ⟨.leaf (l, b), [l], none, t, rfl, .told hrun (.done t)⟩
  | all handle stages ih =>
    obtain ⟨marked, called, f, u, hm, hcourse⟩ := exists_courseEach true s fun e he s => ih e he s
    exact ⟨.all handle marked, called, f, u, by rw [map, hm], hcourse⟩
  | any handle siblings ih =>
    obtain ⟨marked, called, f, u, hm, hcourse⟩ := exists_courseEach false s fun e he s => ih e he s
    exact ⟨.any handle marked, called, f, u, by rw [map, hm], hcourse⟩
  | complement handle inner ih =>
    obtain ⟨marked, called, f, u, hm, hcourse⟩ := ih s
    exact ⟨.complement handle marked, called, f, u, by rw [map, hm], hcourse⟩

end Formula

namespace Session

/-- The calls on the tape that a session has next to a state of its own, oldest first. -/
def calls (s : Session (List (ι × α) × σ) α) : List (ι × α) := s.state.1.reverse

/-- A session without its tape. -/
def untaped (s : Session (List (ι × α) × σ) α) : Session σ α := ⟨s.policy, s.history, s.state.2⟩

/-- A session with a tape next to its state. -/
def taped (s : Session σ α) (tape : List (ι × α)) : Session (List (ι × α) × σ) α :=
  ⟨s.policy, s.history, (tape, s.state)⟩

end Session

/-- **Bare predicates on tape**: they do whatever they do, and every call is put on the tape, with
the object it is made with. -/
def onTape (call : ι → α → Eval σ α α) (i : ι) (x : α) : Eval (List (ι × α) × σ) α α :=
  ExceptT.mk fun s =>
    let out := (call i x).runFrom s.untaped
    (out.1, out.2.taped ((i, x) :: s.state.1))

theorem runFrom_onTape (call : ι → α → Eval σ α α) (i : ι) (x : α)
    (s : Session (List (ι × α) × σ) α) : (onTape call i x).runFrom s =
      (((call i x).runFrom s.untaped).1,
        ((call i x).runFrom s.untaped).2.taped ((i, x) :: s.state.1)) := rfl

namespace Formula

variable [DecidableEq α] [DecidableEq κ] {M : ObjectModel α κ} {call : ι → α → Eval σ α α}
  {ofFunction : ι → Profile α} {handle : ℓ → Nat} {classifier : ℓ → ι} {settings : ℓ → Settings α}
  {target : ℓ → Option (Target α κ)} {leafOf : ℓ → Refinement ι α κ}

section Leaves

variable (hleaf : ∀ l, Refinement.ofClassifier M ofFunction (handle l) (.function (classifier l))
  (settings l) (target l) = .ok (leafOf l))

include hleaf

/-- A leaf that is made from a classifier answers with a truth value. -/
theorem leaf_answer (l : ℓ) {x v : α} {s t : Session σ α}
    (h : ((leafOf l).run M call x).runFrom s = (.ok v, t)) : ∃ b, v = M.ofBool b := by
  obtain ⟨checking, title, hl, -⟩ := Refinement.ofClassifier_eq_ok (hleaf l)
  refine run_answer ?_ ?_ h
  · rw [hl]
    nofun
  · rw [hl]
    nofun

/-- **A leaf calls its classifier**, once and with the candidate itself. -/
theorem leaf_calls (call : ι → α → Eval σ α α) (l : ℓ) (x : α)
    (s : Session (List (ι × α) × σ) α) :
    (((leafOf l).run M (onTape call) x).runFrom s).2.calls = s.calls ++ [(classifier l, x)] := by
  obtain ⟨checking, title, hl, -⟩ := Refinement.ofClassifier_eq_ok (hleaf l)
  have hcall : ((.function (classifier l) : Refinement ι α κ).run M (onTape call) x).runFrom s =
      (onTape call (classifier l) x).runFrom s := by rw [Refinement.run]
  rw [runFrom_onTape] at hcall
  rcases hout : ((call (classifier l) x).runFrom s.untaped).1 with f | outcome
  · rw [hout] at hcall
    rw [hl, Refinement.run_raised hcall]
    exact List.reverse_cons
  · -- the review of the outcome leaves the tape alone
    rw [hout] at hcall
    rw [hl, Refinement.run_reviewed hcall, bind_pure_comp, Eval.runFrom_map, Session.calls,
      Contract.review_state]
    exact List.reverse_cons

/-- A course of leaves calls their classifiers, one after the other. -/
theorem course_calls {x : α} {marked : List (ℓ × Bool)} {called : List ℓ} {f : Option Fault}
    {s t : Session (List (ι × α) × σ) α}
    (h : Course M (asking M (onTape call) leafOf x) marked s called f t) :
    t.calls = s.calls ++ called.map fun l => (classifier l, x) := by
  induction h with
  | done s => exact (List.append_nil _).symm
  | @told l b marked s t called f u hl _ ih =>
    have hnext := leaf_calls hleaf call l x s
    rw [hl] at hnext
    rw [ih, hnext, List.append_assoc]
    rfl
  | @raised l b marked s f t hl =>
    have hnext := leaf_calls hleaf call l x s
    rw [hl] at hnext
    exact hnext

end Leaves

/-- **Every combination computes its formula by the shortest evaluation.** A well-formed formula over
leaves that are made from classifiers, with whatever settings, is built into a refinement, and its
places can be marked with the verdicts that the leaves give to a candidate. Of the leaves that have
to be asked, the refinement calls the classifiers, in this order and with the candidate itself, once
for every place. It answers with the truth of the formula; or it ends in the fault of a leaf, and
calls no classifier after that. A stage is asked about only if all the stages before it hold, and a
sibling only if none before it does. -/
theorem shortest_evaluation {e : Formula ℓ} (hform : e.WellFormed)
    (hleaf : ∀ l, Refinement.ofClassifier M ofFunction (handle l) (.function (classifier l))
      (settings l) (target l) = .ok (leafOf l)) (call : ι → α → Eval σ α α) (x : α)
    (s : Session (List (ι × α) × σ) α) :
    ∃ r, e.build leafOf = .ok r ∧
      (∃ (marked : Formula (ℓ × Bool)) (called : _) (f : _) (t : _), marked.map Prod.fst = e ∧
        Course M (asking M (onTape call) leafOf x) (marked.asked Prod.snd) s called f t) ∧
      (∀ (marked : Formula (ℓ × Bool)) called f t, marked.map Prod.fst = e →
        Course M (asking M (onTape call) leafOf x) (marked.asked Prod.snd) s called f t →
        t.calls = s.calls ++ called.map (fun l => (classifier l, x)) ∧
        (f = none → called = (marked.asked Prod.snd).map Prod.fst ∧
          (r.run M (onTape call) x).runFrom s = (.ok (M.ofBool (marked.holds Prod.snd)), t)) ∧
        (∀ g, f = some g → (r.run M (onTape call) x).runFrom s =
          (.error (if e.isLazy then g.sealed else g), t))) ∧
      (∀ handle (before after : List (Formula (ℓ × Bool))),
        (all handle (before ++ after)).asked Prod.snd = (all handle before).asked Prod.snd ++
          (if ∀ m ∈ before, m.holds Prod.snd = true then (all handle after).asked Prod.snd else []) ∧
        (any handle (before ++ after)).asked Prod.snd = (any handle before).asked Prod.snd ++
          (if ∀ m ∈ before, m.holds Prod.snd = false then (any handle after).asked Prod.snd
            else [])) := by
  obtain ⟨r, hr⟩ : ∃ r, e.build leafOf = .ok r := hform.build_ok
  have hanswer : ∀ l (s : Session (List (ι × α) × σ) α) v t,
      ((leafOf l).run M (onTape call) x).runFrom s = (.ok v, t) → ∃ b, v = M.ofBool b :=
    fun l _ _ _ => leaf_answer hleaf l
  refine ⟨r, hr, exists_course hanswer e s, ?_, fun handle before after => ⟨?_, ?_⟩⟩
  · rintro marked called f t rfl hcourse
    -- the walk is known, and where the leaves answer with truth values it determines the run
    have hrun := run_eq _ hr hanswer s
    rw [walk_course marked hcourse, hcourse.after_eq] at hrun
    refine ⟨course_calls hleaf hcourse, ?_, ?_⟩
    · rintro rfl
      exact ⟨hcourse.called_eq, hrun⟩
    · rintro g rfl
      exact hrun
  · exact askedEach_append Prod.snd true before after
  · exact askedEach_append Prod.snd false before after

open Menagerie in
/-- Three siblings over two classifiers: the one that rejects is called in each of its two places,
and the last sibling is not asked. -/
theorem shortest_evaluation_places :
    let call : Bool → Value → Eval Unit Value Value := fun b c => pure (if b then model.hit c else .miss)
    let own : Bool → Profile Value := fun b =>
      if b then .ofFunction "is_int" "is_int" none [] else .ofFunction "is_odd" "is_odd" none []
    let mode : Bool → Mode := fun b => if b then .strict else .debug
    let leaf (b : Bool) : Refinement Bool Value Species :=
      .classified 0 (.function b) ((mode b).checking model) none ((mode b).title (own b))
    let e : Formula Bool :=
      .any 2 [.all 1 [.leaf true, .leaf false], .complement 3 (.leaf false), .leaf true]
    let r : Refinement Bool Value Species :=
      .any 2 [.all 1 [leaf true, leaf false], .complement 3 (leaf false), leaf true]
    let out := (r.run model (onTape call) (.ofInt 0 1)).runFrom ⟨.record, [], ([], ())⟩
    e.WellFormed ∧
    (∀ b, Refinement.ofClassifier model own 0 (.function b) ((mode b).settings model) none =
      .ok (leaf b)) ∧
    e.build leaf = .ok r ∧ out.1 = .ok (model.ofBool true) ∧
    out.2.calls = [(true, .ofInt 0 1), (false, .ofInt 0 1), (false, .ofInt 0 1)] := by
  intro call own mode leaf e r out
  have hstages : (Formula.all 1 [.leaf true, .leaf false]).WellFormed := by
    refine .all (by decide) fun e he => ?_
    simp only [List.mem_cons, List.not_mem_nil, or_false] at he
    rcases he with rfl | rfl <;> exact .leaf _
  have hform : e.WellFormed := by
    refine .any (by decide) fun e he => ?_
    simp only [List.mem_cons, List.not_mem_nil, or_false] at he
    rcases he with rfl | rfl | rfl
    · exact hstages
    · exact .complement (.leaf _)
    · exact .leaf _
  have hleaf : ∀ b, Refinement.ofClassifier model own 0 (.function b) ((mode b).settings model) none =
      .ok (leaf b) := by
    intro b
    cases b <;> rfl
  have hbuilt : e.build leaf = .ok r := rfl
  obtain ⟨q, hq, -, hrun, -⟩ :=
    shortest_evaluation hform hleaf call (.ofInt 0 1) ⟨.record, [], ([], ())⟩
  rw [hbuilt] at hq
  cases hq
  let marked : Formula (Bool × Bool) :=
    .any 2 [.all 1 [.leaf (true, true), .leaf (false, false)], .complement 3 (.leaf (false, false)),
      .leaf (true, true)]
  obtain ⟨hcalls, hout, -⟩ := hrun marked [true, false, false] none _ rfl
    (.told rfl (.told rfl (.told rfl (.done _))))
  obtain ⟨-, hanswer⟩ := hout rfl
  exact ⟨hform, hleaf, hbuilt, congrArg Prod.fst hanswer,
    (congrArg (fun out => Session.calls out.2) hanswer).trans hcalls⟩

end Formula

end Narrowing
