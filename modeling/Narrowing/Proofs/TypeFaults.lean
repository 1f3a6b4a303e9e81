import Narrowing.Proofs.Check
import Narrowing.Proofs.Enforcement
import Narrowing.Proofs.Leaves

/-!
# Type faults

The plain instance check refuses many targets with a type fault. None of these gets out of the
contract checks as such: as long as the objects involved are **well mannered**, and do not end in a
type fault when they are written, compared, tested for truth or asked what they carry, the only type
faults of a check are violations.

* `NoTypeFault`: a computation does not end in a type fault.
* `Target.objects`: the objects that a target holds.
* `Target.display_noTypeFault`, `Target.label_noTypeFault`: a target is written without a type
  fault if its objects are.
* `Target.accepts_typeFault`: a value is held against a target, and what comes is a type fault. Then
  it is the report about a leaf that refuses the instance check.
* `Contract.check_typeFault`, `Refinement.run_typeFault`: the same for a check and a refinement.
* `typeFaults_are_violations`: all of it.
-/

namespace Narrowing

/-- A computation that does not end in a type fault. -/
def NoTypeFault {β : Type} (x : Except Fault β) : Prop :=
  ∀ f, x = .error f → f.kind.isTypeError = false

namespace NoTypeFault

variable {β γ : Type} {x : Except Fault β}

theorem of_ok (b : β) : NoTypeFault (.ok b) := nofun

theorem bind {next : β → Except Fault γ} (hx : NoTypeFault x) (hnext : ∀ b, x = .ok b →
    NoTypeFault (next b)) : NoTypeFault (x >>= next) := by
  intro f hf
  rcases x with g | b
  · cases hf
    exact hx _ rfl
  · exact hnext b rfl f hf

/-- An exhausted iterator turns into a fault that is no type fault either. -/
theorem sealed (hx : NoTypeFault x) : NoTypeFault (sealedCheck x) := by
  intro f hf
  rcases x with g | b
  · cases hf
    by_cases hg : g.kind = .stopIteration
    · simp only [Fault.sealed, if_pos hg]
      rfl
    · rw [Fault.sealed_of_ne hg]
      exact hx g rfl
  · cases hf

theorem mapM {f : γ → Except Fault β} {cs : List γ} (h : ∀ c ∈ cs, NoTypeFault (f c)) :
    NoTypeFault (cs.mapM f) := by
  induction cs with
  | nil => exact of_ok []
  | cons c cs ih =>
    rw [List.forall_mem_cons] at h
    rw [List.mapM_cons]
    exact h.1.bind fun b _ => (ih h.2).bind fun bs _ => of_ok _

end NoTypeFault

/-- A type fault has not come about by sealing. -/
theorem Fault.eq_of_sealed_eq {f g : Fault} (hf : f.kind.isTypeError = true) (h : g.sealed = f) :
    g = f := by
  by_cases hg : g.kind = .stopIteration
  · rw [sealed, if_pos hg] at h
    rw [← h] at hf
    cases hf
  · rwa [sealed_of_ne hg] at h

variable {α κ : Type} {M : ObjectModel α κ}

/-- **Well-mannered objects**: writing one of them, asking it what it carries, comparing it with
another one, and testing the answer for truth do not end in type faults. -/
structure ObjectModel.Mannered (M : ObjectModel α κ) (objects : List α) : Prop where
  display : ∀ a ∈ objects, NoTypeFault (M.display a)
  payload : ∀ a ∈ objects, NoTypeFault (M.payload a)
  equal : ∀ a ∈ objects, ∀ b ∈ objects, NoTypeFault (M.equal a b)
  truth : ∀ a ∈ objects, ∀ b ∈ objects, ∀ c, M.equal a b = .ok c → NoTypeFault (M.truth c)

theorem ObjectModel.Mannered.mono {objects others : List α} (h : M.Mannered objects)
    (hsub : others ⊆ objects) : M.Mannered others :=
  ⟨fun a ha => h.display a (hsub ha), fun a ha => h.payload a (hsub ha),
    fun a ha b hb => h.equal a (hsub ha) b (hsub hb),
    fun a ha b hb => h.truth a (hsub ha) b (hsub hb)⟩

namespace Target

mutual

/-- **The objects that a target holds.** -/
def objects (M : ObjectModel α κ) : Target α κ → List α
  | species c => [M.ofSpecies c]
  | object v => [v]
  | tuple _ ms | list ms | union _ ms | subscripted _ ms => objectsEach M ms
  | literal os => os
  | annotated base notes => objects M base ++ notes
  | any | bare _ _ | uncheckable _ => []

/-- The objects that some targets hold. -/
def objectsEach (M : ObjectModel α κ) : List (Target α κ) → List α
  | [] => []
  | t :: ts => objects M t ++ objectsEach M ts

end

theorem objectsEach_eq_flatMap (ts : List (Target α κ)) :
    objectsEach M ts = ts.flatMap (objects M) := by
  induction ts with
  | nil => rfl
  | cons t ts ih => rw [objectsEach, ih, List.flatMap_cons]

theorem objects_subset_objectsEach {t : Target α κ} {ts : List (Target α κ)} (h : t ∈ ts) :
    t.objects M ⊆ objectsEach M ts := by
  rw [objectsEach_eq_flatMap]
  exact fun a ha => List.mem_flatMap.2 ⟨t, h, ha⟩

theorem objects_subset_of_mem_parts {t u : Target α κ} (h : u ∈ t.parts) :
    u.objects M ⊆ t.objects M := by
  cases t with
  | tuple _ _ | list _ | union _ _ | subscripted _ _ =>
    rw [objects]
    exact objects_subset_objectsEach h
  | annotated base notes =>
    rw [List.mem_singleton.1 h, objects]
    exact List.subset_append_left _ _
  | _ => cases h

theorem objects_subset_of_mem_leaves {t l : Target α κ} (h : l ∈ t.leaves) :
    l.objects M ⊆ t.objects M := by
  induction t using induct with
  | leaf t ht =>
    rw [leaves_of_isLeaf ht, List.mem_singleton] at h
    rw [h]
    exact List.Subset.refl _
  | tuple _ ms ih | union _ ms ih =>
    rw [leaves, mem_leavesEach] at h
    obtain ⟨m, hm, hl⟩ := h
    rw [objects]
    exact fun a ha => objects_subset_objectsEach hm (ih m hm hl ha)
  | annotated base notes ih =>
    rw [leaves] at h
    rw [objects]
    exact fun a ha => List.mem_append_left _ (ih h ha)

theorem displayOption_noTypeFault {a : α} (h : NoTypeFault (M.display a)) :
    NoTypeFault (displayOption M a) := by
  unfold displayOption
  cases M.asSpecies a with
  | some c => exact .of_ok _
  | none => exact h

theorem insideForm_noTypeFault {t : Target α κ} {full : Except Fault String}
    (h : ∀ a ∈ t.objects M, NoTypeFault (M.display a)) (hfull : NoTypeFault full) :
    NoTypeFault (insideForm M t full) := by
  cases t with
  | species c => exact .of_ok _
  | object v => exact displayOption_noTypeFault (h v (List.mem_singleton_self v))
  | _ => exact hfull

variable [DecidableEq κ]

theorem pipedForm_noTypeFault {t : Target α κ} {full : Except Fault String}
    (h : ∀ a ∈ t.objects M, NoTypeFault (M.display a)) (hfull : NoTypeFault full) :
    NoTypeFault (pipedForm M t full) := by
  unfold pipedForm
  split
  · exact .of_ok _
  · exact insideForm_noTypeFault h hfull

section Each

variable {ts : List (Target α κ)} (hobjects : ∀ t ∈ ts, ∀ a ∈ t.objects M, NoTypeFault (M.display a))
  (hts : ∀ t ∈ ts, NoTypeFault (t.display M))

include hts in
theorem displayEach_noTypeFault : NoTypeFault (displayEach M ts) := by
  induction ts with
  | nil => exact .of_ok _
  | cons t ts ih =>
    rw [List.forall_mem_cons] at hts
    rw [displayEach]
    exact hts.1.bind fun _ _ => (ih hts.2).bind fun _ _ => .of_ok _

include hobjects hts

theorem displayInside_noTypeFault : NoTypeFault (displayInside M ts) := by
  induction ts with
  | nil => exact .of_ok _
  | cons t ts ih =>
    rw [List.forall_mem_cons] at hobjects hts
    rw [displayInside]
    exact (insideForm_noTypeFault hobjects.1 hts.1).bind fun _ _ =>
      (ih hobjects.2 hts.2).bind fun _ _ => .of_ok _

theorem displayPiped_noTypeFault : NoTypeFault (displayPiped M ts) := by
  induction ts with
  | nil => exact .of_ok _
  | cons t ts ih =>
    rw [List.forall_mem_cons] at hobjects hts
    rw [displayPiped]
    exact (pipedForm_noTypeFault hobjects.1 hts.1).bind fun _ _ =>
      (ih hobjects.2 hts.2).bind fun _ _ => .of_ok _

end Each

/-- **A target is written without a type fault** if the objects that it holds are. -/
theorem display_noTypeFault {t : Target α κ} (h : ∀ a ∈ t.objects M, NoTypeFault (M.display a)) :
    NoTypeFault (t.display M) := by
  induction t using inductParts with
  | step t ih =>
    -- what a target holds is the objects of its parts and, for some forms, objects of its own
    have hobjects : ∀ u ∈ t.parts, ∀ a ∈ u.objects M, NoTypeFault (M.display a) :=
      fun u hu a ha => h a (objects_subset_of_mem_parts hu ha)
    have hparts : ∀ u ∈ t.parts, NoTypeFault (u.display M) := fun u hu => ih u hu (hobjects u hu)
    cases t with
    | any | bare _ _ | uncheckable _ =>
      rw [display]
      exact .of_ok _
    | species c =>
      rw [display]
      exact h _ (List.mem_singleton_self _)
    | object v =>
      rw [display]
      exact h _ (List.mem_singleton_self _)
    | tuple _ ms | list ms =>
      rw [display]
      exact (displayEach_noTypeFault hparts).bind fun _ _ => .of_ok _
    | literal os =>
      rw [display]
      exact (NoTypeFault.mapM fun o ho => displayOption_noTypeFault (h o ho)).bind
        fun _ _ => .of_ok _
    | union style ms =>
      cases style with
      | spelled =>
        rw [display]
        exact (displayInside_noTypeFault hobjects hparts).bind fun _ _ => .of_ok _
      | piped =>
        rw [display]
        exact (displayPiped_noTypeFault hobjects hparts).bind fun _ _ => .of_ok _
    | annotated base notes =>
      have hnotes : ∀ n ∈ notes, NoTypeFault (M.display n) := fun n hn =>
        h n (List.mem_append_right _ hn)
      rw [display]
      exact (insideForm_noTypeFault (hobjects base (List.mem_singleton_self _))
        (hparts base (List.mem_singleton_self _))).bind fun _ _ =>
          (NoTypeFault.mapM hnotes).bind fun _ _ => .of_ok _
    | subscripted head ms =>
      rw [display]
      exact (displayInside_noTypeFault hobjects hparts).bind fun _ _ => .of_ok _

theorem labelEach_noTypeFault {ts : List (Target α κ)} (h : ∀ t ∈ ts, NoTypeFault (t.label M)) :
    NoTypeFault (labelEach M ts) := by
  induction ts with
  | nil => exact .of_ok _
  | cons t ts ih =>
    rw [List.forall_mem_cons] at h
    rw [labelEach]
    exact h.1.sealed.bind fun _ _ => (ih h.2).bind fun _ _ => .of_ok _

/-- The short form as well is written without a type fault if the objects of the target are. -/
theorem label_noTypeFault {t : Target α κ} (h : ∀ a ∈ t.objects M, NoTypeFault (M.display a)) :
    NoTypeFault (t.label M) := by
  induction t using inductParts with
  | step t ih =>
    cases t with
    | any | species _ =>
      rw [label]
      exact .of_ok _
    | tuple _ ms =>
      rw [label]
      exact (labelEach_noTypeFault fun u hu => ih u hu fun a ha =>
        h a (objects_subset_of_mem_parts hu ha)).bind fun _ _ => .of_ok _
    | _ =>
      simp only [label]
      exact display_noTypeFault h

variable {v : α}

/-- Options are compared without a type fault if the value and the options are well mannered. -/
theorem acceptsOption_noTypeFault {os : List α} (h : M.Mannered (v :: os)) :
    NoTypeFault (acceptsOption M v os) := by
  induction os with
  | nil => exact .of_ok _
  | cons o os ih =>
    have hv : v ∈ v :: o :: os := List.mem_cons_self
    have ho : o ∈ v :: o :: os := List.mem_cons_of_mem _ List.mem_cons_self
    have hrest : M.Mannered (v :: os) :=
      h.mono (List.cons_subset_cons _ (List.subset_cons_self _ _))
    rw [acceptsOption]
    refine NoTypeFault.bind (.sealed ?_) fun found _ => ?_
    · refine (h.equal v hv o ho).bind fun c hc => (h.truth v hv o ho c hc).bind fun b _ => ?_
      cases b <;> exact .of_ok _
    · cases found with
      | true => exact .of_ok _
      | false => exact ih hrest

/-- A type fault of a checked leaf is the report that it cannot be checked. -/
theorem acceptsLeaf_typeFault {l : Target α κ} (h : M.Mannered (v :: l.objects M)) {f : Fault}
    (hl : l.acceptsLeaf M v = .error f) (hf : f.kind.isTypeError = true) :
    ∃ g shown name, hasInstance M v l.underlying = .error g ∧ g.kind.isTypeError = true ∧
      M.display v = .ok shown ∧ l.display M = .ok name ∧
      f = (Violation.uncheckable shown name).fault := by
  have hvalue : NoTypeFault (M.display v) := h.display v List.mem_cons_self
  have hleaf : NoTypeFault (l.display M) :=
    display_noTypeFault fun a ha => h.display a (List.mem_cons_of_mem _ ha)
  -- a fault of writing the value or the leaf would be no type fault
  have hnot : ∀ {g : Fault}, g.kind.isTypeError = false → g ≠ f := by
    rintro g hg rfl
    rw [hg] at hf
    cases hf
  rw [acceptsLeaf] at hl
  rcases hcheck : hasInstance M v l.underlying with g | b
  · rw [hcheck] at hl
    by_cases hg : g.kind.isTypeError = true
    · simp only [if_pos hg] at hl
      rcases hshown : M.display v with e | shown
      · rw [hshown] at hl
        cases hl
        exact absurd rfl (hnot (hvalue _ hshown))
      rcases hname : l.display M with e | name
      · rw [hshown, hname] at hl
        cases hl
        exact absurd rfl (hnot (hleaf _ hname))
      rw [hshown, hname] at hl
      cases hl
      exact ⟨g, shown, name, rfl, hg, rfl, rfl, rfl⟩
    · simp only [if_neg hg] at hl
      cases hl
      exact absurd hf hg
  · rw [hcheck] at hl
    cases hl

/-- A type fault that a target ends in comes from a leaf. -/
theorem exists_leaf_of_typeFault {t : Target α κ} {f : Fault} (h : t.accepts M v = .error f)
    (hf : f.kind.isTypeError = true) : ∃ l ∈ t.leaves, l.accepts M v = .error f := by
  have hopen : f.kind ≠ .stopIteration := by
    intro hkind
    rw [hkind] at hf
    cases hf
  have hscan : acceptsSome M v t.leaves = .error f := by
    rw [← sealedCheck_accepts, h, ← Fault.sealed_of_ne hopen]
    exact congrArg Except.error f.sealed_sealed
  obtain ⟨l, hl, hfault⟩ := acceptsSome_error hscan
  rcases hg : l.accepts M v with g | b
  · rw [hg] at hfault
    exact ⟨l, hl, hg.trans (congrArg Except.error (Fault.eq_of_sealed_eq hf (Except.error.inj hfault)))⟩
  · rw [hg] at hfault
    cases hfault

/-- **A type fault is about a leaf that refuses the instance check.** It is the report that this
leaf cannot be checked, with the written forms of the value and of the leaf. -/
theorem accepts_typeFault {t : Target α κ} (h : M.Mannered (v :: t.objects M)) {f : Fault}
    (ht : t.accepts M v = .error f) (hf : f.kind.isTypeError = true) :
    ∃ l ∈ t.leaves, l.isChecked = true ∧ ∃ g shown name,
      hasInstance M v l.underlying = .error g ∧ g.kind.isTypeError = true ∧
      M.display v = .ok shown ∧ l.display M = .ok name ∧
      f = (Violation.uncheckable shown name).fault := by
  obtain ⟨l, hmem, hl⟩ := exists_leaf_of_typeFault ht hf
  have hleaf : M.Mannered (v :: l.objects M) :=
    h.mono (List.cons_subset_cons _ (objects_subset_of_mem_leaves hmem))
  by_cases hchecked : l.isChecked = true
  · rw [accepts_of_isChecked hchecked] at hl
    exact ⟨l, hmem, hchecked, acceptsLeaf_typeFault hleaf hl hf⟩
  · -- what is not checked is accepted outright, or is a literal, which the objects answer for
    have hisLeaf := isLeaf_of_mem_leaves hmem
    cases l with
    | any => cases hl
    | literal os =>
      rw [accepts] at hl
      rw [acceptsOption_noTypeFault hleaf f hl] at hf
      cases hf
    | tuple _ _ | union _ _ | annotated _ _ => cases hisLeaf
    | _ => exact absurd rfl hchecked

end Target

/-- A warning may be turned into a fault, but never into a type fault. -/
theorem Eval.warn_noTypeFault {σ : Type} (text : String) (s : Session σ α) :
    NoTypeFault ((warn text : Eval σ α Unit).runFrom s).1 := by
  rcases s with ⟨policy, history, state⟩
  intro f hf
  cases policy with
  | record | silence => cases hf
  | raise =>
    cases hf
    rfl

variable [DecidableEq κ] [DecidableEq α]

namespace Contract

/-- The objects that a check may ask: the outcome, the candidate, what the outcome carries, and what
the declared target holds. -/
def involved (M : ObjectModel α κ) (outcome candidate : α) (target : Option (Target α κ)) : List α :=
  outcome :: candidate ::
    ((M.payload outcome).toOption.toList ++ (target.map (Target.objects M)).getD [])

/-- **A type fault of a check is a violation.** -/
theorem check_typeFault {outcome candidate : α} {target : Option (Target α κ)}
    (h : M.Mannered (involved M outcome candidate target)) {f : Fault}
    (hcheck : check M outcome candidate target = .error f) (hf : f.kind.isTypeError = true) :
    ∃ w : Violation, f = w.fault := by
  have hcandidate : candidate ∈ involved M outcome candidate target :=
    List.mem_cons_of_mem _ List.mem_cons_self
  have hobjects : ∀ {t}, target = some t → candidate :: t.objects M ⊆
      involved M outcome candidate target := by
    rintro t rfl
    exact List.cons_subset.2 ⟨hcandidate, fun a ha =>
      List.mem_cons_of_mem _ (List.mem_cons_of_mem _ (List.mem_append_right _ ha))⟩
  have hnot : ∀ {β : Type} {x : Except Fault β}, NoTypeFault x → x ≠ .error f := by
    intro β x hx hxf
    rw [hx f hxf] at hf
    cases hf
  rcases check_cases M outcome candidate target with ⟨hok, -⟩ | ⟨w, hw⟩ | ⟨g, hg, hun⟩
  · rw [hcheck] at hok
    cases hok
  · rw [hcheck] at hw
    exact ⟨w, Except.error.inj hw⟩
  -- the objects answer all questions but the one about the target
  rw [hcheck] at hg
  cases hg
  cases hun with
  | outcome _ _ hfault => exact absurd hfault (hnot (h.display _ List.mem_cons_self))
  | payload _ _ hfault => exact absurd hfault (hnot (h.payload _ List.mem_cons_self))
  | strayPayload _ _ hp _ hfault =>
    refine absurd hfault (hnot (h.display _ ?_))
    rw [involved, hp]
    exact List.mem_cons_of_mem _ (List.mem_cons_of_mem _ List.mem_cons_self)
  | candidate _ _ _ _ _ hfault | unmetPayload _ _ _ _ hfault =>
    exact absurd hfault (hnot (h.display _ hcandidate))
  | target _ _ _ hfault =>
    obtain ⟨_, -, -, _, shown, name, -, -, -, -, hreport⟩ :=
      Target.accepts_typeFault (h.mono (hobjects rfl)) hfault hf
    exact ⟨_, hreport⟩
  | unmetTarget _ _ _ _ _ hfault =>
    refine absurd hfault (hnot (Target.label_noTypeFault fun a ha => h.display a ?_))
    exact hobjects rfl (List.mem_cons_of_mem _ ha)

end Contract

namespace Refinement

variable {ι σ : Type} {ofFunction : ι → Profile α} {handle : Nat} {classifier r : Refinement ι α κ}
  {target : Option (Target α κ)} {settings : Settings α} {call : ι → α → Eval σ α α}

/-- **A type fault of a refinement that is not strict is one of its classifier.** -/
theorem run_typeFault (hbuilt : ofClassifier M ofFunction handle classifier settings target = .ok r)
    (hstrict : M.truth settings.strict = .ok false) {x : α} {s t : Session σ α} {f : Fault}
    (h : ∀ outcome u, (classifier.run M call x).runFrom s = (.ok outcome, u) →
      M.Mannered (Contract.involved M outcome x target))
    (hrun : (r.run M call x).runFrom s = (.error f, t)) (hf : f.kind.isTypeError = true) :
    (classifier.run M call x).runFrom s = (.error f, t) := by
  obtain ⟨checking, title, rfl, hchecking⟩ := ofClassifier_eq_ok hbuilt
  rcases hclassify : (classifier.run M call x).runFrom s with ⟨g | outcome, u⟩
  · exact (run_raised hclassify).symm.trans hrun
  exfalso
  rw [run_reviewed hclassify] at hrun
  rcases hreview : (Contract.review M checking target title outcome x : Eval σ α Unit).runFrom u with
    ⟨g | ⟨⟩, w⟩
  · rw [Eval.runFrom_bind_error hreview] at hrun
    obtain ⟨rfl, rfl⟩ : g = f ∧ w = t := by
      cases hrun
      exact ⟨rfl, rfl⟩
    rcases hchecking with rfl | rfl
    · cases hreview
    unfold Contract.review at hreview
    rcases hcheck : Contract.check M outcome x target with e | ⟨⟩
    · -- the fault of the check is a violation, and becomes a warning
      simp only [hcheck, Contract.report_eq, hstrict] at hreview
      split at hreview
      · have hwarned := Eval.warn_noTypeFault (Contract.warning title e.text) u g
          (congrArg Prod.fst hreview)
        rw [hwarned] at hf
        cases hf
      · rename_i hkind
        cases hreview
        obtain ⟨w, rfl⟩ := Contract.check_typeFault (h outcome u hclassify) hcheck hf
        exact hkind rfl
    · rw [hcheck] at hreview
      cases hreview
  · rw [Eval.runFrom_bind_ok hreview] at hrun
    cases hrun

end Refinement

/-- **No bare type fault gets out of the checks**, whatever the target is, as long as the objects
involved are well mannered. A type fault that comes of holding a value against a target is the report
that a leaf of the target cannot be checked: the plain instance check refuses this leaf with a type
fault, and the report names the value and the leaf. A type fault of the check of an outcome is a
violation of the contract. Hence a refinement that is not strict ends in a type fault only where its
classifier does, and in the same one. -/
theorem typeFaults_are_violations {ι σ : Type} (M : ObjectModel α κ) :
    (∀ (v : α) (t : Target α κ) (f : Fault), M.Mannered (v :: t.objects M) →
      t.accepts M v = .error f → f.kind.isTypeError = true → ∃ l ∈ t.leaves, l.isChecked = true ∧ ∃ g shown name,
        l.underlying.hasInstance M v = .error g ∧ g.kind.isTypeError = true ∧
        M.display v = .ok shown ∧ l.display M = .ok name ∧
        f = ⟨.contract, s!"Cannot check {shown} against {name} at runtime"⟩) ∧
    (∀ outcome candidate target f, M.Mannered (Contract.involved M outcome candidate target) →
      Contract.check M outcome candidate target = .error f → f.kind.isTypeError = true →
      f.kind = .contract ∧ ∃ w : Violation, f = w.fault) ∧
    ∀ (ofFunction : ι → Profile α) (call : ι → α → Eval σ α α) handle classifier settings target r,
      Refinement.ofClassifier M ofFunction handle classifier settings target = .ok r →
      M.truth settings.strict = .ok false → ∀ x s t f,
      (∀ outcome u, (classifier.run M call x).runFrom s = (.ok outcome, u) →
        M.Mannered (Contract.involved M outcome x target)) →
      (r.run M call x).runFrom s = (.error f, t) → f.kind.isTypeError = true →
      (classifier.run M call x).runFrom s = (.error f, t) := by
  refine ⟨fun v t f h => Target.accepts_typeFault h, fun outcome candidate target f h hcheck hf => ?_,
    fun ofFunction call handle classifier settings target r hbuilt hstrict x s t f h =>
      Refinement.run_typeFault hbuilt hstrict h⟩
  obtain ⟨w, rfl⟩ := Contract.check_typeFault h hcheck hf
  exact ⟨rfl, w, rfl⟩

open Menagerie in
/-- A parameter refuses the instance check, and the check of a hit ends in the violation that names
the parameter. The type fault of a classifier passes through the refinement. -/
theorem typeFaults_are_violations_parameter :
    let x : Value := .ofInt 0 1
    let parameter : Target Value Species := .uncheckable (.parameter "P" false)
    let t : Target Value Species := .tuple .plain [.bare "List" .list, parameter]
    let own : Unit → Profile Value := fun _ => .ofFunction "is_p" "is_p" none []
    let r : Refinement Unit Value Species :=
      .classified 0 (.function ()) (.on (.bool false)) (some t) "is_p"
    let raising : Unit → Value → Eval Unit Value Value := fun _ _ => throw ⟨.typeError, "boom"⟩
    model.Mannered (Contract.involved model (model.hit x) x (some t)) ∧
    Contract.check model (model.hit x) x (some t) =
      .error ⟨.contract, "Cannot check 1 against ~P at runtime"⟩ ∧
    (∃ l ∈ t.leaves, l.isChecked = true ∧ ∃ g shown name,
      l.underlying.hasInstance model x = .error g ∧ g.kind.isTypeError = true ∧
      model.display x = .ok shown ∧ l.display model = .ok name ∧
      (⟨.contract, "Cannot check 1 against ~P at runtime"⟩ : Fault) =
        ⟨.contract, s!"Cannot check {shown} against {name} at runtime"⟩) ∧
    (∃ w : Violation, (⟨.contract, "Cannot check 1 against ~P at runtime"⟩ : Fault) = w.fault) ∧
    Refinement.ofClassifier model own 0 (.function ()) (Mode.debug.settings model) (some t) = .ok r ∧
    (r.run model raising x).runFrom ⟨.record, [], ()⟩ =
      (.error ⟨.typeError, "boom"⟩, ⟨.record, [], ()⟩) ∧
    (Refinement.run model raising (.function ()) x).runFrom ⟨.record, [], ()⟩ =
      (.error ⟨.typeError, "boom"⟩, ⟨.record, [], ()⟩) := by
  intro x parameter t own r raising
  have hboth : model.Mannered [model.hit x, x] := by
    refine ⟨fun a ha => ?_, fun a ha => ?_, fun a ha b hb => ?_, fun a ha b hb c hc => ?_⟩
    · simp only [List.mem_cons, List.not_mem_nil, or_false] at ha
      rcases ha with rfl | rfl <;> nofun
    · simp only [List.mem_cons, List.not_mem_nil, or_false] at ha
      rcases ha with rfl | rfl <;> intro f hf <;> cases hf
      rfl
    · simp only [List.mem_cons, List.not_mem_nil, or_false] at ha hb
      rcases ha with rfl | rfl <;> rcases hb with rfl | rfl <;> nofun
    · simp only [List.mem_cons, List.not_mem_nil, or_false] at ha hb
      rcases ha with rfl | rfl <;> rcases hb with rfl | rfl <;> cases hc <;> nofun
  have hinvolved : Contract.involved model (model.hit x) x (some t) = [model.hit x, x, x] := rfl
  have hmannered : model.Mannered (Contract.involved model (model.hit x) x (some t)) := by
    rw [hinvolved]
    exact hboth.mono (by simp)
  have hobjects : x :: t.objects model ⊆ Contract.involved model (model.hit x) x (some t) :=
    List.subset_cons_of_subset _ (List.cons_subset_cons _ (List.subset_append_right _ _))
  obtain ⟨haccepts, hcheck, hrun⟩ := typeFaults_are_violations (ι := Unit) (σ := Unit) model
  exact ⟨hmannered, rfl, haccepts x t _ (hmannered.mono hobjects) rfl rfl,
    (hcheck _ _ _ _ hmannered rfl rfl).2, rfl, rfl, hrun own raising 0 (.function ()) (Mode.debug.settings model)
      (some t) r rfl rfl x _ _ _ nofun rfl rfl⟩

end Narrowing
