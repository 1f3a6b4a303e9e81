import Narrowing.Menagerie.Making
import Narrowing.Menagerie.Model
import Narrowing.Proofs.Enforcement
import Narrowing.Proofs.Propagation

/-!
# Refinements taken for classifiers

A refinement answers with a truth value, whatever it is made of; and a truth value is neither a hit nor a
miss. A refinement can be taken for a classifier all the same: what is built from it never accepts
anything.

* `Refinement.Made`: the refinements that are made from classifiers, ready-made or put together.
* `Refinement.Made.answer`: what such a refinement answers is a truth value.
* `Refinement.Made.isNamed`: it has names, so that another refinement can be built from it.
* `Contract.check_ofBool`: a truth value is a violation, whatever the target is.
* `Refinement.made_is_no_classifier`: the refinement that is built from it, in each of the three modes.
-/

namespace Narrowing

variable {ι α κ σ : Type} [DecidableEq κ] {M : ObjectModel α κ} {ofFunction : ι → Profile α}

/-- **A truth value is a violation.** The target is not consulted. -/
theorem Contract.check_ofBool [DecidableEq α] (b : Bool) (x : α) (target : Option (Target α κ)) :
    check M (M.ofBool b) x target =
      .error (Violation.notAnOutcome (if b then "True" else "False")).fault := by
  rw [check_of_stranger (M.isMiss_ofBool b) (M.isHit_ofBool b), M.display_ofBool]
  rfl

namespace Refinement

/-- **The refinements that are made**: from a classifier, of whatever kind and in whatever settings,
ready-made, or put together from refinements that are made. -/
inductive Made (M : ObjectModel α κ) (ofFunction : ι → Profile α) : Refinement ι α κ → Prop where
  | ofClassifier {handle classifier settings target r}
      (h : ofClassifier M ofFunction handle classifier settings target = .ok r) : Made M ofFunction r
  | instanceOf {handle settings targets r}
      (h : instanceOf M ofFunction handle settings targets = .ok r) : Made M ofFunction r
  | oneOf {handle settings values r}
      (h : oneOf M ofFunction handle settings values = .ok r) : Made M ofFunction r
  | absent {handle settings r} (h : absent M ofFunction handle settings = .ok r) : Made M ofFunction r
  | allOf {handle stages r} (hstages : ∀ q ∈ stages, Made M ofFunction q)
      (h : allOf handle stages = .ok r) : Made M ofFunction r
  | anyOf {handle siblings r} (hsiblings : ∀ q ∈ siblings, Made M ofFunction q)
      (h : anyOf handle siblings = .ok r) : Made M ofFunction r
  | complement {handle inner} (h : Made M ofFunction inner) :
      Made M ofFunction (complement handle inner)

namespace Made

variable {r : Refinement ι α κ}

/-- **A refinement that is made is built from a classifier, or put together.** A single stage is that
stage. -/
theorem cases (h : r.Made M ofFunction) :
    (∃ handle classifier settings target,
      Refinement.ofClassifier M ofFunction handle classifier settings target = .ok r) ∨
    (∃ handle rs, r = .all handle rs) ∨ (∃ handle rs, r = .any handle rs) ∨
    ∃ handle inner, r = .complement handle inner := by
  induction h with
  | ofClassifier h => exact .inl ⟨_, _, _, _, h⟩
  | instanceOf h =>
    unfold Refinement.instanceOf at h
    split at h
    · cases h
    · exact .inl ⟨_, _, _, _, h⟩
  | @oneOf _ _ values _ h =>
    cases values with
    | nil => cases h
    | cons v vs => exact .inl ⟨_, _, _, _, h⟩
  | absent h => exact .inl ⟨_, _, _, _, h⟩
  | allOf _ h ih =>
    -- a single stage is returned as it is, and is of any of these kinds
    rcases Formula.allOf_eq_ok h with rfl | ⟨-, rfl⟩
    · exact ih _ List.mem_cons_self
    · exact .inr (.inl ⟨_, _, rfl⟩)
  | anyOf _ h _ =>
    obtain ⟨-, rfl⟩ := Formula.anyOf_eq_ok h
    exact .inr (.inr (.inl ⟨_, _, rfl⟩))
  | complement _ _ => exact .inr (.inr (.inr ⟨_, _, rfl⟩))

/-- **A refinement that is made has names.** -/
theorem isNamed (h : r.Made M ofFunction) : ∃ own, r.profile M ofFunction = .ok own ∧ own.IsNamed := by
  rcases h.cases with ⟨_, _, _, _, hbuilt⟩ | ⟨_, _, rfl⟩ | ⟨_, _, rfl⟩ | ⟨_, _, rfl⟩
  · exact ofClassifier_isNamed hbuilt
  all_goals exact ⟨_, rfl, Profile.isNamed_ofFunction _ _ _ _⟩

/-- **What a refinement that is made answers is a truth value.** -/
theorem answer [DecidableEq α] (h : r.Made M ofFunction) {call : ι → α → Eval σ α α} {x v : α}
    {s t : Session σ α} (hv : (r.run M call x).runFrom s = (.ok v, t)) : ∃ b, v = M.ofBool b := by
  obtain ⟨hf, hq⟩ : (∀ f, r ≠ .function f) ∧ ∀ handle q, r ≠ .readymade handle q := by
    rcases h.cases with ⟨_, _, _, _, hbuilt⟩ | ⟨_, _, rfl⟩ | ⟨_, _, rfl⟩ | ⟨_, _, rfl⟩
    · obtain ⟨_, _, rfl, -⟩ := ofClassifier_eq_ok hbuilt
      exact ⟨nofun, nofun⟩
    all_goals exact ⟨nofun, nofun⟩
  exact Formula.run_answer hf hq hv

end Made

open Menagerie

variable [DecidableEq α] {r : Refinement ι α κ}

/-- **A refinement is no classifier.** Another refinement can be built from a refinement that is made, in
each of the three modes and with any target. It runs the first one and ends in the same fault, if that
one ends in a fault. If it answers, the answer is a truth value, and that is no outcome: without checks
the second refinement rejects the candidate and leaves no trace; in debug mode it rejects it after one
more warning, where warnings are recorded; and in strict mode it ends in the violation. What becomes of
it is the same for all targets, since none is consulted. -/
theorem made_is_no_classifier (h : r.Made M ofFunction) (handle : Nat) :
    ∃ own, r.profile M ofFunction = .ok own ∧ ∀ (m : Mode) (target : Option (Target α κ)), ∃ q,
      ofClassifier M ofFunction handle r (m.settings M) target = .ok q ∧
      ∀ (call : ι → α → Eval σ α α) (x : α) (s t : Session σ α),
        (∀ f, (r.run M call x).runFrom s = (.error f, t) →
          (q.run M call x).runFrom s = (.error f, t)) ∧
        ∀ v, (r.run M call x).runFrom s = (.ok v, t) → ∃ b, v = M.ofBool b ∧
          let text := "Classifier must return hit(...) or miss, got " ++ if b then "True" else "False"
          (m = .off → (q.run M call x).runFrom s = (.ok (M.ofBool false), t)) ∧
          (m = .debug → t.policy = .record → (q.run M call x).runFrom s =
            (.ok (M.ofBool false),
              t.push (.warned ("Contract violation in " ++ own.title ++ ": " ++ text)))) ∧
          (m = .strict → (q.run M call x).runFrom s = (.error ⟨.contract, text⟩, t)) := by
  obtain ⟨own, hown, hnamed⟩ := h.isNamed
  refine ⟨own, hown, fun m target => ?_⟩
  obtain ⟨q, hq⟩ : ∃ q, ofClassifier M ofFunction handle r (m.settings M) target = .ok q := by
    cases m
    · exact ofClassifier_named handle target hown hnamed ⟨false, false⟩
    · exact ofClassifier_named handle target hown hnamed ⟨true, false⟩
    · exact ofClassifier_named handle target hown hnamed ⟨false, true⟩
  refine ⟨q, hq, fun call x s t => ⟨fun f hf => ?_, fun v hv => ?_⟩⟩
  · obtain ⟨_, -, rfl⟩ := ofClassifier_mode hq
    exact run_raised hf
  · obtain ⟨b, rfl⟩ := h.answer hv
    obtain ⟨_, hown', rfl⟩ := ofClassifier_mode hq
    rw [hown] at hown'
    cases hown'
    -- a truth value is no outcome, which is found out before the target is looked at
    have hcheck := Contract.check_ofBool (M := M) b x target
    refine ⟨b, rfl, ?_, ?_, ?_⟩
    · rintro rfl
      rw [Mode.checking, run_off hv, M.isHit_ofBool]
    · rintro rfl hp
      rw [run_debug hv hcheck rfl hp, M.isHit_ofBool]
      rfl
    · rintro rfl
      rw [run_strict hv hcheck]
      rfl

/-- Neither an integer nor the empty value: the first sibling, whose classifier answers with a truth
value, leaves a warning of its own. The complement accepts the integer; taken for a classifier it leaves
one more warning, or ends in a fault. The target, which refuses to be asked about integers, is not
consulted. -/
theorem made_is_no_classifier_complement :
    let own : Unit → Profile Value := fun _ => .ofFunction "is_int" "is_int" none []
    let call : Unit → Value → Eval Unit Value Value := fun _ _ => pure (.bool true)
    let x : Value := .ofInt 0 1
    let leaf : Refinement Unit Value Species :=
      .classified 0 (.function ()) (.on (.bool false)) none "is_int"
    let empty : Refinement Unit Value Species :=
      .classified 1 (.readymade 1 .absence) .off (some (.species .void)) ""
    let r : Refinement Unit Value Species := .complement 3 (.any 2 [leaf, empty])
    let s : Session Unit Value := ⟨.record, [], ()⟩
    let t : Session Unit Value := s.push (.warned
      "Contract violation in is_int: Classifier must return hit(...) or miss, got True")
    r.Made model own ∧ (Target.species .picky).accepts model x =
      .error ⟨.contract, "Cannot check 1 against <class 'zoo.Picky'> at runtime"⟩ ∧
    (r.run model call x).runFrom s = (.ok (.bool true), t) ∧
    ∃ plain watched strict : Refinement Unit Value Species,
      ofClassifier model own 4 r (Mode.off.settings model) (some (.species .picky)) = .ok plain ∧
      ofClassifier model own 4 r (Mode.debug.settings model) (some (.species .picky)) = .ok watched ∧
      ofClassifier model own 4 r (Mode.strict.settings model) (some (.species .picky)) = .ok strict ∧
      (plain.run model call x).runFrom s = (.ok (.bool false), t) ∧
      (watched.run model call x).runFrom s = (.ok (.bool false),
        t.push (.warned ("Contract violation in not_.<locals>.negated: " ++
          "Classifier must return hit(...) or miss, got True"))) ∧
      (strict.run model call x).runFrom s =
        (.error ⟨.contract, "Classifier must return hit(...) or miss, got True"⟩, t) := by
  intro own call x leaf empty r s t
  have hleaf : ofClassifier model own 0 (.function ()) (Mode.debug.settings model) none = .ok leaf :=
    rfl
  have hempty : absent model own 1 (Mode.off.settings model) = .ok empty := rfl
  have hsiblings : (Refinement.any 2 [leaf, empty]).Made model own := by
    have hany : anyOf 2 [leaf, empty] = .ok (.any 2 [leaf, empty]) := rfl
    refine .anyOf (fun q hq => ?_) hany
    simp only [List.mem_cons, List.not_mem_nil, or_false] at hq
    rcases hq with rfl | rfl
    · exact .ofClassifier hleaf
    · exact .absent hempty
  have hmade : r.Made model own := .complement hsiblings
  have hrun : (r.run model call x).runFrom s = (.ok (.bool true), t) := rfl
  obtain ⟨_, hown, hbuilt⟩ := made_is_no_classifier hmade 4
  cases hown
  obtain ⟨plain, hplain, hoff⟩ := hbuilt .off (some (.species .picky))
  obtain ⟨watched, hwatched, hdebug⟩ := hbuilt .debug (some (.species .picky))
  obtain ⟨strict, hstrict, hfault⟩ := hbuilt .strict (some (.species .picky))
  refine ⟨hmade, rfl, hrun, plain, watched, strict, hplain, hwatched, hstrict, ?_, ?_, ?_⟩
  · obtain ⟨-, -, hrejected, -⟩ := (hoff call x s t).2 _ hrun
    exact hrejected rfl
  · obtain ⟨b, hb, -, hwarned, -⟩ := (hdebug call x s t).2 _ hrun
    cases hb
    exact hwarned rfl rfl
  · obtain ⟨b, hb, -, -, hraised⟩ := (hfault call x s t).2 _ hrun
    cases hb
    exact hraised rfl

end Refinement

end Narrowing
