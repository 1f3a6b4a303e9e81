import Narrowing.Menagerie.Making
import Narrowing.Menagerie.Model
import Narrowing.Proofs.Enforcement

/-!
# Verdicts under checks

* `Refinement.strict_verdict`: in strict mode a candidate is accepted exactly on a hit that keeps
  the contract, or on an outcome that is a miss as well, which is not looked into; and it is
  rejected exactly on a miss that is no hit.
* `Refinement.debug_verdict`: in debug mode the verdict is the one without checks exactly when
  every question of the check is answered, or ends in a violation. A violation leaves one warning.
-/

namespace Narrowing

variable {ι α κ σ : Type} {M : ObjectModel α κ}

theorem ofBool_inj {b c : Bool} : M.ofBool b = M.ofBool c ↔ b = c := by
  constructor
  · intro h
    have hb := M.truth_ofBool b
    rw [h, M.truth_ofBool] at hb
    cases hb
    rfl
  · rintro rfl
    rfl

namespace Refinement

open Menagerie

variable [DecidableEq α] [DecidableEq κ] {ofFunction : ι → Profile α} {handle : Nat}
  {classifier r : Refinement ι α κ} {target : Option (Target α κ)} {call : ι → α → Eval σ α α}

/-- What a strict refinement answers, if it does: whether the outcome of its classifier, which
has passed the check, counts as a hit. -/
theorem strict_answer
    (hbuilt : ofClassifier M ofFunction handle classifier (Mode.strict.settings M) target = .ok r)
    {x v : α} {s t : Session σ α} : (r.run M call x).runFrom s = (.ok v, t) ↔
      ∃ outcome, (classifier.run M call x).runFrom s = (.ok outcome, t) ∧
        Contract.check M outcome x target = .ok () ∧ v = M.ofBool (M.isHit outcome) := by
  obtain ⟨own, -, rfl⟩ := ofClassifier_mode hbuilt
  rcases h : (classifier.run M call x).runFrom s with ⟨f | outcome, u⟩
  · rw [run_raised h]
    simp
  rcases hc : Contract.check M outcome x target with f | ⟨⟩
  · rw [run_strict h hc]
    constructor
    · intro hv; cases hv
    · rintro ⟨o, ho, hok, -⟩
      cases ho
      rw [hc] at hok; cases hok
  · rw [Mode.checking, run_kept h hc]
    constructor
    · intro hv
      cases hv
      exact ⟨outcome, rfl, hc, rfl⟩
    · rintro ⟨o, ho, -, rfl⟩
      cases ho
      rfl

/-- **A strict verdict is sound, save for outcomes that are a hit and a miss at once.** A
candidate is accepted exactly on a hit that keeps the contract, or on a hit that is a miss as
well; it is rejected exactly on a miss that is no hit; and there is no other answer. -/
theorem strict_verdict
    (hbuilt : ofClassifier M ofFunction handle classifier (Mode.strict.settings M) target = .ok r)
    (x : α) (s t : Session σ α) :
    ((r.run M call x).runFrom s = (.ok (M.ofBool true), t) ↔
      ∃ outcome, (classifier.run M call x).runFrom s = (.ok outcome, t) ∧
        M.isHit outcome = true ∧
        (M.isMiss outcome = true ∨ Contract.Kept M outcome x target)) ∧
    ((r.run M call x).runFrom s = (.ok (M.ofBool false), t) ↔
      ∃ outcome, (classifier.run M call x).runFrom s = (.ok outcome, t) ∧
        M.isMiss outcome = true ∧ M.isHit outcome = false) ∧
    (∀ v, (r.run M call x).runFrom s = (.ok v, t) → v = M.ofBool true ∨ v = M.ofBool false) := by
  -- an answer says that the outcome has passed the check, and whether it is a hit
  refine ⟨?_, ?_, ?_⟩
  · rw [strict_answer hbuilt]
    constructor
    · rintro ⟨outcome, ho, hc, hv⟩
      have hhit : M.isHit outcome = true := (ofBool_inj.1 hv).symm
      exact ⟨outcome, ho, hhit, (Contract.check_eq_ok_iff.1 hc).imp_right And.right⟩
    · rintro ⟨outcome, ho, hhit, hok⟩
      refine ⟨outcome, ho, ?_, by rw [hhit]⟩
      exact Contract.check_eq_ok_iff.2 (hok.imp_right fun hk => ⟨hhit, hk⟩)
  · rw [strict_answer hbuilt]
    constructor
    · rintro ⟨outcome, ho, hc, hv⟩
      have hhit : M.isHit outcome = false := (ofBool_inj.1 hv).symm
      rcases Contract.check_eq_ok_iff.1 hc with hmiss | ⟨hh, -⟩
      · exact ⟨outcome, ho, hmiss, hhit⟩
      · rw [hhit] at hh; cases hh
    · rintro ⟨outcome, ho, hmiss, hhit⟩
      exact ⟨outcome, ho, Contract.check_eq_ok_iff.2 (.inl hmiss), by rw [hhit]⟩
  · intro v hv
    obtain ⟨outcome, -, -, rfl⟩ := (strict_answer hbuilt).1 hv
    cases M.isHit outcome
    · exact .inr rfl
    · exact .inl rfl

/-- A strict refinement of integers accepts an integer, on a hit that carries it. -/
theorem strict_verdict_integer :
    let r : Refinement Unit Value Species :=
      .classified 0 (.function ()) (.on (.bool true)) (some (.species .int)) "is_int"
    ofClassifier model (fun _ => .ofFunction "is_int" "is_int" none []) 0 (.function ())
      (Mode.strict.settings model) (some (.species .int)) = .ok r ∧
    ∃ outcome, model.isHit outcome = true ∧ (model.isMiss outcome = true ∨
      Contract.Kept model outcome (.ofInt 0 1) (some (.species .int))) := by
  intro r
  have hbuilt : ofClassifier model (fun _ => .ofFunction "is_int" "is_int" none []) 0 (.function ())
      (Mode.strict.settings model) (some (.species .int)) = .ok r := rfl
  have hrun : (r.run model (fun _ c => pure (model.hit c)) (.ofInt 0 1)).runFrom ⟨.record, [], ()⟩ =
      (.ok (model.ofBool true), ⟨.record, [], ()⟩) := rfl
  obtain ⟨outcome, -, h⟩ := (strict_verdict hbuilt _ _ _).1.1 hrun
  exact ⟨hbuilt, outcome, h⟩

/-- **A strict refinement accepts a hit with a stray payload**, as long as it is a miss as well:
the classifier answers `1` with an outcome that carries `2`. No target is declared. -/
theorem strict_accepts_stray :
    let r : Refinement Unit Value Species :=
      .classified 0 (.function ()) (.on (.bool true)) none "classify"
    ofClassifier model (fun _ => .ofFunction "classify" "classify" none []) 0 (.function ())
      (Mode.strict.settings model) none = .ok r ∧
    (r.run model (fun _ _ => pure (.hit (.token 1) .both (.ofInt 0 2))) (.ofInt 0 1)).runFrom
      ⟨.record, [], ()⟩ = (.ok (model.ofBool true), ⟨.record, [], ()⟩) ∧
    model.payload (.hit (.token 1) .both (.ofInt 0 2)) = .ok (.ofInt 0 2) ∧
    Value.ofInt 0 2 ≠ .ofInt 0 1 :=
  ⟨rfl, rfl, rfl, by decide⟩

/-- **A debug verdict is the plain one, unless an object leaves a question without an answer.**
A classifier that ends in a fault does so in both modes. Otherwise the two verdicts are the same
exactly when every question of the check is answered, or ends in a violation: an outcome in order
leaves no trace, a violation leaves one warning, and any other fault is what the run ends in. -/
theorem debug_verdict {plain watched : Refinement ι α κ} {own : Profile α}
    (hplain : ofClassifier M ofFunction handle classifier (Mode.off.settings M) target = .ok plain)
    (hwatched : ofClassifier M ofFunction handle classifier (Mode.debug.settings M) target =
      .ok watched)
    (hown : classifier.profile M ofFunction = .ok own) (x : α) (s : Session σ α) :
    (∀ f t, (classifier.run M call x).runFrom s = (.error f, t) →
      (plain.run M call x).runFrom s = (.error f, t) ∧
      (watched.run M call x).runFrom s = (.error f, t)) ∧
    ∀ outcome t, (classifier.run M call x).runFrom s = (.ok outcome, t) → t.policy = .record →
      (plain.run M call x).runFrom s = (.ok (M.ofBool (M.isHit outcome)), t) ∧
      (((watched.run M call x).runFrom s).1 = ((plain.run M call x).runFrom s).1 ↔
        ∀ f, Contract.Unanswered M outcome x target f → f.kind = .contract) ∧
      (Contract.check M outcome x target = .ok () →
        (watched.run M call x).runFrom s = (.ok (M.ofBool (M.isHit outcome)), t)) ∧
      (∀ f, Contract.check M outcome x target = .error f → f.kind = .contract →
        (watched.run M call x).runFrom s = (.ok (M.ofBool (M.isHit outcome)),
          t.push (.warned (Contract.warning own.title f.text)))) ∧
      (∀ f, Contract.Unanswered M outcome x target f → f.kind ≠ .contract →
        (watched.run M call x).runFrom s = (.error f, t)) := by
  obtain ⟨_, -, rfl⟩ := ofClassifier_mode hplain
  obtain ⟨own', hown', rfl⟩ := ofClassifier_mode hwatched
  rw [hown] at hown'
  cases hown'
  refine ⟨fun f t h => ⟨run_raised h, run_raised h⟩, fun outcome t h hp => ?_⟩
  have hoff : ((classified handle classifier .off target "").run M call x).runFrom s =
      (.ok (M.ofBool (M.isHit outcome)), t) := run_off h
  refine ⟨hoff, ?_, fun hc => run_kept h hc _, fun f hc hf => run_debug h hc hf hp,
    fun f hun hf => run_upset h hun.check_eq hf _⟩
  simp only [Mode.checking, Mode.title, hoff]
  constructor
  · intro hsame f hun
    by_cases hf : f.kind = .contract
    · exact hf
    · rw [run_upset h hun.check_eq hf] at hsame
      cases hsame
  · intro hall
    rcases hc : Contract.check M outcome x target with f | ⟨⟩
    · -- a fault of the check is a violation, or comes from an object that was asked
      by_cases hf : f.kind = .contract
      · exact congrArg Prod.fst (run_debug h hc hf hp)
      · exact absurd (hall f ((Contract.upset_iff hf).1 hc)) hf
    · rw [run_kept h hc]

/-- A classifier that answers with a truth value leaves a warning in debug mode. -/
theorem debug_verdict_truth :
    let own : Profile Value := .ofFunction "is_int" "is_int" none []
    let built (m : Mode) : Refinement Unit Value Species :=
      .classified 0 (.function ()) (m.checking model) none (m.title own)
    (∀ m : Mode, ofClassifier model (fun _ => own) 0 (.function ()) (m.settings model) none =
      .ok (built m)) ∧
    ((built .off).run model (fun _ _ => pure (.bool true)) (.ofInt 0 1)).runFrom ⟨.record, [], ()⟩ =
      (.ok (model.ofBool false), ⟨.record, [], ()⟩) ∧
    ((built .debug).run model (fun _ _ => pure (.bool true)) (.ofInt 0 1)).runFrom
      ⟨.record, [], ()⟩ = (.ok (model.ofBool false), ⟨.record, [.warned (Contract.warning "is_int"
        (Violation.notAnOutcome "True").message)], ()⟩) := by
  intro own built
  have hbuilt : ∀ m : Mode, ofClassifier model (fun _ => own) 0 (.function ()) (m.settings model)
      none = .ok (built m) := by
    intro m
    cases m <;> rfl
  have hrun : ((.function () : Refinement Unit Value Species).run model
      (fun _ _ => pure (.bool true)) (.ofInt 0 1)).runFrom ⟨.record, [], ()⟩ =
      (.ok (.bool true), ⟨.record, [], ()⟩) := rfl
  obtain ⟨hplain, -, -, hbroken, -⟩ :=
    (debug_verdict (hbuilt .off) (hbuilt .debug) rfl _ _).2 _ _ hrun rfl
  exact ⟨hbuilt, hplain, hbroken (Violation.notAnOutcome "True").fault rfl rfl⟩

/-- **A violation that cannot be written ends a debug run.** The outcome is a creature that does
not let itself be written: no checks answer, and debug mode ends in the fault of the creature. -/
theorem debug_ends_in_fault :
    let stranger : Value := .creature (.token 1) .badDisplay (.ofInt 0 1)
    let built (m : Mode) : Except Fault (Refinement Unit Value Species) :=
      ofClassifier model (fun _ => .ofFunction "is_int" "is_int" none []) 0 (.function ())
        (m.settings model) none
    ∃ plain watched, built .off = .ok plain ∧ built .debug = .ok watched ∧
      (plain.run model (fun _ _ => pure stranger) (.ofInt 0 1)).runFrom ⟨.record, [], ()⟩ =
        (.ok (model.ofBool false), ⟨.record, [], ()⟩) ∧
      (watched.run model (fun _ _ => pure stranger) (.ofInt 0 1)).runFrom ⟨.record, [], ()⟩ =
        (.error ⟨.runtimeError, "repr exploded"⟩, ⟨.record, [], ()⟩) :=
  ⟨_, _, rfl, rfl, rfl, rfl⟩

end Refinement

end Narrowing
