import Narrowing.Contract

/-!
# What a check finds

The check of one outcome finds it in order, finds a violation, or is left without an answer
by an object that it asks (`Contract.check_cases`).

* `Contract.check_eq_ok_iff`: an outcome is in order when it is a miss, or a hit that keeps the
  contract (`Contract.Kept`).
* `Contract.upset_iff`: a check ends in a fault that is no violation exactly when an object
  answers one of its questions with that fault (`Contract.Unanswered`).
-/

namespace Narrowing.Contract

variable {α κ : Type} [DecidableEq α] [DecidableEq κ] {M : ObjectModel α κ} {outcome candidate : α}
  {target : Option (Target α κ)}

/-- **A hit keeps the contract**: it carries the candidate itself, which meets the declared
target. -/
structure Kept (M : ObjectModel α κ) (outcome candidate : α) (target : Option (Target α κ)) :
    Prop where
  carries : M.payload outcome = .ok candidate
  meets : ∀ t, target = some t → t.accepts M candidate = .ok true

/-- **A question of the check that an object answers with a fault.** The outcome may have to
be written out, to show what it carries, to have that written out next to the candidate, and
to have it held against the target. -/
inductive Unanswered (M : ObjectModel α κ) (outcome candidate : α) :
    Option (Target α κ) → Fault → Prop where
  | outcome {target f} (hmiss : M.isMiss outcome = false) (hhit : M.isHit outcome = false)
      (h : M.display outcome = .error f) : Unanswered M outcome candidate target f
  | payload {target f} (hmiss : M.isMiss outcome = false) (hhit : M.isHit outcome = true)
      (h : M.payload outcome = .error f) : Unanswered M outcome candidate target f
  | strayPayload {target f p} (hmiss : M.isMiss outcome = false) (hhit : M.isHit outcome = true)
      (hp : M.payload outcome = .ok p) (hne : p ≠ candidate) (h : M.display p = .error f) :
      Unanswered M outcome candidate target f
  | candidate {target f p d} (hmiss : M.isMiss outcome = false) (hhit : M.isHit outcome = true)
      (hp : M.payload outcome = .ok p) (hne : p ≠ candidate) (hd : M.display p = .ok d)
      (h : M.display candidate = .error f) : Unanswered M outcome candidate target f
  | target {t f} (hmiss : M.isMiss outcome = false) (hhit : M.isHit outcome = true)
      (hp : M.payload outcome = .ok candidate) (h : t.accepts M candidate = .error f) :
      Unanswered M outcome candidate (some t) f
  | unmetPayload {t f} (hmiss : M.isMiss outcome = false) (hhit : M.isHit outcome = true)
      (hp : M.payload outcome = .ok candidate) (ht : t.accepts M candidate = .ok false)
      (h : M.display candidate = .error f) : Unanswered M outcome candidate (some t) f
  | unmetTarget {t f d} (hmiss : M.isMiss outcome = false) (hhit : M.isHit outcome = true)
      (hp : M.payload outcome = .ok candidate) (ht : t.accepts M candidate = .ok false)
      (hd : M.display candidate = .ok d) (h : t.label M = .error f) :
      Unanswered M outcome candidate (some t) f

/-- A miss is in order. -/
theorem check_of_isMiss (h : M.isMiss outcome = true) :
    check M outcome candidate target = .ok () := by
  simp [check, h, pure, Except.pure]

/-- Neither a miss nor a hit: the outcome is written out, and reported. -/
theorem check_of_stranger (hmiss : M.isMiss outcome = false) (hhit : M.isHit outcome = false) :
    check M outcome candidate target =
      (M.display outcome).bind fun d => .error (Violation.notAnOutcome d).fault := by
  simp only [check, hmiss, hhit]
  rfl

/-- A hit that does not show what it carries. -/
theorem check_of_lost (hmiss : M.isMiss outcome = false) (hhit : M.isHit outcome = true) {f : Fault}
    (hp : M.payload outcome = .error f) : check M outcome candidate target = .error f := by
  simp only [check, hmiss, hhit, hp]
  rfl

/-- A hit with something else than the candidate: both are written out, and reported. -/
theorem check_of_stray (hmiss : M.isMiss outcome = false) (hhit : M.isHit outcome = true) {p : α}
    (hp : M.payload outcome = .ok p) (hne : p ≠ candidate) :
    check M outcome candidate target = (M.display p).bind fun d => (M.display candidate).bind
      fun e => .error (Violation.notTheCandidate d e).fault := by
  simp only [check, hmiss, hhit, hp, bind, Except.bind, pure, Except.pure, if_pos hne]
  rcases M.display p with f | d
  · rfl
  · rcases M.display candidate with f | e <;> rfl

/-- A hit with the candidate, where no target is declared. -/
theorem check_of_carried (hmiss : M.isMiss outcome = false) (hhit : M.isHit outcome = true)
    (hp : M.payload outcome = .ok candidate) : check M outcome candidate none = .ok () := by
  simp [check, hmiss, hhit, hp, bind, Except.bind, pure, Except.pure]

/-- A hit with the candidate is held against the target: if it is off, it is written out next
to the target, and reported. -/
theorem check_of_targeted (hmiss : M.isMiss outcome = false) (hhit : M.isHit outcome = true)
    (hp : M.payload outcome = .ok candidate) (t : Target α κ) :
    check M outcome candidate (some t) = (t.accepts M candidate).bind fun met =>
      if met then .ok () else (M.display candidate).bind fun d => (t.label M).bind
        fun l => .error (Violation.offTarget d l).fault := by
  simp only [check, hmiss, hhit, hp, bind, Except.bind, pure, Except.pure, ne_eq, not_true_eq_false,
    if_false]
  rcases t.accepts M candidate with f | met
  · rfl
  · cases met <;> rfl

/-- A hit that keeps the contract passes. -/
theorem check_of_kept (hhit : M.isHit outcome = true) (h : Kept M outcome candidate target) :
    check M outcome candidate target = .ok () := by
  cases hmiss : M.isMiss outcome with
  | true => exact check_of_isMiss hmiss
  | false =>
    cases target with
    | none => exact check_of_carried hmiss hhit h.carries
    | some t =>
      rw [check_of_targeted hmiss hhit h.carries, h.meets t rfl]
      rfl

/-- **What a check can find**: an outcome in order, a violation, or no answer to a question. -/
theorem check_cases (M : ObjectModel α κ) (outcome candidate : α) (target : Option (Target α κ)) :
    (check M outcome candidate target = .ok () ∧
      (M.isMiss outcome = true ∨ (M.isHit outcome = true ∧ Kept M outcome candidate target))) ∨
    (∃ v, check M outcome candidate target = .error (Violation.fault v)) ∨
    (∃ f, check M outcome candidate target = .error f ∧ Unanswered M outcome candidate target f) := by
  -- the cases follow the order of the check, in which each question may be left without an answer
  cases hmiss : M.isMiss outcome with
  | true => exact .inl ⟨check_of_isMiss hmiss, .inl rfl⟩
  | false =>
    cases hhit : M.isHit outcome with
    | false =>
      rw [check_of_stranger hmiss hhit]
      rcases hd : M.display outcome with f | d
      · exact .inr (.inr ⟨f, rfl, .outcome hmiss hhit hd⟩)
      · exact .inr (.inl ⟨_, rfl⟩)
    | true =>
      rcases hp : M.payload outcome with f | p
      · exact .inr (.inr ⟨f, check_of_lost hmiss hhit hp, .payload hmiss hhit hp⟩)
      by_cases hne : p = candidate
      · subst hne
        cases target with
        | none => exact .inl ⟨check_of_carried hmiss hhit hp, .inr ⟨rfl, hp, fun t ht => by cases ht⟩⟩
        | some t =>
          rw [check_of_targeted hmiss hhit hp]
          rcases hm : t.accepts M p with f | met
          · exact .inr (.inr ⟨f, rfl, .target hmiss hhit hp hm⟩)
          cases met with
          | true => exact .inl ⟨rfl, .inr ⟨rfl, hp, fun u hu => by cases hu; exact hm⟩⟩
          | false =>
            rcases hd : M.display p with f | d
            · exact .inr (.inr ⟨f, rfl, .unmetPayload hmiss hhit hp hm hd⟩)
            rcases hl : t.label M with f | l
            · exact .inr (.inr ⟨f, rfl, .unmetTarget hmiss hhit hp hm hd hl⟩)
            · exact .inr (.inl ⟨_, rfl⟩)
      · rw [check_of_stray hmiss hhit hp hne]
        rcases hd : M.display p with f | d
        · exact .inr (.inr ⟨f, rfl, .strayPayload hmiss hhit hp hne hd⟩)
        rcases he : M.display candidate with f | e
        · exact .inr (.inr ⟨f, rfl, .candidate hmiss hhit hp hne hd he⟩)
        · exact .inr (.inl ⟨_, rfl⟩)

/-- **What passes the check**: a miss, whatever else it is, and a hit that keeps the contract. -/
theorem check_eq_ok_iff : check M outcome candidate target = .ok () ↔
    M.isMiss outcome = true ∨ (M.isHit outcome = true ∧ Kept M outcome candidate target) := by
  constructor
  · intro h
    rcases check_cases M outcome candidate target with ⟨-, hok⟩ | ⟨v, hv⟩ | ⟨f, hf, -⟩
    · exact hok
    · rw [h] at hv; cases hv
    · rw [h] at hf; cases hf
  · rintro (hmiss | ⟨hhit, hkept⟩)
    · exact check_of_isMiss hmiss
    · exact check_of_kept hhit hkept

/-- A question that is not answered is what the check ends in. -/
theorem Unanswered.check_eq {f : Fault} (h : Unanswered M outcome candidate target f) :
    check M outcome candidate target = .error f := by
  cases h with
  | outcome hmiss hhit h => rw [check_of_stranger hmiss hhit, h]; rfl
  | payload hmiss hhit h => exact check_of_lost hmiss hhit h
  | strayPayload hmiss hhit hp hne h => rw [check_of_stray hmiss hhit hp hne, h]; rfl
  | candidate hmiss hhit hp hne hd h => rw [check_of_stray hmiss hhit hp hne, hd, h]; rfl
  | target hmiss hhit hp h => rw [check_of_targeted hmiss hhit hp, h]; rfl
  | unmetPayload hmiss hhit hp ht h => rw [check_of_targeted hmiss hhit hp, ht, h]; rfl
  | unmetTarget hmiss hhit hp ht hd h => rw [check_of_targeted hmiss hhit hp, ht, hd, h]; rfl

/-- **A check is upset exactly by a question without an answer**: a fault that is no violation
comes from an object that was asked. -/
theorem upset_iff {f : Fault} (hf : f.kind ≠ .contract) :
    check M outcome candidate target = .error f ↔ Unanswered M outcome candidate target f := by
  refine ⟨fun h => ?_, Unanswered.check_eq⟩
  rcases check_cases M outcome candidate target with ⟨hok, -⟩ | ⟨v, hv⟩ | ⟨g, hg, hun⟩
  · rw [h] at hok; cases hok
  · rw [h] at hv; cases hv; exact absurd rfl hf
  · rw [h] at hg; cases hg; exact hun

end Narrowing.Contract
