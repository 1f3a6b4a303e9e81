import Narrowing.Proofs.Check
import Narrowing.Proofs.Evaluation
import Narrowing.Refinement.Construction

/-!
# Enforcing the contract

What a refinement makes of the outcome of its classifier, in each of three modes.

* `Refinement.ofClassifier_mode`: what is built from a classifier in a `Mode`.
* `Refinement.run_kept`, `Refinement.run_debug`, `Refinement.run_strict`, `Refinement.run_upset`:
  the run of a refinement, by what the check of the outcome finds.
-/

namespace Narrowing

variable {ι α κ σ : Type} {M : ObjectModel α κ}

/-- The title that a classifier is reported under: its qualified name, or else its written form. -/
def Profile.title (p : Profile α) : String := p.qualname.text?.getD (p.shown.toOption.getD "")

namespace NameTag

/-- What takes the place of a text is a text. -/
theorem adopt_text {field n : String} {inner tag : NameTag}
    (h : (text n).adopt field inner = .ok tag) : ∃ m, tag = text m := by
  cases inner with
  | absent | text =>
    cases h
    exact ⟨_, rfl⟩
  | other => cases h

end NameTag

namespace Profile

variable {outer inner p : Profile α}

/-- **A profile with names**: both are texts, and there is a written form. -/
structure IsNamed (p : Profile α) : Prop where
  name : ∃ n, p.name = .text n
  qualname : ∃ n, p.qualname = .text n
  shown : ∃ d, p.shown = .ok d

theorem isNamed_ofFunction (name qualname : String) (doc : Option String)
    (extras : List (String × α)) : (ofFunction name qualname doc extras).IsNamed :=
  ⟨⟨_, rfl⟩, ⟨_, rfl⟩, ⟨_, rfl⟩⟩

/-- A wrapper that has names keeps them or takes over other ones. -/
theorem IsNamed.adopt (houter : outer.IsNamed) (h : outer.adopt inner = .ok p) : p.IsNamed := by
  obtain ⟨name, hname, h⟩ := bind_eq_ok h
  obtain ⟨qualname, hqualname, h⟩ := bind_eq_ok h
  cases h
  obtain ⟨n, hn⟩ := houter.name
  obtain ⟨m, hm⟩ := houter.qualname
  rw [hn] at hname
  rw [hm] at hqualname
  exact ⟨NameTag.adopt_text hname, NameTag.adopt_text hqualname, ⟨_, rfl⟩⟩

/-- Names are adopted by every wrapper. -/
theorem IsNamed.adopted (h : inner.IsNamed) (outer : Profile α) : ∃ p, outer.adopt inner = .ok p := by
  obtain ⟨n, hn⟩ := h.name
  obtain ⟨m, hm⟩ := h.qualname
  rw [Profile.adopt, hn, hm]
  exact ⟨_, rfl⟩

end Profile

/-- Two switches that hold truth values enable the checks if one of them is on. -/
theorem Settings.checksEnabled_map (s : Settings Bool) :
    (s.map M.ofBool).checksEnabled M = .ok (M.ofBool (s.debug || s.strict)) := by
  rcases s with ⟨debug, strict⟩
  cases debug <;> simp only [map, checksEnabled, M.truth_ofBool] <;> rfl

/-- **The modes**: no checks, checks that warn, and checks that end in a fault. -/
inductive Mode where
  | off
  | debug
  | strict
deriving DecidableEq, Repr

namespace Mode

/-- The settings that ask for a mode. -/
def settings (M : ObjectModel α κ) : Mode → Settings α
  | off => ⟨M.ofBool false, M.ofBool false⟩
  | debug => ⟨M.ofBool true, M.ofBool false⟩
  | strict => ⟨M.ofBool false, M.ofBool true⟩

/-- How a refinement built in a mode checks its outcomes. -/
def checking (M : ObjectModel α κ) : Mode → Contract.Checking α
  | off => .off
  | debug => .on (M.ofBool false)
  | strict => .on (M.ofBool true)

/-- Whether the checks of a mode are on. -/
def isOn : Mode → Bool
  | off => false
  | debug | strict => true

/-- The title that a refinement built in a mode bears. Without checks nobody asks for it. -/
def title : Mode → Profile α → String
  | off, _ => ""
  | debug, own | strict, own => own.title

theorem checksEnabled_settings (m : Mode) :
    (m.settings M).checksEnabled M = .ok (M.ofBool m.isOn) := by
  cases m <;> simp only [settings, Settings.checksEnabled, M.truth_ofBool] <;> rfl

end Mode

namespace Contract

/-- What a failed check comes to: the fault itself, unless it is a violation that is not meant to
be one. -/
theorem report_eq {strict : α} {title : String} {f : Fault} (s : Session σ α) :
    (report M strict title f).runFrom s =
      if f.kind = .contract then
        match M.truth strict with
        | .error g => (.error g, s)
        | .ok true => (.error f, s)
        | .ok false => (Eval.warn (warning title f.text)).runFrom s
      else (.error f, s) := by
  unfold report
  by_cases hf : f.kind = .contract
  · simp only [if_pos hf]
    rcases M.truth strict with g | ⟨_ | _⟩ <;> rfl
  · simp only [if_neg hf]
    rfl

/-- A review leaves the state of a session alone. -/
theorem review_state [DecidableEq α] [DecidableEq κ] (checking : Checking α)
    (target : Option (Target α κ)) (title : String) (outcome x : α) (s : Session σ α) :
    ((review M checking target title outcome x).runFrom s).2.state = s.state := by
  cases checking with
  | off => rfl
  | on strict =>
    unfold review
    rcases check M outcome x target with f | ⟨⟩
    · simp only
      rw [report_eq]
      split
      · split
        · rfl
        · rfl
        · rcases s with ⟨policy, history, state⟩
          cases policy <;> rfl
      · rfl
    · rfl

end Contract

namespace Refinement

variable [DecidableEq κ] {ofFunction : ι → Profile α} {handle : Nat} {classifier r : Refinement ι α κ}
  {target : Option (Target α κ)}

/-- **What is built from a classifier in a mode.** With the checks on it bears the title of the
classifier. -/
theorem ofClassifier_mode {m : Mode}
    (h : ofClassifier M ofFunction handle classifier (m.settings M) target = .ok r) :
    ∃ own, classifier.profile M ofFunction = .ok own ∧
      r = .classified handle classifier (m.checking M) target (m.title own) := by
  unfold ofClassifier at h
  obtain ⟨own, hown, h⟩ := bind_eq_ok h
  obtain ⟨enabled, henabled, h⟩ := bind_eq_ok h
  rw [Mode.checksEnabled_settings] at henabled
  cases henabled
  obtain ⟨on, hon, h⟩ := bind_eq_ok h
  rw [M.truth_ofBool] at hon
  cases hon
  refine ⟨own, hown, ?_⟩
  cases m with
  | off =>
    obtain ⟨_, -, h⟩ := bind_eq_ok h
    cases h
    rfl
  | debug | strict =>
    obtain ⟨shown, hshown, h⟩ := bind_eq_ok h
    obtain ⟨_, -, h⟩ := bind_eq_ok h
    cases h
    simp only [Mode.title, Profile.title, hshown]
    rfl

/-- What is built from a classifier, whatever the settings are: it is checked as they say. -/
theorem ofClassifier_eq_ok {settings : Settings α}
    (h : ofClassifier M ofFunction handle classifier settings target = .ok r) :
    ∃ checking title, r = .classified handle classifier checking target title ∧
      (checking = .off ∨ checking = .on settings.strict) := by
  unfold ofClassifier at h
  obtain ⟨own, -, h⟩ := bind_eq_ok h
  obtain ⟨enabled, -, h⟩ := bind_eq_ok h
  obtain ⟨on, -, h⟩ := bind_eq_ok h
  cases on with
  | false =>
    obtain ⟨_, -, h⟩ := bind_eq_ok h
    cases h
    exact ⟨_, _, rfl, .inl rfl⟩
  | true =>
    obtain ⟨shown, -, h⟩ := bind_eq_ok h
    obtain ⟨_, -, h⟩ := bind_eq_ok h
    cases h
    exact ⟨_, _, rfl, .inr rfl⟩

theorem isNamed_wrapper (checking : Contract.Checking α) : (wrapper checking).IsNamed := by
  cases checking <;> exact Profile.isNamed_ofFunction _ _ _ _

/-- What is built from a classifier has names. -/
theorem ofClassifier_isNamed {settings : Settings α}
    (h : ofClassifier M ofFunction handle classifier settings target = .ok r) :
    ∃ own, r.profile M ofFunction = .ok own ∧ own.IsNamed := by
  obtain ⟨own, hown⟩ : ∃ own, r.profile M ofFunction = .ok own := by
    unfold ofClassifier at h
    obtain ⟨_, -, h⟩ := bind_eq_ok h
    obtain ⟨_, -, h⟩ := bind_eq_ok h
    obtain ⟨on, -, h⟩ := bind_eq_ok h
    cases on with
    | false =>
      obtain ⟨own, hown, h⟩ := bind_eq_ok h
      cases h
      exact ⟨own, hown⟩
    | true =>
      obtain ⟨_, -, h⟩ := bind_eq_ok h
      obtain ⟨own, hown, h⟩ := bind_eq_ok h
      cases h
      exact ⟨own, hown⟩
  obtain ⟨checking, title, rfl, -⟩ := ofClassifier_eq_ok h
  obtain ⟨inner, -, hadopted⟩ := bind_eq_ok hown
  exact ⟨own, hown, (isNamed_wrapper checking).adopt hadopted⟩

/-- **From a classifier with names a refinement is built**, in all settings whose switches hold truth
values. -/
theorem ofClassifier_named {own : Profile α} (handle : Nat) (target : Option (Target α κ))
    (hown : classifier.profile M ofFunction = .ok own) (hnamed : own.IsNamed)
    (settings : Settings Bool) :
    ∃ r, ofClassifier M ofFunction handle classifier (settings.map M.ofBool) target = .ok r := by
  -- the refinement takes over the names of the classifier, so these have to be texts
  have hadopted : ∀ checking title, ∃ p,
      (classified handle classifier checking target title).profile M ofFunction = .ok p := by
    intro checking title
    rw [profile, hown]
    exact hnamed.adopted _
  obtain ⟨d, hd⟩ := hnamed.shown
  have htruth := M.truth_ofBool (settings.debug || settings.strict)
  unfold ofClassifier
  rw [hown, Settings.checksEnabled_map]
  cases hon : settings.debug || settings.strict with
  | false =>
    obtain ⟨p, hp⟩ := hadopted .off ""
    rw [hon] at htruth
    simp only [bind, Except.bind, htruth, hp]
    exact ⟨_, rfl⟩
  | true =>
    obtain ⟨p, hp⟩ := hadopted (.on (settings.map M.ofBool).strict) (own.qualname.text?.getD d)
    rw [hon] at htruth
    simp only [bind, Except.bind, htruth, hd, hp]
    exact ⟨_, rfl⟩

variable [DecidableEq α] {call : ι → α → Eval σ α α} {x outcome : α} {s t : Session σ α}
  {title : String} {checking : Contract.Checking α} {f : Fault}

/-- A classifier that ends in a fault is all that a refinement runs. -/
theorem run_raised (h : (classifier.run M call x).runFrom s = (.error f, t)) :
    ((classified handle classifier checking target title).run M call x).runFrom s =
      (.error f, t) := by
  simp only [run, Contract.enforce]
  exact Eval.runFrom_bind_error h _

/-- An outcome is reviewed, and gives the verdict if nothing comes of that. -/
theorem run_reviewed (h : (classifier.run M call x).runFrom s = (.ok outcome, t)) :
    ((classified handle classifier checking target title).run M call x).runFrom s =
      (Contract.review M checking target title outcome x >>= fun _ =>
        pure (M.ofBool (M.isHit outcome))).runFrom t := by
  simp only [run, Contract.enforce]
  exact Eval.runFrom_bind_ok h _

/-- Without checks the verdict is whether the outcome counts as a hit. -/
theorem run_off (h : (classifier.run M call x).runFrom s = (.ok outcome, t)) :
    ((classified handle classifier .off target title).run M call x).runFrom s =
      (.ok (M.ofBool (M.isHit outcome)), t) := by
  rw [run_reviewed h]
  rfl

/-- An outcome in order leaves the verdict as it is. -/
theorem run_kept (h : (classifier.run M call x).runFrom s = (.ok outcome, t))
    (hc : Contract.check M outcome x target = .ok ()) (strict : α) :
    ((classified handle classifier (.on strict) target title).run M call x).runFrom s =
      (.ok (M.ofBool (M.isHit outcome)), t) := by
  rw [run_reviewed h]
  simp only [Contract.review, hc]
  rfl

/-- A fault of the check that is no violation is what the run ends in. -/
theorem run_upset (h : (classifier.run M call x).runFrom s = (.ok outcome, t))
    (hc : Contract.check M outcome x target = .error f) (hf : f.kind ≠ .contract) (strict : α) :
    ((classified handle classifier (.on strict) target title).run M call x).runFrom s =
      (.error f, t) := by
  rw [run_reviewed h]
  simp only [Contract.review, Contract.report, hc, if_neg hf]
  rfl

/-- A violation in strict mode is what the run ends in. -/
theorem run_strict (h : (classifier.run M call x).runFrom s = (.ok outcome, t))
    (hc : Contract.check M outcome x target = .error f) :
    ((classified handle classifier (Mode.strict.checking M) target title).run M call x).runFrom s =
      (.error f, t) := by
  by_cases hf : f.kind = .contract
  · rw [Mode.checking, run_reviewed h]
    simp only [Contract.review, Contract.report, hc, if_pos hf, M.truth_ofBool]
    rfl
  · exact run_upset h hc hf _

/-- A violation in debug mode is recorded as a warning, and leaves the verdict as it is. -/
theorem run_debug (h : (classifier.run M call x).runFrom s = (.ok outcome, t))
    (hc : Contract.check M outcome x target = .error f) (hf : f.kind = .contract)
    (hp : t.policy = .record) :
    ((classified handle classifier (Mode.debug.checking M) target title).run M call x).runFrom s =
      (.ok (M.ofBool (M.isHit outcome)), t.push (.warned (Contract.warning title f.text))) := by
  have hwarn : (Contract.report M (M.ofBool false) title f : Eval σ α Unit).runFrom t =
      (.ok (), t.push (.warned (Contract.warning title f.text))) := by
    simp only [Contract.report, if_pos hf, M.truth_ofBool]
    exact Eval.runFrom_warn hp _
  rw [Mode.checking, run_reviewed h]
  simp only [Contract.review, hc]
  rw [Eval.runFrom_bind_ok hwarn]
  rfl

end Refinement

end Narrowing
