import Narrowing.Menagerie.Making
import Narrowing.Menagerie.Model
import Narrowing.Proofs.Enforcement
import Narrowing.Proofs.Flags
import Narrowing.Proofs.Leaves

/-!
# Ready-made refinements and their contract

A ready-made classifier answers with a hit that carries the candidate itself, or with a miss. A hit on
some species meets the target that they make up, though it is tested there a second time and in
another way. So the checks find nothing, and whatever the settings are, a ready-made refinement does
what it does without checks.

* `Readymade.runFrom_classify`, `Readymade.runFrom_among_cons`: what a ready-made classifier does.
* `Readymade.declared_met`: what is recognized meets the declared target.
* `Refinement.run_readymade`: a ready-made refinement answers with what its classifier recognizes.
* `Refinement.readymade_undisturbed`: it does so in every environment.
-/

namespace Narrowing

variable {ι α κ σ : Type} {M : ObjectModel α κ}

/-- A comparison is no warning. -/
theorem Session.warnings_push_compared (s : Session σ α) (x v : α) :
    (s.push (.compared x v)).warnings = s.warnings := by
  simp [Session.warnings, Session.push]

namespace Target

/-- Several alternatives as one target are asked about one after the other. -/
theorem hasInstance_ofAlternatives (x : α) (ts : List (Target α κ)) :
    (ofAlternatives ts).hasInstance M x = hasInstanceSome M x ts := by
  match ts with
  | [] | _ :: _ :: _ => rfl
  | [t] =>
    rw [ofAlternatives, hasInstanceSome]
    rcases t.hasInstance M x with f | ⟨_ | _⟩ <;> rfl

theorem hasInstanceSome_cons (x : α) (t : Target α κ) (ts : List (Target α κ)) :
    hasInstanceSome M x (t :: ts) =
      (t.hasInstance M x).bind fun b => if b then .ok true else hasInstanceSome M x ts := by
  rw [hasInstanceSome]
  rfl

/-- A fault of a scan is the answer to one of its questions, behind some that have been answered
with no. -/
theorem hasInstanceSome_error {x : α} {ts : List (Target α κ)} {f : Fault}
    (h : hasInstanceSome M x ts = .error f) : ∃ before t after, ts = before ++ t :: after ∧
      (∀ u ∈ before, u.hasInstance M x = .ok false) ∧ t.hasInstance M x = .error f := by
  induction ts with
  | nil => cases h
  | cons t ts ih =>
    rw [hasInstanceSome_cons] at h
    rcases ht : t.hasInstance M x with g | ⟨_ | _⟩
    · rw [ht] at h
      cases h
      exact ⟨[], t, ts, rfl, List.forall_mem_nil _, ht⟩
    · rw [ht] at h
      obtain ⟨before, u, after, rfl, hbefore, hu⟩ := ih h
      exact ⟨t :: before, u, after, rfl, List.forall_mem_cons.2 ⟨ht, hbefore⟩, hu⟩
    · rw [ht] at h
      cases h

/-- A target that a species object stands for: a species, or the one that takes in anything. -/
def IsSpecies (t : Target α κ) : Prop := t = any ∨ ∃ c, t = species c

variable [DecidableEq κ]

/-- Up to the seal, several alternatives as one target are met as they are scanned. -/
theorem sealedCheck_ofAlternatives (x : α) (ts : List (Target α κ)) :
    sealedCheck ((ofAlternatives ts).accepts M x) = acceptsSome M x ts := by
  match ts with
  | [] | _ :: _ :: _ => exact sealedCheck_acceptsSome _
  | [t] => exact (acceptsSome_single t).symm

/-- A species is met as the instance check answers, where this is no fault. -/
theorem accepts_species_of_ok {x : α} {c : κ} {b : Bool} (h : M.belongs x c = .ok b) :
    (species c : Target α κ).accepts M x = .ok b := by
  have hcheck : hasInstance M x (underlying (species c : Target α κ)) = .ok b := h
  rw [accepts_of_isChecked rfl, acceptsLeaf, hcheck]

/-- **Where the instance check answers, some species are met as it answers.** -/
theorem acceptsSome_of_hasInstanceSome {x : α} {ts : List (Target α κ)} {b : Bool}
    (hts : ∀ t ∈ ts, t.IsSpecies) (h : hasInstanceSome M x ts = .ok b) :
    acceptsSome M x ts = .ok b := by
  induction ts with
  | nil => exact h
  | cons t ts ih =>
    rw [List.forall_mem_cons] at hts
    rw [hasInstanceSome_cons] at h
    rw [acceptsSome_cons]
    rcases hts.1 with rfl | ⟨c, rfl⟩
    · -- the instance check refuses the species that takes in anything
      cases h
    · rw [hasInstance] at h
      rcases hc : M.belongs x c with f | d
      · rw [hc] at h
        cases h
      · rw [hc] at h
        rw [accepts_species_of_ok hc]
        cases d with
        | true => exact h
        | false => exact ih hts.2 h

/-- **Some species as one target are met as the instance check answers**, where it does. -/
theorem accepts_of_hasInstance {x : α} {ts : List (Target α κ)} {b : Bool}
    (hts : ∀ t ∈ ts, t.IsSpecies) (h : (ofAlternatives ts).hasInstance M x = .ok b) :
    (ofAlternatives ts).accepts M x = .ok b := by
  rw [hasInstance_ofAlternatives] at h
  rw [← sealedCheck_eq_ok, sealedCheck_ofAlternatives]
  exact acceptsSome_of_hasInstanceSome hts h

end Target

namespace Readymade

/-- The target that a ready-made refinement declares. -/
def declared (M : ObjectModel α κ) : Readymade α κ → Option (Target α κ)
  | instances ts => some (.ofAlternatives ts)
  | values _ => none
  | absence => some (.species M.noneSpecies)

/-- A ready-made classifier that asks about species only. -/
def OfSpecies : Readymade α κ → Prop
  | instances ts => ∀ t ∈ ts, t.IsSpecies
  | values _ | absence => True

/-- **A question of a ready-made classifier that is answered with a fault**: an instance check, or a
comparison with one of the values. -/
inductive Unanswered (M : ObjectModel α κ) (x : α) : Readymade α κ → Fault → Prop where
  | instanceCheck {ts t f} (ht : t ∈ ts) (h : t.hasInstance M x = .error f) :
      Unanswered M x (instances ts) f
  | comparison {vs v f} (hv : v ∈ vs) (h : (M.equal x v >>= M.truth) = .error f) :
      Unanswered M x (values vs) f

/-- A ready-made classifier that asks about species only has a name. -/
theorem profile_ok [DecidableEq κ] {q : Readymade α κ} (hq : q.OfSpecies) :
    ∃ n, q.profile M = .ok (.ofFunction n n none []) := by
  cases q with
  | values vs => exact ⟨_, rfl⟩
  | absence => exact ⟨_, rfl⟩
  | instances ts =>
    suffices hnames : ∃ names, ts.mapM (fun t => t.name M) = .ok names by
      obtain ⟨names, hnames⟩ := hnames
      exact ⟨_, by rw [profile, hnames]; rfl⟩
    induction ts with
    | nil => exact ⟨[], rfl⟩
    | cons t ts ih =>
      obtain ⟨ht, hts⟩ := List.forall_mem_cons.1 hq
      obtain ⟨names, hnames⟩ := ih hts
      rw [List.mapM_cons, hnames]
      rcases ht with rfl | ⟨c, rfl⟩ <;> exact ⟨_, rfl⟩

/-- **One comparison.** It leaves its event, and settles the question if it holds or ends in a
fault. -/
theorem runFrom_among_cons (x v : α) (vs : List α) (s : Session σ α) :
    (among M x (v :: vs)).runFrom s =
      match M.equal x v >>= M.truth with
      | .error f => (.error f, s.push (.compared x v))
      | .ok true => (.ok true, s.push (.compared x v))
      | .ok false => (among M x vs).runFrom (s.push (.compared x v)) := by
  have hevent : (Eval.emit (.compared x v) : Eval σ α Unit).runFrom s =
      (.ok (), s.push (.compared x v)) := rfl
  rw [among, Eval.runFrom_bind_ok hevent]
  rcases M.equal x v with f | answer
  · rfl
  · have hanswer : (Eval.ofExcept (.ok answer) : Eval σ α α).runFrom (s.push (.compared x v)) =
        (.ok answer, s.push (.compared x v)) := rfl
    rw [Eval.runFrom_bind_ok hanswer]
    have hbind : ((.ok answer : Except Fault α) >>= M.truth) = M.truth answer := rfl
    rw [hbind]
    rcases M.truth answer with f | ⟨_ | _⟩ <;> rfl

/-- Comparisons issue no warnings, and a fault comes from one of them. -/
theorem among_undisturbed (x : α) (vs : List α) (s : Session σ α) :
    ((among M x vs).runFrom s).2.warnings = s.warnings ∧
    ∀ f, ((among M x vs).runFrom s).1 = .error f → ∃ v ∈ vs, (M.equal x v >>= M.truth) = .error f := by
  induction vs generalizing s with
  | nil => exact ⟨rfl, nofun⟩
  | cons v vs ih =>
    rw [runFrom_among_cons]
    rcases h : M.equal x v >>= M.truth with f | ⟨_ | _⟩
    · refine ⟨Session.warnings_push_compared s x v, fun g hg => ?_⟩
      cases hg
      exact ⟨v, List.mem_cons_self, h⟩
    · obtain ⟨hwarnings, hfault⟩ := ih (s.push (.compared x v))
      refine ⟨hwarnings.trans (Session.warnings_push_compared s x v), fun g hg => ?_⟩
      obtain ⟨w, hw, hcompared⟩ := hfault g hg
      exact ⟨w, List.mem_cons_of_mem _ hw, hcompared⟩
    · exact ⟨Session.warnings_push_compared s x v, nofun⟩

variable [DecidableEq α] {x : α} {q : Readymade α κ}

/-- **What a ready-made classifier does**: it answers with a hit that carries the candidate, or with a
miss, as it recognizes the candidate or not. -/
theorem runFrom_classify (q : Readymade α κ) (x : α) (s : Session σ α) :
    (q.classify M x).runFrom s =
      (((q.recognizes M x).runFrom s).1.map fun b => if b then M.hit x else M.miss,
        ((q.recognizes M x).runFrom s).2) := by
  rw [classify, bind_pure_comp, Eval.runFrom_map]

/-- **To recognize a candidate issues no warnings**, and a fault is the answer to a question. -/
theorem recognizes_undisturbed (q : Readymade α κ) (x : α) (s : Session σ α) :
    ((q.recognizes M x).runFrom s).2.warnings = s.warnings ∧
    ∀ f, ((q.recognizes M x).runFrom s).1 = .error f → q.Unanswered M x f := by
  cases q with
  | instances ts =>
    rw [recognizes, Eval.runFrom_ofExcept, Target.hasInstance_ofAlternatives]
    refine ⟨rfl, fun f hf => ?_⟩
    obtain ⟨before, t, after, rfl, -, hfault⟩ := Target.hasInstanceSome_error hf
    exact .instanceCheck (List.mem_append_right _ List.mem_cons_self) hfault
  | values vs =>
    rw [recognizes]
    obtain ⟨hwarnings, hfault⟩ := among_undisturbed (M := M) x vs s
    refine ⟨hwarnings, fun f hf => ?_⟩
    obtain ⟨v, hv, hcompared⟩ := hfault f hf
    exact .comparison hv hcompared
  | absence => exact ⟨rfl, nofun⟩

/-- **What is recognized meets the declared target.** -/
theorem declared_met [DecidableEq κ] (hq : q.OfSpecies) {s t : Session σ α}
    (h : (q.recognizes M x).runFrom s = (.ok true, t)) :
    ∀ T, q.declared M = some T → T.accepts M x = .ok true := by
  intro T hT
  cases q with
  | instances ts =>
    cases hT
    rw [recognizes, Eval.runFrom_ofExcept] at h
    exact Target.accepts_of_hasInstance hq (congrArg Prod.fst h)
  | values vs => cases hT
  | absence =>
    cases hT
    have hanswer : (.ok (decide (x = M.none)) : Except Fault Bool) = .ok true := congrArg Prod.fst h
    cases hx : decide (x = M.none) with
    | false =>
      rw [hx] at hanswer
      cases hanswer
    | true =>
      -- the empty value is of its own species, which has it in any model
      rw [of_decide_eq_true hx]
      apply Target.accepts_species_of_ok
      rw [← M.speciesOf_none]
      exact M.belongs_speciesOf M.none

/-- The outcome of a ready-made classifier is in order. -/
theorem check_outcome [DecidableEq κ] {target : Option (Target α κ)} {b : Bool}
    (h : b = true → ∀ T, target = some T → T.accepts M x = .ok true) :
    Contract.check M (if b then M.hit x else M.miss) x target = .ok () := by
  cases b with
  | false => exact Contract.check_of_isMiss M.isMiss_miss
  | true => exact Contract.check_of_kept (M.isHit_hit x) ⟨M.payload_hit x, h rfl⟩

end Readymade

namespace Refinement

variable [DecidableEq α] [DecidableEq κ] {ofFunction : ι → Profile α} {handle inner : Nat}
  {q : Readymade α κ} {call : ι → α → Eval σ α α} {target : Option (Target α κ)} {x : α}

/-- **A ready-made refinement answers with what its classifier recognizes**, however its outcomes are
checked, as long as what is recognized meets the target. -/
theorem run_readymade {s : Session σ α}
    (hmet : ∀ t, (q.recognizes M x).runFrom s = (.ok true, t) →
      ∀ T, target = some T → T.accepts M x = .ok true)
    (checking : Contract.Checking α) (title : String) :
    ((classified handle (readymade inner q) checking target title).run M call x).runFrom s =
      (((q.recognizes M x).runFrom s).1.map M.ofBool, ((q.recognizes M x).runFrom s).2) := by
  -- a miss passes the check, and so does a hit, which carries the very candidate
  have hclassify := q.runFrom_classify (M := M) x s
  rcases hrec : (q.recognizes M x).runFrom s with ⟨f | b, t⟩
  · rw [hrec] at hclassify
    have hrun : ((readymade inner q : Refinement ι α κ).run M call x).runFrom s = (.error f, t) := by
      rw [run, hclassify]
      rfl
    exact run_raised hrun
  · rw [hrec] at hclassify
    have hrun : ((readymade inner q : Refinement ι α κ).run M call x).runFrom s =
        (.ok (if b then M.hit x else M.miss), t) := by
      rw [run, hclassify]
      rfl
    have hcheck : Contract.check M (if b then M.hit x else M.miss) x target = .ok () :=
      Readymade.check_outcome fun hb => hmet t (by rw [hrec, hb])
    have hverdict : M.isHit (if b then M.hit x else M.miss) = b := by
      cases b
      · exact M.isHit_miss
      · exact M.isHit_hit x
    cases checking with
    | off => rw [run_off hrun, hverdict]; rfl
    | on strict => rw [run_kept hrun hcheck, hverdict]; rfl

omit [DecidableEq α] in
/-- **A ready-made refinement can be built** in all settings whose switches hold truth values. -/
theorem ofClassifier_readymade (M : ObjectModel α κ) (ofFunction : ι → Profile α)
    (handle inner : Nat) (target : Option (Target α κ)) (hq : q.OfSpecies) (settings : Settings Bool) :
    ∃ checking title, ofClassifier M ofFunction handle (readymade inner q) (settings.map M.ofBool)
      target = .ok (classified handle (readymade inner q) checking target title) := by
  obtain ⟨n, hn⟩ := Readymade.profile_ok (M := M) hq
  have hown : (readymade inner q : Refinement ι α κ).profile M ofFunction =
      .ok (.ofFunction n n none []) := by rw [profile, hn]
  obtain ⟨r, hr⟩ := ofClassifier_named handle target hown
    (Profile.isNamed_ofFunction n n none []) settings
  obtain ⟨checking, title, rfl, -⟩ := ofClassifier_eq_ok hr
  exact ⟨checking, title, hr⟩

/-- **A ready-made refinement whose checks leave it undisturbed**, next to the one without checks: both
do the same in every session. What it answers is a truth value, and it issues no warning. A fault is
the answer to a question that its classifier asks; so it is no violation, unless an object answers with
one. -/
structure Undisturbed (M : ObjectModel α κ) (call : ι → α → Eval σ α α) (q : Readymade α κ)
    (plain r : Refinement ι α κ) : Prop where
  same : ∀ x s, (r.run M call x).runFrom s = (plain.run M call x).runFrom s
  verdict : ∀ x s v, ((r.run M call x).runFrom s).1 = .ok v → ∃ b, v = M.ofBool b
  quiet : ∀ x s, ((r.run M call x).runFrom s).2.warnings = s.warnings
  candid : ∀ x s f, ((r.run M call x).runFrom s).1 = .error f → q.Unanswered M x f
  blameless : ∀ x s f, (∀ g, q.Unanswered M x g → g.kind ≠ .contract) →
    ((r.run M call x).runFrom s).1 = .error f → f.kind ≠ .contract

/-- Checked or not, a ready-made refinement that asks about species only is undisturbed. -/
theorem undisturbed (call : ι → α → Eval σ α α) (hq : q.OfSpecies)
    (unchecked checking : Contract.Checking α) (untitled title : String) :
    Undisturbed M call q (classified handle (readymade inner q) unchecked (q.declared M) untitled)
      (classified handle (readymade inner q) checking (q.declared M) title) := by
  have hrun : ∀ checking title x s,
      ((classified handle (readymade inner q) checking (q.declared M) title).run M call x).runFrom s =
        (((q.recognizes M x).runFrom s).1.map M.ofBool, ((q.recognizes M x).runFrom s).2) :=
    fun checking title x s => run_readymade (fun t => Readymade.declared_met hq) checking title
  have hcandid : ∀ x s f, (((classified handle (readymade inner q) checking (q.declared M)
      title).run M call x).runFrom s).1 = .error f → q.Unanswered M x f := by
    intro x s f hf
    rw [hrun] at hf
    exact (q.recognizes_undisturbed x s).2 f (map_eq_error.1 hf)
  refine ⟨fun x s => by rw [hrun, hrun], fun x s v hv => ?_, fun x s => ?_, hcandid,
    fun x s f hquestions hf => hquestions f (hcandid x s f hf)⟩
  · rw [hrun] at hv
    obtain ⟨b, -, hb⟩ := map_eq_ok hv
    exact ⟨b, hb.symm⟩
  · rw [hrun]
    exact (q.recognizes_undisturbed x s).1

/-- **A ready-made classifier is left undisturbed** in all settings whose switches hold truth
values. -/
theorem ofClassifier_undisturbed (M : ObjectModel α κ) (ofFunction : ι → Profile α) (handle : Nat)
    (call : ι → α → Eval σ α α) (hq : q.OfSpecies) (settings : Settings Bool) : ∃ plain r,
    ofClassifier M ofFunction handle (readymade handle q) (Mode.off.settings M) (q.declared M) =
      .ok plain ∧
    ofClassifier M ofFunction handle (readymade handle q) (settings.map M.ofBool) (q.declared M) =
      .ok r ∧
    Undisturbed M call q plain r := by
  obtain ⟨_, _, hplain⟩ :=
    ofClassifier_readymade M ofFunction handle handle (q.declared M) hq ⟨false, false⟩
  obtain ⟨_, _, hr⟩ := ofClassifier_readymade M ofFunction handle handle (q.declared M) hq settings
  exact ⟨_, _, hplain, hr, undisturbed call hq _ _ _ _⟩

omit [DecidableEq α] in
theorem instanceOf_eq {ts : List (Target α κ)} (h : ts ≠ []) (settings : Settings α) :
    instanceOf M ofFunction handle settings ts = ofClassifier M ofFunction handle
      (readymade handle (.instances ts)) settings (some (.ofAlternatives ts)) :=
  if_neg fun hempty => h (List.isEmpty_iff.1 hempty)

/-- **In every environment the ready-made refinements do what they do without checks.** The texts of an
environment give settings; in these, instances of some species, members of a list of values and the
empty value alone are refinements that their checks leave undisturbed. -/
theorem readymade_undisturbed (M : ObjectModel α κ) (ofFunction : ι → Profile α) (handle : Nat)
    (call : ι → α → Eval σ α α) (entries : List (String × String)) :
    ∃ settings, Settings.ofVariables entries = .ok settings ∧
      (∀ ts, ts ≠ [] → (∀ t ∈ ts, t.IsSpecies) → ∃ plain r,
        instanceOf M ofFunction handle (Mode.off.settings M) ts = .ok plain ∧
        instanceOf M ofFunction handle (settings.map M.ofBool) ts = .ok r ∧
        Undisturbed M call (.instances ts) plain r) ∧
      (∀ vs, vs ≠ [] → ∃ plain r,
        oneOf M ofFunction handle (Mode.off.settings M) vs = .ok plain ∧
        oneOf M ofFunction handle (settings.map M.ofBool) vs = .ok r ∧
        Undisturbed M call (.values vs) plain r) ∧
      ∃ plain r, absent M ofFunction handle (Mode.off.settings M) = .ok plain ∧
        absent M ofFunction handle (settings.map M.ofBool) = .ok r ∧
        Undisturbed M call .absence plain r := by
  refine ⟨_, Settings.ofVariables_eq entries, fun ts hts hspecies => ?_, fun vs hvs => ?_, ?_⟩
  · rw [instanceOf_eq hts, instanceOf_eq hts]
    exact ofClassifier_undisturbed M ofFunction handle call (q := .instances ts) hspecies _
  · cases vs with
    | nil => exact absurd rfl hvs
    | cons v vs =>
      exact ofClassifier_undisturbed M ofFunction handle call (q := .values (v :: vs)) trivial _
  · exact ofClassifier_undisturbed M ofFunction handle call (q := .absence) trivial _

open Menagerie in
/-- An environment that asks for strict checks. A creature that refuses to be written down is taken in
by the second of three species; the third, which refuses the question, is not asked, neither by the
classifier nor by the check. -/
theorem readymade_undisturbed_strict :
    let ts : List (Target Value Species) := [.species .int, .species .everything, .species .picky]
    let x : Value := .creature (.token 0) .badDisplay .none
    let call : Empty → Value → Eval Unit Value Value := nofun
    let s : Session Unit Value := ⟨.raise, [], ()⟩
    Settings.ofVariables [("REFINEMENTS_STRICT", "yes")] = .ok ⟨false, true⟩ ∧
    ts ≠ [] ∧ (∀ t ∈ ts, t.IsSpecies) ∧ model.display x = .error ⟨.runtimeError, "repr exploded"⟩ ∧
    ∃ r, instanceOf model nofun 0 (Mode.strict.settings model) ts = .ok r ∧
      (r.run model call x).runFrom s = (.ok (.bool true), s) := by
  intro ts x call s
  have hsettings : Settings.ofVariables [("REFINEMENTS_STRICT", "yes")] = .ok ⟨false, true⟩ :=
    rfl
  have hne : ts ≠ [] := nofun
  have hspecies : ∀ t ∈ ts, t.IsSpecies := by
    simp only [ts, List.mem_cons, List.not_mem_nil, or_false, forall_eq_or_imp, forall_eq]
    exact ⟨.inr ⟨_, rfl⟩, .inr ⟨_, rfl⟩, .inr ⟨_, rfl⟩⟩
  obtain ⟨settings, h, hinstances, -⟩ :=
    readymade_undisturbed model nofun 0 call [("REFINEMENTS_STRICT", "yes")]
  rw [hsettings] at h
  cases h
  obtain ⟨plain, r, hplain, hr, hsame⟩ := hinstances ts hne hspecies
  refine ⟨hsettings, hne, hspecies, rfl, r, hr, ?_⟩
  rw [hsame.same]
  cases hplain
  rfl

end Refinement

end Narrowing
