import Narrowing.Menagerie.Making
import Narrowing.Menagerie.Model
import Narrowing.Proofs.Enforcement
import Narrowing.Proofs.Propagation

/-!
# Modes that simulate each other

One formula over classifiers, run with the checks off, in debug mode and in strict mode.

* `Formula.walk_cut`: leaves that act alike give rise to the same walk, up to the first leaf that
  ends in a fault of its own.
* `leaf_run`: what a leaf does in a mode. It makes its call; what becomes of a rejected outcome is
  up to the mode.
* `modes_simulate`: the debug run is the run without checks, with a warning for every rejection;
  the strict run is the run without checks up to the first rejection, which it ends in.
-/

namespace Narrowing

variable {ι α κ σ ℓ : Type} {M : ObjectModel α κ}

/-- **A walk cut short** at the first visited leaf that has a fault of its own in `stop`. A walk
without such a leaf is left as it is. -/
inductive Walk.Cut (stop : ℓ → Option Fault) : Walk ℓ → Walk ℓ → Prop where
  | whole {w} (h : ∀ l ∈ w.visits, stop l = none) : Cut stop w w
  | short {earlier l later ending f} (h : ∀ k ∈ earlier, stop k = none) (hl : stop l = some f) :
      Cut stop ⟨earlier ++ l :: later, ending⟩ ⟨earlier ++ [l], .raised f⟩

/-- **A leaf acts alike in two ways**: what it comes to is the same, and the sessions that it leaves
are related as those that it starts from, unless the second way ends in the fault in `stop`. -/
structure Alike (M : ObjectModel α κ) (R : Session σ α → Session σ α → Prop) (stop : ℓ → Option Fault)
    (act act' : ℓ → Eval σ α α) (l : ℓ) : Prop where
  same : stop l = none → ∀ {s t}, R s t → (act' l).ending M t = (act l).ending M s ∧
    R ((act l).runFrom s).2 ((act' l).runFrom t).2
  stops : ∀ {f}, stop l = some f → ∀ {s t}, R s t → (act' l).ending M t = .raised f

variable {R : Session σ α → Session σ α → Prop} {stop : ℓ → Option Fault} {act act' : ℓ → Eval σ α α}

namespace Walk.Cut

variable {w w' u u' : Walk ℓ}

theorem negate (h : Cut stop w w') : Cut stop w.negate w'.negate := by
  cases h with
  | whole h => exact .whole h
  | short h hl => exact .short h hl

/-- A walk that is left as it is goes on, and may be cut short later on. -/
theorem followedBy (h : ∀ l ∈ w.visits, stop l = none) (hu : Cut stop u u') :
    Cut stop (w.followedBy u) (w.followedBy u') := by
  cases hu with
  | whole hu =>
    refine .whole fun l hl => ?_
    rcases List.mem_append.1 hl with hl | hl
    · exact h l hl
    · exact hu l hl
  | @short earlier l later ending f hu hl =>
    have hclean : ∀ k ∈ w.visits ++ earlier, stop k = none := by
      intro k hk
      rcases List.mem_append.1 hk with hk | hk
      · exact h k hk
      · exact hu k hk
    unfold Walk.followedBy
    rw [← List.append_assoc, ← List.append_assoc]
    exact .short hclean hl

/-- A walk that is cut short does not go on. -/
theorem or_short (h : Cut stop w w') : (w' = w ∧ ∀ l ∈ w.visits, stop l = none) ∨
    ((∀ b, w'.ending ≠ .verdict b) ∧ ∀ u, Cut stop (w.followedBy u) w') := by
  cases h with
  | whole h => exact .inl ⟨rfl, h⟩
  | short h hl =>
    refine .inr ⟨nofun, fun u => ?_⟩
    unfold Walk.followedBy
    rw [List.append_assoc]
    exact .short h hl

/-- A walk without a leaf that is stopped at is left as it is. -/
theorem eq_whole (h : Cut stop w w') (hclean : ∀ l ∈ w.visits, stop l = none) : w' = w := by
  cases h with
  | whole _ => rfl
  | @short earlier l later ending f _ hl =>
    have hnone := hclean l (List.mem_append_right _ List.mem_cons_self)
    rw [hl] at hnone
    cases hnone

/-- What comes before the first leaf that is stopped at. -/
theorem takeWhile_stop {earlier later : List ℓ} {l : ℓ} {f : Fault}
    (h : ∀ k ∈ earlier, stop k = none) (hl : stop l = some f) :
    (earlier ++ l :: later).takeWhile (fun k => (stop k).isNone) = earlier := by
  have hearlier : ∀ k ∈ earlier, (stop k).isNone = true := fun k hk => by rw [h k hk]; rfl
  rw [List.takeWhile_append_of_pos hearlier, List.takeWhile_cons, hl]
  exact List.append_nil earlier

/-- A walk that is cut short ends at the first leaf that is stopped at. -/
theorem eq_short (h : Cut stop w w') {earlier later : List ℓ} {l : ℓ} {f : Fault}
    (hvisits : w.visits = earlier ++ l :: later) (hclean : ∀ k ∈ earlier, stop k = none)
    (hl : stop l = some f) : w' = ⟨earlier ++ [l], .raised f⟩ := by
  cases h with
  | whole h =>
    have hnone := h l (by rw [hvisits]; exact List.mem_append_right _ List.mem_cons_self)
    rw [hl] at hnone
    cases hnone
  | @short earlier' l' later' ending f' h hl' =>
    -- both lists end at the first leaf that is stopped at
    have hsplit : earlier' ++ l' :: later' = earlier ++ l :: later := hvisits
    have hsame : earlier' = earlier := by
      rw [← takeWhile_stop h hl', hsplit, takeWhile_stop hclean hl]
    subst hsame
    cases List.append_cancel_left hsplit
    rw [hl] at hl'
    cases hl'
    rfl

end Walk.Cut

theorem after_related {visits : List ℓ} (h : ∀ l ∈ visits, Alike M R stop act act' l)
    (hclean : ∀ l ∈ visits, stop l = none) {s t : Session σ α} (hR : R s t) :
    R (after act visits s) (after act' visits t) := by
  induction visits generalizing s t with
  | nil => exact hR
  | cons l visits ih =>
    have hnext := ((h l List.mem_cons_self).same (hclean l List.mem_cons_self) hR).2
    exact ih (fun k hk => h k (List.mem_cons_of_mem _ hk))
      (fun k hk => hclean k (List.mem_cons_of_mem _ hk)) hnext

namespace Formula

theorem walkEach_cut (go : Bool) {es : List (Formula ℓ)}
    (h : ∀ e ∈ es, ∀ {s t}, R s t → (∀ l ∈ (e.walk M act s).visits, Alike M R stop act act' l) →
      (e.walk M act s).Cut stop (e.walk M act' t)) {s t : Session σ α} (hR : R s t)
    (hvisits : ∀ l ∈ (walkEach M act go es s).visits, Alike M R stop act act' l) :
    (walkEach M act go es s).Cut stop (walkEach M act' go es t) := by
  induction es generalizing s t with
  | nil => exact .whole (List.forall_mem_nil _)
  | cons e es ih =>
    have he := h e List.mem_cons_self hR
    simp only [walkEach] at hvisits ⊢
    by_cases hgo : (e.walk M act s).ending = .verdict go
    · simp only [if_pos hgo] at hvisits ⊢
      -- the first way goes on; the second one does so too, unless it has been stopped
      have hleft := fun l hl => hvisits l (List.mem_append_left _ hl)
      rcases (he hleft).or_short with ⟨hsame, hclean⟩ | ⟨hraised, hcut⟩
      · rw [hsame, if_pos hgo]
        refine .followedBy hclean (ih (fun e he => h e (List.mem_cons_of_mem _ he)) ?_ ?_)
        · exact after_related hleft hclean hR
        · exact fun l hl => hvisits l (List.mem_append_right _ hl)
      · rw [if_neg (hraised go)]
        exact hcut _
    · simp only [if_neg hgo] at hvisits ⊢
      have hcut := he hvisits
      rcases hcut.or_short with ⟨hsame, hclean⟩ | ⟨hraised, -⟩
      · rw [hsame, if_neg hgo]
        exact .whole hclean
      · rw [if_neg (hraised go)]
        exact hcut

/-- **Leaves that act alike give rise to the same walk**, up to the first one that is stopped. -/
theorem walk_cut (e : Formula ℓ) {s t : Session σ α} (hR : R s t)
    (hvisits : ∀ l ∈ (e.walk M act s).visits, Alike M R stop act act' l) :
    (e.walk M act s).Cut stop (e.walk M act' t) := by
  induction e generalizing s t with
  | leaf l =>
    have hl := hvisits l List.mem_cons_self
    simp only [walk]
    cases hstop : stop l with
    | none =>
      rw [(hl.same hstop hR).1]
      refine .whole fun k hk => ?_
      cases List.mem_singleton.1 hk
      exact hstop
    | some f =>
      rw [hl.stops hstop hR]
      have hshort : Walk.Cut stop ⟨[] ++ [l], (act l).ending M s⟩ ⟨[] ++ [l], .raised f⟩ :=
        .short (List.forall_mem_nil _) hstop
      exact hshort
  | all handle stages ih => exact walkEach_cut true (fun e he _ _ => ih e he) hR hvisits
  | any handle siblings ih => exact walkEach_cut false (fun e he _ _ => ih e he) hR hvisits
  | complement handle inner ih => exact (ih hR hvisits).negate

end Formula

/-- The session with one more call on its tape, and with a warning if there is one. -/
def Session.noting (s : Session (List (ι × α)) α) (c : ι × α) (warning : Option String) :
    Session (List (ι × α)) α :=
  ⟨s.policy, (warning.map .warned).toList ++ s.history, c :: s.state⟩

/-- **Bare predicates with a tape**: what they answer depends on the candidate alone, and they
leave nothing but the call. -/
def taped (classify : ι → α → Except Fault α) (i : ι) (candidate : α) : Eval (List (ι × α)) α α := do
  modify fun s => s.noting (i, candidate) none
  Eval.ofExcept (classify i candidate)

theorem runFrom_taped (classify : ι → α → Except Fault α) (i : ι) (x : α)
    (s : Session (List (ι × α)) α) :
    (taped classify i x).runFrom s = (classify i x, s.noting (i, x) none) := by
  have hnote : (modify (fun s => s.noting (i, x) none) : Eval (List (ι × α)) α Unit).runFrom s =
      (.ok (), s.noting (i, x) none) := rfl
  rw [taped, Eval.runFrom_bind_ok hnote, Eval.runFrom_ofExcept]

/-- Some calls with the same candidate, each with the warning that goes with it. -/
theorem after_noting {act : ι → Eval (List (ι × α)) α α} {x : α} {warn : ι → Option String}
    {visits : List ι} {s : Session (List (ι × α)) α} (hs : s.policy = .record)
    (h : ∀ i ∈ visits, ∀ s : Session (List (ι × α)) α, s.policy = .record →
      ((act i).runFrom s).2 = s.noting (i, x) (warn i)) :
    after act visits s = ⟨.record, ((visits.filterMap warn).map .warned).reverse ++ s.history,
      (visits.map fun i => (i, x)).reverse ++ s.state⟩ := by
  induction visits generalizing s with
  | nil =>
    rcases s with ⟨policy, history, state⟩
    cases hs
    rfl
  | cons i visits ih =>
    have hnext : after act (i :: visits) s = after act visits (s.noting (i, x) (warn i)) :=
      congrArg (after act visits) (h i List.mem_cons_self s hs)
    have hnoted : (s.noting (i, x) (warn i)).policy = .record := hs
    rw [hnext, ih hnoted fun k hk => h k (List.mem_cons_of_mem _ hk)]
    cases hw : warn i <;> simp [Session.noting, hw]

/-- Warnings are read back in the order in which they were issued. -/
theorem warnings_eq (policy : WarningPolicy) (texts : List String) (state : σ) :
    (⟨policy, (texts.map .warned).reverse, state⟩ : Session σ α).warnings = texts := by
  rw [Session.warnings, List.reverse_reverse, List.filterMap_map]
  exact List.filterMap_some

variable [DecidableEq α] [DecidableEq κ]

/-- The fault that the check of a classifier's outcome ends in, if it does. A classifier that ends
in a fault gives no outcome, and so nothing to object to. -/
def rejection (M : ObjectModel α κ) (classify : ι → α → Except Fault α)
    (target : ι → Option (Target α κ)) (x : α) (i : ι) : Option Fault :=
  match classify i x with
  | .error _ => none
  | .ok outcome =>
      match Contract.check M outcome x (target i) with
      | .ok () => none
      | .error f => some f

/-- What a refinement is seen to do with a candidate: what it ends in, the calls that it makes
and the warnings that it issues, in this order. -/
structure Sighting (ι α : Type) where
  ending : Except Fault α
  calls : List (ι × α)
  warnings : List String

/-- **A refinement seen at work**, in a session that records warnings. -/
def Refinement.sighting (M : ObjectModel α κ) (classify : ι → α → Except Fault α)
    (r : Refinement ι α κ) (x : α) : Sighting ι α :=
  let out := (r.run M (taped classify) x).runFrom ⟨.record, [], []⟩
  ⟨out.1, out.2.state.reverse, out.2.warnings⟩

/-- The walk of a formula over these refinements, with a tape. -/
def Formula.tapedWalk (M : ObjectModel α κ) (classify : ι → α → Except Fault α)
    (leafOf : ι → Refinement ι α κ) (x : α) (e : Formula ι) : Walk ι :=
  e.walk M (Formula.asking M (taped classify) leafOf x) ⟨.record, [], []⟩

namespace Mode

variable (M : ObjectModel α κ) (classify : ι → α → Except Fault α) (target : ι → Option (Target α κ))
  (ofFunction : ι → Profile α) (x : α)

/-- The faults that a mode stops at: in strict mode every rejection is one. -/
def stops : Mode → ι → Option Fault
  | off, _ | debug, _ => none
  | strict, i => rejection M classify target x i

/-- The warnings that a mode leaves: in debug mode one for every rejection. -/
def warns : Mode → ι → Option String
  | off, _ | strict, _ => none
  | debug, i => (rejection M classify target x i).map fun f =>
      Contract.warning (ofFunction i).title f.text

/-- What a leaf answers in a mode. -/
def replies (m : Mode) (i : ι) : Except Fault α :=
  match m.stops M classify target x i with
  | some f => .error f
  | none => (classify i x).map fun outcome => M.ofBool (M.isHit outcome)

end Mode

variable {classify : ι → α → Except Fault α} {target : ι → Option (Target α κ)}
  {ofFunction : ι → Profile α} {handle : ι → Nat} {leaf : Mode → ι → Refinement ι α κ} {x : α}

theorem rejection_of_raised {i : ι} {f : Fault} (h : classify i x = .error f) :
    rejection M classify target x i = none := by
  simp only [rejection, h]

theorem rejection_of_passed {i : ι} {outcome : α} (h : classify i x = .ok outcome)
    (hc : Contract.check M outcome x (target i) = .ok ()) :
    rejection M classify target x i = none := by
  simp only [rejection, h, hc]

theorem rejection_of_failed {i : ι} {outcome : α} {f : Fault} (h : classify i x = .ok outcome)
    (hc : Contract.check M outcome x (target i) = .error f) :
    rejection M classify target x i = some f := by
  simp only [rejection, h, hc]

section Leaves

variable (hleaf : ∀ m i, Refinement.ofClassifier M ofFunction (handle i) (.function i) (m.settings M)
  (target i) = .ok (leaf m i))

include hleaf

/-- **A leaf in a mode**: it makes its call, and then does what the mode does about the outcome. -/
theorem leaf_run {m : Mode} {i : ι}
    (hclean : m = .debug → ∀ f, rejection M classify target x i = some f → f.kind = .contract)
    {s : Session (List (ι × α)) α} (hs : s.policy = .record) :
    ((leaf m i).run M (taped classify) x).runFrom s = (m.replies M classify target x i,
      s.noting (i, x) (m.warns M classify target ofFunction x i)) := by
  obtain ⟨own, hown, hl⟩ := Refinement.ofClassifier_mode (hleaf m i)
  cases hown
  have hcall : ((.function i : Refinement ι α κ).run M (taped classify) x).runFrom s =
      (classify i x, s.noting (i, x) none) := by
    rw [Refinement.run, runFrom_taped]
  rw [hl]
  cases houtcome : classify i x with
  | error f =>
    -- a fault of the classifier is never a violation, whatever its kind
    have hnone : rejection M classify target x i = none := rejection_of_raised houtcome
    rw [houtcome] at hcall
    rw [Refinement.run_raised hcall]
    cases m <;> simp only [Mode.replies, Mode.stops, Mode.warns, hnone, houtcome] <;> rfl
  | ok outcome =>
    rw [houtcome] at hcall
    rcases hcheck : Contract.check M outcome x (target i) with f | ⟨⟩
    · have hsome : rejection M classify target x i = some f := rejection_of_failed houtcome hcheck
      cases m with
      | off =>
        simp only [Mode.replies, Mode.stops, Mode.warns, houtcome]
        exact Refinement.run_off hcall
      | debug =>
        simp only [Mode.replies, Mode.stops, Mode.warns, houtcome, hsome]
        exact Refinement.run_debug hcall hcheck (hclean rfl f hsome) hs
      | strict =>
        simp only [Mode.replies, Mode.stops, Mode.warns, hsome]
        exact Refinement.run_strict hcall hcheck
    · have hnone : rejection M classify target x i = none := rejection_of_passed houtcome hcheck
      cases m with
      | off =>
        simp only [Mode.replies, Mode.stops, Mode.warns, houtcome]
        exact Refinement.run_off hcall
      | debug =>
        simp only [Mode.replies, Mode.stops, Mode.warns, houtcome, hnone]
        exact Refinement.run_kept hcall hcheck _
      | strict =>
        simp only [Mode.replies, Mode.stops, Mode.warns, houtcome, hnone]
        exact Refinement.run_kept hcall hcheck _

/-- A leaf answers alike with the checks off and in a mode, up to the faults that the mode
stops at. -/
theorem leaf_alike (m : Mode) {i : ι}
    (hclean : ∀ f, rejection M classify target x i = some f → f.kind = .contract) :
    Alike M (fun s t => s.policy = .record ∧ t.policy = .record) (m.stops M classify target x)
      (Formula.asking M (taped classify) (leaf .off) x)
      (Formula.asking M (taped classify) (leaf m) x) i where
  same := by
    rintro hstop s t ⟨hs, ht⟩
    have hoff := leaf_run hleaf (fun _ => hclean) hs (m := .off)
    rw [Eval.ending, Eval.ending, hoff, leaf_run hleaf (fun _ => hclean) ht]
    refine ⟨?_, hs, ht⟩
    simp only [Mode.replies, hstop]
    rfl
  stops := by
    rintro f hstop s t ⟨-, ht⟩
    rw [Eval.ending, leaf_run hleaf (fun _ => hclean) ht]
    simp only [Mode.replies, hstop]
    rfl

/-- What is seen of a refinement, from the walk of its formula. -/
theorem sighting_eq {m : Mode} {e : Formula ι} {r : Refinement ι α κ}
    (hbuilt : e.build (leaf m) = .ok r)
    (hclean : m = .debug → ∀ i ∈ (e.tapedWalk M classify (leaf m) x).visits,
      ∀ f, rejection M classify target x i = some f → f.kind = .contract) :
    r.sighting M classify x = ⟨(e.tapedWalk M classify (leaf m) x).ending.answer M e.isLazy,
      (e.tapedWalk M classify (leaf m) x).visits.map fun i => (i, x),
      (e.tapedWalk M classify (leaf m) x).visits.filterMap
        (m.warns M classify target ofFunction x)⟩ := by
  -- each leaf is built from a classifier, so it answers with a truth value
  have htruth : ∀ i (s : Session (List (ι × α)) α) v t,
      ((leaf m i).run M (taped classify) x).runFrom s = (.ok v, t) → ∃ b, v = M.ofBool b := by
    intro i s v t h
    obtain ⟨own, -, hl⟩ := Refinement.ofClassifier_mode (hleaf m i)
    have hf : ∀ f, leaf m i ≠ .function f := by
      rw [hl]
      nofun
    have hq : ∀ handle q, leaf m i ≠ .readymade handle q := by
      rw [hl]
      nofun
    exact Formula.run_answer hf hq h
  have hafter : after (Formula.asking M (taped classify) (leaf m) x)
      (e.tapedWalk M classify (leaf m) x).visits ⟨.record, [], []⟩ = _ :=
    after_noting rfl fun i hi s hs =>
      congrArg Prod.snd (leaf_run hleaf (fun hm => hclean hm i hi) hs)
  have hrun := Formula.run_eq e hbuilt htruth (⟨.record, [], []⟩ : Session (List (ι × α)) α)
  rw [Formula.tapedWalk] at hafter
  rw [hafter] at hrun
  rw [Refinement.sighting, hrun]
  simp only [List.append_nil, List.reverse_reverse, warnings_eq]
  rfl

/-- The walk in a mode is the walk without checks, up to the first fault that the mode stops at. -/
theorem tapedWalk_cut {e : Formula ι} (hvisits : ∀ i ∈ (e.tapedWalk M classify (leaf .off) x).visits,
    ∀ f, rejection M classify target x i = some f → f.kind = .contract) (m : Mode) :
    (e.tapedWalk M classify (leaf .off) x).Cut (m.stops M classify target x)
      (e.tapedWalk M classify (leaf m) x) :=
  Formula.walk_cut e ⟨rfl, rfl⟩ fun i hi => leaf_alike hleaf m (hvisits i hi)

end Leaves

/-- **The modes simulate each other over every formula**, as long as no check of an outcome is left
without an answer. Without checks and in debug mode the same calls are made, each with the candidate
itself, and the runs end alike; debug mode leaves one warning for every outcome that is rejected. In
strict mode the run ends in the first violation, and is the run without checks if there is none. -/
theorem modes_simulate (hleaf : ∀ m i, Refinement.ofClassifier M ofFunction (handle i) (.function i)
      (m.settings M) (target i) = .ok (leaf m i)) {e : Formula ι} {built : Mode → Refinement ι α κ}
    (hbuilt : ∀ m, e.build (leaf m) = .ok (built m))
    (hclean : ∀ c ∈ ((built .off).sighting M classify x).calls,
      ∀ f, rejection M classify target x c.1 = some f → f.kind = .contract) :
    let plain := (built .off).sighting M classify x
    let watched := (built .debug).sighting M classify x
    let strict := (built .strict).sighting M classify x
    ((∀ c ∈ plain.calls, c.2 = x) ∧
      (∀ v, plain.ending = .ok v → v = M.ofBool true ∨ v = M.ofBool false) ∧
      watched.calls = plain.calls ∧ watched.ending = plain.ending) ∧
    (plain.warnings = [] ∧ watched.warnings = plain.calls.filterMap fun c =>
      (rejection M classify target x c.1).map fun f =>
        "Contract violation in " ++ (ofFunction c.1).title ++ ": " ++ f.text) ∧
    (strict.warnings = [] ∧
      ((∀ c ∈ plain.calls, rejection M classify target x c.1 = none) →
        strict.calls = plain.calls ∧ strict.ending = plain.ending) ∧
      (∀ earlier c later f, plain.calls = earlier ++ c :: later →
        (∀ d ∈ earlier, rejection M classify target x d.1 = none) →
        rejection M classify target x c.1 = some f →
        strict.calls = earlier ++ [c] ∧ strict.ending = .error f)) := by
  -- what is seen of each run is read off its walk
  have hplain : (built .off).sighting M classify x = _ :=
    sighting_eq hleaf (hbuilt .off) fun h => by cases h
  have hvisits : ∀ i ∈ (e.tapedWalk M classify (leaf .off) x).visits,
      ∀ f, rejection M classify target x i = some f → f.kind = .contract := by
    intro i hi
    refine hclean (i, x) ?_
    rw [hplain]
    exact List.mem_map.2 ⟨i, hi, rfl⟩
  -- debug mode stops nowhere, so that its walk is the one without checks
  have hsame : e.tapedWalk M classify (leaf .debug) x = e.tapedWalk M classify (leaf .off) x :=
    (tapedWalk_cut hleaf hvisits .debug).eq_whole fun _ _ => rfl
  have hwatched : (built .debug).sighting M classify x = _ :=
    sighting_eq hleaf (hbuilt .debug) fun _ => by rw [hsame]; exact hvisits
  have hstrict : (built .strict).sighting M classify x = _ :=
    sighting_eq hleaf (hbuilt .strict) fun h => by cases h
  have hshort := tapedWalk_cut hleaf hvisits .strict
  rw [hsame] at hwatched
  rw [hplain, hwatched, hstrict]
  generalize e.tapedWalk M classify (leaf .off) x = w at hvisits hshort ⊢
  generalize e.tapedWalk M classify (leaf .strict) x = w' at hshort ⊢
  refine ⟨⟨?_, ?_, rfl, rfl⟩, ⟨?_, ?_⟩, ?_, ?_, ?_⟩
  · intro c hc
    obtain ⟨i, -, rfl⟩ := List.mem_map.1 hc
    rfl
  · exact fun v hv => Ending.answer_eq_ok hv
  · exact List.filterMap_eq_nil_iff.2 fun _ _ => rfl
  · dsimp only
    rw [List.filterMap_map]
    rfl
  · exact List.filterMap_eq_nil_iff.2 fun _ _ => rfl
  · intro hnone
    rw [hshort.eq_whole fun i hi => hnone (i, x) (List.mem_map.2 ⟨i, hi, rfl⟩)]
    exact ⟨rfl, rfl⟩
  · intro earlier c later f hcalls hearlier hf
    obtain ⟨before, rest, hw, rfl, hrest⟩ := List.map_eq_append_iff.1 hcalls
    obtain ⟨i, after, rfl, rfl, -⟩ := List.map_eq_cons_iff.1 hrest
    have hnone : ∀ k ∈ before, Mode.strict.stops M classify target x k = none :=
      fun k hk => hearlier (k, x) (List.mem_map.2 ⟨k, hk, rfl⟩)
    -- a violation is no exhausted iterator, and leaves every condition unchanged
    have hkind : f.kind = .contract :=
      hvisits i (by rw [hw]; exact List.mem_append_right _ List.mem_cons_self) f hf
    have hsealed : f.sealed = f := Fault.sealed_of_ne (by rw [hkind]; nofun)
    rw [hshort.eq_short hw hnone hf]
    refine ⟨List.map_append, ?_⟩
    simp only [Ending.answer, hsealed, ite_self]

open Menagerie in
/-- Two siblings, the first of which answers with a truth value: the debug run leaves its warning,
and the strict run stops there. -/
theorem modes_simulate_siblings :
    let own : Bool → Profile Value := fun b =>
      if b then .ofFunction "is_odd" "is_odd" none [] else .ofFunction "is_int" "is_int" none []
    let classify : Bool → Value → Except Fault Value := fun b c =>
      if b then .ok (.bool true) else .ok (model.hit c)
    let leaf (m : Mode) (b : Bool) : Refinement Bool Value Species :=
      .classified 0 (.function b) (m.checking model) none (m.title (own b))
    let built (m : Mode) : Refinement Bool Value Species := .any 1 [leaf m true, leaf m false]
    let text := "Classifier must return hit(...) or miss, got True"
    (∀ m b, Refinement.ofClassifier model own 0 (.function b) (m.settings model) none =
      .ok (leaf m b)) ∧
    (∀ m, (Formula.any 1 [.leaf true, .leaf false]).build (leaf m) = .ok (built m)) ∧
    ((built .debug).sighting model classify (.ofInt 0 1)).warnings =
      ["Contract violation in is_odd: " ++ text] ∧
    ((built .strict).sighting model classify (.ofInt 0 1)).calls = [(true, .ofInt 0 1)] ∧
    ((built .strict).sighting model classify (.ofInt 0 1)).ending = .error ⟨.contract, text⟩ := by
  intro own classify leaf built text
  have hleaf : ∀ m b, Refinement.ofClassifier model own 0 (.function b) (m.settings model) none =
      .ok (leaf m b) := by
    intro m b
    cases m <;> cases b <;> rfl
  have hbuilt : ∀ m, (Formula.any 1 [.leaf true, .leaf false]).build (leaf m) = .ok (built m) :=
    fun _ => rfl
  have hclean : ∀ c ∈ ((built .off).sighting model classify (.ofInt 0 1)).calls,
      ∀ f, rejection model classify (fun _ => none) (.ofInt 0 1) c.1 = some f →
        f.kind = .contract := by
    rintro ⟨b, v⟩ - f hf
    cases b <;> cases hf
    rfl
  obtain ⟨-, ⟨-, hwarned⟩, -, -, hshort⟩ := modes_simulate hleaf hbuilt hclean
  have hfirst := hshort [] (true, .ofInt 0 1) [(false, .ofInt 0 1)] ⟨.contract, text⟩ rfl nofun rfl
  exact ⟨hleaf, hbuilt, hwarned, hfirst⟩

end Narrowing
