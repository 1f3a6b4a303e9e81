import Narrowing.Menagerie.Model
import Narrowing.Proofs.Comparison
import Narrowing.Proofs.Likeness

/-!
# The likeness of outcomes in the menagerie

The hits and misses of the menagerie are outcomes over its objects, and they compare as such
(`Value.equal_eq_outcome`): the laws of their likeness are the general ones.

* `Value.equal_hit_hit`, `Value.equal_hit_miss`, `Value.equal_miss_miss`: the comparisons, in whatever
  order the two objects are asked;
* `Comparable.outcomes`: outcomes over objects that compare soundly compare soundly in turn;
* `equal_outcomes`: **the likeness of outcomes is an equivalence that fingerprints respect**.
-/

namespace Narrowing

/-- How the objects of a model compare. -/
def ObjectModel.likeness {α κ : Type} [DecidableEq α] (M : ObjectModel α κ) : Likeness α where
  alike := M.alike
  fingerprint := M.fingerprint

namespace Menagerie

/-- **Objects that compare soundly**: whether two are alike is always told, likeness is an equivalence,
and objects that are alike have the same fingerprint if both have one. -/
structure Comparable (P : Value → Prop) : Prop where
  told : ∀ {x y}, P x → P y → ∃ b, model.alike x y = .ok b
  symm : ∀ {x y}, P x → P y → model.alike x y = .ok true → model.alike y x = .ok true
  trans : ∀ {x y z}, P x → P y → P z → model.alike x y = .ok true → model.alike y z = .ok true →
    model.alike x z = .ok true
  fingerprint : ∀ {x y f g}, P x → P y → model.alike x y = .ok true → x.fingerprint = .ok f →
    y.fingerprint = .ok g → f = g

/-- **Outcomes over payloads**: hits that carry one and misses, outright or as instances of a plain
heir. Nothing is a hit and a miss at once. -/
inductive IsOutcome (P : Value → Prop) : Value → Prop where
  | hit (identity : Identity) (sort : HitSort) (payload : Value) (hsort : sort ≠ .both)
      (hpayload : P payload) : IsOutcome P (.hit identity sort payload)
  | miss (identity : Identity) (sort : MissSort) : IsOutcome P (.atom (.miss identity sort))

/-- Sorts of hits have species of their own. -/
theorem HitSort.species_inj {s t : HitSort} : s.species = t.species ↔ s = t := by
  constructor
  · intro h
    cases s <;> cases t <;> cases h <;> rfl
  · rintro rfl
    rfl

namespace Value

variable {i j : Identity} {s t : HitSort} {p q : MissSort} {x y : Value}

theorem isMiss_miss : (atom (.miss i p)).isMiss = true := by cases p <;> rfl

theorem isHit_miss : (atom (.miss i p)).isHit = false := by cases p <;> rfl

theorem isMiss_hit (hs : s ≠ .both) : (hit i s x).isMiss = false := by
  cases s with
  | both => exact absurd rfl hs
  | _ => rfl

theorem isHit_hit : (hit i s x).isHit = true := by cases s <;> rfl

/-- A hit has nothing to say about a miss. -/
theorem opinion_hit_miss : (hit i s x).opinion (atom (.miss j p)) = Option.none := by cases s <;> rfl

/-- **Hits compare by their species and by what they carry.** Hits of two species both decline, and are not
the same object. -/
theorem equal_hit_hit : equal (hit i s x) (hit j t y) =
    if s = t then (model.alike x y).map bool else .ok (bool false) := by
  have hcompare : equal (hit i s x) (hit j t y) =
      Opinion.settle (t.species.properHeir s.species) (Outcome.ofHit s t ((model.alike x y).map bool))
        (Outcome.ofHit t s ((model.alike x y).map bool)) (bool (hit i s x = hit j t y)) := rfl
  rw [hcompare, Outcome.ofHit, Outcome.ofHit]
  by_cases hst : s = t
  · rw [if_pos hst, if_pos hst.symm, if_pos hst, Opinion.settle_self, Option.getD_some]
  · have hne : hit i s x ≠ hit j t y := fun h => hst (by cases h; rfl)
    rw [if_neg hst, if_neg (Ne.symm hst), if_neg hst, Opinion.settle_self, decide_eq_false hne]
    rfl

/-- **A miss speaks for both sides** when it is compared with a hit. -/
theorem equal_hit_miss (hs : s ≠ .both) :
    equal (hit i s x) (atom (.miss j p)) = .ok (bool false) ∧
      equal (atom (.miss j p)) (hit i s x) = .ok (bool false) := by
  have hopinion : (atom (.miss j p)).opinion (hit i s x) = some (.ok (bool false)) := by
    rw [← isMiss_hit hs]
    rfl
  have hleft : equal (hit i s x) (atom (.miss j p)) = settle (hit i s x) (atom (.miss j p)) := rfl
  have hright : equal (atom (.miss j p)) (hit i s x) = settle (atom (.miss j p)) (hit i s x) := rfl
  -- the one opinion that there is counts, whoever is asked first
  rw [hleft, hright, settle, settle, hopinion, opinion_hit_miss]
  exact ⟨Opinion.settle_none_left .., Opinion.settle_none_right ..⟩

theorem equal_miss_miss : equal (atom (.miss i p)) (atom (.miss j q)) = .ok (bool true) := by
  have hopinion : ∀ {i j : Identity} {p q : MissSort},
      (atom (.miss i p)).opinion (atom (.miss j q)) = some (.ok (bool true)) := by
    intro i j p q
    have hmiss : (atom (.miss j q)).isMiss = true := isMiss_miss
    rw [← hmiss]
    rfl
  have hsettle : equal (atom (.miss i p)) (atom (.miss j q)) =
      settle (atom (.miss i p)) (atom (.miss j q)) := rfl
  rw [hsettle, settle, hopinion, hopinion]
  exact Opinion.settle_self ..

end Value

variable {P : Value → Prop} {a b c : Value} {o q : Outcome Identity Species Value}

/-- Whether two objects are alike does not fail where an object is the same. -/
theorem Comparable.sound (hP : Comparable P) : model.likeness.Sound P where
  told := hP.told
  refl _ := model.alike_refl _
  symm := hP.symm
  trans := hP.trans
  fingerprint := hP.fingerprint

/-- Sorts of misses have species of their own. -/
theorem MissSort.species_inj {p q : MissSort} : p.species = q.species ↔ p = q := by
  constructor
  · intro h
    cases p <;> cases q <;> cases h <;> rfl
  · rintro rfl
    rfl

/-- The fingerprint that all misses share. -/
def missed : Fingerprint := .ofName (Species.display .miss)

/-- **An object is an outcome over the objects that there are.** What is a hit and a miss at once is none. -/
inductive Represents : Value → Outcome Identity Species Value → Prop where
  | hit (i : Identity) (s : HitSort) (x : Value) (hs : s ≠ .both) :
      Represents (.hit i s x) (.hit i s.species x)
  | miss (i : Identity) (p : MissSort) : Represents (.atom (.miss i p)) (.miss i p.species)

theorem IsOutcome.represents (ha : IsOutcome P a) : ∃ o, Represents a o ∧ o.Over P := by
  cases ha with
  | hit i s x hs hx => exact ⟨_, .hit i s x hs, .hit _ _ hx⟩
  | miss i p => exact ⟨_, .miss i p, .miss _ _⟩

namespace Represents

/-- Different objects are different outcomes. -/
theorem eq_iff (ha : Represents a o) (hb : Represents b q) : a = b ↔ o = q := by
  cases ha with
  | hit i s x hs =>
    cases hb with
    | hit j t y ht => simp only [Value.hit.injEq, Outcome.hit.injEq, HitSort.species_inj]
    | miss j p => exact ⟨nofun, nofun⟩
  | miss i p =>
    cases hb with
    | hit j t y ht => exact ⟨nofun, nofun⟩
    | miss j r =>
      simp only [Value.atom.injEq, Atom.miss.injEq, Outcome.miss.injEq, MissSort.species_inj]

/-- **Objects that are outcomes compare as these do.** -/
theorem equal_eq (hP : Comparable P) (ha : Represents a o) (hb : Represents b q) (ho : o.Over P)
    (hq : q.Over P) :
    Value.equal a b = (Outcome.equal model.likeness Species.properHeir o q).map .bool := by
  cases ha with
  | hit i s x hs =>
    cases hb with
    | hit j t y ht =>
      cases ho with
      | hit _ _ hx =>
        cases hq with
        | hit _ _ hy =>
          rw [Value.equal_hit_hit, Outcome.equal_hit_hit (hP.sound.alike_comm hx hy)]
          by_cases hst : s = t
          · rw [if_pos hst, if_pos (congrArg HitSort.species hst)]
            rfl
          · rw [if_neg hst, if_neg fun h => hst (HitSort.species_inj.1 h)]
            rfl
    | miss j p =>
      rw [(Value.equal_hit_miss hs).1, Outcome.equal_hit_miss.1]
      rfl
  | miss i p =>
    cases hb with
    | hit j t y ht =>
      rw [(Value.equal_hit_miss ht).2, Outcome.equal_hit_miss.2]
      rfl
    | miss j r =>
      rw [Value.equal_miss_miss, Outcome.equal_miss_miss]
      rfl

theorem equal_eq_ok_iff (hP : Comparable P) (ha : Represents a o) (hb : Represents b q)
    (ho : o.Over P) (hq : q.Over P) {r : Bool} : Value.equal a b = .ok (.bool r) ↔
      Outcome.equal model.likeness Species.properHeir o q = .ok r := by
  rw [ha.equal_eq hP hb ho hq]
  rcases Outcome.equal model.likeness Species.properHeir o q with f | r'
  · exact ⟨nofun, nofun⟩
  · constructor
    · intro h
      cases h
      rfl
    · intro h
      cases h
      rfl

theorem alike_eq (hP : Comparable P) (ha : Represents a o) (hb : Represents b q) (ho : o.Over P)
    (hq : q.Over P) : model.alike a b =
      (Outcome.likeness model.likeness Species.properHeir missed).alike o q := by
  have hlikeness : (Outcome.likeness model.likeness Species.properHeir missed).alike o q =
      if o = q then .ok true else Outcome.equal model.likeness Species.properHeir o q := rfl
  have hequal : model.equal a b =
      (Outcome.equal model.likeness Species.properHeir o q).map .bool := ha.equal_eq hP hb ho hq
  rw [hlikeness, ObjectModel.alike, hequal]
  by_cases hoq : o = q
  · rw [if_pos hoq, if_pos ((ha.eq_iff hb).2 hoq)]
  · rw [if_neg hoq, if_neg fun h => hoq ((ha.eq_iff hb).1 h)]
    rcases Outcome.equal model.likeness Species.properHeir o q with f | r <;> rfl

theorem isMiss_eq (ha : Represents a o) : a.isMiss = o.isMiss := by
  cases ha with
  | hit i s x hs => exact Value.isMiss_hit hs
  | miss i p => exact Value.isMiss_miss

theorem isHit_eq (ha : Represents a o) : a.isHit = !o.isMiss := by
  cases ha with
  | hit i s x hs => exact Value.isHit_hit
  | miss i p => exact Value.isHit_miss

theorem fingerprint_eq (ha : Represents a o) :
    a.fingerprint = o.fingerprint model.likeness missed := by
  cases ha <;> rfl

end Represents

/-- **Outcomes compare as soundly as what they carry**, so they can be payloads in turn. -/
theorem Comparable.outcomes (hP : Comparable P) : Comparable (IsOutcome P) := by
  have hsound : (Outcome.likeness model.likeness Species.properHeir missed :
      Likeness (Outcome Identity Species Value)).Sound (Outcome.Over P) := hP.sound.outcomes _ _
  constructor
  case told =>
    intro a b ha hb
    obtain ⟨o, ha, ho⟩ := ha.represents
    obtain ⟨q, hb, hq⟩ := hb.represents
    rw [ha.alike_eq hP hb ho hq]
    exact hsound.told ho hq
  case symm =>
    intro a b ha hb hab
    obtain ⟨o, ha, ho⟩ := ha.represents
    obtain ⟨q, hb, hq⟩ := hb.represents
    rw [ha.alike_eq hP hb ho hq] at hab
    rw [hb.alike_eq hP ha hq ho]
    exact hsound.symm ho hq hab
  case trans =>
    intro a b c ha hb hc hab hbc
    obtain ⟨o, ha, ho⟩ := ha.represents
    obtain ⟨q, hb, hq⟩ := hb.represents
    obtain ⟨r, hc, hr⟩ := hc.represents
    rw [ha.alike_eq hP hb ho hq] at hab
    rw [hb.alike_eq hP hc hq hr] at hbc
    rw [ha.alike_eq hP hc ho hr]
    exact hsound.trans ho hq hr hab hbc
  case fingerprint =>
    intro a b f g ha hb hab hf hg
    obtain ⟨o, ha, ho⟩ := ha.represents
    obtain ⟨q, hb, hq⟩ := hb.represents
    rw [ha.alike_eq hP hb ho hq] at hab
    rw [ha.fingerprint_eq] at hf
    rw [hb.fingerprint_eq] at hg
    exact hsound.fingerprint ho hq hab hf hg

/-- **The likeness of outcomes is an equivalence that fingerprints respect.** Over payloads that
compare soundly, a comparison of two outcomes answers with a truth value, the same one from both sides,
and being unequal is the opposite. All misses are equal, no hit equals a miss, and hits are equal where
they are of the very same species and what they carry is alike. -/
theorem equal_outcomes (hP : Comparable P) (ha : IsOutcome P a) (hb : IsOutcome P b)
    (hc : IsOutcome P c) :
    Value.equal a a = .ok (.bool true) ∧
      (∃ r, Value.equal a b = .ok (.bool r) ∧ Value.equal b a = .ok (.bool r) ∧
        Value.unequal a b = .ok (.bool !r)) ∧
      (Value.equal a b = .ok (.bool true) → Value.equal b c = .ok (.bool true) →
        Value.equal a c = .ok (.bool true)) ∧
      (a.isMiss = true → b.isMiss = true → Value.equal a b = .ok (.bool true)) ∧
      (a.isHit = true → b.isMiss = true →
        Value.equal a b = .ok (.bool false) ∧ Value.equal b a = .ok (.bool false)) ∧
      (a.isHit = true → b.isHit = true → ∃ x y, a.payload = .ok x ∧ b.payload = .ok y ∧
        (Value.equal a b = .ok (.bool true) ↔ a.species = b.species ∧ model.alike x y = .ok true)) ∧
      ∀ f g, Value.equal a b = .ok (.bool true) → a.fingerprint = .ok f → b.fingerprint = .ok g →
        f = g := by
  -- the objects represent outcomes, for which the laws hold over any payloads
  obtain ⟨o, hao, ho⟩ := ha.represents
  obtain ⟨q, hbq, hq⟩ := hb.represents
  obtain ⟨w, hcw, hw⟩ := hc.represents
  obtain ⟨hself, ⟨r, hr, hreflected, -⟩, htrans, hmisses, hmissed, hhits, hprints⟩ :=
    Outcome.equal_laws hP.sound Species.properHeir missed ho hq hw
  have hab := fun {r} => hao.equal_eq_ok_iff hP hbq ho hq (r := r)
  have hba := fun {r} => hbq.equal_eq_ok_iff hP hao hq ho (r := r)
  refine ⟨(hao.equal_eq_ok_iff hP hao ho ho).2 hself, ?_, fun h h' => ?_, fun h h' => ?_,
    fun h h' => ?_, fun h h' => ?_, fun f g h hf hg => ?_⟩
  · refine ⟨r, hab.2 hr, hba.2 hreflected, ?_⟩
    rw [Value.unequal_eq, hab.2 hr]
    rfl
  · rw [hbq.equal_eq_ok_iff hP hcw hq hw] at h'
    exact (hao.equal_eq_ok_iff hP hcw ho hw).2 (htrans (hab.1 h) h')
  · rw [hao.isMiss_eq] at h
    rw [hbq.isMiss_eq] at h'
    exact hab.2 (hmisses h h')
  · rw [hao.isHit_eq, Bool.not_eq_true'] at h
    rw [hbq.isMiss_eq] at h'
    obtain ⟨hleft, hright⟩ := hmissed h h'
    exact ⟨hab.2 hleft, hba.2 hright⟩
  · cases hao with
    | miss i p =>
      rw [Value.isHit_miss] at h
      cases h
    | hit i s x hs =>
      cases hbq with
      | miss j p =>
        rw [Value.isHit_miss] at h'
        cases h'
      | hit j t y ht =>
        refine ⟨x, y, rfl, rfl, ?_⟩
        rw [hab]
        exact hhits i j _ _ x y rfl rfl
  · rw [hao.fingerprint_eq] at hf
    rw [hbq.fingerprint_eq] at hg
    exact hprints f g (hab.1 h) hf hg

/-- Hits that carry hits in turn, of an heir around and outright inside. One carries the number one and
the other the truth value that equals it, and both are told from a miss. -/
theorem equal_outcomes_nested :
    let one : Value := .atom (.int .shared false 1)
    let P : Value → Prop := fun v => v = one ∨ v = .bool true
    let a : Value := .hit (.token 0) (.heir "Find") (.hit (.token 1) .own one)
    let b : Value := .hit (.token 2) (.heir "Find") (.hit (.token 3) .own (.bool true))
    let c : Value := .atom (.miss (.token 4) (.heir "Loss"))
    Comparable P ∧ IsOutcome (IsOutcome P) a ∧ IsOutcome (IsOutcome P) b ∧
      IsOutcome (IsOutcome P) c ∧ Value.equal a b = .ok (.bool true) ∧
      Value.equal b a = .ok (.bool true) ∧ Value.unequal a b = .ok (.bool false) ∧
      Value.equal b c = .ok (.bool false) ∧ Value.equal c b = .ok (.bool false) ∧
      ∃ f, a.fingerprint = .ok f ∧ b.fingerprint = .ok f := by
  intro one P a b c
  have hP : Comparable P :=
    { told := by rintro x y (rfl | rfl) (rfl | rfl) <;> exact ⟨true, rfl⟩
      symm := by rintro x y (rfl | rfl) (rfl | rfl) _ <;> rfl
      trans := by rintro x y z (rfl | rfl) _ (rfl | rfl) _ _ <;> rfl
      fingerprint := by rintro x y f g (rfl | rfl) (rfl | rfl) _ ⟨⟩ ⟨⟩ <;> rfl }
  have ha : IsOutcome (IsOutcome P) a := .hit _ _ _ nofun (.hit _ _ _ nofun (.inl rfl))
  have hb : IsOutcome (IsOutcome P) b := .hit _ _ _ nofun (.hit _ _ _ nofun (.inr rfl))
  have hc : IsOutcome (IsOutcome P) c := .miss _ _
  obtain ⟨-, ⟨r, hr, hreflected, hunequal⟩, -, -, -, hhits, hprints⟩ :=
    equal_outcomes hP.outcomes ha hb hc
  obtain ⟨-, -, -, -, hmissed, -, -⟩ := equal_outcomes hP.outcomes hb hc ha
  obtain ⟨x, y, hx, hy, hequal⟩ := hhits rfl rfl
  cases hx
  cases hy
  have hab : Value.equal a b = .ok (.bool true) := hequal.2 ⟨rfl, rfl⟩
  rw [hr] at hab
  cases hab
  obtain ⟨hleft, hright⟩ := hmissed rfl rfl
  refine ⟨hP, ha, hb, hc, hr, hreflected, hunequal, hleft, hright, _, rfl, ?_⟩
  exact congrArg Except.ok (hprints _ _ hr rfl rfl).symm

end Menagerie

end Narrowing
