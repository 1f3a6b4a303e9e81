import Narrowing.Outcome
import Narrowing.Proofs.Evaluation

/-!
# The likeness of outcomes, over any payloads

A hit speaks only to hits of its very own species, and leaves every other comparison to the object on the
other side; a miss accepts whatever counts as a miss. Who is asked first depends on which species is an
heir of which. None of this matters for what a comparison tells: whether two outcomes are the same
(`Outcome.Same`), and the laws are laws of that relation.

* `Likeness.Sound`: what is assumed of how payloads compare;
* `Outcome.equal_hit_hit`, `Outcome.equal_hit_miss`, `Outcome.equal_miss_miss`: the comparisons, in
  whatever order the two objects are asked;
* `Outcome.Over.equal_iff`: a comparison tells whether two outcomes are the same;
* `Likeness.Sound.outcomes`: outcomes over payloads that compare soundly compare soundly in turn;
* `Outcome.equal_laws`: **the likeness of outcomes is an equivalence that fingerprints respect**, whatever
  the payloads are and however their species descend from each other.
-/

namespace Narrowing

variable {ι κ β : Type} {L : Likeness β} {P : β → Prop}

/-- **Objects that compare soundly**: whether two are alike is always told, likeness is an equivalence,
and objects that are alike have the same fingerprint if both have one. -/
structure Likeness.Sound (L : Likeness β) (P : β → Prop) : Prop where
  told : ∀ {x y}, P x → P y → ∃ b, L.alike x y = .ok b
  refl : ∀ {x}, P x → L.alike x x = .ok true
  symm : ∀ {x y}, P x → P y → L.alike x y = .ok true → L.alike y x = .ok true
  trans : ∀ {x y z}, P x → P y → P z → L.alike x y = .ok true → L.alike y z = .ok true →
    L.alike x z = .ok true
  fingerprint : ∀ {x y f g}, P x → P y → L.alike x y = .ok true → L.fingerprint x = .ok f →
    L.fingerprint y = .ok g → f = g

/-- Such objects compare in the same way from both sides. -/
theorem Likeness.Sound.alike_comm (hL : L.Sound P) {x y : β} (hx : P x) (hy : P y) :
    L.alike x y = L.alike y x := by
  obtain ⟨r, hr⟩ := hL.told hx hy
  obtain ⟨q, hq⟩ := hL.told hy hx
  have hiff : r = true ↔ q = true := by
    constructor
    · rintro rfl
      exact Except.ok.inj (hq.symm.trans (hL.symm hx hy hr))
    · rintro rfl
      exact Except.ok.inj (hr.symm.trans (hL.symm hy hx hq))
  rw [hr, hq, Bool.eq_iff_iff.2 hiff]

namespace Outcome

/-- An outcome over payloads of some kind. -/
inductive Over (P : β → Prop) : Outcome ι κ β → Prop where
  | hit (i : ι) (k : κ) {x : β} (h : P x) : Over P (hit i k x)
  | miss (i : ι) (k : κ) : Over P (miss i k)

/-- **The same outcome**: two misses of any species, or two hits of one species with payloads that are
alike. -/
inductive Same (L : Likeness β) : Outcome ι κ β → Outcome ι κ β → Prop where
  | hit (i j : ι) (k : κ) {x y : β} (h : L.alike x y = .ok true) : Same L (hit i k x) (hit j k y)
  | miss (i j : ι) (k l : κ) : Same L (miss i k) (miss j l)

namespace Same

variable {a b c : Outcome ι κ β}

theorem hit_iff {i j : ι} {k l : κ} {x y : β} :
    Same L (.hit i k x) (.hit j l y) ↔ k = l ∧ L.alike x y = .ok true := by
  constructor
  · rintro (h | -)
    exact ⟨rfl, by assumption⟩
  · rintro ⟨rfl, h⟩
    exact .hit i j k h

theorem refl (hL : L.Sound P) (ha : Over P a) : Same L a a := by
  cases ha with
  | hit i k hx => exact .hit i i k (hL.refl hx)
  | miss i k => exact .miss i i k k

theorem symm (hL : L.Sound P) (ha : Over P a) (hb : Over P b) (h : Same L a b) : Same L b a := by
  cases h with
  | hit i j k h =>
    cases ha with
    | hit _ _ hx =>
      cases hb with
      | hit _ _ hy => exact .hit j i k (hL.symm hx hy h)
  | miss i j k l => exact .miss j i l k

theorem trans (hL : L.Sound P) (ha : Over P a) (hb : Over P b) (hc : Over P c) (hab : Same L a b)
    (hbc : Same L b c) : Same L a c := by
  cases hab with
  | hit i j k hxy =>
    cases hbc with
    | hit _ m _ hyz =>
      cases ha with
      | hit _ _ hx =>
        cases hb with
        | hit _ _ hy =>
          cases hc with
          | hit _ _ hz => exact .hit i m k (hL.trans hx hy hz hxy hyz)
  | miss i j k l =>
    cases hbc with
    | miss _ m _ n => exact .miss i m k n

/-- **The same outcomes have the same fingerprint**, where they have one. -/
theorem fingerprint (hL : L.Sound P) {missed : Fingerprint} (ha : Over P a) (hb : Over P b)
    (h : Same L a b) {f g : Fingerprint} (hf : a.fingerprint L missed = .ok f)
    (hg : b.fingerprint L missed = .ok g) : f = g := by
  cases h with
  | hit i j k h =>
    cases ha with
    | hit _ _ hx =>
      cases hb with
      | hit _ _ hy =>
        obtain ⟨f', hf', hf⟩ := bind_eq_ok hf
        obtain ⟨g', hg', hg⟩ := bind_eq_ok hg
        cases hf
        cases hg
        rw [hL.fingerprint hx hy h hf' hg']
  | miss i j k l =>
    cases hf
    cases hg
    rfl

end Same

section Equal

variable [DecidableEq ι] [DecidableEq κ] [DecidableEq β] {heir : κ → κ → Bool} {i j : ι} {k l : κ}
  {x y : β} {a b c : Outcome ι κ β}

/-- **Hits compare by their species and by what they carry.** Hits of two species both decline. -/
theorem equal_hit_hit (hcomm : L.alike x y = L.alike y x) :
    equal L heir (hit i k x) (hit j l y) = if k = l then L.alike x y else .ok false := by
  rw [equal, opinion, opinion, ofHit, ofHit, ← hcomm]
  by_cases hkl : k = l
  · rw [if_pos hkl, if_pos hkl.symm, if_pos hkl, Opinion.settle_self, Option.getD_some]
  · have hne : hit i k x ≠ hit j l y := fun h => hkl (by cases h; rfl)
    rw [if_neg hkl, if_neg (Ne.symm hkl), if_neg hkl, Opinion.settle_self, decide_eq_false hne]
    rfl

/-- **A miss speaks for both sides** when it is compared with a hit. -/
theorem equal_hit_miss : equal L heir (hit i k x) (miss j l) = .ok false ∧
    equal L heir (miss j l) (hit i k x) = .ok false := by
  refine ⟨?_, ?_⟩
  · rw [equal, opinion, opinion, Opinion.settle_none_left]
    rfl
  · rw [equal, opinion, opinion, Opinion.settle_none_right]
    rfl

theorem equal_miss_miss : equal L heir (miss i k : Outcome ι κ β) (miss j l) = .ok true := by
  rw [equal, opinion, opinion, isMiss, isMiss, Opinion.settle_self]
  rfl

namespace Over

variable (heir) (missed : Fingerprint)

/-- **Comparing two outcomes tells whether they are the same outcome.** -/
theorem equal_iff (hL : L.Sound P) (ha : Over P a) (hb : Over P b) :
    ∃ r, equal L heir a b = .ok r ∧ (r = true ↔ Same L a b) := by
  cases ha with
  | @hit i k x hx =>
    cases hb with
    | @hit j l y hy =>
      rw [equal_hit_hit (hL.alike_comm hx hy), Same.hit_iff]
      by_cases hkl : k = l
      · obtain ⟨r, hr⟩ := hL.told hx hy
        rw [if_pos hkl, hr]
        exact ⟨r, rfl, fun h => ⟨hkl, by rw [h]⟩, fun h => Except.ok.inj h.2⟩
      · rw [if_neg hkl]
        exact ⟨false, rfl, nofun, fun h => absurd h.1 hkl⟩
    | miss j l => exact ⟨false, equal_hit_miss.1, nofun, nofun⟩
  | miss i k =>
    cases hb with
    | hit j l hy => exact ⟨false, equal_hit_miss.2, nofun, nofun⟩
    | miss j l => exact ⟨true, equal_miss_miss, fun _ => .miss i j k l, fun _ => rfl⟩

theorem equal_eq_true_iff (hL : L.Sound P) (ha : Over P a) (hb : Over P b) :
    equal L heir a b = .ok true ↔ Same L a b := by
  obtain ⟨r, hr, hsame⟩ := ha.equal_iff heir hL hb
  rw [hr, ← hsame, Except.ok.injEq]

/-- Two outcomes are alike where they are the same outcome. -/
theorem alike_iff (hL : L.Sound P) (ha : Over P a) (hb : Over P b) :
    ∃ r, (likeness L heir missed).alike a b = .ok r ∧ (r = true ↔ Same L a b) := by
  by_cases hab : a = b
  · rw [← hab]
    exact ⟨true, if_pos rfl, fun _ => .refl hL ha, fun _ => rfl⟩
  · obtain ⟨r, hr, hsame⟩ := ha.equal_iff heir hL hb
    exact ⟨r, (if_neg hab).trans hr, hsame⟩

theorem alike_eq_true_iff (hL : L.Sound P) (ha : Over P a) (hb : Over P b) :
    (likeness L heir missed).alike a b = .ok true ↔ Same L a b := by
  obtain ⟨r, hr, hsame⟩ := ha.alike_iff heir missed hL hb
  rw [hr, ← hsame, Except.ok.injEq]

end Over

end Equal

end Outcome

section Laws

variable [DecidableEq ι] [DecidableEq κ] [DecidableEq β]

/-- **Outcomes compare as soundly as what they carry**, so they can be payloads in turn. -/
theorem Likeness.Sound.outcomes (hL : L.Sound P) (heir : κ → κ → Bool) (missed : Fingerprint) :
    (Outcome.likeness L heir missed : Likeness (Outcome ι κ β)).Sound (Outcome.Over P) where
  told ha hb := by
    obtain ⟨r, hr, -⟩ := ha.alike_iff heir missed hL hb
    exact ⟨r, hr⟩
  refl ha := (ha.alike_eq_true_iff heir missed hL ha).2 (.refl hL ha)
  symm ha hb hab := by
    rw [ha.alike_eq_true_iff heir missed hL hb] at hab
    exact (hb.alike_eq_true_iff heir missed hL ha).2 (hab.symm hL ha hb)
  trans ha hb hc hab hbc := by
    rw [ha.alike_eq_true_iff heir missed hL hb] at hab
    rw [hb.alike_eq_true_iff heir missed hL hc] at hbc
    exact (ha.alike_eq_true_iff heir missed hL hc).2 (hab.trans hL ha hb hc hbc)
  fingerprint ha hb hab := ((ha.alike_eq_true_iff heir missed hL hb).1 hab).fingerprint hL ha hb

namespace Outcome

/-- **The likeness of outcomes is an equivalence that fingerprints respect**, over all payloads that compare
soundly, and for all species and heirs. A comparison of two outcomes tells the same from both sides, and
being unequal is the opposite. All misses are equal, no hit equals a miss, and hits are equal where they
are of the very same species and what they carry is alike. -/
theorem equal_laws (hL : L.Sound P) (heir : κ → κ → Bool) (missed : Fingerprint) {a b c : Outcome ι κ β}
    (ha : Over P a) (hb : Over P b) (hc : Over P c) :
    equal L heir a a = .ok true ∧
      (∃ r, equal L heir a b = .ok r ∧ equal L heir b a = .ok r ∧ unequal L heir a b = .ok !r) ∧
      (equal L heir a b = .ok true → equal L heir b c = .ok true → equal L heir a c = .ok true) ∧
      (a.isMiss = true → b.isMiss = true → equal L heir a b = .ok true) ∧
      (a.isMiss = false → b.isMiss = true →
        equal L heir a b = .ok false ∧ equal L heir b a = .ok false) ∧
      (∀ i j k l x y, a = .hit i k x → b = .hit j l y →
        (equal L heir a b = .ok true ↔ k = l ∧ L.alike x y = .ok true)) ∧
      ∀ f g, equal L heir a b = .ok true → a.fingerprint L missed = .ok f →
        b.fingerprint L missed = .ok g → f = g := by
  have hab := ha.equal_eq_true_iff heir hL hb
  refine ⟨(ha.equal_eq_true_iff heir hL ha).2 (.refl hL ha), ?_, fun h h' => ?_, fun h h' => ?_,
    fun h h' => ?_, ?_, fun f g h => (hab.1 h).fingerprint hL ha hb⟩
  · obtain ⟨r, hr, hsame⟩ := ha.equal_iff heir hL hb
    obtain ⟨r', hr', hsame'⟩ := hb.equal_iff heir hL ha
    have hreflected : r' = r := by
      rw [Bool.eq_iff_iff, hsame, hsame']
      exact ⟨fun h => h.symm hL hb ha, fun h => h.symm hL ha hb⟩
    -- both sides turn their opinions around, and so does the fallback on identity
    have hopposite : unequal L heir a b = Opinion.turned .ok id (equal L heir a b) :=
      Opinion.settle_opposite (fun _ => rfl) _ _ _ _
    exact ⟨r, hr, by rw [hr', hreflected], by rw [hopposite, hr]; rfl⟩
  · rw [hb.equal_eq_true_iff heir hL hc] at h'
    exact (ha.equal_eq_true_iff heir hL hc).2 ((hab.1 h).trans hL ha hb hc h')
  · cases ha with
    | hit _ _ _ => cases h
    | miss i k =>
      cases hb with
      | hit _ _ _ => cases h'
      | miss j l => exact equal_miss_miss
  · cases ha with
    | hit i k _ =>
      cases hb with
      | hit _ _ _ => cases h'
      | miss j l => exact equal_hit_miss
    | miss _ _ => cases h
  · rintro i j k l x y rfl rfl
    rw [hab, Same.hit_iff]

end Outcome

end Laws

end Narrowing
