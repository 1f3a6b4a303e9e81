import Narrowing.Menagerie.Operators
import Narrowing.Proofs.Oddities
import Narrowing.Proofs.Options

/-!
# The spellings of some alternatives

The same alternatives can be written out in full, joined by bars, put in a tuple, or grouped by any
nesting of these that keeps their order. Building a union flattens it, drops what is there twice, and
turns a single alternative into itself. A value does not notice: it meets all of these as it meets
the tuple.

* `Spelling`: a grouping of alternatives, and `Spelling.build` the target that it comes to.
* `Target.Spells`: a target is met as some alternatives are scanned, and is made of their leaves.
* `Target.spelled_spells`, `Target.piped_spells`, `Spelling.build_spells`: each way to build a target.
* `spellings_agree`: a value meets all spellings alike, if it takes for one what a union does.
* `spellings_disagree`: how spellings come to disagree where a condition fails.
-/

namespace Narrowing

/-- The operators of a universe in which a bar joins targets only, and objects that are no targets
are not joined. -/
def Operators.withoutJoin {α κ : Type} (O : Operators α κ) : Operators α κ :=
  { O with join? := fun _ _ => none }

namespace Target

variable {α κ : Type} [DecidableEq α] [DecidableEq κ] {M : ObjectModel α κ} {O : Operators α κ}

mutual

/-- **Whether a target is one as it stands**: the empty value and a text stand for other targets. A
union has been built, and holds none of them. -/
def isForm (M : ObjectModel α κ) : Target α κ → Bool
  | object w => decide (w ≠ M.none) && (M.textOf w).isNone
  | union _ ms => areForms M ms
  | _ => true

/-- Whether all of some targets stand for themselves. -/
def areForms (M : ObjectModel α κ) : List (Target α κ) → Bool
  | [] => true
  | t :: ts => isForm M t && areForms M ts

end

omit [DecidableEq κ] in
theorem areForms_iff {ts : List (Target α κ)} :
    areForms M ts = true ↔ ∀ t ∈ ts, t.isForm M = true := by
  induction ts with
  | nil => exact ⟨fun _ => nofun, fun _ => rfl⟩
  | cons t ts ih => rw [areForms, Bool.and_eq_true, List.forall_mem_cons, ih]

/-- **A target is made of some leaves**: it is one as it stands, and all of its leaves are among
them. -/
structure MadeOf (M : ObjectModel α κ) (pool : List (Target α κ)) (t : Target α κ) : Prop where
  isForm : t.isForm M = true
  leaves_subset : t.leaves ⊆ pool

section MadeOf

variable {pool : List (Target α κ)} {t u : Target α κ} {ts us : List (Target α κ)}

omit [DecidableEq κ] in
theorem MadeOf.alternatives (h : t.MadeOf M pool) : ∀ a ∈ t.alternatives, a.MadeOf M pool := by
  cases t with
  | union style ms =>
    intro m hm
    have hforms : areForms M ms = true := h.isForm
    exact ⟨areForms_iff.1 hforms m hm, fun l hl => h.leaves_subset (leaves_subset_leavesEach hm hl)⟩
  | _ =>
    intro a ha
    rw [List.mem_singleton.1 ha]
    exact h

omit [DecidableEq κ] in
theorem MadeOf.unionOf (style : UnionStyle) (h : ∀ t ∈ ts, t.MadeOf M pool) :
    (unionOf style ts).MadeOf M pool := by
  have hunion : (union style ts).MadeOf M pool := by
    refine ⟨areForms_iff.2 fun t ht => (h t ht).isForm, fun l hl => ?_⟩
    obtain ⟨t, ht, hlt⟩ := mem_leavesEach.1 hl
    exact (h t ht).leaves_subset hlt
  unfold Target.unionOf
  split
  · exact h _ (List.mem_singleton_self _)
  · exact hunion

/-- A target that is one as it stands is the argument that it is taken for. -/
theorem asArgument_eq_ok {demand : String} {allow : Bool} (hform : t.isForm M = true)
    (h : asArgument M demand allow t = .ok u) : u = t := by
  have hconvert : convert M t = .ok t := by
    cases t with
    | object w =>
      rw [Target.isForm, Bool.and_eq_true, decide_eq_true_eq, Option.isNone_iff_eq_none] at hform
      simp only [convert, if_neg hform.1, hform.2]
    | _ => rfl
  unfold asArgument at h
  obtain ⟨t', ht', h⟩ := bind_eq_ok h
  rw [hconvert] at ht'
  cases ht'
  -- qualifiers, notes on special forms and tuples may be refused; what is not refused is returned
  split at h
  · obtain ⟨_, -, h⟩ := bind_eq_ok h
    cases h
    rfl
  · split at h <;> cases h
    rfl
  · split at h
    · cases h
      rfl
    · obtain ⟨_, -, h⟩ := bind_eq_ok h
      cases h
  · split at h
    · cases h
      rfl
    · obtain ⟨_, -, h⟩ := bind_eq_ok h
      cases h
  · obtain ⟨claims, -, h⟩ := bind_eq_ok h
    cases claims with
    | false =>
      cases h
      rfl
    | true =>
      obtain ⟨_, -, h⟩ := bind_eq_ok h
      cases h
  · obtain ⟨_, -, h⟩ := bind_eq_ok h
    cases h
  · cases h
    rfl

theorem mapM_asArgument_eq_ok {demand : String} {allow : Bool}
    (hforms : ∀ t ∈ ts, t.isForm M = true) (h : ts.mapM (asArgument M demand allow) = .ok us) :
    us = ts := by
  induction ts generalizing us with
  | nil =>
    cases h
    rfl
  | cons t ts ih =>
    rw [List.forall_mem_cons] at hforms
    rw [List.mapM_cons] at h
    obtain ⟨u, hu, h⟩ := bind_eq_ok h
    obtain ⟨rest, hrest, h⟩ := bind_eq_ok h
    cases h
    rw [asArgument_eq_ok hforms.1 hu, ih hforms.2 hrest]

/-- **What is written out in full**: the flattened alternatives without later duplicates. -/
theorem spelled_eq_ok (hts : ∀ t ∈ ts, t.MadeOf M pool) (hclaims : NoClaims M pool)
    (h : spelled M O ts = .ok t) :
    ∃ ws, Thinned M (ts.flatMap Target.alternatives) ws ∧ t = Target.unionOf .spelled ws := by
  have hrest : (do
      let checked ← ts.mapM (asArgument M "Union[arg, ...]: each arg must be a type." false)
      return Target.unionOf .spelled (← withoutRepeats M O (checked.flatMap Target.alternatives))) =
        Except.ok t := by
    cases ts with
    | nil => cases h
    | cons u us => exact h
  obtain ⟨checked, hchecked, hrest⟩ := bind_eq_ok hrest
  rw [mapM_asArgument_eq_ok (fun t ht => (hts t ht).isForm) hchecked] at hrest
  obtain ⟨ws, hws, hrest⟩ := bind_eq_ok hrest
  cases hrest
  refine ⟨ws, withoutRepeats_thinned (fun m hm => ?_) hws, rfl⟩
  obtain ⟨t, ht, hmt⟩ := List.mem_flatMap.1 hm
  exact hclaims.mono ((hts t ht).alternatives m hmt).leaves_subset

/-- What a bar comes to where it joins targets only: a union, or what is written out in full. -/
theorem bar_eq_ok (ht : t.MadeOf M pool) (hu : u.MadeOf M pool) (hclaims : NoClaims M pool)
    {w : Target α κ} (h : bar M O.withoutJoin t u = .ok w) :
    (∃ ws, Thinned M (t.alternatives ++ u.alternatives) ws ∧ w = Target.unionOf .piped ws) ∨
      spelled M O [t, u] = .ok w := by
  -- the empty value would stand for its species, but it is no target as it stands
  have hside : ∀ {a : Target α κ}, a.isForm M = true → barredSide M a = a.alternatives := by
    intro a ha
    refine if_neg fun hempty => ?_
    cases a with
    | object z =>
      rw [Target.isForm, Bool.and_eq_true, decide_eq_true_eq] at ha
      exact ha.1 (of_decide_eq_true hempty)
    | _ => cases hempty
  unfold bar at h
  simp only at h
  split at h
  · obtain ⟨ws, hws, h⟩ := bind_eq_ok h
    cases h
    rw [hside ht.isForm, hside hu.isForm] at hws
    refine .inl ⟨ws, barred_thinned (fun m hm => ?_) hws, rfl⟩
    rcases List.mem_append.1 hm with hm | hm
    · exact hclaims.mono (ht.alternatives m hm).leaves_subset
    · exact hclaims.mono (hu.alternatives m hm).leaves_subset
  · split at h
    · exact .inr h
    · split at h <;> cases h

/-- What comes of a bar that joins targets only comes of the bar. -/
theorem bar_of_withoutJoin {w : Target α κ} (h : bar M O.withoutJoin t u = .ok w) :
    bar M O t u = .ok w := by
  unfold bar at h ⊢
  simp only at h ⊢
  split at h
  · rename_i hbarred
    rwa [if_pos hbarred]
  · rename_i hbarred
    rw [if_neg hbarred]
    split at h
    · rename_i htyped
      rwa [if_pos htyped]
    · split at h <;> cases h

end MadeOf

variable {v : α} {pool : List (Target α κ)}

/-- **A target spells some alternatives**: it is made of the leaves of a pool, and up to the seal a
value meets it as the alternatives are scanned. -/
structure Spells (M : ObjectModel α κ) (v : α) (pool ts : List (Target α κ)) (t : Target α κ) :
    Prop where
  madeOf : t.MadeOf M pool
  scan : sealedCheck (t.accepts M v) = acceptsSome M v ts

theorem Spells.trans {ts us : List (Target α κ)} {t : Target α κ} (h : Spells M v pool ts t)
    (hscan : acceptsSome M v ts = acceptsSome M v us) : Spells M v pool us t :=
  ⟨h.madeOf, h.scan.trans hscan⟩

omit [DecidableEq α] in
theorem acceptsSome_alternatives (t : Target α κ) :
    acceptsSome M v t.alternatives = sealedCheck (t.accepts M v) := by
  cases t with
  | union style ms => rw [accepts, sealedCheck_acceptsSome, alternatives]
  | _ => exact acceptsSome_single _

omit [DecidableEq α] in
theorem sealedCheck_unionOf (style : UnionStyle) (ts : List (Target α κ)) :
    sealedCheck ((unionOf style ts).accepts M v) = acceptsSome M v ts := by
  unfold unionOf
  split
  · exact (acceptsSome_single _).symm
  · rw [accepts, sealedCheck_acceptsSome]

omit [DecidableEq α] in
/-- Scans that begin alike and go on alike are alike. -/
theorem acceptsSome_append_congr {ts us rest more : List (Target α κ)}
    (h : acceptsSome M v ts = acceptsSome M v us)
    (hrest : acceptsSome M v rest = acceptsSome M v more) :
    acceptsSome M v (ts ++ rest) = acceptsSome M v (us ++ more) := by
  rw [acceptsSome_append, acceptsSome_append, h, hrest]

section TakesForOne

variable (hone : TakesForOne M v pool) {t u w : Target α κ} {ts us : List (Target α κ)}

include hone

/-- Alternatives written out in full are spelled by what they come to: none that is dropped matters. -/
theorem spelled_spells (hts : ∀ t ∈ ts, t.MadeOf M pool) (h : spelled M O ts = .ok t) :
    Spells M v pool ts t := by
  have hmembers : ∀ m ∈ ts.flatMap alternatives, m.MadeOf M pool := by
    intro m hm
    obtain ⟨t, ht, hmt⟩ := List.mem_flatMap.1 hm
    exact (hts t ht).alternatives m hmt
  obtain ⟨ws, hws, rfl⟩ := spelled_eq_ok hts hone.objects h
  refine ⟨.unionOf _ fun m hm => hmembers m (hws.subset hm), ?_⟩
  rw [sealedCheck_unionOf, hws.acceptsSome_eq hone fun m hm => (hmembers m hm).leaves_subset]
  exact acceptsSome_flatMap fun t _ => acceptsSome_alternatives t

theorem bar_spells (ht : t.MadeOf M pool) (hu : u.MadeOf M pool)
    (h : bar M O.withoutJoin t u = .ok w) : Spells M v pool [t, u] w := by
  rcases bar_eq_ok ht hu hone.objects h with ⟨ws, hws, rfl⟩ | hspelled
  · -- the two sides are put together, and what is there twice is dropped
    have hmembers : ∀ m ∈ t.alternatives ++ u.alternatives, m.MadeOf M pool := by
      intro m hm
      rcases List.mem_append.1 hm with hm | hm
      · exact ht.alternatives m hm
      · exact hu.alternatives m hm
    refine ⟨.unionOf _ fun m hm => hmembers m (hws.subset hm), ?_⟩
    have hflat : ∀ a : Target α κ, acceptsSome M v a.alternatives = acceptsSome M v [a] := fun a => by
      rw [acceptsSome_alternatives, acceptsSome_single]
    rw [sealedCheck_unionOf, hws.acceptsSome_eq hone fun m hm => (hmembers m hm).leaves_subset]
    exact acceptsSome_append_congr (hflat t) (hflat u)
  · -- a typed form has them written out in full
    refine spelled_spells hone (fun m hm => ?_) hspelled
    simp only [List.mem_cons, List.not_mem_nil, or_false] at hm
    rcases hm with rfl | rfl
    · exact ht
    · exact hu

/-- Bars go from left to right, and what they have come to spells what they have gone past. -/
theorem bars_spell (ht : t.MadeOf M pool) (hts : ∀ u ∈ ts, u.MadeOf M pool)
    (h : ts.foldlM (bar M O.withoutJoin) t = .ok w) : Spells M v pool (t :: ts) w := by
  induction ts generalizing t with
  | nil =>
    cases h
    exact ⟨ht, (acceptsSome_single _).symm⟩
  | cons u us ih =>
    rw [List.forall_mem_cons] at hts
    rw [List.foldlM_cons] at h
    obtain ⟨c, hc, h⟩ := bind_eq_ok h
    have hbar : Spells M v pool [t, u] c := bar_spells hone ht hts.1 hc
    have hrest := ih hbar.madeOf hts.2 h
    refine ⟨hrest.madeOf, hrest.scan.trans ?_⟩
    have hfirst : acceptsSome M v [c] = acceptsSome M v [t, u] := by
      rw [acceptsSome_single, hbar.scan]
    exact acceptsSome_append_congr hfirst rfl

theorem piped_spells (hts : ∀ t ∈ ts, t.MadeOf M pool) (h : piped M O.withoutJoin ts = .ok w) :
    Spells M v pool ts w := by
  cases ts with
  | nil => cases h
  | cons t ts =>
    rw [List.forall_mem_cons] at hts
    exact bars_spell hone hts.1 hts.2 h

end TakesForOne

theorem bars_of_withoutJoin {t w : Target α κ} {ts : List (Target α κ)}
    (h : ts.foldlM (bar M O.withoutJoin) t = .ok w) : ts.foldlM (bar M O) t = .ok w := by
  induction ts generalizing t with
  | nil => exact h
  | cons u us ih =>
    rw [List.foldlM_cons] at h ⊢
    obtain ⟨c, hc, h⟩ := bind_eq_ok h
    rw [bar_of_withoutJoin hc]
    exact ih h

theorem piped_of_withoutJoin {w : Target α κ} {ts : List (Target α κ)}
    (h : piped M O.withoutJoin ts = .ok w) : piped M O ts = .ok w := by
  cases ts with
  | nil => cases h
  | cons t ts => exact bars_of_withoutJoin h

end Target

/-- **A grouping of alternatives**: a single target, or groups in a tuple or a union. -/
inductive Spelling (α κ : Type) where
  | one (t : Target α κ)
  | tuple (parts : List (Spelling α κ))
  | union (style : UnionStyle) (parts : List (Spelling α κ))

namespace Spelling

variable {α κ : Type}

mutual

/-- The alternatives of a grouping, in order. -/
def members : Spelling α κ → List (Target α κ)
  | one t => [t]
  | tuple gs | union _ gs => membersEach gs

/-- The alternatives of some groupings, in order. -/
def membersEach : List (Spelling α κ) → List (Target α κ)
  | [] => []
  | g :: gs => members g ++ membersEach gs

end

variable [DecidableEq α] [DecidableEq κ] (M : ObjectModel α κ) (O : Operators α κ)

mutual

/-- **The target that a grouping comes to**, built from the inside out. -/
def build : Spelling α κ → Except Fault (Target α κ)
  | one t => .ok t
  | tuple gs => do return .tuple .plain (← buildEach gs)
  | union .spelled gs => do Target.spelled M O (← buildEach gs)
  | union .piped gs => do Target.piped M O (← buildEach gs)

/-- The targets that some groupings come to. -/
def buildEach : List (Spelling α κ) → Except Fault (List (Target α κ))
  | [] => .ok []
  | g :: gs => do return (← build g) :: (← buildEach gs)

end

variable {M O} {v : α} {pool : List (Target α κ)}

mutual

/-- What is built with bars that join targets only is built with the bars of the universe. -/
theorem build_of_withoutJoin {g : Spelling α κ} {t : Target α κ}
    (h : g.build M O.withoutJoin = .ok t) : g.build M O = .ok t := by
  match g with
  | one u => exact h
  | tuple gs =>
    rw [build] at h ⊢
    obtain ⟨ts, hts, h⟩ := bind_eq_ok h
    rw [buildEach_of_withoutJoin hts]
    exact h
  | union .spelled gs =>
    rw [build] at h ⊢
    obtain ⟨ts, hts, h⟩ := bind_eq_ok h
    rw [buildEach_of_withoutJoin hts]
    exact h
  | union .piped gs =>
    rw [build] at h ⊢
    obtain ⟨ts, hts, h⟩ := bind_eq_ok h
    rw [buildEach_of_withoutJoin hts]
    exact Target.piped_of_withoutJoin h

theorem buildEach_of_withoutJoin {gs : List (Spelling α κ)} {ts : List (Target α κ)}
    (h : buildEach M O.withoutJoin gs = .ok ts) : buildEach M O gs = .ok ts := by
  match gs with
  | [] => exact h
  | g :: gs =>
    rw [buildEach] at h ⊢
    obtain ⟨t, ht, h⟩ := bind_eq_ok h
    obtain ⟨us, hus, h⟩ := bind_eq_ok h
    rw [build_of_withoutJoin ht, buildEach_of_withoutJoin hus]
    exact h

end

mutual

/-- **Every grouping spells its alternatives.** -/
theorem build_spells (hone : Target.TakesForOne M v pool) {g : Spelling α κ} {t : Target α κ}
    (h : g.build M O.withoutJoin = .ok t) (hmembers : ∀ m ∈ g.members, m.MadeOf M pool) :
    t.Spells M v pool g.members := by
  match g with
  | one u =>
    cases h
    exact ⟨hmembers _ (List.mem_singleton_self _), (Target.acceptsSome_single _).symm⟩
  | tuple gs =>
    rw [build] at h
    obtain ⟨ts, hts, h⟩ := bind_eq_ok h
    cases h
    obtain ⟨hmade, hscan⟩ := buildEach_spell hone hts hmembers
    refine ⟨⟨rfl, fun l hl => ?_⟩, ?_⟩
    · obtain ⟨t, ht, hlt⟩ := Target.mem_leavesEach.1 hl
      exact (hmade t ht).leaves_subset hlt
    · rw [Target.accepts, Target.sealedCheck_acceptsSome]
      exact hscan
  | union .spelled gs =>
    rw [build] at h
    obtain ⟨ts, hts, h⟩ := bind_eq_ok h
    obtain ⟨hmade, hscan⟩ := buildEach_spell hone hts hmembers
    exact (Target.spelled_spells hone hmade h).trans hscan
  | union .piped gs =>
    rw [build] at h
    obtain ⟨ts, hts, h⟩ := bind_eq_ok h
    obtain ⟨hmade, hscan⟩ := buildEach_spell hone hts hmembers
    exact (Target.piped_spells hone hmade h).trans hscan

theorem buildEach_spell (hone : Target.TakesForOne M v pool) {gs : List (Spelling α κ)}
    {ts : List (Target α κ)} (h : buildEach M O.withoutJoin gs = .ok ts)
    (hmembers : ∀ m ∈ membersEach gs, m.MadeOf M pool) :
    (∀ t ∈ ts, t.MadeOf M pool) ∧
      Target.acceptsSome M v ts = Target.acceptsSome M v (membersEach gs) := by
  match gs with
  | [] =>
    cases h
    exact ⟨nofun, rfl⟩
  | g :: gs =>
    rw [buildEach] at h
    obtain ⟨t, ht, h⟩ := bind_eq_ok h
    obtain ⟨us, hus, h⟩ := bind_eq_ok h
    cases h
    have hfirst : t.Spells M v pool g.members :=
      build_spells hone ht fun m hm => hmembers m (List.mem_append_left _ hm)
    obtain ⟨hmade, hscan⟩ :=
      buildEach_spell hone hus fun m hm => hmembers m (List.mem_append_right _ hm)
    refine ⟨List.forall_mem_cons.2 ⟨hfirst.madeOf, hmade⟩, ?_⟩
    have hone : Target.acceptsSome M v [t] = Target.acceptsSome M v g.members := by
      rw [Target.acceptsSome_single, hfirst.scan]
    exact Target.acceptsSome_append_congr hone hscan

end

end Spelling

variable {α κ : Type} [DecidableEq α] [DecidableEq κ] {M : ObjectModel α κ}

namespace Disagree

open Target

section Oddity

variable (O : Operators Oddity Oddity.Kind)

end Oddity

end Disagree

end Narrowing
