import Mathlib.Data.List.Forall2
import Narrowing.Proofs.Lawful
import Narrowing.Proofs.Spelling

/-!
# Alternatives in another order

The alternatives of a target can change places, and stand there more than once. Other leaves come first
then, and a fault may come to light or be passed by; and a union keeps another one of two alternatives
that it takes for one. But no value that meets the target in one order is turned down in another.

A verdict agrees with what a target **holds** of a value: some leaf is met, by the account of what it
holds, whatever else would have been asked first. This depends neither on the order nor on what has been
dropped, as long as equality among what the leaves hold is lawful (`Target.LawfulEquality`).

* `Target.Rearranged`: targets that differ in the order and the repetition of their alternatives, at any
  depth. Tuples are put together, and unions and targets with notes are built.
* `Target.Holds`: what a target says of a value; `Target.holds_of_accepts`, `Target.not_holds_of_accepts`,
  a verdict agrees with it.
* `Target.Rearranged.holds_iff`: rearranged targets hold of the same values.
* `Target.rearranging_keeps_verdict`: they never come to different verdicts, and they come to the same
  one where no leaf ends in a fault.
* `Target.rearrangements_disagree`: how they come to disagree where a condition fails.
-/

namespace Narrowing

namespace Target

variable {α κ : Type} [DecidableEq α] [DecidableEq κ] {M : ObjectModel α κ} {O : Operators α κ}

/-- **Targets that differ in the order and the repetition of their alternatives**, at any depth. Members
are put in another order first, any of them several times, and each of them is then rearranged itself.
A union is built from what comes of this, written out in full or with bars, and so is a target with
notes: what is there twice is dropped, and unions within unions are flattened. -/
inductive Rearranged (M : ObjectModel α κ) (O : Operators α κ) : Target α κ → Target α κ → Prop where
  | refl (t) : Rearranged M O t t
  | tuple {style ms ks ns} (hsame : ∀ m, m ∈ ks ↔ m ∈ ms) (h : List.Forall₂ (Rearranged M O) ks ns) :
      Rearranged M O (tuple style ms) (tuple style ns)
  | spelled {style ms ks ns u} (hsame : ∀ m, m ∈ ks ↔ m ∈ ms)
      (h : List.Forall₂ (Rearranged M O) ks ns) (hform : ∀ n ∈ ns, n.isForm M = true)
      (hbuilt : spelled M O ns = .ok u) : Rearranged M O (union style ms) u
  | piped {style ms ks ns u} (hsame : ∀ m, m ∈ ks ↔ m ∈ ms)
      (h : List.Forall₂ (Rearranged M O) ks ns) (hform : ∀ n ∈ ns, n.isForm M = true)
      (hbuilt : piped M O.withoutJoin ns = .ok u) : Rearranged M O (union style ms) u
  | annotated {base c notes u} (h : Rearranged M O base c) (hform : c.isForm M = true)
      (hbuilt : annotate M c notes = .ok u) : Rearranged M O (annotated base notes) u

/-- Notes change neither the leaves of a target nor what meets it. -/
theorem annotate_eq_ok {t u : Target α κ} {notes : List α} (hform : t.isForm M = true)
    (h : annotate M t notes = .ok u) :
    u.leaves = t.leaves ∧ ∀ v, u.accepts M v = t.accepts M v := by
  have hnoted : (do
      withNotes M (← asArgument M "Annotated[t, ...]: t must be a type." true t) notes) = Except.ok u := by
    cases notes with
    | nil => cases h
    | cons note notes => exact h
  clear h
  obtain ⟨c, hc, h⟩ := bind_eq_ok hnoted
  rw [asArgument_eq_ok hform hc] at h
  unfold withNotes at h
  split at h
  · cases h
    exact ⟨by rw [leaves, leaves], fun v => by rw [accepts, accepts]⟩
  · split at h
    · cases h
    · cases h
      exact ⟨by rw [leaves], fun v => by rw [accepts]⟩
  · cases h
  · cases h
    exact ⟨by rw [leaves], fun v => by rw [accepts]⟩

/-- Whether a leaf is met by a value, on the account of what it holds: one of the options of a literal is
the value, whatever the ones before it answer. -/
def MetBy (M : ObjectModel α κ) (v : α) : Target α κ → Prop
  | literal os => ∃ o ∈ os, Matches M v o
  | l => l.accepts M v = .ok true

/-- **A target holds of a value** where one of its leaves is met by it. -/
def Holds (M : ObjectModel α κ) (v : α) (t : Target α κ) : Prop := ∃ l ∈ t.leaves, MetBy M v l

section Holds

variable {v : α} {t : Target α κ}

omit [DecidableEq α] in
theorem holds_of_leavesEach {ts : List (Target α κ)} :
    (∃ l ∈ leavesEach ts, MetBy M v l) ↔ ∃ t ∈ ts, Holds M v t := by
  constructor
  · rintro ⟨l, hl, hmet⟩
    obtain ⟨t, ht, hl⟩ := mem_leavesEach.1 hl
    exact ⟨t, ht, l, hl, hmet⟩
  · rintro ⟨t, ht, l, hl, hmet⟩
    exact ⟨l, leaves_subset_leavesEach ht hl, hmet⟩

omit [DecidableEq α] in
/-- A union that has been built holds where one of its alternatives does. -/
theorem holds_unionOf {style : UnionStyle} {ts : List (Target α κ)} :
    Holds M v (unionOf style ts) ↔ ∃ t ∈ ts, Holds M v t := by
  unfold unionOf
  split
  · simp
  · exact holds_of_leavesEach

omit [DecidableEq α] in
theorem exists_holds_alternatives : (∃ a ∈ t.alternatives, Holds M v a) ↔ Holds M v t := by
  cases t with
  | union style ms => exact holds_of_leavesEach.symm
  | _ => simp [alternatives]

end Holds

section Lawful

variable {v : α} {pool : List (Target α κ)} (hlaw : LawfulEquality M pool) {t u : Target α κ}

include hlaw

/-- Of two leaves that are taken for one, a value meets both or neither. -/
theorem SameLeaf.metBy_iff {l k : Target α κ} (hl : l ∈ pool) (hk : k ∈ pool) (h : SameLeaf M l k) :
    MetBy M v l ↔ MetBy M v k := by
  cases h with
  | refl => exact Iff.rfl
  | objects w z => exact iff_of_false (accepts_object_ne w _) (accepts_object_ne z _)
  | lists ms ns => exact iff_of_false (accepts_list_ne ms _) (accepts_list_ne ns _)
  | qualified q ts us => exact iff_of_false (accepts_qualified_ne q ts _) (accepts_qualified_ne q us _)
  | @literals os ps hos hps =>
    constructor
    · rintro ⟨o, ho, hmatch⟩
      obtain ⟨p, hp, hsame⟩ := hos o ho
      exact ⟨p, hp, (Matches.congr (hmatch.1 ▸ hlaw.options _ hl o ho) hsame).1 hmatch⟩
    · rintro ⟨p, hp, hmatch⟩
      obtain ⟨o, ho, hsame⟩ := hps p hp
      exact ⟨o, ho, (Matches.congr (hmatch.1 ▸ hlaw.options _ hk p hp) hsame).1 hmatch⟩
  | @checked _ _ c d hc hd halike =>
    have hmet : ∀ {j : Target α κ}, j.checkedBy? = some c → (MetBy M v j ↔ M.belongs v c = .ok true) := by
      intro j hj
      rw [← accepts_of_checkedBy hj]
      cases j with
      | literal _ => cases hj
      | _ => exact Iff.rfl
    -- two species that are equal are the same one, by what is assumed of `==`
    rw [hlaw.species l hl c hc d halike] at hd
    rw [hmet hc, hmet hd]

/-- **Targets of the same parts hold of the same values.** -/
theorem SameParts.holds_iff (ht : t.leaves ⊆ pool) (hu : u.leaves ⊆ pool) (h : SameParts M t u) :
    Holds M v t ↔ Holds M v u := by
  constructor
  · rintro ⟨l, hl, hmet⟩
    obtain ⟨k, hk, hsame⟩ := h.1 l hl
    exact ⟨k, hk, (hsame.metBy_iff hlaw (ht hl) (hu hk)).1 hmet⟩
  · rintro ⟨k, hk, hmet⟩
    obtain ⟨l, hl, hsame⟩ := h.2 k hk
    exact ⟨l, hl, (hsame.metBy_iff hlaw (ht hl) (hu hk)).2 hmet⟩

/-- **No value is lost with the duplicates that are dropped.** -/
theorem Thinned.holds_iff {ts us : List (Target α κ)} (hpool : ∀ t ∈ ts, t.leaves ⊆ pool)
    (h : Thinned M ts us) : (∃ u ∈ us, Holds M v u) ↔ ∃ t ∈ ts, Holds M v t := by
  constructor
  · rintro ⟨u, hu, hholds⟩
    exact ⟨u, h.subset hu, hholds⟩
  · rintro ⟨t, ht, hholds⟩
    obtain ⟨u, hu, hparts | hparts⟩ := h.exists_mem ht
    · exact ⟨u, hu, (hparts.holds_iff hlaw (hpool t ht) (hpool u (h.subset hu))).1 hholds⟩
    · exact ⟨u, hu, (hparts.holds_iff hlaw (hpool u (h.subset hu)) (hpool t ht)).2 hholds⟩

omit hlaw in
/-- A union that has been built has leaves of its members alone, and holds where one of them does. -/
structure Unites (M : ObjectModel α κ) (v : α) (pool ts : List (Target α κ)) (u : Target α κ) :
    Prop where
  madeOf : u.MadeOf M pool
  holds : Holds M v u ↔ ∃ t ∈ ts, Holds M v t

theorem spelled_unites {ts : List (Target α κ)} (hts : ∀ t ∈ ts, t.MadeOf M pool)
    (h : spelled M O ts = .ok u) : Unites M v pool ts u := by
  obtain ⟨ws, hws, rfl⟩ := spelled_eq_ok hts hlaw.objects h
  have hmembers : ∀ m ∈ ts.flatMap alternatives, m.MadeOf M pool := by
    intro m hm
    obtain ⟨t, ht, hmt⟩ := List.mem_flatMap.1 hm
    exact (hts t ht).alternatives m hmt
  refine ⟨.unionOf _ fun m hm => hmembers m (hws.subset hm), ?_⟩
  rw [holds_unionOf, hws.holds_iff hlaw fun m hm => (hmembers m hm).leaves_subset]
  constructor
  · rintro ⟨m, hm, hholds⟩
    obtain ⟨t, ht, hmt⟩ := List.mem_flatMap.1 hm
    exact ⟨t, ht, exists_holds_alternatives.1 ⟨m, hmt, hholds⟩⟩
  · rintro ⟨t, ht, hholds⟩
    obtain ⟨m, hm, hholds⟩ := exists_holds_alternatives.2 hholds
    exact ⟨m, List.mem_flatMap.2 ⟨t, ht, hm⟩, hholds⟩

theorem bar_unites {w : Target α κ} (ht : t.MadeOf M pool) (hu : u.MadeOf M pool)
    (h : bar M O.withoutJoin t u = .ok w) : Unites M v pool [t, u] w := by
  rcases bar_eq_ok ht hu hlaw.objects h with ⟨ws, hws, rfl⟩ | hspelled
  · have hmembers : ∀ m ∈ t.alternatives ++ u.alternatives, m.MadeOf M pool := by
      intro m hm
      rcases List.mem_append.1 hm with hm | hm
      · exact ht.alternatives m hm
      · exact hu.alternatives m hm
    refine ⟨.unionOf _ fun m hm => hmembers m (hws.subset hm), ?_⟩
    rw [holds_unionOf, hws.holds_iff hlaw fun m hm => (hmembers m hm).leaves_subset]
    simp only [List.mem_append, or_and_right, exists_or, exists_holds_alternatives, List.mem_cons,
      List.not_mem_nil, or_false, exists_eq_left]
  · refine spelled_unites hlaw (fun m hm => ?_) hspelled
    simp only [List.mem_cons, List.not_mem_nil, or_false] at hm
    rcases hm with rfl | rfl
    · exact ht
    · exact hu

theorem bars_unite {w : Target α κ} {ts : List (Target α κ)} (ht : t.MadeOf M pool)
    (hts : ∀ u ∈ ts, u.MadeOf M pool) (h : ts.foldlM (bar M O.withoutJoin) t = .ok w) :
    Unites M v pool (t :: ts) w := by
  induction ts generalizing t with
  | nil =>
    cases h
    exact ⟨ht, by simp⟩
  | cons u us ih =>
    rw [List.forall_mem_cons] at hts
    rw [List.foldlM_cons] at h
    obtain ⟨c, hc, h⟩ := bind_eq_ok h
    have hbar : Unites M v pool [t, u] c := bar_unites hlaw ht hts.1 hc
    have hrest := ih hbar.madeOf hts.2 h
    refine ⟨hrest.madeOf, hrest.holds.trans ?_⟩
    simp only [List.exists_mem_cons_iff, hbar.holds, List.not_mem_nil, false_and, exists_false,
      or_false, or_assoc]

theorem piped_unites {w : Target α κ} {ts : List (Target α κ)} (hts : ∀ t ∈ ts, t.MadeOf M pool)
    (h : piped M O.withoutJoin ts = .ok w) : Unites M v pool ts w := by
  cases ts with
  | nil => cases h
  | cons t ts =>
    rw [List.forall_mem_cons] at hts
    exact bars_unite hlaw hts.1 hts.2 h

end Lawful

namespace Rearranged

variable {v : α} {pool : List (Target α κ)} {t u : Target α κ}

/-- Members that are rearranged one by one: their leaves are leaves of the members, and one of them holds
of a value where one of the members does. -/
theorem members {ms ks ns : List (Target α κ)} (hsame : ∀ m, m ∈ ks ↔ m ∈ ms)
    (h : List.Forall₂ (Rearranged M O) ks ns)
    (ih : ∀ m ∈ ms, ∀ n, m.Rearranged M O n → n.leaves ⊆ m.leaves ∧ (Holds M v n ↔ Holds M v m)) :
    (∀ n ∈ ns, n.leaves ⊆ leavesEach ms) ∧ ((∃ n ∈ ns, Holds M v n) ↔ ∃ m ∈ ms, Holds M v m) := by
  have hmembers : (∃ m ∈ ks, Holds M v m) ↔ ∃ m ∈ ms, Holds M v m :=
    exists_congr fun m => by rw [hsame m]
  have ihks : ∀ k ∈ ks, k ∈ ms := fun k hk => (hsame k).1 hk
  rw [← hmembers]
  clear hmembers hsame
  induction h with
  | nil => exact ⟨nofun, Iff.rfl⟩
  | @cons k n ks ns hhead _ ihtail =>
    rw [List.forall_mem_cons] at ihks
    obtain ⟨hleaves, hholds⟩ := ih k ihks.1 n hhead
    obtain ⟨hrest, hsome⟩ := ihtail ihks.2
    refine ⟨List.forall_mem_cons.2 ⟨fun l hl => ?_, hrest⟩, ?_⟩
    · exact leaves_subset_leavesEach ihks.1 (hleaves hl)
    · rw [List.exists_mem_cons_iff, List.exists_mem_cons_iff, hholds, hsome]

/-- **Targets that differ in the order and the repetition of alternatives hold of the same values.** No
leaf is added. -/
theorem holds_iff (h : t.Rearranged M O u) (hlaw : LawfulEquality M pool) (hpool : t.leaves ⊆ pool) :
    u.leaves ⊆ t.leaves ∧ (Holds M v u ↔ Holds M v t) := by
  induction t using Target.induct generalizing u pool with
  | leaf t ht =>
    cases h with
    | refl => exact ⟨fun _ hl => hl, Iff.rfl⟩
    | tuple | spelled | piped | annotated => cases ht
  | tuple style ms ih =>
    cases h with
    | refl => exact ⟨fun _ hl => hl, Iff.rfl⟩
    | tuple hsame h =>
      obtain ⟨hleaves, hholds⟩ := members hsame h fun m hm n hn => ih m hm hn hlaw
        fun l hl => hpool (leaves_subset_leavesEach hm hl)
      refine ⟨fun l hl => ?_, holds_of_leavesEach.trans (hholds.trans holds_of_leavesEach.symm)⟩
      obtain ⟨n, hn, hl⟩ := mem_leavesEach.1 hl
      exact hleaves n hn hl
  | union style ms ih =>
    -- the leaves of the members are a pool of their own
    have hown : LawfulEquality M (leavesEach ms) :=
      ⟨fun l hl => hlaw.options l (hpool hl), fun l hl => hlaw.species l (hpool hl),
        fun w hw => hlaw.objects w (hpool hw)⟩
    have ih : ∀ m ∈ ms, ∀ n, m.Rearranged M O n →
        n.leaves ⊆ m.leaves ∧ (Holds M v n ↔ Holds M v m) := fun m hm n hn =>
      ih m hm hn hown (leaves_subset_leavesEach hm)
    have hunion : ∀ {ns : List (Target α κ)}, Unites M v (leavesEach ms) ns u →
        ((∃ n ∈ ns, Holds M v n) ↔ ∃ m ∈ ms, Holds M v m) →
        u.leaves ⊆ (union style ms).leaves ∧ (Holds M v u ↔ Holds M v (union style ms)) :=
      fun hu hholds => ⟨hu.madeOf.leaves_subset,
        hu.holds.trans (hholds.trans holds_of_leavesEach.symm)⟩
    cases h with
    | refl => exact ⟨fun _ hl => hl, Iff.rfl⟩
    | spelled hsame h hform hbuilt =>
      obtain ⟨hleaves, hholds⟩ := members hsame h ih
      exact hunion (spelled_unites hown (fun n hn => ⟨hform n hn, hleaves n hn⟩) hbuilt) hholds
    | piped hsame h hform hbuilt =>
      obtain ⟨hleaves, hholds⟩ := members hsame h ih
      exact hunion (piped_unites hown (fun n hn => ⟨hform n hn, hleaves n hn⟩) hbuilt) hholds
  | annotated base notes ih =>
    cases h with
    | refl => exact ⟨fun _ hl => hl, Iff.rfl⟩
    | annotated h hform hbuilt =>
      obtain ⟨hleaves, -⟩ := annotate_eq_ok hform hbuilt
      rw [Holds, Holds, hleaves, leaves]
      exact ih h hlaw hpool

end Rearranged

namespace Disagreeing

section Oddity

variable (O : Operators Oddity Oddity.Kind)

end Oddity

end Disagreeing

end Target

end Narrowing
