import Narrowing.Proofs.Leaves
import Narrowing.Target.Construction

/-!
# Targets that are taken for one

Two targets are taken for one where they are the same (`Target.sameAs`), equal (`Target.equal`), or the
same to a bar (`Target.sameBarred`). Whichever way it is, each leaf of the one then has a leaf of the
other that it is taken for (`Target.SameParts`), and what this says of two leaves is `Target.SameLeaf`:
equal options, or equal species.

A scan over alternatives goes past those that turn the value down, and ends at the first that does not.
So a duplicate of an earlier alternative never matters to a value that does not tell the two apart
(`Target.TakesForOne`): where it is reached, the earlier one has turned the value down, and so does it.

* `Target.sameAs_sameParts`, `Target.equal_sameParts`, `Target.sameBarred_sameParts`: leaf by leaf.
* `Target.accepts_false_congr`: of two targets that are taken for one, such a value is turned down by
  both or by neither.
* `Target.Thinned`: alternatives of which duplicates have been dropped, in whichever way;
  `Target.Thinned.acceptsSome_eq`, such a value does not miss them.
-/

namespace Narrowing

section Distinct

variable {β : Type} {same : β → β → Except Fault Bool} {kept xs ys : List β}

theorem mem_of_distinctWith (h : distinctWith same kept xs = .ok ys) {y : β} (hy : y ∈ ys) :
    y ∈ kept ++ xs := by
  induction xs generalizing kept with
  | nil =>
    cases h
    rwa [List.append_nil]
  | cons x xs ih =>
    rw [distinctWith] at h
    obtain ⟨found, -, h⟩ := bind_eq_ok h
    cases found with
    | true =>
      have hmem := ih h
      rw [List.mem_append] at hmem ⊢
      exact hmem.imp id (List.mem_cons_of_mem _)
    | false =>
      have hmem := ih h
      rwa [List.append_assoc] at hmem

/-- What is found among some elements is one of them. -/
theorem exists_of_anyM {p : β → Except Fault Bool} (h : xs.anyM p = .ok true) :
    ∃ x ∈ xs, p x = .ok true := by
  induction xs with
  | nil => cases h
  | cons x xs ih =>
    rw [List.anyM_cons] at h
    obtain ⟨found, hx, h⟩ := bind_eq_ok h
    cases found with
    | true => exact ⟨x, List.mem_cons_self, hx⟩
    | false =>
      obtain ⟨y, hy, hfound⟩ := ih h
      exact ⟨y, List.mem_cons_of_mem _ hy, hfound⟩

theorem kept_subset_of_distinctWith (h : distinctWith same kept xs = .ok ys) : kept ⊆ ys := by
  induction xs generalizing kept with
  | nil =>
    cases h
    exact fun _ hk => hk
  | cons x xs ih =>
    rw [distinctWith] at h
    obtain ⟨found, -, h⟩ := bind_eq_ok h
    cases found with
    | true => exact ih h
    | false => exact fun _ hk => ih h (List.mem_append_left _ hk)

/-- **Each member has one among those that are kept** which it is, or which stands for it. -/
theorem exists_mem_of_distinctWith (h : distinctWith same kept xs = .ok ys) {x : β}
    (hx : x ∈ kept ++ xs) : ∃ y ∈ ys, y = x ∨ same x y = .ok true := by
  induction xs generalizing kept with
  | nil =>
    cases h
    rw [List.append_nil] at hx
    exact ⟨x, hx, .inl rfl⟩
  | cons z zs ih =>
    rw [distinctWith] at h
    obtain ⟨found, hfound, h⟩ := bind_eq_ok h
    have hsplit : x = z ∨ x ∈ kept ++ zs := by
      simpa [List.mem_append, or_left_comm] using hx
    cases found with
    | true =>
      rcases hsplit with rfl | hx
      · obtain ⟨k, hk, hsame⟩ := exists_of_anyM hfound
        exact ⟨k, kept_subset_of_distinctWith h hk, .inr hsame⟩
      · exact ih h hx
    | false =>
      refine ih h ?_
      rw [List.append_assoc, List.singleton_append]
      exact hx

/-- Where no comparison fails, dropping duplicates does not fail either. -/
theorem distinctWith_ok (same : β → β → Bool) (xs : List β) :
    distinctWith (fun x kept => .ok (same kept x)) [] xs = .ok (distinctBy same xs) := by
  -- the one keeps a list in order, the other one its reversal
  have hloop : ∀ kept : List β, distinctWith (fun x k => .ok (same k x)) kept.reverse xs =
      .ok (List.eraseDupsBy.loop (fun x k => same k x) xs kept) := by
    induction xs with
    | nil => exact fun _ => rfl
    | cons x xs ih =>
      intro kept
      have hany : kept.reverse.anyM (fun k => .ok (same k x)) =
          (.ok (kept.any fun k => same k x) : Except Fault Bool) := by
        rw [← List.any_reverse]
        exact List.anyM_pure
      rw [distinctWith, hany, List.eraseDupsBy.loop]
      cases kept.any fun k => same k x with
      | true => exact ih kept
      | false =>
        have hstep := ih (x :: kept)
        rw [List.reverse_cons] at hstep
        exact hstep
  exact hloop []

theorem mem_of_mem_distinctBy {same : β → β → Bool} {x : β} (h : x ∈ distinctBy same xs) : x ∈ xs :=
  mem_of_distinctWith (distinctWith_ok same xs) h

theorem exists_mem_distinctBy (same : β → β → Bool) {x : β} (hx : x ∈ xs) :
    ∃ y ∈ distinctBy same xs, y = x ∨ same y x = true := by
  obtain ⟨y, hy, hsame⟩ := exists_mem_of_distinctWith (distinctWith_ok same xs) hx
  exact ⟨y, hy, hsame.imp_right Except.ok.inj⟩

end Distinct

variable {α κ : Type} [DecidableEq α] [DecidableEq κ] {M : ObjectModel α κ} {v : α}

omit [DecidableEq κ] in
/-- What a set takes for one is alike. -/
theorem ObjectModel.alike_of_interchangeable {a b : α} (h : M.interchangeable a b = true) :
    M.alike a b = .ok true := by
  unfold ObjectModel.interchangeable at h
  split at h
  · rw [Bool.and_eq_true] at h
    rcases heq : M.alike a b with f | c
    · rw [heq] at h
      cases h.2
    · rw [heq] at h
      rw [← Option.some.inj (eq_of_beq h.2)]
  · cases h

namespace Target

/-- The options of a literal. -/
def literalOptions : Target α κ → List α
  | literal os => os
  | _ => []

/-- The species that a leaf is checked by, if there is one. -/
def checkedBy? (t : Target α κ) : Option κ :=
  match t.underlying with
  | species c => some c
  | _ => none

/-- Whether a value answers to an option: it is alike and of the same species. -/
def answersTo (M : ObjectModel α κ) (v o : α) : Except Fault Bool :=
  (M.equal v o >>= M.truth).map (· && decide (M.speciesOf v = M.speciesOf o))

/-- **Two leaves that are taken for one**: the options of one literal are those of the other, the species
that the leaves are checked by are equal, or they are leaves of a form that nothing is an instance of. -/
inductive SameLeaf (M : ObjectModel α κ) : Target α κ → Target α κ → Prop where
  | refl (l) : SameLeaf M l l
  | objects (w z) : SameLeaf M (object w) (object z)
  | lists (ms ns) : SameLeaf M (list ms) (list ns)
  | qualified (q ts us) :
      SameLeaf M (subscripted (.qualifier q) ts) (subscripted (.qualifier q) us)
  | literals {os ps} (hos : ∀ o ∈ os, ∃ p ∈ ps, sameOption M o p = true)
      (hps : ∀ p ∈ ps, ∃ o ∈ os, sameOption M p o = true) : SameLeaf M (literal os) (literal ps)
  | checked {l k c d} (hl : l.checkedBy? = some c) (hk : k.checkedBy? = some d)
      (h : M.alike (M.ofSpecies c) (M.ofSpecies d) = .ok true) : SameLeaf M l k

/-- Each of some leaves is taken for one of some others, and the other way round. -/
def SameLeaves (M : ObjectModel α κ) (ls ks : List (Target α κ)) : Prop :=
  (∀ l ∈ ls, ∃ k ∈ ks, SameLeaf M l k) ∧ ∀ k ∈ ks, ∃ l ∈ ls, SameLeaf M l k

/-- **Two targets of the same parts**: their leaves are taken for one, each for one of the other's. -/
def SameParts (M : ObjectModel α κ) (t u : Target α κ) : Prop := SameLeaves M t.leaves u.leaves

/-- **A plain object that claims to be no species**: it is not equal to one. -/
def Unassuming (M : ObjectModel α κ) (w : α) : Prop :=
  ∀ c, M.alike (M.ofSpecies c) w ≠ .ok true ∧ M.alike w (M.ofSpecies c) ≠ .ok true

/-- The plain objects among some leaves claim to be no species. -/
def NoClaims (M : ObjectModel α κ) (ls : List (Target α κ)) : Prop := ∀ w, object w ∈ ls → Unassuming M w

section SameParts

variable {t u : Target α κ}

theorem SameLeaves.append {ls ks rs qs : List (Target α κ)} (h : SameLeaves M ls ks)
    (hrest : SameLeaves M rs qs) : SameLeaves M (ls ++ rs) (ks ++ qs) := by
  refine ⟨fun l hl => ?_, fun k hk => ?_⟩
  · rcases List.mem_append.1 hl with hl | hl
    · obtain ⟨k, hk, hsame⟩ := h.1 l hl
      exact ⟨k, List.mem_append_left _ hk, hsame⟩
    · obtain ⟨k, hk, hsame⟩ := hrest.1 l hl
      exact ⟨k, List.mem_append_right _ hk, hsame⟩
  · rcases List.mem_append.1 hk with hk | hk
    · obtain ⟨l, hl, hsame⟩ := h.2 k hk
      exact ⟨l, List.mem_append_left _ hl, hsame⟩
    · obtain ⟨l, hl, hsame⟩ := hrest.2 k hk
      exact ⟨l, List.mem_append_right _ hl, hsame⟩

theorem SameLeaf.sameParts (h : SameLeaf M t u) (ht : t.isLeaf = true) (hu : u.isLeaf = true) :
    SameParts M t u := by
  rw [SameParts, leaves_of_isLeaf ht, leaves_of_isLeaf hu]
  refine ⟨fun l hl => ⟨u, List.mem_singleton_self u, ?_⟩, fun k hk => ⟨t, List.mem_singleton_self t, ?_⟩⟩
  · rwa [List.mem_singleton.1 hl]
  · rwa [List.mem_singleton.1 hk]

theorem SameParts.refl (t : Target α κ) : SameParts M t t :=
  ⟨fun l hl => ⟨l, hl, .refl l⟩, fun l hl => ⟨l, hl, .refl l⟩⟩

omit [DecidableEq α] [DecidableEq κ] in
theorem leaves_subset_leavesEach {t : Target α κ} {ts : List (Target α κ)} (h : t ∈ ts) :
    t.leaves ⊆ leavesEach ts :=
  fun _ hl => mem_leavesEach.2 ⟨t, h, hl⟩

/-- Members that are taken for one with a member of the other union, in both directions. -/
theorem sameLeaves_of_exists {ms ns : List (Target α κ)}
    (hms : ∀ m ∈ ms, ∃ n ∈ ns, SameParts M m n) (hns : ∀ n ∈ ns, ∃ m ∈ ms, SameParts M m n) :
    SameLeaves M (leavesEach ms) (leavesEach ns) := by
  refine ⟨fun l hl => ?_, fun k hk => ?_⟩
  · obtain ⟨m, hm, hl⟩ := mem_leavesEach.1 hl
    obtain ⟨n, hn, hsame⟩ := hms m hm
    obtain ⟨k, hk, hlk⟩ := hsame.1 l hl
    exact ⟨k, leaves_subset_leavesEach hn hk, hlk⟩
  · obtain ⟨n, hn, hk⟩ := mem_leavesEach.1 hk
    obtain ⟨m, hm, hsame⟩ := hns n hn
    obtain ⟨l, hl, hlk⟩ := hsame.2 k hk
    exact ⟨l, leaves_subset_leavesEach hm hl, hlk⟩

omit [DecidableEq κ] in
theorem NoClaims.mono {ls ks : List (Target α κ)} (h : NoClaims M ks) (hsub : ls ⊆ ks) : NoClaims M ls :=
  fun w hw => h w (hsub hw)

omit [DecidableEq κ] in
theorem NoClaims.unassuming {w : α} (h : NoClaims M (object w : Target α κ).leaves) : Unassuming M w :=
  h w (List.mem_singleton_self _)

/-- The same species are equal. -/
theorem alike_of_sameSpecies {c d : κ} (h : sameSpecies M c d = true) :
    M.alike (M.ofSpecies c) (M.ofSpecies d) = .ok true := by
  rw [sameSpecies, Bool.or_eq_true, decide_eq_true_eq] at h
  rcases h with rfl | h
  · exact M.alike_refl _
  · exact ObjectModel.alike_of_interchangeable h

omit [DecidableEq α] [DecidableEq κ] in
theorem checkedBy?_subscripted (h : Head κ) (ts : List (Target α κ)) :
    (subscripted h ts).checkedBy? = h.species? := by
  cases h <;> rfl

omit [DecidableEq κ] in
/-- Two heads of one form: both have a species behind them, or they are the same qualifier. -/
theorem cases_of_form {h g : Head κ} (hform : h.form = g.form) :
    (∃ c d, h.species? = some c ∧ g.species? = some d) ∨ ∃ q, h = .qualifier q ∧ g = .qualifier q := by
  cases h with
  | qualifier q =>
    cases g with
    | qualifier r =>
      cases hform
      exact .inr ⟨q, rfl, rfl⟩
    | _ => cases hform
  | _ =>
    cases g with
    | qualifier r => cases hform
    | _ => exact .inl ⟨_, _, rfl, rfl⟩

/-- Forms with arguments are taken for one where their heads are of one form, over equal species. -/
theorem sameParts_subscripted {h g : Head κ} (ts us : List (Target α κ)) (hform : h.form = g.form)
    (hspecies : ∀ c d, h.species? = some c → g.species? = some d →
      M.alike (M.ofSpecies c) (M.ofSpecies d) = .ok true) :
    SameParts M (subscripted h ts) (subscripted g us) := by
  refine SameLeaf.sameParts ?_ rfl rfl
  rcases cases_of_form hform with ⟨c, d, hc, hd⟩ | ⟨q, rfl, rfl⟩
  · exact .checked ((checkedBy?_subscripted h ts).trans hc) ((checkedBy?_subscripted g us).trans hd)
      (hspecies c d hc hd)
  · exact .qualified q ts us

theorem sameParts_of_sameHead {h g : Head κ} (ts us : List (Target α κ))
    (hsame : sameHead M h g = true) : SameParts M (subscripted h ts) (subscripted g us) := by
  rw [sameHead, Bool.and_eq_true, decide_eq_true_eq] at hsame
  refine sameParts_subscripted ts us hsame.1 fun c d hc hd => ?_
  rw [hc, hd] at hsame
  exact alike_of_sameSpecies hsame.2

theorem sameParts_of_equalHead {h g : Head κ} (ts us : List (Target α κ))
    (hsame : equalHead M h g = .ok true) : SameParts M (subscripted h ts) (subscripted g us) := by
  unfold equalHead at hsame
  split at hsame
  · rename_i hform
    refine sameParts_subscripted ts us hform fun c d hc hd => ?_
    rw [hc, hd] at hsame
    exact hsame
  · cases hsame

theorem sameAsSome_eq_any (ms : List (Target α κ)) (u : Target α κ) :
    sameAsSome M ms u = ms.any (sameAs M · u) := by
  induction ms with
  | nil => rw [sameAsSome, List.any_nil]
  | cons m ms ih => rw [sameAsSome, ih, List.any_cons]

theorem allAmong_eq_all (ms ns : List (Target α κ)) :
    allAmong M ms ns = ms.all fun m => ns.any (sameAs M m) := by
  induction ms with
  | nil => rw [allAmong, List.all_nil]
  | cons m ms ih => rw [allAmong, ih, List.all_cons]

/-- Targets that are the same place by place. -/
theorem sameLeaves_of_samePlaces {ts us : List (Target α κ)}
    (ih : ∀ t ∈ ts, ∀ u ∈ us, sameAs M t u = true → SameParts M t u)
    (h : samePlaces M ts us = true) : SameLeaves M (leavesEach ts) (leavesEach us) := by
  induction ts generalizing us with
  | nil =>
    cases us with
    | nil => exact ⟨nofun, nofun⟩
    | cons u us => simp [samePlaces] at h
  | cons t ts ihs =>
    cases us with
    | nil => simp [samePlaces] at h
    | cons u us =>
      rw [samePlaces, Bool.and_eq_true] at h
      exact (ih t List.mem_cons_self u List.mem_cons_self h.1).append
        (ihs (fun t ht u hu => ih t (List.mem_cons_of_mem _ ht) u (List.mem_cons_of_mem _ hu)) h.2)

/-- **Targets that are the same have the same parts.** -/
theorem sameAs_sameParts (ht : NoClaims M t.leaves) (hu : NoClaims M u.leaves)
    (h : sameAs M t u = true) : SameParts M t u := by
  induction t using inductParts generalizing u with
  | step t ih =>
    -- targets of different forms are never the same, but for an object that claims to be a species
    unfold sameAs at h
    split at h
    case h_1 => exact .refl _
    case h_2 c d => exact SameLeaf.sameParts (.checked rfl rfl (alike_of_sameSpecies h)) rfl rfl
    case h_3 w z => exact SameLeaf.sameParts (.objects w z) rfl rfl
    case h_4 w c => exact absurd (ObjectModel.alike_of_interchangeable h) (ht.unassuming c).2
    case h_5 c w => exact absurd (ObjectModel.alike_of_interchangeable h) (hu.unassuming c).1
    case h_6 _ ms _ ns =>
      exact sameLeaves_of_samePlaces (fun m hm n hn => ih m hm
        (ht.mono (leaves_subset_leavesEach hm)) (hu.mono (leaves_subset_leavesEach hn))) h
    case h_7 ms ns => exact SameLeaf.sameParts (.lists ms ns) rfl rfl
    case h_8 os ps =>
      rw [Bool.and_eq_true, List.all_eq_true, List.all_eq_true] at h
      exact SameLeaf.sameParts (.literals (fun o ho => List.any_eq_true.1 (h.1 o ho))
        fun p hp => List.any_eq_true.1 (h.2 p hp)) rfl rfl
    case h_9 _ ms _ ns =>
      rw [Bool.and_eq_true, allAmong_eq_all, List.all_eq_true, List.all_eq_true] at h
      have hparts : ∀ m ∈ ms, ∀ n ∈ ns, sameAs M m n = true → SameParts M m n := fun m hm n hn =>
        ih m hm (ht.mono (leaves_subset_leavesEach hm)) (hu.mono (leaves_subset_leavesEach hn))
      refine sameLeaves_of_exists (fun m hm => ?_) fun n hn => ?_
      · obtain ⟨n, hn, hsame⟩ := List.any_eq_true.1 (h.2 m hm)
        exact ⟨n, hn, hparts m hm n hn hsame⟩
      · obtain ⟨m, hm, hsame⟩ := List.any_eq_true.1 ((sameAsSome_eq_any ms n).symm.trans (h.1 n hn))
        exact ⟨m, hm, hparts m hm n hn hsame⟩
    case h_10 base notes other others =>
      rw [Bool.and_eq_true] at h
      have hbase : SameParts M base other := ih base (List.mem_singleton_self _) ht hu h.1
      exact hbase
    case h_11 n c m d =>
      rw [Bool.and_eq_true, decide_eq_true_eq, decide_eq_true_eq] at h
      rw [h.1, h.2]
      exact .refl _
    case h_12 head ts other us =>
      rw [Bool.and_eq_true] at h
      exact sameParts_of_sameHead ts us h.1
    case h_13 w z =>
      rw [of_decide_eq_true h]
      exact .refl _
    case h_14 => cases h

/-- Targets that are equal place by place. -/
theorem sameLeaves_of_equalPlaces {ts us : List (Target α κ)}
    (ih : ∀ t ∈ ts, ∀ u ∈ us, equal M t u = .ok true → SameParts M t u)
    (h : equalPlaces M ts us = .ok true) : SameLeaves M (leavesEach ts) (leavesEach us) := by
  induction ts generalizing us with
  | nil =>
    cases us with
    | nil => exact ⟨nofun, nofun⟩
    | cons u us => simp [equalPlaces] at h
  | cons t ts ihs =>
    cases us with
    | nil => simp [equalPlaces] at h
    | cons u us =>
      rw [equalPlaces] at h
      obtain ⟨first, hfirst, h⟩ := bind_eq_ok h
      cases first with
      | false => cases h
      | true =>
        exact (ih t List.mem_cons_self u List.mem_cons_self hfirst).append (ihs
          (fun t ht u hu => ih t (List.mem_cons_of_mem _ ht) u (List.mem_cons_of_mem _ hu)) h)

/-- **Targets that are equal have the same parts.** -/
theorem equal_sameParts (ht : NoClaims M t.leaves) (hu : NoClaims M u.leaves)
    (h : equal M t u = .ok true) : SameParts M t u := by
  induction t using inductParts generalizing u with
  | step t ih =>
    -- unions and literals are compared as sets, once each member has a fingerprint
    unfold equal at h
    split at h
    case h_1 => exact .refl _
    case h_2 c d => exact SameLeaf.sameParts (.checked rfl rfl h) rfl rfl
    case h_3 w z => exact SameLeaf.sameParts (.objects w z) rfl rfl
    case h_4 w c => exact absurd h (ht.unassuming c).2
    case h_5 c w => exact absurd h (hu.unassuming c).1
    case h_6 w _ _ _ => exact absurd h (ht.unassuming M.noneSpecies).1
    case h_7 w _ _ _ => exact absurd h (hu.unassuming M.noneSpecies).1
    case h_8 _ ms _ ns =>
      exact sameLeaves_of_equalPlaces (fun m hm n hn => ih m hm
        (ht.mono (leaves_subset_leavesEach hm)) (hu.mono (leaves_subset_leavesEach hn))) h
    case h_9 ms ns => exact SameLeaf.sameParts (.lists ms ns) rfl rfl
    case h_10 base notes other others =>
      obtain ⟨b, hb, h⟩ := bind_eq_ok h
      cases b with
      | false => cases h
      | true =>
        have hbase : SameParts M base other := ih base (List.mem_singleton_self _) ht hu hb
        exact hbase
    case h_11 head ts other us =>
      obtain ⟨b, hb, h⟩ := bind_eq_ok h
      cases b with
      | false => cases h
      | true => exact sameParts_of_equalHead ts us hb
    case h_12 os ps =>
      obtain ⟨_, -, h⟩ := bind_eq_ok h
      obtain ⟨_, -, h⟩ := bind_eq_ok h
      exact sameAs_sameParts ht hu (Except.ok.inj h)
    case h_13 _ ms _ ns =>
      obtain ⟨_, -, h⟩ := bind_eq_ok h
      obtain ⟨_, -, h⟩ := bind_eq_ok h
      exact sameAs_sameParts ht hu (Except.ok.inj h)
    case h_14 => exact sameAs_sameParts ht hu (Except.ok.inj h)

/-- **Alternatives that bars take for one have the same parts.** -/
theorem sameBarred_sameParts (ht : NoClaims M t.leaves) (hu : NoClaims M u.leaves)
    (h : sameBarred M t u = .ok true) : SameParts M t u := by
  unfold sameBarred at h
  split at h
  · rename_i head ts other us
    obtain ⟨b, hb, h⟩ := bind_eq_ok h
    cases b with
    | false => cases h
    | true => exact sameParts_of_equalHead ts us hb
  · rename_i c d
    rw [of_decide_eq_true (Except.ok.inj h)]
    exact .refl _
  · exact sameAs_sameParts ht hu (Except.ok.inj h)

end SameParts

omit [DecidableEq α] in
/-- The first option, and then the others. -/
theorem acceptsOption_cons (o : α) (os : List α) : acceptsOption M v (o :: os) =
    (sealedCheck (answersTo M v o)).bind fun b => if b then .ok true else acceptsOption M v os := by
  rw [acceptsOption, answersTo]
  rcases M.equal v o with f | a
  · rfl
  rcases htruth : M.truth a with f | ⟨_ | _⟩ <;> simp only [bind, Except.bind, htruth] <;> rfl

omit [DecidableEq α] in
theorem acceptsOption_eq_false_iff {os : List α} :
    acceptsOption M v os = .ok false ↔ ∀ o ∈ os, answersTo M v o = .ok false := by
  induction os with
  | nil => simp [acceptsOption]
  | cons o os ih => rw [acceptsOption_cons, or_eq_false_iff, List.forall_mem_cons, ih]

omit [DecidableEq α] in
theorem acceptsLeaf_eq_ok {t : Target α κ} {b : Bool} :
    t.acceptsLeaf M v = .ok b ↔ hasInstance M v t.underlying = .ok b := by
  rw [acceptsLeaf]
  rcases hasInstance M v t.underlying with f | c
  · refine ⟨fun h => ?_, fun h => by cases h⟩
    by_cases hf : f.kind.isTypeError = true
    · simp only [if_pos hf] at h
      obtain ⟨shown, -, h⟩ := bind_eq_ok h
      obtain ⟨name, -, h⟩ := bind_eq_ok h
      cases h
    · simp only [if_neg hf] at h
      cases h
  · rfl

omit [DecidableEq α] in
/-- Nothing is an instance of an object that is no target, and nobody is told so. -/
theorem accepts_object_ne (w : α) (b : Bool) : (object w : Target α κ).accepts M v ≠ .ok b := by
  rw [accepts_of_isChecked rfl, Ne, acceptsLeaf_eq_ok]
  nofun

omit [DecidableEq α] in
theorem accepts_list_ne (ms : List (Target α κ)) (b : Bool) : (list ms).accepts M v ≠ .ok b := by
  rw [accepts_of_isChecked rfl, Ne, acceptsLeaf_eq_ok]
  nofun

omit [DecidableEq α] in
theorem accepts_qualified_ne (q : Qualifier) (ts : List (Target α κ)) (b : Bool) :
    (subscripted (.qualifier q) ts).accepts M v ≠ .ok b := by
  rw [accepts_of_isChecked rfl, Ne, acceptsLeaf_eq_ok]
  nofun

omit [DecidableEq α] in
/-- A leaf that is checked by a species is met as the species is. -/
theorem accepts_of_checkedBy {l : Target α κ} {c : κ} (h : l.checkedBy? = some c) {b : Bool} :
    l.accepts M v = .ok b ↔ M.belongs v c = .ok b := by
  have hchecked : l.isChecked = true ∧ hasInstance M v l.underlying = M.belongs v c := by
    unfold checkedBy? at h
    split at h
    · rename_i d hd
      cases h
      refine ⟨?_, by rw [hd, hasInstance]⟩
      cases l with
      | any | literal _ | tuple _ _ | union _ _ | annotated _ _ => cases hd
      | _ => rfl
    · cases h
  rw [accepts_of_isChecked hchecked.1, acceptsLeaf_eq_ok, hchecked.2]

/-- **A value takes for one what a union does**, among some leaves: it answers alike to two options that
are the same, and to two species that are equal. The plain objects among the leaves claim to be no
species. -/
structure TakesForOne (M : ObjectModel α κ) (v : α) (pool : List (Target α κ)) : Prop where
  options : ∀ l ∈ pool, ∀ o ∈ l.literalOptions, ∀ k ∈ pool, ∀ p ∈ k.literalOptions,
    sameOption M o p = true → answersTo M v o = answersTo M v p
  species : ∀ l ∈ pool, ∀ c, l.checkedBy? = some c → ∀ k ∈ pool, ∀ d, k.checkedBy? = some d →
    M.alike (M.ofSpecies c) (M.ofSpecies d) = .ok true → M.belongs v c = M.belongs v d
  objects : ∀ w, object w ∈ pool → ∀ c,
    M.alike (M.ofSpecies c) w ≠ .ok true ∧ M.alike w (M.ofSpecies c) ≠ .ok true

section Congruence

variable {pool : List (Target α κ)} {t u : Target α κ}

/-- Of two leaves that are taken for one, both turn the value down or neither does. -/
theorem SameLeaf.turnedDown_iff (hone : TakesForOne M v pool) {l k : Target α κ} (hl : l ∈ pool)
    (hk : k ∈ pool) (h : SameLeaf M l k) : l.accepts M v = .ok false ↔ k.accepts M v = .ok false := by
  cases h with
  | refl => exact Iff.rfl
  | objects w z => exact iff_of_false (accepts_object_ne w _) (accepts_object_ne z _)
  | lists ms ns => exact iff_of_false (accepts_list_ne ms _) (accepts_list_ne ns _)
  | qualified q ts us => exact iff_of_false (accepts_qualified_ne q ts _) (accepts_qualified_ne q us _)
  | @literals os ps hos hps =>
    rw [accepts, accepts, acceptsOption_eq_false_iff, acceptsOption_eq_false_iff]
    constructor
    · intro hall p hp
      obtain ⟨o, ho, hsame⟩ := hps p hp
      rw [hone.options _ hk p hp _ hl o ho hsame, hall o ho]
    · intro hall o ho
      obtain ⟨p, hp, hsame⟩ := hos o ho
      rw [hone.options _ hl o ho _ hk p hp hsame, hall p hp]
  | checked hc hd halike =>
    rw [accepts_of_checkedBy hc, accepts_of_checkedBy hd, hone.species l hl _ hc k hk _ hd halike]

/-- **Of two targets of the same parts, both turn a value down or neither does**, if it takes their
leaves for one. -/
theorem accepts_false_congr (hone : TakesForOne M v pool) (ht : t.leaves ⊆ pool) (hu : u.leaves ⊆ pool)
    (h : SameParts M t u) : t.accepts M v = .ok false ↔ u.accepts M v = .ok false := by
  rw [accepts_eq_false_iff, accepts_eq_false_iff]
  constructor
  · intro hall k hk
    obtain ⟨l, hl, hsame⟩ := h.2 k hk
    exact (hsame.turnedDown_iff hone (ht hl) (hu hk)).1 (hall l hl)
  · intro hall l hl
    obtain ⟨k, hk, hsame⟩ := h.1 l hl
    exact (hsame.turnedDown_iff hone (ht hl) (hu hk)).2 (hall k hk)

end Congruence

omit [DecidableEq α] in
/-- **Later duplicates never matter to a scan**: where one is reached, an earlier one has turned the
value down. -/
theorem acceptsSome_distinctWith {same : Target α κ → Target α κ → Except Fault Bool}
    {kept ts us : List (Target α κ)}
    (h : ∀ t ∈ kept ++ ts, ∀ u ∈ kept ++ ts, same t u = .ok true →
      (t.accepts M v = .ok false ↔ u.accepts M v = .ok false))
    (hdistinct : distinctWith same kept ts = .ok us) :
    acceptsSome M v us = acceptsSome M v (kept ++ ts) := by
  induction ts generalizing kept with
  | nil =>
    cases hdistinct
    rw [List.append_nil]
  | cons t ts ih =>
    rw [distinctWith] at hdistinct
    obtain ⟨found, hfound, hdistinct⟩ := bind_eq_ok hdistinct
    cases found with
    | true =>
      -- `t` is dropped for some `k` that has been kept, and stands behind it in the scan
      obtain ⟨k, hk, hsame⟩ := exists_of_anyM hfound
      have hkept : k ∈ kept ++ t :: ts := List.mem_append_left _ hk
      have ht : t ∈ kept ++ t :: ts := List.mem_append_right _ List.mem_cons_self
      have hsub : kept ++ ts ⊆ kept ++ t :: ts :=
        List.append_subset.2 ⟨List.subset_append_left _ _, fun u hu =>
          List.mem_append_right _ (List.mem_cons_of_mem _ hu)⟩
      rw [ih (fun t ht u hu => h t (hsub ht) u (hsub hu)) hdistinct, acceptsSome_append,
        acceptsSome_append]
      rcases hscan : acceptsSome M v kept with f | ⟨_ | _⟩
      · rfl
      · -- all that is kept turns the value down, and so does `t`
        have hdown := (h t ht k hkept hsame).2 (acceptsSome_eq_false_iff.1 hscan k hk)
        have hskip : acceptsSome M v (t :: ts) = acceptsSome M v ts := by
          rw [acceptsSome_cons, hdown]
          rfl
        exact hskip.symm
      · rfl
    | false =>
      have happend : kept ++ [t] ++ ts = kept ++ t :: ts := List.append_assoc kept [t] ts
      rw [← happend] at h ⊢
      exact ih h hdistinct

/-- **Duplicates dropped**: some targets without those that a comparison takes for one kept before. What
the comparison takes for one has the same parts. -/
def Thinned (M : ObjectModel α κ) (ts us : List (Target α κ)) : Prop :=
  ∃ same, distinctWith same [] ts = .ok us ∧
    ∀ t ∈ ts, ∀ u ∈ ts, same t u = .ok true → SameParts M t u ∨ SameParts M u t

section Thinned

variable {O : Operators α κ} {ts us : List (Target α κ)}

theorem withoutRepeats_thinned (hclaims : ∀ t ∈ ts, NoClaims M t.leaves)
    (h : withoutRepeats M O ts = .ok us) : Thinned M ts us := by
  unfold withoutRepeats at h
  split at h
  · cases h
    refine ⟨_, distinctWith_ok (sameAs M) ts, fun t ht u hu hsame => .inr ?_⟩
    exact sameAs_sameParts (hclaims u hu) (hclaims t ht) (Except.ok.inj hsame)
  · split at h
    · exact ⟨_, h, fun t ht u hu hsame =>
        .inr (equal_sameParts (hclaims u hu) (hclaims t ht) hsame)⟩
    · cases h

theorem barred_thinned (hclaims : ∀ t ∈ ts, NoClaims M t.leaves)
    (h : distinctWith (sameBarred M) [] ts = .ok us) : Thinned M ts us :=
  ⟨_, h, fun t ht u hu hsame => .inl (sameBarred_sameParts (hclaims t ht) (hclaims u hu) hsame)⟩

theorem Thinned.subset (h : Thinned M ts us) : us ⊆ ts := by
  obtain ⟨_, hdistinct, -⟩ := h
  exact fun _ hu => mem_of_distinctWith hdistinct hu

/-- Each target has one among those that are kept which it is, or which has the same parts. -/
theorem Thinned.exists_mem (h : Thinned M ts us) {t : Target α κ} (ht : t ∈ ts) :
    ∃ u ∈ us, SameParts M t u ∨ SameParts M u t := by
  obtain ⟨_, hdistinct, hsame⟩ := h
  obtain ⟨u, hu, rfl | htu⟩ := exists_mem_of_distinctWith hdistinct ht
  · exact ⟨u, hu, .inl (.refl u)⟩
  · exact ⟨u, hu, hsame t ht u (mem_of_distinctWith hdistinct hu) htu⟩

/-- **A value that takes duplicates for one does not miss those that are dropped.** -/
theorem Thinned.acceptsSome_eq {pool : List (Target α κ)} (hone : TakesForOne M v pool)
    (hpool : ∀ t ∈ ts, t.leaves ⊆ pool) (h : Thinned M ts us) :
    acceptsSome M v us = acceptsSome M v ts := by
  obtain ⟨_, hdistinct, hsame⟩ := h
  refine acceptsSome_distinctWith (fun t ht u hu htu => ?_) hdistinct
  rcases hsame t ht u hu htu with hparts | hparts
  · exact accepts_false_congr hone (hpool t ht) (hpool u hu) hparts
  · exact (accepts_false_congr hone (hpool u hu) (hpool t ht) hparts).symm

end Thinned

end Target

end Narrowing
