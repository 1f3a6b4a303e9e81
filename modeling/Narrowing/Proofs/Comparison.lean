import Narrowing.Menagerie.Likeness

/-!
# Comparisons in the menagerie

Two objects are **familiar** if they are of forms that compare by their parts: two lists, two tuples, two
dictionaries, two points, two hits, or settings. All others are **strangers**, and their comparison is
settled by the opinions that they have as they stand.

* `Value.compare_other`: a comparison is the same told from either side (`==` has one meaning);
* `Value.equal_eq_settle`: it is settled by what the two objects answer (`__eq__`);
* `Value.unequal_eq`: being unequal (`!=`) is the opposite, for all objects.
-/

namespace Narrowing.Menagerie.Value

section Lists

variable {β γ : Type}

theorem allM_map (f : β → γ) (p : γ → Except Fault Bool) (xs : List β) :
    (xs.map f).allM p = xs.allM (p ∘ f) := by
  induction xs with
  | nil => rfl
  | cons x xs ih =>
    rw [List.map_cons, List.allM, List.allM, ih]
    rfl

theorem allM_congr {p q : β → Except Fault Bool} {xs : List β} (h : ∀ x ∈ xs, p x = q x) :
    xs.allM p = xs.allM q := by
  induction xs with
  | nil => rfl
  | cons x xs ih =>
    rw [List.forall_mem_cons] at h
    rw [List.allM, List.allM, h.1, ih h.2]

end Lists

mutual

/-- **Induction on an object**, by the objects that it is made of. -/
theorem induct {P : Value → Prop} (atom : ∀ a, P (atom a))
    (sequence : ∀ i s xs, (∀ x ∈ xs, P x) → P (sequence i s xs))
    (dict : ∀ i ks vs, (∀ k ∈ ks, P k) → (∀ v ∈ vs, P v) → P (dict i ks vs))
    (creature : ∀ i s x, P x → P (creature i s x)) (hit : ∀ i s x, P x → P (hit i s x))
    (settings : ∀ i d e, P d → P e → P (settings i d e)) : ∀ v, P v
  | .atom a => atom a
  | .sequence i s xs => sequence i s xs (inductEach atom sequence dict creature hit settings xs)
  | .dict i ks vs =>
      dict i ks vs (inductEach atom sequence dict creature hit settings ks)
        (inductEach atom sequence dict creature hit settings vs)
  | .creature i s x => creature i s x (induct atom sequence dict creature hit settings x)
  | .hit i s x => hit i s x (induct atom sequence dict creature hit settings x)
  | .settings i d e =>
      settings i d e (induct atom sequence dict creature hit settings d)
        (induct atom sequence dict creature hit settings e)

theorem inductEach {P : Value → Prop} (atom : ∀ a, P (.atom a))
    (sequence : ∀ i s xs, (∀ x ∈ xs, P x) → P (.sequence i s xs))
    (dict : ∀ i ks vs, (∀ k ∈ ks, P k) → (∀ v ∈ vs, P v) → P (.dict i ks vs))
    (creature : ∀ i s x, P x → P (.creature i s x)) (hit : ∀ i s x, P x → P (.hit i s x))
    (settings : ∀ i d e, P d → P e → P (.settings i d e)) : ∀ vs : List Value, ∀ v ∈ vs, P v
  | [] => List.forall_mem_nil P
  | v :: vs => List.forall_mem_cons.2
      ⟨induct atom sequence dict creature hit settings v,
        inductEach atom sequence dict creature hit settings vs⟩

end

/-- **Objects that compare by their parts.** -/
inductive Familiar : Value → Value → Prop where
  | lists (i j : Identity) (xs ys : List Value) :
      Familiar (sequence i .list xs) (sequence j .list ys)
  | tuples (i j : Identity) (s t : SequenceSort) (hs : s ≠ .list) (ht : t ≠ .list)
      (xs ys : List Value) : Familiar (sequence i s xs) (sequence j t ys)
  | dicts (i j : Identity) (ks vs ls ws : List Value) : Familiar (dict i ks vs) (dict j ls ws)
  | points (i j : Identity) (x y : Value) : Familiar (creature i .point x) (creature j .point y)
  | hits (i j : Identity) (s t : HitSort) (x y : Value) : Familiar (hit i s x) (hit j t y)
  | settings (i j : Identity) (d e d' e' : Value) : Familiar (settings i d e) (settings j d' e')

/-- **Objects that have nothing in common**: each answers as it stands. -/
structure Strangers (a b : Value) : Prop where
  compare_eq : ∀ side, compare a side b = settleOn side a b (a.opinion b) (b.opinion a)
  answer_eq : a.answer b = a.opinion b

theorem strangers_creature (i : Identity) {s : Species} (hs : s ≠ .point) (x y : Value) :
    Strangers (creature i s x) y ∧ Strangers y (creature i s x) := by
  have hleft : ∀ (j : Identity) {t : Species}, t ≠ .point → ∀ z y, Strangers (creature j t z) y := by
    intro j t ht z y
    cases t with
    | point => exact absurd rfl ht
    | _ => exact ⟨fun _ => rfl, rfl⟩
  refine ⟨hleft i hs x y, ?_⟩
  cases y with
  | creature j t y =>
    by_cases ht : t = .point
    · rw [ht]
      cases s with
      | point => exact absurd rfl hs
      | _ => exact ⟨fun _ => rfl, rfl⟩
    · exact hleft j ht y _
  | sequence _ sort _ => cases sort <;> exact ⟨fun _ => rfl, rfl⟩
  | _ => exact ⟨fun _ => rfl, rfl⟩

/-- A creature has nothing in common with an object of another form. -/
theorem strangers_creature_alone (i : Identity) (s : Species) (x : Value) {y : Value}
    (hy : ∀ j t z, y ≠ creature j t z) :
    Strangers (creature i s x) y ∧ Strangers y (creature i s x) := by
  by_cases hs : s = .point
  · rw [hs]
    cases y with
    | creature j t y => exact absurd rfl (hy j t y)
    | sequence _ sort _ => cases sort <;> exact ⟨⟨fun _ => rfl, rfl⟩, ⟨fun _ => rfl, rfl⟩⟩
    | _ => exact ⟨⟨fun _ => rfl, rfl⟩, ⟨fun _ => rfl, rfl⟩⟩
  · exact strangers_creature i hs x y

/-- **Two objects are familiar or strangers.** -/
theorem familiar_or_strangers (a b : Value) : Familiar a b ∨ Strangers a b ∧ Strangers b a := by
  cases a with
  | creature i s x =>
    cases b with
    | creature j t y =>
      by_cases hs : s = .point
      · by_cases ht : t = .point
        · rw [hs, ht]
          exact .inl (.points i j x y)
        · exact .inr (strangers_creature j ht y _).symm
      · exact .inr (strangers_creature i hs x _)
    | _ => exact .inr (strangers_creature_alone i s x fun _ _ _ h => by cases h)
  | sequence i s xs =>
    cases b with
    | sequence j t ys =>
      cases s <;> cases t
      case list.list => exact .inl (.lists i j xs ys)
      case tuple.tuple | tuple.pair | pair.tuple | pair.pair =>
        exact .inl (.tuples i j _ _ (by decide) (by decide) xs ys)
      all_goals exact .inr ⟨⟨fun _ => rfl, rfl⟩, ⟨fun _ => rfl, rfl⟩⟩
    | creature j t y =>
      exact .inr (strangers_creature_alone j t y fun _ _ _ h => by cases h).symm
    | _ => cases s <;> exact .inr ⟨⟨fun _ => rfl, rfl⟩, ⟨fun _ => rfl, rfl⟩⟩
  | _ =>
    cases b with
    | creature j t y =>
      exact .inr (strangers_creature_alone j t y fun _ _ _ h => by cases h).symm
    | sequence j t ys => cases t <;> exact .inr ⟨⟨fun _ => rfl, rfl⟩, ⟨fun _ => rfl, rfl⟩⟩
    | dict j ls ws =>
      first
      | exact .inl (.dicts ..)
      | exact .inr ⟨⟨fun _ => rfl, rfl⟩, ⟨fun _ => rfl, rfl⟩⟩
    | hit j t y =>
      first
      | exact .inl (.hits ..)
      | exact .inr ⟨⟨fun _ => rfl, rfl⟩, ⟨fun _ => rfl, rfl⟩⟩
    | settings j d e =>
      first
      | exact .inl (.settings ..)
      | exact .inr ⟨⟨fun _ => rfl, rfl⟩, ⟨fun _ => rfl, rfl⟩⟩
    | atom c => exact .inr ⟨⟨fun _ => rfl, rfl⟩, ⟨fun _ => rfl, rfl⟩⟩

/-! ## Told from either side -/

/-- An object as a peer. -/
def peer (v : Value) : Peer := ⟨v, fun side other => sameOr v other (compare v side other)⟩

theorem peers_eq_map (vs : List Value) : peers vs = vs.map peer := by
  induction vs with
  | nil => rfl
  | cons v vs ih => rw [peers, List.map_cons, ih, peer]

theorem sameOr_comm (a b : Value) (answer : Except Fault Value) :
    sameOr a b answer = sameOr b a answer := by
  unfold sameOr
  by_cases h : a = b
  · rw [h]
  · rw [if_neg h, if_neg (Ne.symm h)]

theorem settleOn_other (side : Side) (a b : Value) (opinion reply : Opinion Value) :
    settleOn side.other b a reply opinion = settleOn side a b opinion reply := by
  cases side <;> rfl

/-- An object that a comparison of it with any other is the same for, told from either side. -/
def Told (x : Value) : Prop := ∀ side y, compare x side y = compare y side.other x

section Told

variable {x : Value} {xs : List Value}

theorem Told.alike (h : Told x) (side : Side) (y : Value) :
    (peer x).alike side y = (peer y).alike side.other x := by
  have hmine : (peer x).alike side y = sameOr x y (compare x side y) := rfl
  have htheirs : (peer y).alike side.other x = sameOr y x (compare y side.other x) := rfl
  rw [hmine, htheirs, h, sameOr_comm]

theorem compareItems_other (h : ∀ x ∈ xs, Told x) (side : Side) (ys : List Value) :
    compareItems side (peers xs) ys = compareItems side.other (peers ys) xs := by
  have hall : ((xs.map peer).zip ys).allM (fun pair => pair.1.alike side pair.2) =
      ((ys.map peer).zip xs).allM fun pair => pair.1.alike side.other pair.2 := by
    induction xs generalizing ys with
    | nil => cases ys <;> rfl
    | cons x xs ih =>
      rw [List.forall_mem_cons] at h
      cases ys with
      | nil => rfl
      | cons y ys =>
        simp only [List.map_cons, List.zip_cons_cons, List.allM, h.1.alike side y, ih h.2]
  rw [compareItems, compareItems, peers_eq_map, peers_eq_map, hall, List.length_map, List.length_map]
  simp only [eq_comm]

/-- An entry is looked up alike, told from either side. -/
theorem lookup_other {k v : Value} {entries : List (Value × Value)}
    (hkeys : ∀ e ∈ entries, (peer k).alike .right e.1 = (peer e.1).alike .left k)
    (hvalues : ∀ e ∈ entries, (peer v).alike .right e.2 = (peer e.2).alike .left v) :
    (do match ← entries.findM? fun e => sameKey (peer k) .right e.1 with
      | Option.none => return false
      | some e => (peer v).alike .right e.2) =
    (do match ← (entries.map (Prod.map peer peer)).findM? fun e => sameKey e.1 .left k with
      | Option.none => return false
      | some e => e.2.alike .left v : Except Fault Bool) := by
  induction entries with
  | nil => rfl
  | cons e entries ih =>
    rw [List.forall_mem_cons] at hkeys hvalues
    -- keys are compared only if they have the same fingerprint
    have hkey : sameKey (peer k) .right e.1 = sameKey (peer e.1) .left k := by
      rw [sameKey, sameKey, hkeys.1]
      by_cases hprint : k.fingerprint.toOption = e.1.fingerprint.toOption
      · exact (if_pos hprint).trans (if_pos hprint.symm).symm
      · exact (if_neg hprint).trans (if_neg (Ne.symm hprint)).symm
    have hpeer : (Prod.map peer peer e).1 = peer e.1 := rfl
    rw [List.map_cons, List.findM?, List.findM?, hkey, hpeer]
    -- the search ends in a fault, goes on, or has found the entry
    rcases sameKey (peer e.1) .left k with f | ⟨_ | _⟩
    · rfl
    · exact ih hkeys.2 hvalues.2
    · exact hvalues.1

theorem compareEntries_other {ks vs ls ws : List Value}
    (hkeys : ∀ k ∈ ks, ∀ l ∈ ls, (peer k).alike .right l = (peer l).alike .left k)
    (hvalues : ∀ v ∈ vs, ∀ w ∈ ws, (peer v).alike .right w = (peer w).alike .left v) :
    compareEntries .left ((peers ks).zip (peers vs)) (ls.zip ws) =
      compareEntries .right ((peers ls).zip (peers ws)) (ks.zip vs) := by
  simp only [peers_eq_map, List.zip_map, compareEntries, allM_map]
  refine allM_congr fun entry hentry => ?_
  obtain ⟨hk, hv⟩ := List.of_mem_zip hentry
  exact lookup_other (fun e he => hkeys _ hk _ (List.of_mem_zip he).1)
    fun e he => hvalues _ hv _ (List.of_mem_zip he).2

/-- Where the entries of one dictionary are told alike from either side, so is the comparison. -/
theorem compareEntries_other_of_told {ks vs : List Value} (hks : ∀ k ∈ ks, Told k)
    (hvs : ∀ v ∈ vs, Told v) (side : Side) (ls ws : List Value) :
    compareEntries side ((peers ks).zip (peers vs)) (ls.zip ws) =
      compareEntries side.other ((peers ls).zip (peers ws)) (ks.zip vs) := by
  cases side with
  | left =>
    exact compareEntries_other (fun k hk l _ => (hks k hk).alike .right l)
      fun v hv w _ => (hvs v hv).alike .right w
  | right =>
    exact (compareEntries_other (fun l _ k hk => ((hks k hk).alike .left l).symm)
      fun w _ v hv => ((hvs v hv).alike .left w).symm).symm

theorem Strangers.told {y : Value} (h : Strangers x y) (h' : Strangers y x) (side : Side) :
    compare x side y = compare y side.other x := by
  rw [h.compare_eq, h'.compare_eq, settleOn_other]

end Told

/-- **A comparison is the same told from either side.** -/
theorem compare_other (x : Value) (side : Side) (y : Value) :
    compare x side y = compare y side.other x := by
  induction x using induct generalizing side y with
  | atom a =>
    rcases familiar_or_strangers (.atom a) y with h | ⟨h, h'⟩
    · cases h
    · exact h.told h' side
  | sequence i s xs ih =>
    rcases familiar_or_strangers (.sequence i s xs) y with h | ⟨h, h'⟩
    · have hitems := compareItems_other ih
      cases h with
      | lists _ j _ ys =>
        simp only [compare]
        by_cases hlength : xs.length = ys.length
        · rw [if_neg (not_not_intro hlength), if_neg (not_not_intro hlength.symm), hitems]
        · rw [if_pos hlength, if_pos (Ne.symm hlength)]
      | tuples _ j _ t hs ht _ ys =>
        -- a pair takes the left side of a tuple, whichever side it is told from
        cases s <;> cases t
        case tuple.tuple | pair.pair => simp only [compare, hitems]
        case tuple.pair | pair.tuple =>
          simp only [compare, hitems]
          rfl
        all_goals contradiction
    · exact h.told h' side
  | dict i ks vs hks hvs =>
    rcases familiar_or_strangers (.dict i ks vs) y with h | ⟨h, h'⟩
    · cases h with
      | dicts _ j _ _ ls ws =>
        simp only [compare]
        by_cases hlength : ks.length = ls.length
        · rw [if_neg (not_not_intro hlength), if_neg (not_not_intro hlength.symm),
            compareEntries_other_of_told hks hvs]
        · rw [if_pos hlength, if_pos (Ne.symm hlength)]
    · exact h.told h' side
  | creature i s x ih =>
    rcases familiar_or_strangers (.creature i s x) y with h | ⟨h, h'⟩
    · cases h with
      | points _ j _ y => exact ih side y
    · exact h.told h' side
  | hit i s x ih =>
    rcases familiar_or_strangers (.hit i s x) y with h | ⟨h, h'⟩
    · cases h with
      | hits _ j _ t _ y =>
        have hpayloads : sameOr x y (compare x side y) = sameOr y x (compare y side.other x) :=
          Told.alike ih side y
        simp only [compare, settleOn_other, hpayloads]
    · exact h.told h' side
  | settings i d e hd he =>
    rcases familiar_or_strangers (.settings i d e) y with h | ⟨h, h'⟩
    · cases h with
      | settings _ j _ _ d' e' =>
        have hdebug : sameOr d d' (compare d side d') = sameOr d' d (compare d' side.other d) :=
          Told.alike hd side d'
        have hstrict : sameOr e e' (compare e side e') = sameOr e' e (compare e' side.other e) :=
          Told.alike he side e'
        simp only [compare, hdebug, hstrict]
    · exact h.told h' side

/-! ## Settled by answers -/

theorem properHeir_self (s : Species) : s.properHeir s = false := by
  rw [Species.properHeir, bne_self_eq_false, Bool.false_and]

/-- Of two objects of one species the left one is asked first. -/
theorem equal_of_answer {a b : Value} (hspecies : a.species = b.species)
    (h : a.answer b = some (equal a b)) :
    equal a b =
      Opinion.settle (b.species.properHeir a.species) (a.answer b) (b.answer a) (bool (a = b)) := by
  rw [hspecies, properHeir_self, h]
  rfl

/-- **A comparison is settled by what the two objects answer.** -/
theorem equal_eq_settle (a b : Value) : equal a b =
    Opinion.settle (b.species.properHeir a.species) (a.answer b) (b.answer a) (bool (a = b)) := by
  rcases familiar_or_strangers a b with h | ⟨h, h'⟩
  · cases h with
    | lists _ _ _ _ | dicts _ _ _ _ _ _ | points _ _ _ _ | settings _ _ _ _ _ _ =>
      exact equal_of_answer rfl rfl
    | tuples i j s t hs ht xs ys =>
      cases s <;> cases t
      case tuple.tuple | pair.pair => exact equal_of_answer rfl rfl
      case pair.tuple => rfl
      case tuple.pair =>
        -- the pair is asked first, as its species is an heir
        rw [equal, compare_other]
        rfl
      all_goals contradiction
    | hits i j s t x y =>
      by_cases hst : s = t
      · rw [hst]
        have hanswer : answer (hit i t x) (hit j t y) = some (equal (hit i t x) (hit j t y)) := by
          have hcompare : equal (hit i t x) (hit j t y) =
              Opinion.settle (t.species.properHeir t.species)
                (Outcome.ofHit t t ((sameOr x y (equal x y)).map bool))
                (Outcome.ofHit t t ((sameOr x y (equal x y)).map bool))
                (bool (hit i t x = hit j t y)) := rfl
          rw [hcompare, Opinion.settle_self, answer, Outcome.ofHit, if_pos rfl, Option.getD_some]
        exact equal_of_answer rfl hanswer
      · -- hits of two species decline, both of them
        have hleft : answer (hit i s x) (hit j t y) = Option.none := if_neg hst
        have hright : answer (hit j t y) (hit i s x) = Option.none := if_neg (Ne.symm hst)
        rw [hleft, hright, equal, compare, Outcome.ofHit, Outcome.ofHit, if_neg hst,
          if_neg (Ne.symm hst)]
        rfl
  · rw [equal, h.compare_eq, h.answer_eq, h'.answer_eq]
    rfl

/-- **Being unequal is the opposite of being equal.** -/
theorem unequal_eq (a b : Value) : unequal a b = Opinion.turned truth bool (equal a b) := by
  have htruth : ∀ b, truth (bool b) = .ok b := fun _ => rfl
  rw [unequal, Opinion.settle_opposite htruth, ← equal_eq_settle]

end Narrowing.Menagerie.Value
