import Mathlib.Data.List.Forall2
import Narrowing.Menagerie.Model
import Narrowing.Proofs.Check
import Narrowing.Proofs.Evaluation
import Narrowing.Proofs.Leaves

/-!
# Tuples within tuples

A tuple of targets can hold tuples. It is met by what meets one of its members, and it is named by the
names of its members with bars between them, so how the members are put together shows in neither: a
tuple in a tuple is scanned where it stands, and its name has the same bars as the names around it. An
empty tuple would show, because bars go around what is written as nothing.

* `Target.untupled`: what is left of a target without its tuples;
* `Target.acceptsSome_untupled`: a target is met as this is scanned;
* `Target.joined_append`: names joined by bars, cut in two;
* `Target.joined_untupled`: a target without empty tuples is named as this is;
* `Contract.check_nested`: **a tuple within tuples is reported like a flat one**.
-/

namespace Narrowing

namespace Target

variable {α κ : Type}

/-- Whether a target is a tuple. -/
def isTuple : Target α κ → Bool
  | tuple _ _ => true
  | _ => false

/-- **Induction on tuples within tuples.** -/
@[elab_as_elim]
theorem inductTuples {P : Target α κ → Prop} (single : ∀ t, t.isTuple = false → P t)
    (tuple : ∀ style ms, (∀ m ∈ ms, P m) → P (.tuple style ms)) (t : Target α κ) : P t := by
  induction t using inductParts with
  | step t ih =>
    cases t with
    | tuple style ms => exact tuple style ms ih
    | _ => exact single _ rfl

mutual

/-- **A target without its tuples**: a tuple gives way to its members, and so does each tuple among
them. -/
def untupled : Target α κ → List (Target α κ)
  | tuple _ ms => untupledEach ms
  | t => [t]

/-- Targets without their tuples, one after the other. -/
def untupledEach : List (Target α κ) → List (Target α κ)
  | [] => []
  | t :: ts => untupled t ++ untupledEach ts

end

/-- **No tuple in it is empty**, at any depth of tuples within tuples. -/
inductive Filled : Target α κ → Prop where
  | single {t : Target α κ} (h : t.isTuple = false) : Filled t
  | tuple {style : TupleStyle} {ms : List (Target α κ)} (hne : ms ≠ []) (h : ∀ m ∈ ms, Filled m) :
      Filled (tuple style ms)

theorem untupled_of_not_isTuple {t : Target α κ} (h : t.isTuple = false) : t.untupled = [t] := by
  cases t with
  | tuple _ _ => cases h
  | _ => simp only [untupled]

theorem untupledEach_eq_flatMap (ts : List (Target α κ)) : untupledEach ts = ts.flatMap untupled := by
  induction ts with
  | nil => rfl
  | cons t ts ih => rw [untupledEach, ih, List.flatMap_cons]

/-- **No tuple is left.** -/
theorem isTuple_of_mem_untupled {t m : Target α κ} (h : m ∈ t.untupled) : m.isTuple = false := by
  induction t using inductTuples with
  | single t ht =>
    rw [untupled_of_not_isTuple ht, List.mem_singleton] at h
    rw [h, ht]
  | tuple style ms ih =>
    rw [untupled, untupledEach_eq_flatMap, List.mem_flatMap] at h
    obtain ⟨u, hu, hm⟩ := h
    exact ih u hu hm

/-- Where no tuple is empty, something is left. -/
theorem untupledEach_ne_nil {ts : List (Target α κ)} (hne : ts ≠ []) (h : ∀ t ∈ ts, t.untupled ≠ []) :
    untupledEach ts ≠ [] := by
  cases ts with
  | nil => exact absurd rfl hne
  | cons t ts =>
    rw [untupledEach]
    exact List.append_ne_nil_of_left_ne_nil (h t List.mem_cons_self) _

theorem Filled.untupled_ne_nil {t : Target α κ} (h : t.Filled) : t.untupled ≠ [] := by
  induction h with
  | single h =>
    rw [untupled_of_not_isTuple h]
    exact List.cons_ne_nil _ _
  | tuple hne _ ih =>
    rw [untupled]
    exact untupledEach_ne_nil hne ih

variable [DecidableEq κ] {M : ObjectModel α κ}

/-- **Up to the seal, a target is met as what is left without its tuples is scanned.** -/
theorem acceptsSome_untupled (v : α) (t : Target α κ) :
    acceptsSome M v t.untupled = sealedCheck (t.accepts M v) := by
  induction t using inductTuples with
  | single t ht => rw [untupled_of_not_isTuple ht, acceptsSome_single]
  | tuple style ms ih =>
    rw [accepts, untupled, sealedCheck_acceptsSome, untupledEach_eq_flatMap]
    exact acceptsSome_flatMap ih

theorem acceptsSome_untupledEach (v : α) (ts : List (Target α κ)) :
    acceptsSome M v (untupledEach ts) = acceptsSome M v ts := by
  rw [untupledEach_eq_flatMap]
  exact acceptsSome_flatMap fun t _ => acceptsSome_untupled v t

theorem labelEach_cons (t : Target α κ) (ts : List (Target α κ)) : labelEach M (t :: ts) =
    (sealedCheck (t.label M)).bind fun l => (labelEach M ts).map (l :: ·) := by
  rw [labelEach]
  rcases sealedCheck (t.label M) with f | l
  · rfl
  · rcases labelEach M ts with f | ls <;> rfl

theorem labelEach_append (ts us : List (Target α κ)) : labelEach M (ts ++ us) =
    (labelEach M ts).bind fun ls => (labelEach M us).map (ls ++ ·) := by
  induction ts with
  | nil =>
    rw [List.nil_append]
    rcases labelEach M us with f | ks <;> rfl
  | cons t ts ih =>
    rw [List.cons_append, labelEach_cons, labelEach_cons, ih]
    rcases sealedCheck (t.label M) with f | l
    · rfl
    rcases labelEach M ts with f | ls
    · rfl
    rcases labelEach M us with f | ks <;> rfl

/-- There is a short form for each target. -/
theorem ne_nil_of_labelEach {ts : List (Target α κ)} {ls : List String} (hne : ts ≠ [])
    (h : labelEach M ts = .ok ls) : ls ≠ [] := by
  cases ts with
  | nil => exact absurd rfl hne
  | cons t ts =>
    rw [labelEach_cons] at h
    obtain ⟨l, -, h⟩ := bind_eq_ok h
    obtain ⟨ks, -, rfl⟩ := map_eq_ok h
    exact List.cons_ne_nil _ _

/-- Short forms that are written one by one have been sealed already. -/
theorem sealedCheck_labelEach (ts : List (Target α κ)) :
    sealedCheck (labelEach M ts) = labelEach M ts := by
  induction ts with
  | nil => rfl
  | cons t ts ih =>
    simp only [labelEach_cons, sealedCheck_bind, sealedCheck_sealedCheck, sealedCheck_map, ih]

/-- Alternatives in their short forms, joined by bars. -/
def joined (M : ObjectModel α κ) (ts : List (Target α κ)) : Except Fault String :=
  (labelEach M ts).map " | ".intercalate

theorem label_tuple (style : TupleStyle) (ms : List (Target α κ)) :
    (tuple style ms).label M = joined M ms := by
  rw [label, joined]
  rcases labelEach M ms with f | ls <;> rfl

theorem joined_single (t : Target α κ) : joined M [t] = sealedCheck (t.label M) := by
  rw [joined, labelEach_cons]
  rcases sealedCheck (t.label M) with f | l
  · rfl
  · exact congrArg Except.ok String.intercalate_singleton

/-- **Alternatives are joined by bars wherever they are cut in two.** -/
theorem joined_append {ts us : List (Target α κ)} (hts : ts ≠ []) (hus : us ≠ []) :
    joined M (ts ++ us) =
      (joined M ts).bind fun l => (joined M us).map fun k => l ++ " | " ++ k := by
  rw [joined, joined, joined, labelEach_append]
  rcases hls : labelEach M ts with f | ls
  · rfl
  rcases hks : labelEach M us with f | ks
  · rfl
  · exact congrArg Except.ok <| String.intercalate_append_of_ne_nil (ne_nil_of_labelEach hts hls)
      (ne_nil_of_labelEach hus hks)

theorem joined_untupledEach_of {ts : List (Target α κ)} (hfilled : ∀ t ∈ ts, t.untupled ≠ [])
    (h : ∀ t ∈ ts, joined M t.untupled = sealedCheck (t.label M)) :
    joined M (untupledEach ts) = joined M ts := by
  induction ts with
  | nil => rfl
  | cons t ts ih =>
    rw [List.forall_mem_cons] at hfilled h
    rw [untupledEach]
    -- a bar stands in front of the rest only if there is one
    cases ts with
    | nil => rw [untupledEach, List.append_nil, joined_single, h.1]
    | cons u us =>
      have hrest : untupledEach (u :: us) ≠ [] := untupledEach_ne_nil (List.cons_ne_nil _ _) hfilled.2
      rw [joined_append hfilled.1 hrest, h.1, ih hfilled.2 h.2, ← joined_single,
        ← joined_append (List.cons_ne_nil _ _) (List.cons_ne_nil _ _)]
      rfl

/-- **Up to the seal, the short form of a target is that of what is left without its tuples.** -/
theorem joined_untupled {t : Target α κ} (h : t.Filled) :
    joined M t.untupled = sealedCheck (t.label M) := by
  induction h with
  | single h => rw [untupled_of_not_isTuple h, joined_single]
  | @tuple style ms hne h ih =>
    rw [untupled, joined_untupledEach_of (fun m hm => (h m hm).untupled_ne_nil) ih, label_tuple,
      joined, sealedCheck_map, sealedCheck_labelEach]

theorem joined_untupledEach {ts : List (Target α κ)} (h : ∀ t ∈ ts, t.Filled) :
    joined M (untupledEach ts) = joined M ts :=
  joined_untupledEach_of (fun t ht => (h t ht).untupled_ne_nil) fun t ht => joined_untupled (h t ht)

/-- **How a target that is no tuple is named**: a species by its path, also the one that everything
belongs to, and any other target as it is written in full. -/
inductive NamedBy (M : ObjectModel α κ) : Target α κ → String → Prop where
  | any : NamedBy M any "Any"
  | species (c : κ) : NamedBy M (species c) (M.title c).path
  | form {t : Target α κ} {name : String} (hany : t ≠ .any) (hspecies : ∀ c, t ≠ .species c)
      (htuple : t.isTuple = false) (h : t.display M = .ok name) : NamedBy M t name

theorem NamedBy.label {t : Target α κ} {name : String} (h : t.NamedBy M name) :
    t.label M = .ok name := by
  cases h with
  | any | species c => rw [Target.label]
  | form hany hspecies htuple h =>
    cases t with
    | any => exact absurd rfl hany
    | species c => exact absurd rfl (hspecies c)
    | tuple _ _ => cases htuple
    | _ =>
      simp only [Target.label]
      exact h

theorem joined_of_namedBy {ts : List (Target α κ)} {names : List String}
    (h : List.Forall₂ (NamedBy M) ts names) : joined M ts = .ok (" | ".intercalate names) := by
  have hlabels : labelEach M ts = .ok names := by
    induction h with
    | nil => rfl
    | cons ht _ ih =>
      rw [labelEach_cons, ht.label, ih]
      rfl
  rw [joined, hlabels]
  rfl

end Target

namespace Contract

variable {α κ : Type} [DecidableEq α] [DecidableEq κ] {M : ObjectModel α κ}

/-- **Targets that are met and named alike are checked alike.** -/
theorem check_congr (outcome candidate : α) {t u : Target α κ}
    (haccepts : ∀ v, t.accepts M v = u.accepts M v) (hlabel : t.label M = u.label M) :
    check M outcome candidate (some t) = check M outcome candidate (some u) := by
  unfold check
  simp only [haccepts, hlabel]

/-- **A tuple within tuples is reported like a flat one.** Where no tuple is empty, an outcome is
checked against it as it is against the flat tuple of the members that are none, and what is found, or
the fault that comes up, is the very same. A payload that none of the members accepts is reported with
the names of all of them. -/
theorem check_nested (M : ObjectModel α κ) (outcome candidate : α) (style flat : TupleStyle)
    {ms : List (Target α κ)} (hfilled : (Target.tuple style ms).Filled) :
    check M outcome candidate (some (.tuple style ms)) =
        check M outcome candidate (some (.tuple flat (Target.untupledEach ms))) ∧
      (∀ m ∈ Target.untupledEach ms, m.isTuple = false) ∧
      ∀ shown names, M.isMiss outcome = false → M.isHit outcome = true →
        M.payload outcome = .ok candidate →
        (∀ m ∈ Target.untupledEach ms, m.accepts M candidate = .ok false) →
        M.display candidate = .ok shown →
        List.Forall₂ (Target.NamedBy M) (Target.untupledEach ms) names →
        check M outcome candidate (some (.tuple style ms)) =
          .error ⟨.contract, "Hit payload " ++ shown ++ " is not a " ++ " | ".intercalate names⟩ := by
  have haccepts : ∀ v, (Target.tuple style ms).accepts M v =
      (Target.tuple flat (Target.untupledEach ms)).accepts M v := by
    intro v
    rw [Target.accepts, Target.accepts, Target.acceptsSome_untupledEach]
  have hlabel : (Target.tuple style ms).label M =
      (Target.tuple flat (Target.untupledEach ms)).label M := by
    cases hfilled with
    | single h => cases h
    | tuple _ h => rw [Target.label_tuple, Target.label_tuple, Target.joined_untupledEach h]
  -- the check looks at a target in two places: whether it is met, and what it is called
  have hcheck := check_congr outcome candidate haccepts hlabel
  refine ⟨hcheck, fun m hm => ?_, fun shown names hmiss hhit hcarried hoff hshown hnames => ?_⟩
  · have huntupled : m ∈ (Target.tuple style ms).untupled := by rwa [Target.untupled]
    exact Target.isTuple_of_mem_untupled huntupled
  · have hturned : (Target.tuple flat (Target.untupledEach ms)).accepts M candidate = .ok false := by
      rw [Target.accepts, Target.acceptsSome_eq_false_iff]
      exact hoff
    have hnamed : (Target.tuple flat (Target.untupledEach ms)).label M =
        .ok (" | ".intercalate names) := by
      rw [Target.label_tuple, Target.joined_of_namedBy hnames]
    rw [hcheck, check_of_targeted hmiss hhit hcarried, hturned, hshown, hnamed]
    rfl

open Menagerie in
/-- A list is held against tuples three deep, one of them with named places. The union of two species
among the members is named as a whole, though a tuple in its place would be cut into them. -/
theorem check_nested_list :
    let candidate : Value := .sequence (.token 0) .list []
    let union : Target Value Species := .union .piped [.species .int, .species .text]
    let literal : Target Value Species := .literal [.atom (.int .shared false 1)]
    let pair : Target Value Species := .tuple (.named "Pair" ["a", "b"]) [literal, .species .void]
    let nested : Target Value Species := .tuple .plain [.species .cat, .tuple .plain [pair, union]]
    let unnested : Target Value Species :=
      .tuple .plain [.species .cat, literal, .species .void, union]
    nested.Filled ∧
      check model (.hit .shared .own candidate) candidate (some nested) =
        check model (.hit .shared .own candidate) candidate (some unnested) ∧
      check model (.hit .shared .own candidate) candidate (some nested) = .error ⟨.contract,
        "Hit payload [] is not a Cat | typing.Literal[1] | NoneType | int | str"⟩ := by
  intro candidate union literal pair nested unnested
  have htwo : ∀ {style t u}, t.Filled → u.Filled →
      (Target.tuple style [t, u] : Target Value Species).Filled := fun ht hu =>
    .tuple (List.cons_ne_nil _ _) (List.forall_mem_cons.2 ⟨ht, List.forall_mem_singleton.2 hu⟩)
  have hfilled : nested.Filled :=
    htwo (.single rfl) (htwo (htwo (.single rfl) (.single rfl)) (.single rfl))
  obtain ⟨hsame, -, hreport⟩ :=
    check_nested model (.hit .shared .own candidate) candidate .plain .plain hfilled
  refine ⟨hfilled, hsame, ?_⟩
  refine hreport "[]" ["Cat", "typing.Literal[1]", "NoneType", "int | str"] rfl rfl rfl ?_ rfl ?_
  · intro m hm
    have hmember : m = .species .cat ∨ m = literal ∨ m = .species .void ∨ m = union := by
      simpa [Target.untupledEach, Target.untupled, pair, literal, union] using hm
    rcases hmember with rfl | rfl | rfl | rfl <;> rfl
  · exact .cons (.species _) (.cons (.form nofun nofun rfl rfl)
      (.cons (.species _) (.cons (.form nofun nofun rfl rfl) .nil)))

end Contract

end Narrowing
