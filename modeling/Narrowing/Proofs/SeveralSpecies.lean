import Mathlib.Tactic.Choose
import Narrowing.Menagerie.Making
import Narrowing.Menagerie.Model
import Narrowing.Proofs.Readymade

/-!
# Several species, asked about in three ways

Whether a candidate is an instance of one of several species is asked by the instance check on all of
them, by siblings with one species each, and as the question whether the candidate meets the tuple of
the species. All three stop at the same species. They differ only where this one refuses the question:
the instance check ends in the type fault, and the third way reports it as a violation.

* `Refinement.runAny_species`: siblings with one species each come to the instance check, up to the
  seal.
* `Target.acceptsSome_species_of_error`: the first species at which the instance check ends in a fault
  decides whether the tuple is met.
* `Refinement.several_species_agree`: the three ways next to each other.
* `Refinement.refusal_ends_in_fault`: the report on a species that refuses the question can fail.
-/

namespace Narrowing

variable {ι α κ σ : Type} {M : ObjectModel α κ} {x : α}

namespace Target

theorem isSpecies_of_mem_map {cs : List κ} {t : Target α κ} (h : t ∈ cs.map species) :
    t.IsSpecies := by
  obtain ⟨c, -, rfl⟩ := List.mem_map.1 h
  exact .inr ⟨c, rfl⟩

/-- The species at which the instance check ends in a fault, behind some that do not have the
candidate. -/
theorem hasInstanceSome_species_error {cs : List κ} {f : Fault}
    (h : hasInstanceSome M x (cs.map species) = .error f) : ∃ before c after,
      cs = before ++ c :: after ∧ (∀ b ∈ before, M.belongs x b = .ok false) ∧
      M.belongs x c = .error f := by
  obtain ⟨before, t, after, hsplit, hbefore, ht⟩ := hasInstanceSome_error h
  obtain ⟨front, rest, rfl, rfl, hrest⟩ := List.map_eq_append_iff.1 hsplit
  obtain ⟨c, back, rfl, rfl, rfl⟩ := List.map_eq_cons_iff.1 hrest
  exact ⟨front, c, back, rfl, fun b hb => hbefore _ (List.mem_map_of_mem hb), ht⟩

variable [DecidableEq κ]

/-- **A species that refuses the question** is reported, with the candidate and the species written down. -/
theorem accepts_species_refused {c : κ} {f : Fault} (hc : M.belongs x c = .error f)
    (hf : f.kind.isTypeError = true) : (species c : Target α κ).accepts M x =
      (M.display x).bind fun shown => (M.display (M.ofSpecies c)).bind fun name =>
        .error ⟨.contract, "Cannot check " ++ shown ++ " against " ++ name ++ " at runtime"⟩ :=
  accepts_refused (l := species c) rfl hc hf

theorem accepts_species_passed {c : κ} {f : Fault} (hc : M.belongs x c = .error f)
    (hf : f.kind.isTypeError = false) : (species c : Target α κ).accepts M x = .error f :=
  accepts_passed (l := species c) rfl hc hf

/-- A species at which the instance check ends in a fault does not turn the candidate down. -/
theorem accepts_ne_false {c : κ} {f : Fault} (hc : M.belongs x c = .error f) :
    (species c : Target α κ).accepts M x ≠ .ok false := by
  cases hf : f.kind.isTypeError with
  | true =>
    rw [accepts_species_refused hc hf]
    rcases M.display x with g | shown
    · nofun
    · rcases M.display (M.ofSpecies c) with g | name <;> nofun
  | false =>
    rw [accepts_species_passed hc hf]
    nofun

/-- **The first species at which the instance check ends in a fault** decides whether all of them are
met. -/
theorem acceptsSome_species_of_error {cs : List κ} {f : Fault}
    (h : hasInstanceSome M x (cs.map species) = .error f) : ∃ before c after,
      cs = before ++ c :: after ∧ (∀ b ∈ before, M.belongs x b = .ok false) ∧
      M.belongs x c = .error f ∧
      acceptsSome M x (cs.map species) = sealedCheck ((species c : Target α κ).accepts M x) := by
  obtain ⟨before, c, after, rfl, hbefore, hc⟩ := hasInstanceSome_species_error h
  refine ⟨before, c, after, rfl, hbefore, hc, ?_⟩
  rw [List.map_append, List.map_cons]
  refine acceptsSome_first (fun t ht => ?_) (accepts_ne_false hc)
  obtain ⟨b, hb, rfl⟩ := List.mem_map.1 ht
  exact accepts_species_of_ok (hbefore b hb)

/-- A fault of the instance check that is no type fault passes, sealed. -/
theorem acceptsSome_species_passed {cs : List κ} {f : Fault}
    (h : hasInstanceSome M x (cs.map species) = .error f) (hf : f.kind.isTypeError = false) :
    acceptsSome M x (cs.map species) = .error f.sealed := by
  obtain ⟨before, c, after, -, -, hc, hscan⟩ := acceptsSome_species_of_error h
  rw [hscan, accepts_species_passed hc hf]
  rfl

/-- **A violation arises only from a type fault** of the instance check. -/
theorem typeFault_of_acceptsSome_species {cs : List κ} {f : Fault}
    (h : acceptsSome M x (cs.map species) = .error f) (hf : f.kind = .contract) :
    ∃ g, hasInstanceSome M x (cs.map species) = .error g ∧ g.kind.isTypeError = true := by
  rcases hcheck : hasInstanceSome M x (cs.map species) with g | b
  · refine ⟨g, rfl, ?_⟩
    -- any other fault would have passed, and a violation is a type fault itself
    by_contra hg
    rw [acceptsSome_species_passed hcheck (Bool.eq_false_iff.2 hg)] at h
    cases h
    by_cases hstop : g.kind = .stopIteration
    · rw [Fault.sealed, if_pos hstop] at hf
      cases hf
    · rw [Fault.sealed_of_ne hstop] at hf
      exact hg (by rw [hf]; rfl)
  · rw [acceptsSome_of_hasInstanceSome (fun _ => isSpecies_of_mem_map) hcheck] at h
    cases h

end Target

namespace Refinement

variable [DecidableEq α] [DecidableEq κ] {call : ι → α → Eval σ α α}

/-- **One sibling that answers with a truth value.** It settles the question if it accepts or ends in a
fault. -/
theorem runAny_cons {r : Refinement ι α κ} (rs : List (Refinement ι α κ)) {answer : Except Fault Bool}
    {s t : Session σ α} (h : (r.run M call x).runFrom s = (answer.map M.ofBool, t)) :
    (runAny M call (r :: rs) x).runFrom s =
      match sealedCheck answer with
      | .error f => (.error f, t)
      | .ok true => (.ok true, t)
      | .ok false => (runAny M call rs x).runFrom t := by
  have hsealed : (r.run M call x).sealed.runFrom s = (sealedCheck (answer.map M.ofBool), t) := by
    rw [Eval.runFrom_sealed, h]
  rw [runAny]
  rcases answer with f | b
  · exact Eval.runFrom_bind_error hsealed _
  · have htruth : (Eval.ofExcept (M.truth (M.ofBool b)) : Eval σ α Bool).runFrom t = (.ok b, t) := by
      rw [M.truth_ofBool]
      rfl
    have hsealed : (r.run M call x).sealed.runFrom s = (.ok (M.ofBool b), t) := hsealed
    rw [Eval.runFrom_bind_ok hsealed, Eval.runFrom_bind_ok htruth]
    cases b <;> rfl

/-- **Siblings with one species each** come to the instance check on all of the species, up to the
seal. -/
theorem runAny_species {leaf : κ → Refinement ι α κ}
    (hleaf : ∀ c (s : Session σ α),
      ((leaf c).run M call x).runFrom s = ((M.belongs x c).map M.ofBool, s))
    (cs : List κ) (s : Session σ α) :
    (runAny M call (cs.map leaf) x).runFrom s =
      (sealedCheck (Target.hasInstanceSome M x (cs.map .species)), s) := by
  induction cs with
  | nil => rfl
  | cons c cs ih =>
    rw [List.map_cons, List.map_cons, runAny_cons _ (hleaf c s), ih, Target.hasInstanceSome_cons,
      Target.hasInstance]
    rcases M.belongs x c with f | ⟨_ | _⟩ <;> rfl

/-- **Instances of some species** are what the instance check says. -/
theorem run_instanceOf (M : ObjectModel α κ) (ofFunction : ι → Profile α) (handle : Nat)
    (call : ι → α → Eval σ α α) (x : α) {ts : List (Target α κ)} (hts : ts ≠ [])
    (hspecies : ∀ t ∈ ts, t.IsSpecies) (settings : Settings Bool) :
    ∃ r, instanceOf M ofFunction handle (settings.map M.ofBool) ts = .ok r ∧
      ∀ s, (r.run M call x).runFrom s = ((Target.hasInstanceSome M x ts).map M.ofBool, s) := by
  have hq : (Readymade.instances ts).OfSpecies := hspecies
  obtain ⟨checking, title, hr⟩ :=
    ofClassifier_readymade M ofFunction handle handle (some (.ofAlternatives ts)) hq settings
  refine ⟨_, by rw [instanceOf_eq hts, hr], fun s => ?_⟩
  refine (run_readymade (fun t => Readymade.declared_met hq) checking title).trans ?_
  rw [Readymade.recognizes, Eval.runFrom_ofExcept, Target.hasInstance_ofAlternatives]

/-- **Three ways to ask about several species agree.** Take at least two species, none of which ends the
instance check of the candidate in an exhausted iterator. Without checks, instances of all of them and
any of the instances of one each are refinements that do the same. The tuple of the species is met as
they answer, where they do.

Where they end in a fault that is no type fault, so does the question whether the tuple is met. Where
they end in a type fault, there is a first species that refuses the question, and this one is named in
the report; the report itself may end in the fault of the candidate or of the species, if one of them
cannot be written down. A violation arises in no other way. -/
theorem several_species_agree (M : ObjectModel α κ) (ofFunction : ι → Profile α) (handle outer : Nat)
    (inner : κ → Nat) (call : ι → α → Eval σ α α) {cs : List κ} (hlen : 2 ≤ cs.length) {x : α}
    (hexhausted : ∀ c ∈ cs, ∀ f, M.belongs x c = .error f → f.kind ≠ .stopIteration) :
    let met := (Target.tuple .plain (cs.map .species) : Target α κ).accepts M x
    ∃ r leaf q, instanceOf M ofFunction handle (Mode.off.settings M) (cs.map .species) = .ok r ∧
      (∀ c, instanceOf M ofFunction (inner c) (Mode.off.settings M) [.species c] = .ok (leaf c)) ∧
      anyOf outer (cs.map leaf) = .ok q ∧
      ∀ s, (q.run M call x).runFrom s = (r.run M call x).runFrom s ∧
        (∀ v, ((r.run M call x).runFrom s).1 = .ok v → ∃ b, v = M.ofBool b ∧ met = .ok b) ∧
        (∀ f, ((r.run M call x).runFrom s).1 = .error f → f.kind.isTypeError = false →
          met = .error f) ∧
        (∀ f, ((r.run M call x).runFrom s).1 = .error f → f.kind.isTypeError = true →
          ∃ before c after, cs = before ++ c :: after ∧
            (∀ b ∈ before, M.belongs x b = .ok false) ∧ M.belongs x c = .error f ∧
            (∀ shown name, M.display x = .ok shown → M.display (M.ofSpecies c) = .ok name →
              met = .error ⟨.contract,
                "Cannot check " ++ shown ++ " against " ++ name ++ " at runtime"⟩) ∧
            (∀ g, M.display x = .error g → met = .error g.sealed) ∧
            ∀ shown g, M.display x = .ok shown → M.display (M.ofSpecies c) = .error g →
              met = .error g.sealed) ∧
        ∀ f, met = .error f → f.kind = .contract →
          ∃ g, ((r.run M call x).runFrom s).1 = .error g ∧ g.kind.isTypeError = true := by
  intro met
  have hmet : met = Target.acceptsSome M x (cs.map .species) := by simp only [met, Target.accepts]
  have hspecies : ∀ cs : List κ, ∀ t ∈ (cs.map .species : List (Target α κ)), t.IsSpecies :=
    fun _ _ => Target.isSpecies_of_mem_map
  have hne : (cs.map .species : List (Target α κ)) ≠ [] := by
    rintro h
    rw [List.map_eq_nil_iff.1 h] at hlen
    cases hlen
  obtain ⟨r, hr, hrun⟩ := run_instanceOf M ofFunction handle call x hne (hspecies cs) ⟨false, false⟩
  choose leaf hleaf hleafrun using fun c =>
    run_instanceOf M ofFunction (inner c) call x (List.cons_ne_nil _ _) (hspecies [c]) ⟨false, false⟩
  have hsiblings : anyOf outer (cs.map leaf) = .ok (.any outer (cs.map leaf)) := by
    rw [anyOf, if_neg]
    rw [List.length_map]
    omega
  refine ⟨r, leaf, _, hr, hleaf, hsiblings, fun s => ?_⟩
  have hstop : ∀ f, Target.hasInstanceSome M x (cs.map .species) = .error f →
      f.kind ≠ .stopIteration := by
    intro f hf
    obtain ⟨before, c, after, rfl, -, hc⟩ := Target.hasInstanceSome_species_error hf
    exact hexhausted c (List.mem_append_right _ List.mem_cons_self) f hc
  have hsingle : ∀ c (s : Session σ α),
      ((leaf c).run M call x).runFrom s = ((M.belongs x c).map M.ofBool, s) := by
    intro c s
    rw [hleafrun, ← Target.hasInstance_ofAlternatives]
    rfl
  -- the siblings put a seal on each fault, which none of these faults feels
  have hsame : ((any outer (cs.map leaf)).run M call x).runFrom s = (r.run M call x).runFrom s := by
    rw [run, Eval.runFrom_map, runAny_species hsingle, sealedCheck_eq_self hstop, hrun]
  rw [hsame, hrun, hmet]
  refine ⟨rfl, fun v hv => ?_, fun f hf hkind => ?_, fun f hf hkind => ?_, fun f hf hkind => ?_⟩
  · obtain ⟨b, hb, hv⟩ := map_eq_ok hv
    exact ⟨b, hv.symm, Target.acceptsSome_of_hasInstanceSome (hspecies cs) hb⟩
  · have hf := map_eq_error.1 hf
    rw [Target.acceptsSome_species_passed hf hkind, Fault.sealed_of_ne (hstop f hf)]
  · obtain ⟨before, c, after, hsplit, hbefore, hc, hfirst⟩ :=
      Target.acceptsSome_species_of_error (map_eq_error.1 hf)
    rw [Target.accepts_species_refused hc hkind] at hfirst
    refine ⟨before, c, after, hsplit, hbefore, hc, fun shown name hx hname => ?_, fun g hx => ?_,
      fun shown g hx hname => ?_⟩
    · rw [hfirst, hx, hname]
      rfl
    · rw [hfirst, hx]
      rfl
    · rw [hfirst, hx, hname]
      rfl
  · obtain ⟨g, hg, hkind⟩ := Target.typeFault_of_acceptsSome_species hf hkind
    exact ⟨g, map_eq_error.2 hg, hkind⟩

open Menagerie in
/-- A number that is asked about as a text, as an instance of a species that refuses the question, and of
one that has everybody. All three ways stop at the second species: the first two in its type fault, the
third in a report that names it. -/
theorem several_species_agree_picky :
    let cs : List Species := [.text, .picky, .everything]
    let x : Value := .ofInt 0 1
    let call : Empty → Value → Eval Unit Value Value := nofun
    let s : Session Unit Value := ⟨.record, [], ()⟩
    2 ≤ cs.length ∧ (∀ c ∈ cs, ∀ f, model.belongs x c = .error f → f.kind ≠ .stopIteration) ∧
    ∃ (r : Refinement Empty Value Species) (leaf : Species → Refinement Empty Value Species)
      (q : Refinement Empty Value Species),
      instanceOf model nofun 0 (Mode.off.settings model) (cs.map .species) = .ok r ∧
      (∀ c, instanceOf model nofun 2 (Mode.off.settings model) [.species c] = .ok (leaf c)) ∧
      anyOf 1 (cs.map leaf) = .ok q ∧
      ((r.run model call x).runFrom s).1 = .error ⟨.typeError, "picky"⟩ ∧
      ((q.run model call x).runFrom s).1 = .error ⟨.typeError, "picky"⟩ ∧
      (Target.tuple .plain (cs.map .species) : Target Value Species).accepts model x =
        .error ⟨.contract, "Cannot check 1 against <class 'zoo.Picky'> at runtime"⟩ := by
  intro cs x call s
  have hlen : 2 ≤ cs.length := by decide
  have hexhausted : ∀ c ∈ cs, ∀ f, model.belongs x c = .error f → f.kind ≠ .stopIteration := by
    intro c hc f hf
    simp only [cs, List.mem_cons, List.not_mem_nil, or_false] at hc
    rcases hc with rfl | rfl | rfl <;> cases hf
    nofun
  obtain ⟨r, leaf, q, hr, hleaf, hq, hagree⟩ :=
    several_species_agree model nofun 0 1 (fun _ => 2) call hlen hexhausted
  obtain ⟨hsame, -, -, hrefused, -⟩ := hagree s
  have hrun : ((r.run model call x).runFrom s).1 = .error ⟨.typeError, "picky"⟩ := by
    cases hr
    rfl
  obtain ⟨before, c, after, hsplit, -, hc, hnamed, -⟩ := hrefused _ hrun rfl
  -- of the three species only the second one ends the instance check in a fault
  have hpicky : c = .picky := by
    have hmem : c ∈ cs := by
      rw [hsplit]
      exact List.mem_append_right _ List.mem_cons_self
    simp only [cs, List.mem_cons, List.not_mem_nil, or_false] at hmem
    rcases hmem with rfl | rfl | rfl
    · cases hc
    · rfl
    · cases hc
  rw [hpicky] at hnamed
  exact ⟨hlen, hexhausted, r, leaf, q, hr, hleaf, hq, hrun, by rw [hsame, hrun],
    hnamed "1" "<class 'zoo.Picky'>" rfl rfl⟩

/-- **A refusal without a report**: the instance check of a candidate on some species, at least two of them
and none exhausted, ends in a type fault, and the question whether the tuple is met ends in a fault that
is no violation. -/
def RefusedUnreported (M : ObjectModel α κ) (cs : List κ) (x : α) (refusal fault : Fault) : Prop :=
  2 ≤ cs.length ∧ (∀ c ∈ cs, ∀ f, M.belongs x c = .error f → f.kind ≠ .stopIteration) ∧
  refusal.kind = .typeError ∧ fault.kind ≠ .contract ∧
  (∃ r : Refinement Empty α κ,
    instanceOf M nofun 0 (Mode.off.settings M) (cs.map .species) = .ok r ∧
    ∀ (call : Empty → α → Eval Unit α α) s, ((r.run M call x).runFrom s).1 = .error refusal) ∧
  (Target.tuple .plain (cs.map .species) : Target α κ).accepts M x = .error fault

open Menagerie in
/-- **The report on a species that refuses the question can fail**, as it writes down the candidate and the
species. A creature that cannot be written is no violation for a species that refuses to be asked, and a
candidate that can be written is none for a species that cannot. -/
theorem refusal_ends_in_fault :
    RefusedUnreported model [.picky, .int] (.creature (.token 1) .badDisplay (.ofInt 0 1))
      ⟨.typeError, "picky"⟩ ⟨.runtimeError, "repr exploded"⟩ ∧
    let M := Oddity.model ⟨Oddity.byIdentity, Oddity.unnamedGuild⟩
    M.display .red = .ok "oddity" ∧
    RefusedUnreported M [.guild, .suit] .red
      ⟨.typeError, "guilds are closed"⟩ ⟨.runtimeError, "guilds have no name"⟩ := by
  refine ⟨⟨by decide, ?_, rfl, nofun, ⟨_, rfl, fun _ _ => rfl⟩, rfl⟩, rfl,
    ⟨by decide, ?_, rfl, nofun, ⟨_, rfl, fun _ _ => rfl⟩, rfl⟩⟩
  · intro c hc f hf
    simp only [List.mem_cons, List.not_mem_nil, or_false] at hc
    rcases hc with rfl | rfl <;> cases hf
    nofun
  · intro c hc f hf
    simp only [List.mem_cons, List.not_mem_nil, or_false] at hc
    rcases hc with rfl | rfl <;> cases hf
    nofun

end Refinement

end Narrowing
