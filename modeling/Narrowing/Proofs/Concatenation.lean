import Narrowing.Menagerie.Making
import Narrowing.Menagerie.Model
import Narrowing.Proofs.Readymade
import Narrowing.Proofs.Regrouping

/-!
# Lists of values in two parts

Members of a list of values are found by comparisons, one after the other, up to the first that holds
or ends in a fault. A list in two parts is searched as its parts are, the second if nothing is found
in the first; and this is what two siblings do.

* `Session.comparing`: a session in which a candidate has been compared with some values.
* `Readymade.among_append`: a list in two parts is searched in two steps.
* `Readymade.runFrom_among`: the comparisons that a search makes, and what it comes to.
* `Refinement.run_oneOf`: members of a list are a refinement that searches it, whatever the settings.
* `Refinement.concatenation_is_alternation`: members of two lists put together, and members of one or
  the other.
-/

namespace Narrowing

variable {ι α κ σ : Type} {M : ObjectModel α κ} {x : α} {xs ys vs : List α}

namespace Session

/-- A session in which a candidate has been compared with some values, from left to right. -/
def comparing (s : Session σ α) (x : α) (vs : List α) : Session σ α :=
  vs.foldl (fun t v => t.push (.compared x v)) s

/-- The comparisons are put on record in their order. -/
theorem comparisons_comparing (s : Session σ α) (x : α) (vs : List α) :
    (s.comparing x vs).comparisons = s.comparisons ++ vs.map (x, ·) := by
  induction vs generalizing s with
  | nil => exact (List.append_nil _).symm
  | cons v vs ih =>
    have hone : (s.push (.compared x v)).comparisons = s.comparisons ++ [(x, v)] := by
      simp [comparisons, push]
    rw [List.map_cons, List.append_cons, ← hone]
    exact ih (s.push (.compared x v))

end Session

namespace Readymade

/-- **A list in two parts is searched in two steps**, the second where the first finds nothing. -/
theorem among_append (x : α) (xs ys : List α) : (among M x (xs ++ ys) : Eval σ α Bool) =
    among M x xs >>= fun b => if b = false then among M x ys else pure b := by
  induction xs with
  | nil => simp only [List.nil_append, among, pure_bind, if_true]
  | cons v xs ih =>
    simp only [List.cons_append, among, ih, bind_assoc]
    congr 1; funext _; congr 1; funext answer; congr 1; funext b
    cases b <;> rfl

/-- **What a search makes of a list.** It compares the candidate with the values from the first one on,
without a gap. Either all of them are compared in vain, or the last comparison holds or ends in a
fault, and that is what the search comes to. -/
theorem runFrom_among (x : α) (vs : List α) (s : Session σ α) : ∃ made rest out, vs = made ++ rest ∧
    (among M x vs).runFrom s = (out, s.comparing x made) ∧
    ((out = .ok false ∧ rest = [] ∧ ∀ v ∈ made, (M.equal x v >>= M.truth) = .ok false) ∨
      ∃ earlier v, made = earlier ++ [v] ∧ (∀ w ∈ earlier, (M.equal x w >>= M.truth) = .ok false) ∧
        (M.equal x v >>= M.truth) = out ∧ out ≠ .ok false) := by
  induction vs generalizing s with
  | nil => exact ⟨[], [], .ok false, rfl, rfl, .inl ⟨rfl, rfl, List.forall_mem_nil _⟩⟩
  | cons v vs ih =>
    rw [runFrom_among_cons]
    rcases h : M.equal x v >>= M.truth with f | ⟨_ | _⟩
    · exact ⟨[v], vs, .error f, rfl, rfl, .inr ⟨[], v, rfl, List.forall_mem_nil _, h, nofun⟩⟩
    · obtain ⟨made, rest, out, rfl, hrun, hout⟩ := ih (s.push (.compared x v))
      refine ⟨v :: made, rest, out, rfl, hrun, ?_⟩
      rcases hout with ⟨hout, hrest, hmade⟩ | ⟨earlier, w, rfl, hearlier, hw⟩
      · exact .inl ⟨hout, hrest, List.forall_mem_cons.2 ⟨h, hmade⟩⟩
      · exact .inr ⟨v :: earlier, w, rfl, List.forall_mem_cons.2 ⟨h, hearlier⟩, hw⟩
    · exact ⟨[v], vs, .ok true, rfl, rfl, .inr ⟨[], v, rfl, List.forall_mem_nil _, h, nofun⟩⟩

/-- A search ends in an exhausted iterator only if one of its comparisons does. -/
theorem isCalm_among
    (h : ∀ v ∈ vs, ∀ f, (M.equal x v >>= M.truth) = .error f → f.kind ≠ .stopIteration) :
    (among M x vs : Eval σ α Bool).IsCalm := by
  intro s f t hf
  obtain ⟨v, hv, hcompared⟩ := (among_undisturbed x vs s).2 f (congrArg Prod.fst hf)
  exact h v hv f hcompared

end Readymade

namespace Refinement

variable [DecidableEq α] [DecidableEq κ]

/-- **Members of a list of values are a refinement that searches the list**, in all settings whose
switches hold truth values. -/
theorem run_oneOf (M : ObjectModel α κ) (ofFunction : ι → Profile α) (call : ι → α → Eval σ α α)
    (handle : Nat) (settings : Settings Bool) (hvs : vs ≠ []) :
    ∃ r, oneOf M ofFunction handle (settings.map M.ofBool) vs = .ok r ∧
      ∀ x, r.run M call x = M.ofBool <$> Readymade.among M x vs := by
  have hq : (.values vs : Readymade α κ).OfSpecies := trivial
  obtain ⟨checking, title, hr⟩ :=
    ofClassifier_readymade M ofFunction handle handle none hq settings
  refine ⟨classified handle (readymade handle (.values vs)) checking none title, ?_,
    fun x => funext fun s => ?_⟩
  · cases vs with
    | nil => exact absurd rfl hvs
    | cons v vs => exact hr
  · have hmet : ∀ t, ((.values vs : Readymade α κ).recognizes M x).runFrom s = (.ok true, t) →
        ∀ T, (none : Option (Target α κ)) = some T → T.accepts M x = .ok true := fun _ _ => nofun
    have hrun : ((classified handle (readymade handle (.values vs)) checking none title :
        Refinement ι α κ).run M call x).runFrom s = _ := run_readymade hmet checking title
    exact hrun.trans (Eval.runFrom_map M.ofBool (Readymade.among M x vs) s).symm

/-- Two siblings that search a list each search the two lists as one, where no comparison ends in an
exhausted iterator. -/
theorem runAny_among {call : ι → α → Eval σ α α} {left right : Refinement ι α κ}
    (hleft : left.run M call x = M.ofBool <$> Readymade.among M x xs)
    (hright : right.run M call x = M.ofBool <$> Readymade.among M x ys)
    (hcalm : ∀ v ∈ xs ++ ys, ∀ f, (M.equal x v >>= M.truth) = .error f → f.kind ≠ .stopIteration) :
    runAny M call [left, right] x = Readymade.among M x (xs ++ ys) := by
  rw [List.forall_mem_append] at hcalm
  have hsiblings : Formula.runWhile M call false ([left] ++ [right]) x =
      Readymade.among M x (xs ++ ys) := by
    -- a search that no exhausted iterator ends is the same behind the seal of a sibling
    rw [Formula.runWhile_append, Formula.runWhile_single, Formula.runWhile_single,
      Formula.judged_of_run hleft, Formula.judged_of_run hright,
      (Readymade.isCalm_among hcalm.1).sealed_eq, (Readymade.isCalm_among hcalm.2).sealed_eq,
      Readymade.among_append]
  exact hsiblings

/-- **Members of two lists put together are members of one or the other.** From two lists of values,
none of which is empty, three refinements are made, in any settings each: members of the lists put
together, and members of the first and of the second as siblings. With a candidate that no comparison
confronts with an exhausted iterator, the siblings do what the other one does: they make the same
comparisons and come to the same answer or fault.

The values are compared from the first one on, each place in the lists once, and without a gap. If all
comparisons are made in vain, the answer is no. Otherwise the last one that is made is the first that
holds or ends in a fault, and settles the matter: the answer is yes, or the fault is that of the
comparison. -/
theorem concatenation_is_alternation (M : ObjectModel α κ) (ofFunction : ι → Profile α)
    (call : ι → α → Eval σ α α) (handle handle₁ handle₂ handle₃ : Nat)
    (settings settings₁ settings₂ : Settings Bool) (hxs : xs ≠ []) (hys : ys ≠ []) :
    ∃ whole left right siblings,
      oneOf M ofFunction handle (settings.map M.ofBool) (xs ++ ys) = .ok whole ∧
      oneOf M ofFunction handle₁ (settings₁.map M.ofBool) xs = .ok left ∧
      oneOf M ofFunction handle₂ (settings₂.map M.ofBool) ys = .ok right ∧
      anyOf handle₃ [left, right] = .ok siblings ∧
      ∀ x, (∀ v ∈ xs ++ ys, ∀ f, (M.equal x v >>= M.truth) = .error f → f.kind ≠ .stopIteration) →
        ∀ s, (siblings.run M call x).runFrom s = (whole.run M call x).runFrom s ∧
          ∃ made rest out, xs ++ ys = made ++ rest ∧
            ((whole.run M call x).runFrom s).1 = out.map M.ofBool ∧
            ((whole.run M call x).runFrom s).2.comparisons = s.comparisons ++ made.map (x, ·) ∧
            ((out = .ok false ∧ rest = [] ∧ ∀ v ∈ made, (M.equal x v >>= M.truth) = .ok false) ∨
              ∃ earlier v, made = earlier ++ [v] ∧
                (∀ w ∈ earlier, (M.equal x w >>= M.truth) = .ok false) ∧
                (M.equal x v >>= M.truth) = out ∧ out ≠ .ok false) := by
  have hwhole : xs ++ ys ≠ [] := List.append_ne_nil_of_left_ne_nil hxs ys
  obtain ⟨whole, hwhole, hrun⟩ := run_oneOf M ofFunction call handle settings hwhole
  obtain ⟨left, hleft, hrun₁⟩ := run_oneOf M ofFunction call handle₁ settings₁ hxs
  obtain ⟨right, hright, hrun₂⟩ := run_oneOf M ofFunction call handle₂ settings₂ hys
  refine ⟨whole, left, right, _, hwhole, hleft, hright, rfl, fun x hcalm s => ⟨?_, ?_⟩⟩
  · have hsiblings : (any handle₃ [left, right]).run M call x = whole.run M call x := by
      rw [run, runAny_among (hrun₁ x) (hrun₂ x) hcalm, hrun]
    rw [hsiblings]
  · obtain ⟨made, rest, out, hsplit, hsearch, hout⟩ :=
      Readymade.runFrom_among (M := M) x (xs ++ ys) s
    refine ⟨made, rest, out, hsplit, ?_, ?_, hout⟩
    · rw [hrun, Eval.runFrom_map, hsearch]
    · rw [hrun, Eval.runFrom_map, hsearch]
      exact s.comparisons_comparing x made

open Menagerie in
/-- A creature that echoes the values it is compared with: zero and the empty text count as false, and a
value that does not let its truth be asked about ends the search. The one behind it is not compared. -/
theorem concatenation_is_alternation_echo :
    let x : Value := .creature (.token 0) .echo .none
    let bomb : Value := .creature (.token 1) .boolBomb .none
    let xs : List Value := [.ofInt 2 0, .ofText ""]
    let ys : List Value := [bomb, .ofInt 4 1]
    let call : Empty → Value → Eval Unit Value Value := nofun
    let s : Session Unit Value := ⟨.record, [], ()⟩
    xs ≠ [] ∧ ys ≠ [] ∧
    (∀ v ∈ xs ++ ys, ∀ f, (model.equal x v >>= model.truth) = .error f → f.kind ≠ .stopIteration) ∧
    ∃ whole left right siblings,
      oneOf model nofun 0 (Mode.off.settings model) (xs ++ ys) = .ok whole ∧
      oneOf model nofun 1 (Mode.strict.settings model) xs = .ok left ∧
      oneOf model nofun 2 (Mode.debug.settings model) ys = .ok right ∧
      anyOf 3 [left, right] = .ok siblings ∧
      ((whole.run model call x).runFrom s).1 = .error ⟨.runtimeError, "bool exploded"⟩ ∧
      (siblings.run model call x).runFrom s = (whole.run model call x).runFrom s ∧
      ((siblings.run model call x).runFrom s).2.comparisons = (xs ++ [bomb]).map (x, ·) := by
  intro x bomb xs ys call s
  have hxs : xs ≠ [] := nofun
  have hys : ys ≠ [] := nofun
  have hcalm : ∀ v ∈ xs ++ ys, ∀ f, (model.equal x v >>= model.truth) = .error f →
      f.kind ≠ .stopIteration := by
    intro v hv f hf
    simp only [xs, ys, List.cons_append, List.nil_append, List.mem_cons, List.not_mem_nil,
      or_false] at hv
    rcases hv with rfl | rfl | rfl | rfl <;> cases hf
    nofun
  obtain ⟨whole, left, right, siblings, hwhole, hleft, hright, hsiblings, hrun⟩ :=
    concatenation_is_alternation model nofun call 0 1 2 3 ⟨false, false⟩ ⟨false, true⟩ ⟨true, false⟩
      hxs hys
  obtain ⟨hsame, -⟩ := hrun x hcalm s
  refine ⟨hxs, hys, hcalm, whole, left, right, siblings, hwhole, hleft, hright, hsiblings, ?_, hsame,
    ?_⟩
  · cases hwhole
    rfl
  · rw [hsame]
    cases hwhole
    rfl

end Refinement

end Narrowing
