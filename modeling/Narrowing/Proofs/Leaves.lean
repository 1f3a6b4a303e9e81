import Narrowing.Menagerie.Making
import Narrowing.Menagerie.Model
import Narrowing.Proofs.Evaluation
import Narrowing.Proofs.Oddities
import Narrowing.Target.Accepts

/-!
# The leaves of a target

A tuple or a union stands for its members, and a target with notes for that target. What is left
are the **leaves** of a target, and a value meets the target as they say: the first leaf, from left
to right, that does not turn the value down decides.

* `Target.inductParts`, `Target.induct`: induction on a target, by the targets that it is made of and
  down to its leaves.
* `Target.leaves`: the leaves, in order.
* `Target.acceptsSome_leaves`: alternatives are scanned as their leaves are.
* `Target.accepts_eq_false_iff`: a value is turned down exactly where all leaves turn it down.
* `Target.scan`: the decision of `Target.accepts`, where the leaves are asked in a monad of one's
  choice; `Target.examine` keeps an account of those that are asked.
* `Target.accepts_first`: the first leaf that does not turn the value down decides, and is the last
  one that is asked.
* `Target.report_ends_in_fault`: the report on a leaf that cannot be checked can fail.
-/

namespace Narrowing

theorem sealedCheck_sealedCheck {β : Type} (x : Except Fault β) :
    sealedCheck (sealedCheck x) = sealedCheck x := by
  rcases x with f | b
  · exact congrArg Except.error f.sealed_sealed
  · rfl

theorem sealedCheck_eq_ok {β : Type} {x : Except Fault β} {b : β} :
    sealedCheck x = .ok b ↔ x = .ok b := by
  rcases x with f | c
  · constructor <;> intro h <;> cases h
  · rfl

/-- A check that does not end in an exhausted iterator is what it is behind the seal. -/
theorem sealedCheck_eq_self {β : Type} {x : Except Fault β}
    (h : ∀ f, x = .error f → f.kind ≠ .stopIteration) : sealedCheck x = x := by
  rcases x with f | b
  · exact congrArg Except.error (Fault.sealed_of_ne (h f rfl))
  · rfl

theorem sealedCheck_bind {β γ : Type} (x : Except Fault β) (next : β → Except Fault γ) :
    sealedCheck (x.bind next) = (sealedCheck x).bind fun b => sealedCheck (next b) := by
  rcases x with f | b <;> rfl

theorem sealedCheck_map {β γ : Type} (x : Except Fault β) (g : β → γ) :
    sealedCheck (x.map g) = (sealedCheck x).map g := by
  rcases x with f | b <;> rfl

/-- A lazily evaluated condition and, where it does not hold, the rest of a scan: what comes out has
been sealed if this is so of the rest. -/
theorem sealedCheck_or {x rest : Except Fault Bool} (hrest : sealedCheck rest = rest) :
    sealedCheck ((sealedCheck x).bind fun b => if b then .ok true else rest) =
      (sealedCheck x).bind fun b => if b then .ok true else rest := by
  have hstep : ∀ b : Bool, sealedCheck (if b then .ok true else rest) = if b then .ok true else rest := by
    intro b
    cases b
    · exact hrest
    · rfl
  rw [sealedCheck_bind, sealedCheck_sealedCheck]
  exact congrArg _ (funext hstep)

/-- A scan goes through where the condition does not hold and the rest goes through. -/
theorem or_eq_false_iff {x rest : Except Fault Bool} :
    ((sealedCheck x).bind fun b => if b then .ok true else rest) = .ok false ↔
      x = .ok false ∧ rest = .ok false := by
  rw [← sealedCheck_eq_ok (x := x)]
  rcases sealedCheck x with f | ⟨_ | _⟩
  · exact ⟨nofun, fun h => nomatch h.1⟩
  · exact ⟨fun h => ⟨rfl, h⟩, fun h => h.2⟩
  · exact ⟨nofun, fun h => nomatch h.1⟩

namespace Target

variable {α κ : Type}

/-- The targets that a target is made of. -/
def parts : Target α κ → List (Target α κ)
  | tuple _ ms | list ms | union _ ms | subscripted _ ms => ms
  | annotated base _ => [base]
  | _ => []

/-- **Induction on a target** by the targets that it is made of. -/
@[elab_as_elim]
theorem inductParts {P : Target α κ → Prop} (step : ∀ t, (∀ u ∈ t.parts, P u) → P t) : ∀ t, P t
  | tuple _ ms | list ms | union _ ms | subscripted _ ms =>
    step _ fun u (_ : u ∈ ms) => inductParts step u
  | annotated base _ => step _ fun u hu => by
      rw [List.mem_singleton.1 hu]
      exact inductParts step base
  | any | species _ | object _ | literal _ | bare _ _ | uncheckable _ => step _ nofun

/-- Whether a target stands for nothing but itself. -/
def isLeaf : Target α κ → Bool
  | tuple _ _ | union _ _ | annotated _ _ => false
  | _ => true

/-- **Induction on a target** down to its leaves. -/
@[elab_as_elim]
theorem induct {P : Target α κ → Prop} (leaf : ∀ t, t.isLeaf = true → P t)
    (tuple : ∀ style ms, (∀ t ∈ ms, P t) → P (.tuple style ms))
    (union : ∀ style ms, (∀ t ∈ ms, P t) → P (.union style ms))
    (annotated : ∀ base notes, P base → P (.annotated base notes)) (t : Target α κ) : P t := by
  induction t using inductParts with
  | step t ih =>
    cases t with
    | tuple style ms => exact tuple style ms ih
    | union style ms => exact union style ms ih
    | annotated base notes => exact annotated base notes (ih base (List.mem_singleton_self _))
    | _ => exact leaf _ rfl

mutual

/-- **The leaves of a target**, from left to right. -/
def leaves : Target α κ → List (Target α κ)
  | tuple _ ms | union _ ms => leavesEach ms
  | annotated base _ => leaves base
  | t => [t]

/-- The leaves of some targets, from left to right. -/
def leavesEach : List (Target α κ) → List (Target α κ)
  | [] => []
  | t :: ts => leaves t ++ leavesEach ts

end

/-- Whether the leaves of a target are asked in a lazily evaluated condition. -/
def isNested : Target α κ → Bool
  | tuple _ _ | union _ _ => true
  | annotated base _ => isNested base
  | _ => false

/-- Whether a target is put to the plain instance check. -/
def isChecked : Target α κ → Bool
  | any | literal _ => false
  | t => t.isLeaf

theorem leaves_of_isLeaf {t : Target α κ} (h : t.isLeaf = true) : t.leaves = [t] := by
  cases t with
  | tuple _ _ | union _ _ | annotated _ _ => cases h
  | _ => rw [leaves] <;> nofun

theorem leavesEach_eq_flatMap (ts : List (Target α κ)) : leavesEach ts = ts.flatMap leaves := by
  induction ts with
  | nil => rfl
  | cons t ts ih => rw [leavesEach, ih, List.flatMap_cons]

theorem mem_leavesEach {ts : List (Target α κ)} {l : Target α κ} :
    l ∈ leavesEach ts ↔ ∃ t ∈ ts, l ∈ t.leaves := by
  rw [leavesEach_eq_flatMap, List.mem_flatMap]

theorem isLeaf_of_mem_leaves {t l : Target α κ} (h : l ∈ t.leaves) : l.isLeaf = true := by
  induction t using induct with
  | leaf t ht =>
    rw [leaves_of_isLeaf ht, List.mem_singleton] at h
    rw [h, ht]
  | tuple _ ms ih | union _ ms ih =>
    rw [leaves, mem_leavesEach] at h
    obtain ⟨m, hm, hl⟩ := h
    exact ih m hm hl
  | annotated base notes ih =>
    rw [leaves] at h
    exact ih h

variable [DecidableEq κ] {M : ObjectModel α κ} {v : α}

theorem accepts_of_isChecked {t : Target α κ} (h : t.isChecked = true) :
    t.accepts M v = t.acceptsLeaf M v := by
  cases t with
  | any | literal _ | tuple _ _ | union _ _ | annotated _ _ => cases h
  | _ => rw [accepts] <;> nofun

theorem acceptsSome_cons (t : Target α κ) (ts : List (Target α κ)) :
    acceptsSome M v (t :: ts) =
      (sealedCheck (t.accepts M v)).bind fun b => if b then .ok true else acceptsSome M v ts := by
  rw [acceptsSome]
  rfl

theorem acceptsSome_append (ts us : List (Target α κ)) : acceptsSome M v (ts ++ us) =
    (acceptsSome M v ts).bind fun b => if b then .ok true else acceptsSome M v us := by
  induction ts with
  | nil => rfl
  | cons t ts ih =>
    rw [List.cons_append, acceptsSome_cons, acceptsSome_cons, ih]
    rcases sealedCheck (t.accepts M v) with f | ⟨_ | _⟩ <;> rfl

/-- A single alternative is scanned as it is met, behind a seal. -/
theorem acceptsSome_single (t : Target α κ) :
    acceptsSome M v [t] = sealedCheck (t.accepts M v) := by
  rw [acceptsSome_cons]
  rcases sealedCheck (t.accepts M v) with f | ⟨_ | _⟩ <;> rfl

/-- What comes out of a scan has been sealed already. -/
theorem sealedCheck_acceptsSome (ts : List (Target α κ)) :
    sealedCheck (acceptsSome M v ts) = acceptsSome M v ts := by
  induction ts with
  | nil => rfl
  | cons t ts ih =>
    rw [acceptsSome_cons]
    exact sealedCheck_or ih

/-- The scan goes through alternatives that all turn the value down. -/
theorem acceptsSome_eq_false_iff {ts : List (Target α κ)} :
    acceptsSome M v ts = .ok false ↔ ∀ t ∈ ts, t.accepts M v = .ok false := by
  induction ts with
  | nil => exact ⟨fun _ => nofun, fun _ => rfl⟩
  | cons t ts ih => rw [acceptsSome_cons, or_eq_false_iff, List.forall_mem_cons, ih]

/-- A fault that alternatives end in comes from one of them. -/
theorem acceptsSome_error {ts : List (Target α κ)} {f : Fault}
    (h : acceptsSome M v ts = .error f) : ∃ t ∈ ts, sealedCheck (t.accepts M v) = .error f := by
  induction ts with
  | nil => cases h
  | cons t ts ih =>
    rw [acceptsSome_cons] at h
    rcases ht : sealedCheck (t.accepts M v) with g | ⟨_ | _⟩
    · rw [ht] at h
      cases h
      exact ⟨t, List.mem_cons_self, ht⟩
    · rw [ht] at h
      obtain ⟨u, hu, hfault⟩ := ih h
      exact ⟨u, List.mem_cons_of_mem _ hu, hfault⟩
    · rw [ht] at h
      cases h

theorem acceptsSome_flatMap {ts : List (Target α κ)} {parts : Target α κ → List (Target α κ)}
    (h : ∀ t ∈ ts, acceptsSome M v (parts t) = sealedCheck (t.accepts M v)) :
    acceptsSome M v (ts.flatMap parts) = acceptsSome M v ts := by
  induction ts with
  | nil => rfl
  | cons t ts ih =>
    rw [List.flatMap_cons, acceptsSome_append, h t List.mem_cons_self, acceptsSome_cons,
      ih fun u hu => h u (List.mem_cons_of_mem _ hu)]

/-- **Up to the seal, a target is met as its leaves are scanned.** -/
theorem sealedCheck_accepts (t : Target α κ) :
    sealedCheck (t.accepts M v) = acceptsSome M v t.leaves := by
  induction t using induct with
  | leaf t ht => rw [leaves_of_isLeaf ht, acceptsSome_single]
  | tuple _ ms ih | union _ ms ih =>
    rw [accepts, leaves, sealedCheck_acceptsSome, leavesEach_eq_flatMap]
    exact (acceptsSome_flatMap fun t ht => (ih t ht).symm).symm
  | annotated base notes ih => rw [accepts, leaves, ih]

/-- **A target turns a value down exactly where all of its leaves do.** -/
theorem accepts_eq_false_iff {t : Target α κ} :
    t.accepts M v = .ok false ↔ ∀ l ∈ t.leaves, l.accepts M v = .ok false := by
  rw [← sealedCheck_eq_ok, sealedCheck_accepts, acceptsSome_eq_false_iff]

/-- Alternatives are scanned as their leaves are. -/
theorem acceptsSome_leaves (ts : List (Target α κ)) :
    acceptsSome M v (leavesEach ts) = acceptsSome M v ts := by
  rw [leavesEach_eq_flatMap]
  exact acceptsSome_flatMap fun t _ => (sealedCheck_accepts t).symm

/-- A target without a condition has a single leaf, and is met as this leaf is. -/
theorem accepts_of_not_isNested {t : Target α κ} (h : t.isNested = false) :
    ∃ l, t.leaves = [l] ∧ ∀ v, t.accepts M v = l.accepts M v := by
  induction t using induct with
  | leaf t ht => exact ⟨t, leaves_of_isLeaf ht, fun _ => rfl⟩
  | tuple _ ms _ | union _ ms _ => cases h
  | annotated base notes ih =>
    obtain ⟨l, hl, hsame⟩ := ih h
    exact ⟨l, by rw [leaves, hl], fun v => by rw [accepts, hsame v]⟩

/-- A target with a condition is met as its leaves are scanned. -/
theorem accepts_of_isNested {t : Target α κ} (h : t.isNested = true) :
    t.accepts M v = acceptsSome M v t.leaves := by
  induction t using induct with
  | leaf t ht =>
    cases t with
    | tuple _ _ | union _ _ | annotated _ _ => cases ht
    | _ => cases h
  | tuple _ ms _ | union _ ms _ => rw [accepts, leaves, acceptsSome_leaves]
  | annotated base notes ih => rw [accepts, leaves, ih h]

/-- **The first alternative that does not turn the value down decides** a scan. -/
theorem acceptsSome_first {earlier later : List (Target α κ)} {l : Target α κ}
    (hearlier : ∀ k ∈ earlier, k.accepts M v = .ok false) (hl : l.accepts M v ≠ .ok false) :
    acceptsSome M v (earlier ++ l :: later) = sealedCheck (l.accepts M v) := by
  rw [acceptsSome_append, acceptsSome_eq_false_iff.2 hearlier]
  refine (acceptsSome_cons l later).trans ?_
  rcases h : l.accepts M v with f | ⟨_ | _⟩
  · rfl
  · exact absurd h hl
  · rfl

/-- **A leaf that cannot be checked** ends in a report that names the value and the leaf. Both are written
down for this, in this order. -/
theorem accepts_refused {l : Target α κ} (hl : l.isChecked = true) {f : Fault}
    (hcheck : hasInstance M v l.underlying = .error f) (hf : f.kind.isTypeError = true) :
    l.accepts M v = (M.display v).bind fun shown => (l.display M).bind fun name =>
      .error ⟨.contract, "Cannot check " ++ shown ++ " against " ++ name ++ " at runtime"⟩ := by
  rw [accepts_of_isChecked hl, acceptsLeaf, hcheck]
  simp only [if_pos hf]
  rfl

/-- A fault of the instance check that is no type fault passes. -/
theorem accepts_passed {l : Target α κ} (hl : l.isChecked = true) {f : Fault}
    (hcheck : hasInstance M v l.underlying = .error f) (hf : f.kind.isTypeError = false) :
    l.accepts M v = .error f := by
  rw [accepts_of_isChecked hl, acceptsLeaf, hcheck]
  simp only [hf, Bool.false_eq_true, if_false]

section Scan

variable {m : Type → Type} [Monad m] (lazily : m Bool → m Bool) (ask : Target α κ → m Bool)

mutual

/-- **The decision about a target**, where leaves are asked by `ask` and a lazily evaluated condition
is a matter of `lazily`. -/
def scan : Target α κ → m Bool
  | tuple _ ms | union _ ms => scanSome ms
  | annotated base _ => scan base
  | t => ask t

/-- The decision about alternatives, up to the first that is met. -/
def scanSome : List (Target α κ) → m Bool
  | [] => pure false
  | t :: ts => do if ← lazily (scan t) then return true else scanSome ts

end

omit [DecidableEq κ] in
theorem scan_of_isLeaf {t : Target α κ} (h : t.isLeaf = true) : scan lazily ask t = ask t := by
  cases t with
  | tuple _ _ | union _ _ | annotated _ _ => cases h
  | _ => rw [scan] <;> nofun

end Scan

/-- Meeting a target is the decision in which a leaf is asked whether it is met. -/
theorem accepts_eq_scan (t : Target α κ) : t.accepts M v = t.scan sealedCheck (·.accepts M v) := by
  induction t using induct with
  | leaf t ht => rw [scan_of_isLeaf _ _ ht]
  | tuple _ ms ih | union _ ms ih =>
    rw [accepts, scan]
    induction ms with
    | nil => rfl
    | cons t ts ihs =>
      rw [acceptsSome, scanSome, ← ih t List.mem_cons_self,
        ihs fun u hu => ih u (List.mem_cons_of_mem _ hu)]
  | annotated base notes ih => rw [accepts, scan, ih]

/-- **A leaf asked on account**: whether the value meets it, with the leaf noted in the session. -/
def examine (M : ObjectModel α κ) (v : α) (l : Target α κ) : Eval (List (Target α κ)) α Bool := do
  modify fun s => { s with state := l :: s.state }
  Eval.ofExcept (l.accepts M v)

/-- The leaves up to the first one that does not turn a value down. -/
def deciding (M : ObjectModel α κ) (v : α) : List (Target α κ) → List (Target α κ)
  | [] => []
  | l :: ls =>
      match l.accepts M v with
      | .ok false => l :: deciding M v ls
      | _ => [l]

/-- A session that has some more leaves on its account. -/
def examined (s : Session (List (Target α κ)) α) (ls : List (Target α κ)) :
    Session (List (Target α κ)) α :=
  { s with state := ls.reverse ++ s.state }

omit [DecidableEq κ] in
theorem examined_append (s : Session (List (Target α κ)) α) (ls ks : List (Target α κ)) :
    examined s (ls ++ ks) = examined (examined s ls) ks := by
  simp only [examined, List.reverse_append, List.append_assoc]

theorem runFrom_examine (l : Target α κ) (s : Session (List (Target α κ)) α) :
    (examine M v l).runFrom s = (l.accepts M v, examined s [l]) := by
  have hnote : (modify fun s => { s with state := l :: s.state } :
      Eval (List (Target α κ)) α Unit).runFrom s = (.ok (), examined s [l]) := rfl
  rw [examine, Eval.runFrom_bind_ok hnote, Eval.runFrom_ofExcept]

/-- Leaves that all turn the value down are all asked, and the ones after them are asked next. -/
theorem deciding_append_of_forall {ls : List (Target α κ)} (ks : List (Target α κ))
    (h : ∀ l ∈ ls, l.accepts M v = .ok false) :
    deciding M v (ls ++ ks) = ls ++ deciding M v ks := by
  induction ls with
  | nil => rfl
  | cons l ls ih =>
    rw [List.forall_mem_cons] at h
    rw [List.cons_append, deciding, h.1, List.cons_append, ← ih h.2]

theorem deciding_of_forall {ls : List (Target α κ)} (h : ∀ l ∈ ls, l.accepts M v = .ok false) :
    deciding M v ls = ls := by
  simpa [deciding] using deciding_append_of_forall [] h

/-- Behind a leaf that does not turn the value down no leaf is asked. -/
theorem deciding_append_of_ne {ls : List (Target α κ)} (ks : List (Target α κ))
    (h : acceptsSome M v ls ≠ .ok false) : deciding M v (ls ++ ks) = deciding M v ls := by
  induction ls with
  | nil => exact absurd rfl h
  | cons l ls ih =>
    rw [List.cons_append, deciding, deciding]
    rw [acceptsSome_cons] at h
    rcases hl : l.accepts M v with f | ⟨_ | _⟩
    · rfl
    · rw [hl] at h
      exact congrArg (l :: ·) (ih h)
    · rfl

/-- The first leaf that does not turn the value down is the last one that is asked. -/
theorem deciding_first {earlier later : List (Target α κ)} {l : Target α κ}
    (hearlier : ∀ k ∈ earlier, k.accepts M v = .ok false) (hl : l.accepts M v ≠ .ok false) :
    deciding M v (earlier ++ l :: later) = earlier ++ [l] := by
  rw [deciding_append_of_forall _ hearlier, deciding]
  rcases h : l.accepts M v with f | ⟨_ | _⟩
  · rfl
  · exact absurd h hl
  · rfl

/-- **The run of a decision with an account**: it comes to whether the value meets the target, and
puts on the account the leaves up to the deciding one. -/
theorem runFrom_scan (t : Target α κ) (s : Session (List (Target α κ)) α) :
    (t.scan Eval.sealed (examine M v)).runFrom s =
      (t.accepts M v, examined s (deciding M v t.leaves)) := by
  induction t using induct generalizing s with
  | leaf t ht =>
    rw [scan_of_isLeaf _ _ ht, runFrom_examine, leaves_of_isLeaf ht, deciding]
    rcases t.accepts M v with f | ⟨_ | _⟩ <;> rfl
  | tuple _ ms ih | union _ ms ih =>
    rw [scan, accepts, leaves]
    induction ms generalizing s with
    | nil => rfl
    | cons t ts ihs =>
      have hfirst : (t.scan Eval.sealed (examine M v)).sealed.runFrom s =
          (sealedCheck (t.accepts M v), examined s (deciding M v t.leaves)) := by
        rw [Eval.runFrom_sealed, ih t List.mem_cons_self]
      have hrest := ihs (fun u hu => ih u (List.mem_cons_of_mem _ hu))
      have hleaves := sealedCheck_accepts (M := M) (v := v) t
      rw [scanSome, leavesEach, acceptsSome_cons]
      rcases h : sealedCheck (t.accepts M v) with f | ⟨_ | _⟩
      · -- the member ends in a fault: its leaves have decided
        rw [h] at hfirst hleaves
        rw [Eval.runFrom_bind_error hfirst, deciding_append_of_ne _ (by rw [← hleaves]; nofun)]
        rfl
      · -- it turns the value down: all of its leaves are asked, and then those of the rest
        rw [h] at hfirst hleaves
        have hall := acceptsSome_eq_false_iff.1 hleaves.symm
        rw [deciding_of_forall hall] at hfirst
        rw [Eval.runFrom_bind_ok hfirst, deciding_append_of_forall _ hall, examined_append]
        exact hrest _
      · rw [h] at hfirst hleaves
        rw [Eval.runFrom_bind_ok hfirst, deciding_append_of_ne _ (by rw [← hleaves]; nofun)]
        rfl
  | annotated base notes ih => rw [scan, accepts, leaves, ih]

/-- What comes out of a scan over options has been sealed already. -/
theorem sealedCheck_acceptsOption (os : List α) :
    sealedCheck (acceptsOption M v os) = acceptsOption M v os := by
  induction os with
  | nil => rfl
  | cons o os ih =>
    rw [acceptsOption]
    exact sealedCheck_or ih

/-- **An exhausted iterator that a leaf ends in** comes from the instance check itself, or from
writing the value or the leaf in the report that it cannot be checked. -/
theorem accepts_stopIteration {l : Target α κ} (hl : l.isLeaf = true) {f : Fault}
    (h : l.accepts M v = .error f) (hf : f.kind = .stopIteration) :
    hasInstance M v l.underlying = .error f ∨ M.display v = .error f ∨ l.display M = .error f := by
  by_cases hchecked : l.isChecked = true
  · rcases hcheck : hasInstance M v l.underlying with g | b
    · cases hg : g.kind.isTypeError with
      | true =>
        rw [accepts_refused hchecked hcheck hg] at h
        rcases hv : M.display v with e | shown
        · rw [hv] at h
          cases h
          exact .inr (.inl rfl)
        · rcases hname : l.display M with e | name
          · rw [hv, hname] at h
            cases h
            exact .inr (.inr rfl)
          · rw [hv, hname] at h
            cases h
            cases hf
      | false =>
        rw [accepts_passed hchecked hcheck hg] at h
        exact .inl h
    · rw [accepts_of_isChecked hchecked, acceptsLeaf, hcheck] at h
      cases h
  -- of the leaves without an instance check only the options ask anything, and theirs is sealed
  · cases l with
    | any => cases h
    | literal os =>
      rw [accepts, ← sealedCheck_acceptsOption] at h
      rcases hx : acceptsOption M v os with g | b
      · rw [hx] at h
        cases h
        exact absurd hf (Fault.sealed_eq_iff.1 g.sealed_sealed)
      · rw [hx] at h
        cases h
    | tuple _ _ | union _ _ | annotated _ _ => cases hl
    | _ => exact absurd rfl hchecked

section First

variable {t l : Target α κ} {earlier later : List (Target α κ)}
  (hsplit : t.leaves = earlier ++ l :: later)
  (hearlier : ∀ k ∈ earlier, k.accepts M v = .ok false) (hl : l.accepts M v ≠ .ok false)

include hsplit hearlier hl

/-- Where the first leaf that does not turn the value down accepts it, so does the target. -/
theorem accepts_true_of_first (h : l.accepts M v = .ok true) : t.accepts M v = .ok true := by
  have hdecided : sealedCheck (t.accepts M v) = sealedCheck (l.accepts M v) := by
    rw [sealedCheck_accepts, hsplit, acceptsSome_first hearlier hl]
  rw [h] at hdecided
  exact sealedCheck_eq_ok.1 hdecided

/-- The fault of the first leaf that does not turn the value down is that of the target. It is sealed
if the target has a condition. -/
theorem accepts_error_of_first {f : Fault} (hf : l.accepts M v = .error f) :
    t.accepts M v = .error (if t.isNested then f.sealed else f) := by
  cases hnested : t.isNested with
  | true =>
    rw [accepts_of_isNested hnested, hsplit, acceptsSome_first hearlier hl, hf]
    rfl
  | false =>
    obtain ⟨k, hk, hsame⟩ := accepts_of_not_isNested (M := M) hnested
    have hmem : l ∈ t.leaves := by
      rw [hsplit]
      exact List.mem_append_right _ List.mem_cons_self
    rw [hk, List.mem_singleton] at hmem
    rw [hsame v, ← hmem, hf]
    rfl

theorem accepts_error_of_first_of_ne {f : Fault} (hf : l.accepts M v = .error f)
    (hkind : f.kind ≠ .stopIteration) : t.accepts M v = .error f := by
  rw [accepts_error_of_first hsplit hearlier hl hf, Fault.sealed_of_ne hkind, ite_self]

end First

/-- **The first leaf that does not turn the value down decides**, and is the last that is asked.

The leaves are asked in order: with an account of them (`examine`), the decision comes to the same,
and the account holds all leaves where each turns the value down, and else the leaves up to the
deciding one. If this one accepts, so does the target. If it ends in a fault, so does the target, in
the very same one. The exception is an exhausted iterator, which does not get out of a tuple or a union
as such; it comes from an instance check, or from writing the value or the leaf.

A leaf that cannot be checked is named itself in the report. Where the value or the leaf cannot be
written, there is no report, and the fault of that is the fault of the leaf. -/
theorem accepts_first (M : ObjectModel α κ) (v : α) (t : Target α κ)
    (s : Session (List (Target α κ)) α) :
    let run := (t.scan Eval.sealed (examine M v)).runFrom s
    t.accepts M v = t.scan sealedCheck (·.accepts M v) ∧ run.1 = t.accepts M v ∧
    ((∀ l ∈ t.leaves, l.accepts M v = .ok false) →
      t.accepts M v = .ok false ∧ run.2 = examined s t.leaves) ∧
    ∀ earlier l later, t.leaves = earlier ++ l :: later →
      (∀ k ∈ earlier, k.accepts M v = .ok false) → l.accepts M v ≠ .ok false →
      run.2 = examined s (earlier ++ [l]) ∧
      (l.accepts M v = .ok true → t.accepts M v = .ok true) ∧
      (∀ f, l.accepts M v = .error f →
        (f.kind ≠ .stopIteration → t.accepts M v = .error f) ∧
        t.accepts M v = .error (if t.isNested then f.sealed else f) ∧
        (f.kind = .stopIteration → hasInstance M v l.underlying = .error f ∨
          M.display v = .error f ∨ l.display M = .error f)) ∧
      (∀ f, l.isChecked = true → hasInstance M v l.underlying = .error f →
        f.kind.isTypeError = true →
        (∀ shown name, M.display v = .ok shown → l.display M = .ok name →
          t.accepts M v =
            .error ⟨.contract, "Cannot check " ++ shown ++ " against " ++ name ++ " at runtime"⟩) ∧
        (∀ g, M.display v = .error g → l.accepts M v = .error g) ∧
        ∀ shown g, M.display v = .ok shown → l.display M = .error g → l.accepts M v = .error g) := by
  intro run
  -- which leaves are asked is known for the whole run; what is left is the fault of the deciding one
  have hrun : run = (t.accepts M v, examined s (deciding M v t.leaves)) := runFrom_scan t s
  refine ⟨accepts_eq_scan t, by rw [hrun], fun hall => ?_,
    fun earlier l later hsplit hearlier hl => ?_⟩
  · have hscan := (sealedCheck_accepts t).trans (acceptsSome_eq_false_iff.2 hall)
    rw [hrun, deciding_of_forall hall]
    exact ⟨sealedCheck_eq_ok.1 hscan, rfl⟩
  have hleaf : l.isLeaf = true := by
    apply isLeaf_of_mem_leaves (t := t)
    rw [hsplit]
    exact List.mem_append_right _ List.mem_cons_self
  have haccount : run.2 = examined s (earlier ++ [l]) := by
    rw [hrun, hsplit, deciding_first hearlier hl]
  refine ⟨haccount, accepts_true_of_first hsplit hearlier hl, fun f hf => ?_,
    fun f hchecked hcheck hf => ?_⟩
  · exact ⟨accepts_error_of_first_of_ne hsplit hearlier hl hf,
      accepts_error_of_first hsplit hearlier hl hf, accepts_stopIteration hleaf hf⟩
  · have hrefused := accepts_refused hchecked hcheck hf
    refine ⟨fun shown name hv hname => ?_, fun g hv => ?_, fun shown g hv hname => ?_⟩
    · rw [hv, hname] at hrefused
      exact accepts_error_of_first_of_ne hsplit hearlier hl hrefused nofun
    · rw [hrefused, hv]
      rfl
    · rw [hrefused, hv, hname]
      rfl

open Menagerie in
/-- A parameter inside a union inside a tuple is named in the report, and the species after it is not
asked. -/
theorem accepts_first_parameter :
    let parameter : Target Value Species := .uncheckable (.parameter "P" false)
    let t : Target Value Species :=
      .tuple .plain [.species .text, .annotated (.union .piped [.species .float, parameter]) [.none],
        .species .int]
    t.leaves = [.species .text, .species .float, parameter] ++ [.species .int] ∧
    t.accepts model (.ofInt 0 1) = .error ⟨.contract, "Cannot check 1 against ~P at runtime"⟩ ∧
    ((t.scan Eval.sealed (examine model (.ofInt 0 1))).runFrom ⟨.record, [], []⟩).2 =
      examined ⟨.record, [], []⟩ [.species .text, .species .float, parameter] := by
  intro parameter t
  have hleaves : t.leaves = [.species .text, .species .float] ++ parameter :: [.species .int] := rfl
  have hearlier : ∀ k ∈ [.species .text, .species .float],
      Target.accepts model (.ofInt 0 1) k = .ok false := by
    intro k hk
    simp only [List.mem_cons, List.not_mem_nil, or_false] at hk
    rcases hk with rfl | rfl <;> rfl
  obtain ⟨-, -, -, hdecided⟩ := accepts_first model (.ofInt 0 1) t ⟨.record, [], []⟩
  obtain ⟨haccount, -, -, hrefused⟩ := hdecided _ _ _ hleaves hearlier nofun
  obtain ⟨hnamed, -, -⟩ := hrefused _ rfl rfl rfl
  exact ⟨hleaves, hnamed "1" "~P" rfl rfl, haccount⟩

open Menagerie in
/-- **The report can fail itself.** A creature that cannot be written is put to a species that refuses to
be asked. The leaf and the tuple around it end in the fault of writing the creature, which names no leaf,
and not in a report.

Nor does the fault always stay as it is. Where nothing can be written for an exhausted iterator, this one
is what the leaf ends in, and the tuple ends in a runtime fault. No comparison, truth value or instance
check is to blame. -/
theorem report_ends_in_fault :
    (let v : Value := .creature (.token 1) .badDisplay (.ofInt 0 1)
      let l : Target Value Species := .species .picky
      let t : Target Value Species := .tuple .plain [l, .species .int]
      t.leaves = [l, .species .int] ∧ hasInstance model v l.underlying = .error ⟨.typeError, "picky"⟩ ∧
      l.accepts model v = .error ⟨.runtimeError, "repr exploded"⟩ ∧
      t.accepts model v = .error ⟨.runtimeError, "repr exploded"⟩) ∧
    let M := Oddity.model ⟨Oddity.byIdentity, Oddity.exhausting⟩
    let l : Target Oddity Oddity.Kind := .object .red
    let t : Target Oddity Oddity.Kind := .tuple .plain [l]
    (∀ a b, ∃ c, (M.equal a b >>= M.truth) = .ok c) ∧
      (∀ f, hasInstance M .blue l.underlying = .error f → f.kind ≠ .stopIteration) ∧
      t.leaves = [l] ∧ l.accepts M .blue = .error ⟨.stopIteration, ""⟩ ∧
      t.accepts M .blue = .error ⟨.runtimeError, "generator raised StopIteration"⟩ := by
  refine ⟨⟨rfl, rfl, rfl, rfl⟩, fun a b => ⟨_, rfl⟩, fun f hf => ?_, rfl, rfl, rfl⟩
  cases hf
  nofun

end Target

end Narrowing
