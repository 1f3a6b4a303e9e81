import Narrowing.Outcome
import Narrowing.Settings

/-!
# Guarded attributes

An attempt changes what is kept under one name, and this only if the name is not guarded. So a run of
attempts may add attributes, replace them and remove them, but what is kept under guarded names stays:
whatever is made up of these attributes alone is made up again after every run. This holds for payloads
and switches of every kind, since nothing is asked of what an object keeps.

* `Attributes.find?_attempt`: one attempt leaves what is kept under a guarded name;
* `Attributes.find?_attemptAll`: so does a run of attempts;
* `Outcome.remade_attemptAll`: **an outcome that guards its payload is the one that was made**;
* `Settings.ofAttributes_attemptAll`: **and so are settings that guard both switches**.
-/

namespace Narrowing

variable {α : Type}

namespace Attempt

variable {a : Attempt α}

theorem IsOrdinary.ne_class (ha : a.IsOrdinary) : a.name ≠ "__class__" := by
  intro h
  rw [IsOrdinary, h] at ha
  exact ha (by decide)

theorem IsOrdinary.ne_dict (ha : a.IsOrdinary) : a.name ≠ "__dict__" := by
  intro h
  rw [IsOrdinary, h] at ha
  exact ha (by decide)

end Attempt

namespace Attributes

variable {guarded : String → Bool} {t u : Attributes α} {a : Attempt α} {name other : String}

/-- Entries that take the place of others keep their names, so they are found where those were. -/
theorem find?_renewed (t : Attributes α) (name other : String) (w : α) :
    (List.find? (fun entry => entry.1 == other)
        (t.map fun entry => if entry.1 == name then (name, w) else entry)) =
      (List.find? (fun entry => entry.1 == other) t).map fun entry =>
        if entry.1 == name then (name, w) else entry := by
  have hname : ((fun entry : String × α => entry.1 == other) ∘ fun entry =>
      if entry.1 == name then (name, w) else entry) = fun entry => entry.1 == other := by
    funext entry
    simp only [Function.comp_apply]
    split <;> simp_all
  rw [List.find?_map, hname]

/-- **An attribute has the value that it is given.** -/
theorem find?_put_self (t : Attributes α) (name : String) (w : α) : (t.put name w).find? name = some w := by
  unfold put find?
  split
  · rename_i hany
    obtain ⟨entry, hentry⟩ : ∃ entry, List.find? (fun entry => entry.1 == name) t = some entry :=
      Option.isSome_iff_exists.1 (List.find?_isSome.2 (List.any_eq_true.1 hany))
    rw [find?_renewed, hentry, Option.map_some, if_pos (by simpa using List.find?_some hentry)]
    rfl
  · rename_i hany
    have hnone : List.find? (fun entry => entry.1 == name) t = none :=
      List.find?_eq_none.2 fun entry hmem h => hany (List.any_eq_true.2 ⟨entry, hmem, h⟩)
    simp [hnone]

/-- **No other attribute changes** with one that is given a value. -/
theorem find?_put_of_ne (h : other ≠ name) (t : Attributes α) (w : α) :
    (t.put name w).find? other = t.find? other := by
  unfold put find?
  split
  · rw [find?_renewed]
    cases hfind : List.find? (fun entry => entry.1 == other) t with
    | none => rfl
    | some entry =>
      have hentry : entry.1 = other := by simpa using List.find?_some hfind
      simp [hentry, h]
  · simp [h.symm]

/-- No other attribute changes with one that is dropped. -/
theorem find?_drop_of_ne (h : other ≠ name) (t : Attributes α) :
    (t.drop name).find? other = t.find? other := by
  unfold drop find?
  rw [List.find?_filter]
  congr 2
  funext entry
  by_cases hentry : entry.1 = other <;> simp [hentry, h]

/-- **One attempt leaves what is kept under a guarded name**, be it about this name or not. -/
theorem find?_attempt (hname : guarded name = true) (h : t.attempt guarded a = some u) :
    u.find? name = t.find? name := by
  unfold attempt at h
  split at h
  · cases h
  rename_i hfree
  have hne : name ≠ a.name := by
    rintro rfl
    exact hfree hname
  cases a with
  | assign changed w =>
    cases h
    exact find?_put_of_ne hne t w
  | remove changed =>
    dsimp only at h
    split at h
    · cases h
      exact find?_drop_of_ne hne t
    · cases h

/-- **A run of attempts leaves what is kept under a guarded name.** -/
theorem find?_attemptAll (hname : guarded name = true) (t : Attributes α) (attempts : List (Attempt α)) :
    (t.attemptAll guarded attempts).find? name = t.find? name := by
  induction attempts generalizing t with
  | nil => rfl
  | cons a attempts ih =>
    have hrun : t.attemptAll guarded (a :: attempts) =
        ((t.attempt guarded a).getD t).attemptAll guarded attempts := rfl
    rw [hrun, ih]
    -- a refused attempt leaves the attributes as they were
    rcases hattempt : t.attempt guarded a with - | u
    · rfl
    · exact find?_attempt hname hattempt

end Attributes

/-- **An outcome that guards its payload is the one that was made**, whatever payloads and species are
and whatever is tried: attempts add attributes beside the payload, but the payload stays. -/
theorem Outcome.remade_attemptAll {ι κ β : Type} {guarded : String → Bool} (hvalue : guarded "value" = true)
    (o : Outcome ι κ β) (attempts : List (Attempt β)) :
    o.remade (o.fields.attemptAll guarded attempts) = some o := by
  cases o with
  | hit i k x =>
    rw [remade, Attributes.find?_attemptAll hvalue]
    rfl
  | miss i k => rfl

/-- **Settings that guard both switches are those that were made.** -/
theorem Settings.ofAttributes_attemptAll {guarded : String → Bool} (hdebug : guarded "debug" = true)
    (hstrict : guarded "strict" = true) (s : Settings α) (attempts : List (Attempt α)) :
    ofAttributes (s.fields.attemptAll guarded attempts) = some s := by
  rw [ofAttributes, Attributes.find?_attemptAll hdebug, Attributes.find?_attemptAll hstrict]
  rfl

end Narrowing
