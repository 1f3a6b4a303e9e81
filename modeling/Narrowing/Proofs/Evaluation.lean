import Narrowing.Session

/-!
# What an evaluation comes to

`Eval.runFrom` is what an evaluation started in a session returns or ends in, together with
the session that it leaves. The equations for the steps of an evaluation (`runFrom_bind_ok`,
`runFrom_bind_error`, `runFrom_ofExcept`, `runFrom_sealed`, `runFrom_warn`) let a run be followed
step by step, and `runFrom_bind_eq_ok` takes it apart again.
-/

namespace Narrowing

variable {σ α β γ : Type}

/-- Where two steps return, the first one has returned. -/
theorem bind_eq_ok {x : Except Fault β} {next : β → Except Fault γ} {c : γ}
    (h : x >>= next = .ok c) : ∃ b, x = .ok b ∧ next b = .ok c := by
  rcases x with f | b
  · cases h
  · exact ⟨b, rfl, h⟩

/-- A value that has been mapped is the image of one. -/
theorem map_eq_ok {x : Except Fault β} {g : β → γ} {c : γ} (h : x.map g = .ok c) :
    ∃ b, x = .ok b ∧ g b = c := by
  rcases x with f | b
  · cases h
  · cases h
    exact ⟨b, rfl, rfl⟩

/-- A fault is not mapped. -/
theorem map_eq_error {x : Except Fault β} {g : β → γ} {f : Fault} :
    x.map g = .error f ↔ x = .error f := by
  rcases x with e | b
  · exact ⟨fun h => by cases h; rfl, fun h => by cases h; rfl⟩
  · exact ⟨nofun, nofun⟩

namespace Eval

/-- **An evaluation started in a session**: what it comes to, and the session it leaves. -/
def runFrom (x : Eval σ α β) (s : Session σ α) : Except Fault β × Session σ α :=
  (ExceptT.run x).run s

/-- A step that returns hands its value and its session on to the next one. -/
theorem runFrom_bind_ok {x : Eval σ α β} {s t : Session σ α} {b : β} (h : x.runFrom s = (.ok b, t))
    (next : β → Eval σ α γ) : (x >>= next).runFrom s = (next b).runFrom t := by
  unfold runFrom at *
  simp only [ExceptT.run_bind, StateT.run_bind]
  rw [h]
  rfl

/-- A step that ends in a fault is the last one. -/
theorem runFrom_bind_error {x : Eval σ α β} {s t : Session σ α} {f : Fault}
    (h : x.runFrom s = (.error f, t)) (next : β → Eval σ α γ) :
    (x >>= next).runFrom s = (.error f, t) := by
  unfold runFrom at *
  simp only [ExceptT.run_bind, StateT.run_bind]
  rw [h]
  rfl

/-- Where two steps return, the first one has returned, and the second one has started there. -/
theorem runFrom_bind_eq_ok {x : Eval σ α β} {next : β → Eval σ α γ} {s t : Session σ α} {c : γ}
    (h : (x >>= next).runFrom s = (.ok c, t)) :
    ∃ b u, x.runFrom s = (.ok b, u) ∧ (next b).runFrom u = (.ok c, t) := by
  rcases hx : x.runFrom s with ⟨f | b, u⟩
  · rw [runFrom_bind_error hx] at h
    cases h
  · rw [runFrom_bind_ok hx] at h
    exact ⟨b, u, rfl, h⟩

theorem runFrom_map (g : β → γ) (x : Eval σ α β) (s : Session σ α) :
    (g <$> x).runFrom s = ((x.runFrom s).1.map g, (x.runFrom s).2) := by
  rw [map_eq_pure_bind]
  rcases h : x.runFrom s with ⟨_ | b, t⟩
  · rw [runFrom_bind_error h]; rfl
  · rw [runFrom_bind_ok h]; rfl

@[simp] theorem runFrom_ofExcept (r : Except Fault β) (s : Session σ α) :
    (ofExcept r : Eval σ α β).runFrom s = (r, s) := by
  cases r <;> rfl

@[simp] theorem runFrom_sealed (x : Eval σ α β) (s : Session σ α) :
    x.sealed.runFrom s = (sealedCheck (x.runFrom s).1, (x.runFrom s).2) := rfl

/-- Where warnings are recorded, a warning leaves an event behind and nothing else. -/
theorem runFrom_warn {s : Session σ α} (h : s.policy = .record) (text : String) :
    (warn text : Eval σ α Unit).runFrom s = (.ok (), s.push (.warned text)) := by
  have hget : (get : Eval σ α (Session σ α)).runFrom s = (.ok s, s) := rfl
  unfold warn
  rw [runFrom_bind_ok hget, h]
  rfl

end Eval

end Narrowing
