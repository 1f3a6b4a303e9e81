import Narrowing.Menagerie.Attributes
import Narrowing.Proofs.Attributes
import Narrowing.Proofs.Outcomes
import Narrowing.Refinement

/-!
# Attempts in vain

Outcomes and settings are meant to stay as they are made. What keeps them so is of three kinds: a hit
and settings refuse every change, a miss has no room for one, and a descendant of a hit takes all sorts
of attributes but guards the one that it is made of. A run of attempts mixes refused ones with accepted
ones, so what holds along a run is less than that nothing changes: the object is the one that was made,
and what it was made of is still found under its name (`Subject.Keeps`).

* `Subject.toOption_attempt`: an attempt on a subject is one on attributes of which some are guarded;
* `Subject.attemptAll_eq`: so a run of attempts is one on these attributes;
* `Subject.keeps_attemptAll`: what an object is made of stays, if it is protected;
* `Subject.Keeps.answersAs`: and then the object answers everything as it was made;
* `Subject.answers_as_made`: **no run of attempts shows in an outcome or in settings**.
-/

namespace Narrowing.Menagerie

namespace Value

/-- **An object that protects what it is made of.** -/
def IsProtected (v : Value) : Prop := ∀ name w, (name, w) ∈ v.madeOf → v.guard.protects name = true

/-- Hits of every species protect what they carry. -/
theorem isProtected_hit (i : Identity) (sort : HitSort) (p : Value) : (hit i sort p).IsProtected := by
  intro name w h
  rw [madeOf, Outcome.fieldsOfHit, List.mem_singleton] at h
  cases h
  cases sort <;> rfl

theorem isProtected_settings (i : Identity) (d e : Value) : (settings i d e).IsProtected :=
  fun _ _ _ => rfl

/-- What is made of nothing has nothing to protect. -/
theorem isProtected_atom (a : Atom) : (atom a).IsProtected := nofun

/-- No part of a hit is a part of a number. -/
theorem partOwner?_hit (i : Identity) (sort : HitSort) (p : Value) (name : String) :
    (hit i sort p).species.partOwner? name = Option.none := by cases sort <;> rfl

theorem missing_eq {β : Type} (v : Value) (field : String) :
    ∃ text, (v.missing field : Except Fault β) = .error ⟨.attributeError, text⟩ := by
  unfold missing
  split
  · unfold Species.missing
    split <;> exact ⟨_, rfl⟩
  · exact ⟨_, rfl⟩

end Value

namespace Subject

variable {s t : Subject} {v w : Value} {a : Attempt} {name : String}

theorem refuseField_eq (v : Value) (a : Attempt) : ∃ f, refuseField v a = .error f := by
  unfold refuseField
  split
  · split <;> exact ⟨_, rfl⟩
  · exact ⟨_, rfl⟩
  · exact ⟨_, rfl⟩

/-- **Without room for attributes every attempt is refused**, in one way or another. -/
theorem refuse_eq (ha : a.IsOrdinary) (s : Subject) :
    ∃ text, s.refuse a = .error ⟨.attributeError, text⟩ := by
  simp only [refuse, if_neg ha.ne_class]
  split
  · exact ⟨_, rfl⟩
  split
  · exact ⟨_, rfl⟩
  · exact Value.missing_eq _ _

/-- The names that a subject guards. The parts of a number are guarded by their species. -/
def guards (s : Subject) (name : String) : Bool :=
  (s.object.species.partOwner? name).isSome || s.object.guard.protects name

/-- What is found under a name depends on the object and on what is kept under this name. -/
theorem find_congr (hobject : t.object = s.object)
    (h : t.attributes.find? name = s.attributes.find? name) : t.find name = s.find name := by
  unfold find
  rw [hobject, h]

/-- **An attribute has the value that it is given.** -/
theorem find_put_self (s : Subject) (name : String) (w : Value) : (s.put name w).find name = .ok w := by
  unfold find put
  rw [Attributes.find?_put_self]

/-- What is kept is found, and what is not kept is not found. -/
theorem toOption_find (s : Subject) (name : String) : (s.find name).toOption = s.attributes.find? name := by
  unfold find
  split
  · rename_i v hv
    exact hv.symm
  · rename_i hnone _
    exact hnone.symm
  · rename_i hnone _
    obtain ⟨text, htext⟩ := Value.missing_eq (β := Value) s.object name
    rw [htext, hnone]
    rfl

/-- A change that is not refused is one of the attributes alone. -/
theorem toOption_change (ha : a.IsOrdinary) (s : Subject) : (s.change a).toOption =
    (s.attributes.attempt (fun _ => false) a).map fun u => { s with attributes := u } := by
  simp only [change, if_neg ha.ne_class, if_neg ha.ne_dict]
  cases a with
  | assign changed w => rfl
  | remove changed =>
    rw [Attributes.attempt, ← s.toOption_find changed]
    dsimp only [Attempt.name]
    cases s.find changed <;> rfl

/-- **One attempt on a subject is one on its attributes**, of which it guards some. -/
theorem toOption_attempt (ha : a.IsOrdinary) (s : Subject) : (s.attempt a).toOption =
    (s.attributes.attempt s.guards a).map fun u => { s with attributes := u } := by
  have hguarded : s.guards a.name = true → s.attributes.attempt s.guards a = none := fun hname =>
    if_pos hname
  have hfree : s.guards a.name = false →
      s.attributes.attempt s.guards a = s.attributes.attempt (fun _ => false) a := fun hname => by
    simp only [Attributes.attempt, hname]
  unfold attempt
  split
  · rename_i owner howner
    rw [hguarded (by simp [guards, howner])]
    rfl
  rename_i hnone
  have hname : s.guards a.name = s.object.guard.protects a.name := by simp [guards, hnone]
  rw [hname] at hguarded hfree
  unfold attemptGuarded
  -- of the four guards only that of some fields lets a change through
  split
  · rename_i hguard
    rw [hguarded (by rw [hguard]; rfl)]
    rfl
  · rename_i names hguard
    rw [hguard] at hguarded hfree
    split
    · rename_i hmem
      obtain ⟨f, hf⟩ := refuseField_eq s.object a
      rw [hf, hguarded hmem]
      rfl
    · rename_i hmem
      rw [s.toOption_change ha, hfree (by simpa [Guard.protects] using hmem)]
  · rename_i hguard
    obtain ⟨text, htext⟩ := refuse_eq ha s
    rw [htext, hguarded (by rw [hguard]; rfl)]
    rfl
  · rename_i hguard
    rw [hguarded (by rw [hguard]; rfl)]
    rfl

/-- **A run of attempts on a subject is one on its attributes.** -/
theorem attemptAll_eq {attempts : List Attempt} (h : ∀ a ∈ attempts, a.IsOrdinary) (s : Subject) :
    s.attemptAll attempts = { s with attributes := s.attributes.attemptAll s.guards attempts } := by
  induction attempts generalizing s with
  | nil => rfl
  | cons a attempts ih =>
    have hrest : ∀ b ∈ attempts, b.IsOrdinary := fun b hb => h b (List.mem_cons_of_mem a hb)
    have hrun : s.attemptAll (a :: attempts) =
        ((s.attempt a).toOption.getD s).attemptAll attempts := rfl
    have hrun' : s.attributes.attemptAll s.guards (a :: attempts) =
        ((s.attributes.attempt s.guards a).getD s.attributes).attemptAll s.guards attempts := rfl
    rw [hrun, hrun', toOption_attempt (h a List.mem_cons_self), ih hrest]
    -- what a subject guards depends on the object alone
    cases s.attributes.attempt s.guards a <;> rfl

/-- **What an object is made of stays**: the object is the same one, and what it is made of is found
under its name. Other attributes may come and go. -/
structure Keeps (s : Subject) (v : Value) : Prop where
  object : s.object = v
  made : ∀ name w, (name, w) ∈ v.madeOf → s.find name = .ok w

/-- An object keeps what it is made of when it is made. -/
theorem keeps_ofValue (v : Value) : (ofValue v).Keeps v where
  object := rfl
  made name w h := by
    cases v with
    | hit _ _ p | creature _ _ p =>
      obtain h := List.mem_singleton.1 h
      cases h
      rfl
    | settings _ d e =>
      rcases List.mem_cons.1 h with h | h
      case' inr => obtain h := List.mem_singleton.1 h
      all_goals
        cases h
        rfl
    | _ => cases h

/-- **A run of attempts keeps it**, since what an object is made of is protected. -/
theorem keeps_attemptAll (hv : v.IsProtected) {attempts : List Attempt}
    (h : ∀ a ∈ attempts, a.IsOrdinary) : ((ofValue v).attemptAll attempts).Keeps v := by
  rw [attemptAll_eq h]
  refine ⟨rfl, fun name w hmade => ?_⟩
  have hname : (ofValue v).guards name = true := by simp [guards, ofValue, hv name w hmade]
  rw [← (keeps_ofValue v).made name w hmade]
  exact find_congr rfl (Attributes.find?_attemptAll hname _ attempts)

/-- A question put to an object with its attributes: it is put to what they make up. -/
def ask {β : Type} (s : Subject) (question : Value → Except Fault β) : Except Fault β := do
  question (← s.current)

/-- The switch that enables the checks, of settings with their attributes. -/
def checksEnabled (s : Subject) : Except Fault Value := do
  Settings.checksEnabled model ⟨← s.find "debug", ← s.find "strict"⟩

/-- **A subject answers as an object does**: when it is to be written, fingerprinted, compared with
anything on either side, or checked as an outcome; and whatever is built on a classifier that answers
with it comes to what it comes to with the object. -/
structure AnswersAs (s : Subject) (v : Value) : Prop where
  display : s.display = v.display
  fingerprint : s.ask Value.fingerprint = v.fingerprint
  equal : ∀ w, s.ask (·.equal w) = v.equal w ∧ s.ask w.equal = w.equal v
  check : ∀ candidate target, s.ask (Contract.check model · candidate target) =
    Contract.check model v candidate target
  run : ∀ {σ : Type} (r : Refinement Unit Value Species) (candidate : Value),
    r.run model (fun _ _ => (Eval.ofExcept s.current : Eval σ Value Value)) candidate =
      r.run model (fun _ _ => pure v) candidate

/-- The attributes make up the object again. -/
theorem Keeps.current (hs : s.Keeps v) : s.current = .ok v := by
  unfold Subject.current
  rw [hs.object]
  cases v with
  | hit _ _ p =>
    simp only [hs.made "value" p (List.mem_singleton_self _)]
    rfl
  | creature _ _ p =>
    simp only [hs.made "id" p (List.mem_singleton_self _)]
    rfl
  | settings _ d e =>
    simp only [hs.made "debug" d List.mem_cons_self,
      hs.made "strict" e (List.mem_cons_of_mem _ (List.mem_singleton_self _))]
    rfl
  | _ => rfl

/-- **What keeps what it is made of answers as it was made.** -/
theorem Keeps.answersAs (hs : s.Keeps v) : s.AnswersAs v := by
  have hcurrent := hs.current
  have hask : ∀ {β : Type} (question : Value → Except Fault β), s.ask question = question v := by
    intro β question
    rw [ask, hcurrent]
    rfl
  refine ⟨?_, hask _, fun w => ⟨hask _, hask _⟩, fun _ _ => hask _, fun r candidate => ?_⟩
  · unfold display
    split
    · rw [hs.object]
    · rw [hcurrent]
      rfl
  · rw [hcurrent]
    rfl

/-- What refuses every change refuses the next one. -/
theorem attempt_frozen (hguard : s.object.guard = .frozen)
    (hpart : s.object.species.partOwner? a.name = none) : s.attempt a = .error a.frozenFault := by
  simp only [attempt, hpart, attemptGuarded, hguard]

/-- What has no room for attributes refuses the next one. -/
theorem attempt_closed (hguard : s.object.guard = .closed)
    (hpart : s.object.species.partOwner? a.name = none) (ha : a.IsOrdinary) :
    ∃ text, s.attempt a = .error ⟨.attributeError, text⟩ := by
  simp only [attempt, hpart, attemptGuarded, hguard]
  exact refuse_eq ha s

/-- **A hit of every species guards what it carries.** -/
theorem attempt_value {i : Identity} {sort : HitSort} {p : Value} (hs : s.object = .hit i sort p)
    (ha : a.name = "value") : s.attempt a = .error a.frozenFault := by
  simp only [attempt, hs, Value.partOwner?_hit, attemptGuarded]
  cases sort <;> simp [Value.guard, ha, refuseField]

/-- **A descendant of hits takes all other attributes.** -/
theorem attempt_heir {i : Identity} {sort : HitSort} {p : Value} (hs : s.object = .hit i sort p)
    (hsort : sort ≠ .own) (ha : (Attempt.assign name w).IsOrdinary) (hname : name ≠ "value") :
    s.attempt (.assign name w) = .ok (s.put name w) := by
  have hguard : (Value.hit i sort p).guard = .fields ["value"] := by
    cases sort with
    | own => exact absurd rfl hsort
    | _ => rfl
  have hfree : ["value"].contains name = false := by simpa using hname
  simp only [attempt, hs, Value.partOwner?_hit, attemptGuarded, hguard, Attempt.name, hfree]
  simp only [change, if_neg ha.ne_class, if_neg ha.ne_dict, Bool.false_eq_true, if_false]

/-- **No run of attempts shows in an outcome or in settings.** After any run of attempts on ordinary
attributes, and therefore at every point of a longer one:

* a hit and settings refuse every attempt, hold what they were made of and answer as they were made;
* so does a miss, and it equals the miss that exists once;
* a descendant of hits refuses every attempt on what it carries. It takes all other attributes, but it
  carries what it was made with and answers as it was made. -/
theorem answers_as_made {attempts : List Attempt} (h : ∀ a ∈ attempts, a.IsOrdinary) :
    (∀ i p, let s := (ofValue (.hit i .own p)).attemptAll attempts
      (∀ a, s.attempt a = .error a.frozenFault) ∧ s.find "value" = .ok p ∧
        s.AnswersAs (.hit i .own p)) ∧
    (∀ i d e, let s := (ofValue (.settings i d e)).attemptAll attempts
      (∀ a, s.attempt a = .error a.frozenFault) ∧ s.find "debug" = .ok d ∧ s.find "strict" = .ok e ∧
        s.checksEnabled = Settings.checksEnabled model ⟨d, e⟩ ∧ s.AnswersAs (.settings i d e)) ∧
    (∀ i, let s := (ofValue (.atom (.miss i .own))).attemptAll attempts
      (∀ a, a.IsOrdinary → ∃ text, s.attempt a = .error ⟨.attributeError, text⟩) ∧
        s.ask (·.equal .miss) = .ok (.bool true) ∧ s.ask Value.miss.equal = .ok (.bool true) ∧
        s.AnswersAs (.atom (.miss i .own))) ∧
    ∀ i sort p, sort ≠ .own → let s := (ofValue (.hit i sort p)).attemptAll attempts
      (∀ a, a.name = "value" → s.attempt a = .error a.frozenFault) ∧
        (∀ name w, (Attempt.assign name w).IsOrdinary → name ≠ "value" →
          ∃ t, s.attempt (.assign name w) = .ok t ∧ t.find name = .ok w) ∧
        s.find "value" = .ok p ∧ s.AnswersAs (.hit i sort p) := by
  -- all that an object is made of is guarded, so that a run of attempts keeps it
  have hrun : ∀ {v : Value}, v.IsProtected → ((ofValue v).attemptAll attempts).Keeps v :=
    fun hv => keeps_attemptAll hv h
  refine ⟨fun i p => ?_, fun i d e => ?_, fun i => ?_, fun i sort p hsort => ?_⟩
  · have hs := hrun (Value.isProtected_hit i .own p)
    refine ⟨fun a => attempt_frozen ?_ ?_, hs.made _ _ (List.mem_singleton_self _), hs.answersAs⟩
    · rw [hs.object]; rfl
    · rw [hs.object]; rfl
  · have hs := hrun (Value.isProtected_settings i d e)
    have hd := hs.made "debug" d List.mem_cons_self
    have he := hs.made "strict" e (List.mem_cons_of_mem _ (List.mem_singleton_self _))
    refine ⟨fun a => attempt_frozen ?_ ?_, hd, he, ?_, hs.answersAs⟩
    · rw [hs.object]; rfl
    · rw [hs.object]; rfl
    · rw [checksEnabled, hd, he]
      rfl
  · have hs := hrun (Value.isProtected_atom (.miss i .own))
    have hanswers := hs.answersAs
    refine ⟨fun a ha => attempt_closed ?_ ?_ ha, ?_, ?_, hanswers⟩
    · rw [hs.object]; rfl
    · rw [hs.object]; rfl
    · rw [(hanswers.equal _).1, Value.equal_miss_miss]
    · rw [(hanswers.equal _).2, Value.equal_miss_miss]
  · have hs := hrun (Value.isProtected_hit i sort p)
    refine ⟨fun a => attempt_value hs.object, fun name w ha hname => ?_,
      hs.made _ _ (List.mem_singleton_self _), hs.answersAs⟩
    exact ⟨_, attempt_heir hs.object hsort ha hname, find_put_self _ name w⟩

/-- A run that is refused in part by a descendant of hits and as a whole by everything else. The
descendant ends up with one more attribute, which shows in nothing. -/
theorem answers_as_made_mixed :
    let one : Value := .atom (.int .shared false 1)
    let attempts : List Attempt := [.assign "value" .none, .assign "note" one, .remove "value",
      .assign "_value" .miss, .remove "note", .remove "note"]
    let found : Value := .hit (.token 1) (.heir "Find") one
    let around : Value := .hit (.token 2) .own found
    let lost : Value := .atom (.miss (.token 3) .own)
    let switches : Value := .settings (.token 4) .none one
    (∀ a ∈ attempts, a.IsOrdinary) ∧ HitSort.heir "Find" ≠ .own ∧
      ((ofValue found).attemptAll attempts).attributes = [("value", one), ("_value", .miss)] ∧
      ((ofValue found).attemptAll attempts).display = .ok "Find(value=1)" ∧
      ((ofValue around).attemptAll attempts).attempt (.remove "note") =
        .error ⟨.frozenField, "cannot delete field 'note'"⟩ ∧
      ((ofValue around).attemptAll attempts).ask (·.equal around) = .ok (.bool true) ∧
      ((ofValue lost).attemptAll attempts).ask Value.miss.equal = .ok (.bool true) ∧
      ((ofValue switches).attemptAll attempts).checksEnabled = .ok one := by
  intro one attempts found around lost switches
  have hordinary : ∀ a ∈ attempts, a.IsOrdinary := by decide
  obtain ⟨hhit, hsettings, hmiss, hheir⟩ := answers_as_made hordinary
  obtain ⟨hrefused, -, haround⟩ := hhit (.token 2) found
  obtain ⟨-, -, -, henabled, -⟩ := hsettings (.token 4) .none one
  obtain ⟨-, -, hlost, -⟩ := hmiss (.token 3)
  obtain ⟨-, -, -, hfound⟩ := hheir (.token 1) (.heir "Find") one nofun
  refine ⟨hordinary, nofun, by decide, hfound.display.trans rfl, (hrefused _).trans rfl, ?_, hlost,
    henabled⟩
  rw [(haround.equal around).1, Value.equal_hit_hit, if_pos rfl, model.alike_refl]
  rfl

end Subject

end Narrowing.Menagerie
