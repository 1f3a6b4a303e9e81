import Mathlib.Data.List.DropRight
import Mathlib.Data.List.Forall2
import Narrowing.Menagerie.Environment

/-!
# Flags recognized

A switch is on where its entry says one of four words. Two things stand between the entry and the word:
the blank ends are trimmed, and the rest is put in lower case, where a character can become two and
several characters become one and the same. No letter of the words is one of those: `i` and `k`, which
the dotted capital and the Kelvin sign turn into, are in none of them.

* `Text.eq_of_mem_lower`: the characters whose lower case holds a given character of ASCII;
* `Text.trim_append`, `Text.trim_eq`: what trimming takes away, and that it stops where a character is
  not blank;
* `Flag.isOn_iff`: a flag is on exactly where it says a word;
* `Environment.find?_eq_some_iff`: of several entries under a key, the last one is read;
* `Settings.ofVariables_recognizes`: **an environment switches on what its entries say, and nothing
  else**.
-/

namespace Narrowing

namespace Text

/-- The small letters of a range are characters. -/
theorem capitalRanges_valid : ∀ r ∈ capitalRanges, r.small + (r.last - r.first) < 0xd800 ∨
    (0xe000 ≤ r.small ∧ r.small + (r.last - r.first) < 0x110000) := by
  decide +kernel

/-- **Small letters of ASCII** belong to capital letters of ASCII, save for that of the Kelvin sign. -/
theorem capitalRanges_ascii : ∀ r ∈ capitalRanges, r.small < 0x80 →
    r = ⟨0x41, 0x5a, 1, 0x61⟩ ∨ r = ⟨0x212a, 0x212a, 1, 0x6b⟩ := by
  decide +kernel

theorem lower_cases (c : Char) : lower c = [c] ∨ (c = '\u0130' ∧ lower c = ['i', '\u0307']) ∨
    ∃ r ∈ capitalRanges, r.covers c = true ∧ lower c = [r.smallOf c] := by
  unfold lower
  by_cases hc : c = '\u0130'
  · exact .inr (.inl ⟨hc, if_pos hc⟩)
  rw [if_neg hc]
  cases hr : capitalRanges.find? (·.covers c) with
  | none => exact .inl rfl
  | some r =>
    have hcovers : r.covers c = true := by simpa using List.find?_some hr
    exact .inr (.inr ⟨r, List.mem_of_find?_eq_some hr, hcovers, rfl⟩)

/-- A capital letter of ASCII and its small letter. -/
theorem toUpper_ofNat : ∀ n < 26, Char.ofNat (0x41 + n) = (Char.ofNat (0x61 + n)).toUpper := by
  decide

/-- **A character of ASCII that comes up in a lower case** is the small letter of itself or of its
capital, save for two letters that other characters have as well. -/
theorem eq_of_mem_lower {c d : Char} (h : d ∈ lower c) (hd : d.toNat < 0x80) (hi : d ≠ 'i')
    (hk : d ≠ 'k') : lower c = [d] ∧ (c = d ∨ c = d.toUpper) := by
  rcases lower_cases c with hc | ⟨-, hc⟩ | ⟨r, hr, hcovers, hc⟩
  · rw [hc, List.mem_singleton] at h
    exact ⟨by rw [hc, h], .inl h.symm⟩
  · rw [hc] at h
    simp only [List.mem_cons, List.not_mem_nil, or_false] at h
    rcases h with rfl | rfl
    · exact absurd rfl hi
    · exact absurd hd (by decide)
  · rw [hc, List.mem_singleton] at h
    simp only [CapitalRange.covers, Bool.and_eq_true, decide_eq_true_eq] at hcovers
    obtain ⟨⟨hfirst, hlast⟩, -⟩ := hcovers
    have hvalid : (r.small + (c.toNat - r.first)).isValidChar := by
      have hrange := capitalRanges_valid r hr
      unfold Nat.isValidChar
      omega
    have hchar : d = Char.ofNatAux (r.small + (c.toNat - r.first)) hvalid := h.trans (dif_pos hvalid)
    have hsmall : d.toNat = r.small + (c.toNat - r.first) := congrArg Char.toNat hchar
    -- two ranges have small letters of ASCII: that of the capitals of ASCII and the Kelvin sign
    rcases capitalRanges_ascii r hr (by omega) with rfl | rfl
    · refine ⟨by rw [hc, h], .inr ?_⟩
      have hcapital := toUpper_ofNat (c.toNat - 0x41) (by simp only at hfirst hlast; omega)
      rw [h, CapitalRange.smallOf, ← hcapital]
      have hsum : 0x41 + (c.toNat - 0x41) = c.toNat := by simp only at hfirst; omega
      rw [hsum, Char.ofNat_toNat]
    · refine absurd ?_ hk
      have hzero : c.toNat - 0x212a = 0 := by simp only at hlast; omega
      rw [h, CapitalRange.smallOf]
      simp only [hzero]

/-- **What is left of a text that is trimmed** stands between blank characters. -/
theorem trim_append (cs : List Char) : ∃ before after, cs = before ++ trim cs ++ after ∧
    (∀ c ∈ before, isBlank c = true) ∧ ∀ c ∈ after, isBlank c = true := by
  refine ⟨cs.takeWhile isBlank, (cs.dropWhile isBlank).rtakeWhile isBlank, ?_,
    fun c => List.mem_takeWhile_imp, fun c => List.mem_rtakeWhile_imp⟩
  have htrim : trim cs = (cs.dropWhile isBlank).rdropWhile isBlank := rfl
  rw [htrim, List.append_assoc, List.rdropWhile_append_rtakeWhile, List.takeWhile_append_dropWhile]

/-- Blank characters around a text without any are trimmed, and nothing else is. -/
theorem trim_eq {before cs after : List Char} (hbefore : ∀ c ∈ before, isBlank c = true)
    (hcs : ∀ c ∈ cs, isBlank c = false) (hafter : ∀ c ∈ after, isBlank c = true) :
    trim (before ++ cs ++ after) = cs := by
  have hreverse : ∀ c ∈ after.reverse, isBlank c = true :=
    fun c hc => hafter c (List.mem_reverse.1 hc)
  rw [trim, List.append_assoc, List.dropWhile_append_of_pos hbefore]
  cases cs with
  | nil =>
    rw [List.nil_append, List.dropWhile_eq_nil_iff.2 hafter]
    rfl
  | cons c cs =>
    have hlast : (c :: cs).reverse.dropWhile isBlank = (c :: cs).reverse := by
      refine List.dropWhile_eq_self_iff.2 fun h => ?_
      rw [hcs _ (List.mem_reverse.1 (List.getElem_mem h))]
      decide
    have hfirst : (c :: cs ++ after).dropWhile isBlank = c :: cs ++ after :=
      List.dropWhile_cons_of_neg (by simp [hcs c List.mem_cons_self])
    rw [hfirst, List.reverse_append, List.dropWhile_append_of_pos hreverse, hlast, List.reverse_reverse]

end Text

namespace Flag

open Text

/-- **A character is a small letter or its capital.** -/
def Writes (c d : Char) : Prop := c = d ∨ c = d.toUpper

/-- **A text that says one of the words**, in small letters and capitals, between blank characters. -/
def Says (text : String) : Prop :=
  ∃ word ∈ words, ∃ before written after, text.toList = before ++ written ++ after ∧
    (∀ c ∈ before, isBlank c = true) ∧ (∀ c ∈ after, isBlank c = true) ∧
    List.Forall₂ Writes written word.toList

/-- The letters of the words. -/
def letters : List Char := words.flatMap String.toList

theorem mem_letters {word : String} (hword : word ∈ words) {d : Char} (hd : d ∈ word.toList) :
    d ∈ letters :=
  List.mem_flatMap.2 ⟨word, hword, hd⟩

/-- The letters are of ASCII, and none of them is the small letter of another character as well. -/
theorem letters_ascii : ∀ d ∈ letters, d.toNat < 0x80 ∧ d.toUpper.toNat < 0x80 ∧ d ≠ 'i' ∧ d ≠ 'k' := by
  have hall : letters.all (fun d => d.toNat < 0x80 ∧ d.toUpper.toNat < 0x80 ∧ d ≠ 'i' ∧ d ≠ 'k') =
      true := by decide
  simpa only [List.all_eq_true, decide_eq_true_eq] using hall

theorem lower_letters : ∀ d ∈ letters, lower d = [d] ∧ lower d.toUpper = [d] := by
  have hall : letters.all (fun d => lower d = [d] ∧ lower d.toUpper = [d]) = true := by decide
  simpa only [List.all_eq_true, decide_eq_true_eq] using hall

theorem isBlank_letters : ∀ d ∈ letters, isBlank d = false ∧ isBlank d.toUpper = false := by
  have hall : letters.all (fun d => isBlank d = false ∧ isBlank d.toUpper = false) = true := by decide
  simpa only [List.all_eq_true, decide_eq_true_eq] using hall

theorem exists_writes {cs ds : List Char} (h : List.Forall₂ Writes cs ds) :
    ∀ c ∈ cs, ∃ d ∈ ds, Writes c d := by
  induction h with
  | nil => nofun
  | cons hc _ ih =>
    rw [List.forall_mem_cons]
    exact ⟨⟨_, List.mem_cons_self, hc⟩, fun c hmem =>
      (ih c hmem).imp fun d hd => ⟨List.mem_cons_of_mem _ hd.1, hd.2⟩⟩

theorem isBlank_of_writes {cs ds : List Char} (hds : ∀ d ∈ ds, d ∈ letters)
    (h : List.Forall₂ Writes cs ds) : ∀ c ∈ cs, isBlank c = false := by
  intro c hc
  obtain ⟨d, hd, rfl | rfl⟩ := exists_writes h c hc
  · exact (isBlank_letters _ (hds _ hd)).1
  · exact (isBlank_letters _ (hds _ hd)).2

/-- **The lower case of a text is a word exactly where each character is a letter of it**, small or
capital: no other character becomes one. -/
theorem flatMap_lower_eq_iff {cs ds : List Char} (hds : ∀ d ∈ ds, d ∈ letters) :
    cs.flatMap lower = ds ↔ List.Forall₂ Writes cs ds := by
  constructor
  · intro h
    induction cs generalizing ds with
    | nil =>
      rw [← h]
      exact .nil
    | cons c cs ih =>
      rw [List.flatMap_cons] at h
      cases ds with
      | nil =>
        have hempty := (List.append_eq_nil_iff.1 h).1
        rcases lower_cases c with hc | ⟨-, hc⟩ | ⟨_, -, -, hc⟩ <;> rw [hc] at hempty <;> cases hempty
      | cons d ds =>
        rw [List.forall_mem_cons] at hds
        -- no character has an empty lower case, so the first letter comes from the first character
        have hd : d ∈ lower c := by
          rcases lower_cases c with hc | ⟨-, hc⟩ | ⟨_, -, -, hc⟩ <;> rw [hc] at h ⊢ <;>
            exact List.mem_cons.2 (.inl (List.cons.inj h).1.symm)
        obtain ⟨hascii, -, hi, hk⟩ := letters_ascii d hds.1
        obtain ⟨hlower, hwrites⟩ := eq_of_mem_lower hd hascii hi hk
        rw [hlower] at h
        exact .cons hwrites (ih hds.2 (List.cons.inj h).2)
  · intro h
    induction h with
    | nil => rfl
    | @cons c d cs ds hc _ ih =>
      rw [List.forall_mem_cons] at hds
      rw [List.flatMap_cons, ih hds.2]
      rcases hc with rfl | rfl
      · rw [(lower_letters _ hds.1).1]
        rfl
      · rw [(lower_letters _ hds.1).2]
        rfl

/-- **A flag is on exactly where it says one of the words.** -/
theorem isOn_iff (text : String) : isOn text = true ↔ Says text := by
  unfold isOn
  simp only [List.any_eq_true, decide_eq_true_eq]
  constructor
  · rintro ⟨word, hword, hlower⟩
    obtain ⟨before, after, htext, hbefore, hafter⟩ := trim_append text.toList
    exact ⟨word, hword, before, _, after, htext, hbefore, hafter,
      (flatMap_lower_eq_iff fun d => mem_letters hword).1 hlower⟩
  · rintro ⟨word, hword, before, written, after, htext, hbefore, hafter, hwritten⟩
    have hletters : ∀ d ∈ word.toList, d ∈ letters := fun d => mem_letters hword
    refine ⟨word, hword, ?_⟩
    rw [htext, trim_eq hbefore (isBlank_of_writes hletters hwritten) hafter]
    exact (flatMap_lower_eq_iff hletters).2 hwritten

/-- **The characters that are not blank write one of the words**, and no others are left. -/
theorem Says.filter {text : String} (h : Says text) : ∃ word ∈ words,
    List.Forall₂ Writes (text.toList.filter fun c => !isBlank c) word.toList := by
  obtain ⟨word, hword, before, written, after, htext, hbefore, hafter, hwritten⟩ := h
  have hsolid := isBlank_of_writes (fun d => mem_letters hword) hwritten
  refine ⟨word, hword, ?_⟩
  have hnone : ∀ {cs : List Char}, (∀ c ∈ cs, isBlank c = true) →
      cs.filter (fun c => !isBlank c) = [] :=
    fun hcs => List.filter_eq_nil_iff.2 fun c hc => by simp [hcs c hc]
  rw [htext, List.filter_append, List.filter_append, hnone hbefore, hnone hafter,
    List.filter_eq_self.2 fun c hc => by simp [hsolid c hc], List.nil_append, List.append_nil]
  exact hwritten

/-- **A blank character stands before the word or after it.** -/
theorem Says.outside {text : String} (h : Says text) {before after : List Char} {c : Char}
    (htext : text.toList = before ++ c :: after) (hc : isBlank c = true) :
    (∀ d ∈ before, isBlank d = true) ∨ ∀ d ∈ after, isBlank d = true := by
  obtain ⟨word, hword, first, written, last, hsplit, hfirst, hlast, hwritten⟩ := h
  have hsolid := isBlank_of_writes (fun d => mem_letters hword) hwritten
  rw [hsplit, List.append_assoc, List.append_eq_append_iff] at htext
  -- the blank character is behind the first blanks or among them; behind them, it is not in the word
  rcases htext with ⟨inner, -, hinner⟩ | ⟨rest, hrest, -⟩
  · right
    rcases List.append_eq_append_iff.1 hinner with ⟨gap, -, hgap⟩ | ⟨_ | ⟨d, gap⟩, hgap, hright⟩
    · rw [hgap] at hlast
      exact fun d hd => hlast d (by simp [hd])
    · rw [List.nil_append] at hright
      exact fun d hd => hlast d (by simp [← hright, hd])
    · obtain ⟨rfl, -⟩ := List.cons.inj hright
      have hsolid' := hsolid c (by simp [hgap])
      rw [hc] at hsolid'
      cases hsolid'
  · left
    exact fun d hd => hfirst d (by simp [hrest, hd])

/-- **A character of a text that says a word** is blank or of ASCII. -/
theorem Says.ascii {text : String} (h : Says text) {c : Char} (hc : c ∈ text.toList) :
    isBlank c = true ∨ c.toNat < 0x80 := by
  obtain ⟨word, hword, hwritten⟩ := h.filter
  by_cases hblank : isBlank c = true
  · exact .inl hblank
  right
  have hsolid : c ∈ text.toList.filter fun c => !isBlank c := by simp [hc, hblank]
  obtain ⟨d, hd, hwrites⟩ := exists_writes hwritten c hsolid
  obtain ⟨hsmall, hcapital, -⟩ := letters_ascii d (mem_letters hword hd)
  rcases hwrites with rfl | rfl
  · exact hsmall
  · exact hcapital

end Flag

namespace Environment

/-- **What an environment holds under a key**: the text of the last entry there. -/
def Holds (entries : List (String × String)) (key text : String) : Prop :=
  ∃ earlier later, entries = earlier ++ (key, text) :: later ∧ ∀ e ∈ later, e.1 ≠ key

theorem find?_eq_some_iff {entries : List (String × String)} {key text : String} :
    find? entries key = some text ↔ Holds entries key text := by
  unfold find? Holds
  simp only [Option.map_eq_some_iff, List.find?_eq_some_iff_append, Bool.not_eq_true',
    beq_eq_false_iff_ne, beq_iff_eq]
  constructor
  · rintro ⟨⟨_, _⟩, ⟨rfl, later, earlier, hentries, hlater⟩, rfl⟩
    refine ⟨earlier.reverse, later.reverse, ?_, fun e he => hlater e (List.mem_reverse.1 he)⟩
    rw [← List.reverse_reverse entries, hentries]
    simp
  · rintro ⟨earlier, later, rfl, hlater⟩
    exact ⟨(key, text), ⟨rfl, later.reverse, earlier.reverse, by simp,
      fun e he => hlater e (List.mem_reverse.1 he)⟩, rfl⟩

/-- An environment with other entries under the same keys. -/
theorem find?_map {β γ : Type} (f : String × β → γ) (entries : List (String × β)) (key : String) :
    find? (entries.map fun e => (e.1, f e)) key =
      (entries.reverse.find? fun e => e.1 == key).map f := by
  unfold find?
  rw [← List.map_reverse, List.find?_map, Option.map_map]
  rfl

end Environment

namespace Menagerie.Value

theorem flag_of_text {v : Value} {s : String} (h : v.text? = some s) : v.flag = .ok (Flag.isOn s) := by
  unfold text? at h
  split at h
  · obtain rfl := Option.some.inj h
    rfl
  · cases h

/-- The entries of a dictionary of texts. -/
theorem textEntries_map {name text : String × String → Value} {entries : List (String × String)}
    (hname : ∀ e ∈ entries, (name e).text? = some e.1) :
    textEntries (entries.map name) (entries.map text) = entries.map fun e => (e.1, text e) := by
  unfold textEntries
  rw [List.zip_map', List.filterMap_map, ← List.filterMap_eq_map]
  refine List.filterMap_congr fun e he => ?_
  simp [hname e he]

end Menagerie.Value

namespace Settings

/-- The two entries are read one after the other. -/
theorem ofEntries_bind {β : Type} (flag : β → Except Fault Bool) (entries : List (String × β)) :
    ofEntries flag entries =
      ((Environment.find? entries debugVariable).elim (.ok false) flag).bind fun debug =>
        ((Environment.find? entries strictVariable).elim (.ok false) flag).bind fun strict =>
          .ok ⟨debug, strict⟩ := by
  unfold ofEntries
  rcases hdebug : Environment.find? entries debugVariable with _ | debug <;>
    rcases hstrict : Environment.find? entries strictVariable with _ | strict <;>
    simp only [hdebug, hstrict] <;> rfl

/-- **Settings from entries that are read as flags of texts**: each switch is on if the text of its
entry says so, and an absent entry is off. -/
theorem ofEntries_eq {β : Type} {flag : β → Except Fault Bool} {f : String × String → β}
    {entries : List (String × String)} (h : ∀ e ∈ entries, flag (f e) = .ok (Flag.isOn e.2)) :
    ofEntries flag (entries.map fun e => (e.1, f e)) =
      .ok ⟨(Environment.find? entries debugVariable).elim false Flag.isOn,
        (Environment.find? entries strictVariable).elim false Flag.isOn⟩ := by
  have hread : ∀ key, (Environment.find? (entries.map fun e => (e.1, f e)) key).elim (.ok false) flag =
      .ok ((Environment.find? entries key).elim false Flag.isOn) := by
    intro key
    rw [Environment.find?_map, Environment.find?]
    cases hfound : entries.reverse.find? fun e => e.1 == key with
    | none => rfl
    | some e => exact h e (List.mem_reverse.1 (List.mem_of_find?_eq_some hfound))
  rw [ofEntries_bind, hread, hread]
  rfl

/-- An environment of texts gives settings: each switch is on if its entry says so. -/
theorem ofVariables_eq (entries : List (String × String)) : ofVariables entries =
    .ok ⟨(Environment.find? entries debugVariable).elim false Flag.isOn,
      (Environment.find? entries strictVariable).elim false Flag.isOn⟩ := by
  have heq := @ofEntries_eq _ (fun text => .ok (Flag.isOn text)) Prod.snd entries fun _ _ => rfl
  rw [List.map_id'] at heq
  exact heq

/-- A switch is on exactly where its entry says one of the words. -/
theorem elim_isOn_iff {entries : List (String × String)} {key : String} :
    (Environment.find? entries key).elim false Flag.isOn = true ↔
      ∃ text, Environment.Holds entries key text ∧ Flag.Says text := by
  simp only [← Environment.find?_eq_some_iff, ← Flag.isOn_iff]
  cases Environment.find? entries key <;> simp

open Menagerie in
/-- **Switches are recognized exactly.** An environment of texts always gives settings, the same ones
whether it is read as it is or as a dictionary of objects that are texts. A switch is on exactly where
the last entry under its own name says one of the words, between blank characters, and no other entry
matters. A text that says one has no characters besides that are not blank, no blank character amid the
word, and nothing beyond ASCII that is not blank, such as a character of no width, anywhere. -/
theorem ofVariables_recognizes (entries : List (String × String)) :
    ∃ settings, ofVariables entries = .ok settings ∧
      (settings.debug = true ↔ ∃ text, Environment.Holds entries debugVariable text ∧ Flag.Says text) ∧
      (settings.strict = true ↔
        ∃ text, Environment.Holds entries strictVariable text ∧ Flag.Says text) ∧
      (∀ others, (∀ key ∈ [debugVariable, strictVariable], ∀ text,
          Environment.Holds others key text ↔ Environment.Holds entries key text) →
        ofVariables others = .ok settings) ∧
      (∀ identity (name text : String × String → Value), (∀ e ∈ entries, (name e).text? = some e.1) →
        (∀ e ∈ entries, (text e).text? = some e.2) →
        (Value.dict identity (entries.map name) (entries.map text)).readSettings = .ok settings) ∧
      ∀ text, Flag.Says text →
        (∃ word ∈ Flag.words,
          List.Forall₂ Flag.Writes (text.toList.filter fun c => !Text.isBlank c) word.toList) ∧
        (∀ before c after, text.toList = before ++ c :: after → Text.isBlank c = true →
          (∀ d ∈ before, Text.isBlank d = true) ∨ ∀ d ∈ after, Text.isBlank d = true) ∧
        (∀ c ∈ text.toList, Text.isBlank c = true ∨ c.toNat < 0x80) ∧
        ∀ c ∈ ['\u200b', '\ufeff'], c ∉ text.toList := by
  refine ⟨_, ofVariables_eq entries, elim_isOn_iff, elim_isOn_iff, fun others hothers => ?_,
    fun identity name text hname htext => ?_, fun text htext => ?_⟩
  -- entries that tell the same of both variables are read alike
  · have hfind : ∀ key ∈ [debugVariable, strictVariable],
        Environment.find? others key = Environment.find? entries key := fun key hkey =>
      Option.ext fun text => by
        rw [Environment.find?_eq_some_iff, Environment.find?_eq_some_iff]
        exact hothers key hkey text
    rw [ofVariables_eq, hfind _ (by simp), hfind _ (by simp)]
  · rw [Value.readSettings, Value.textEntries_map hname]
    exact ofEntries_eq fun e he => Value.flag_of_text (htext e he)
  · refine ⟨htext.filter, fun before c after => htext.outside, fun c => htext.ascii, fun c hc hmem => ?_⟩
    rcases List.mem_pair.1 hc with rfl | rfl <;> rcases htext.ascii hmem with h | h <;>
      exact absurd h (by decide)

open Menagerie in
/-- Of two entries the last one counts: a word in mixed case between an em space and a line feed, and a
word behind a space of no width, which is none. An environment with just these two, and a dictionary of
heirs of texts, give the same settings. -/
theorem ofVariables_recognizes_last :
    let entries := [("REFINEMENTS_DEBUG", "off"), ("REFINEMENTS_STRICT", "yes"), ("LANG", "on"),
      ("REFINEMENTS_DEBUG", "\u2003TrUe\n"), ("REFINEMENTS_STRICT", "\u200bon")]
    let others := [("REFINEMENTS_STRICT", "\u200bon"), ("REFINEMENTS_DEBUG", "\u2003TrUe\n")]
    let written (s : String) : Value := .atom (.text (.token 0) true s)
    Flag.Says "\u2003TrUe\n" ∧ ¬ Flag.Says "\u200bon" ∧
      ofVariables entries = .ok ⟨true, false⟩ ∧ ofVariables others = .ok ⟨true, false⟩ ∧
      (Value.dict (.token 1) (entries.map fun e => written e.1)
        (entries.map fun e => written e.2)).readSettings = .ok ⟨true, false⟩ := by
  intro entries others written
  obtain ⟨⟨debug, strict⟩, hsettings, hdebug, hstrict, hothers, hdict, hwords⟩ :=
    ofVariables_recognizes entries
  have hword : Flag.Says "\u2003TrUe\n" :=
    ⟨"true", by decide, ['\u2003'], "TrUe".toList, ['\n'], rfl,
      List.forall_mem_singleton.2 rfl, List.forall_mem_singleton.2 rfl,
      .cons (.inr rfl) (.cons (.inl rfl) (.cons (.inr rfl) (.cons (.inl rfl) .nil)))⟩
  have hnone : ¬ Flag.Says "\u200bon" := fun h => (hwords _ h).2.2.2 '\u200b' (by decide) (by decide)
  obtain rfl : debug = true := hdebug.2 ⟨_, Environment.find?_eq_some_iff.1 rfl, hword⟩
  obtain rfl : strict = false := by
    refine Bool.eq_false_iff.2 fun h => ?_
    obtain ⟨text, hholds, htext⟩ := hstrict.1 h
    obtain rfl := Option.some.inj (Environment.find?_eq_some_iff.2 hholds)
    exact hnone htext
  refine ⟨hword, hnone, hsettings, hothers others fun key hkey text => ?_,
    hdict (.token 1) _ _ (fun _ _ => rfl) fun _ _ => rfl⟩
  simp only [← Environment.find?_eq_some_iff]
  rcases List.mem_pair.1 hkey with rfl | rfl <;> rfl

end Settings

end Narrowing
