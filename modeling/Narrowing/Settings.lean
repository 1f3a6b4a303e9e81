import Narrowing.Attributes
import Narrowing.ObjectModel
import Narrowing.Settings.Flag

/-!
# Settings

Contract checks are governed by two switches (`Runtime`): `debug` asks for the checks,
and `strict` asks for a fault instead of a warning. A switch holds any object; what
counts is its truth.

* `Settings.checksEnabled`: the first switch that is true, or else the second (`checks_enabled`);
* `Settings.fields`, `Settings.ofAttributes`: the attributes that settings are made of, and back;
* `Settings.ofEntries`: settings from an environment, read entry by entry (`from_env`);
* `Settings.ofVariables`: settings from an environment of texts.
-/

namespace Narrowing

/-- The two switches. -/
structure Settings (β : Type) where
  debug : β
  strict : β
deriving DecidableEq, Repr

/-- The names of the environment entries that hold the switches. -/
def debugVariable : String := "REFINEMENTS_DEBUG"

@[inherit_doc debugVariable]
def strictVariable : String := "REFINEMENTS_STRICT"

namespace Environment

/-- The entry of an environment under a key: of several, the last one counts. -/
def find? {β : Type} (entries : List (String × β)) (key : String) : Option β :=
  (entries.reverse.find? fun e => e.1 == key).map Prod.snd

end Environment

namespace Settings

variable {α β κ : Type}

/-- The settings with a function applied to both switches. -/
def map (f : α → β) (s : Settings α) : Settings β := ⟨f s.debug, f s.strict⟩

/-- The attributes that settings are made of. -/
def fields (s : Settings α) : Attributes α := [("debug", s.debug), ("strict", s.strict)]

/-- **The settings that some attributes make up.** -/
def ofAttributes (t : Attributes α) : Option (Settings α) :=
  (t.find? "debug").bind fun debug => (t.find? "strict").map fun strict => ⟨debug, strict⟩

/-- **The switch that enables the checks**: `debug` if it is true, else `strict`. -/
def checksEnabled (M : ObjectModel α κ) (s : Settings α) : Except Fault α := do
  if ← M.truth s.debug then return s.debug else return s.strict

/-- **Settings from an environment**: an absent entry is off, and a present one is
read by `flag`. The entry for `debug` is read first. -/
def ofEntries (flag : β → Except Fault Bool) (entries : List (String × β)) :
    Except Fault (Settings Bool) := do
  let read (key : String) : Except Fault Bool :=
    match Environment.find? entries key with
    | none => .ok false
    | some raw => flag raw
  let debug ← read debugVariable
  let strict ← read strictVariable
  return ⟨debug, strict⟩

/-- Settings from an environment of texts. -/
def ofVariables (entries : List (String × String)) : Except Fault (Settings Bool) :=
  ofEntries (fun text => .ok (Flag.isOn text)) entries

end Settings

end Narrowing
