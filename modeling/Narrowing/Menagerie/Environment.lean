import Narrowing.Menagerie.Object
import Narrowing.Settings

/-!
# Settings from objects

An environment can be any object, and so can each of its entries. A dictionary is looked
up; an entry that is a text is read as a flag, raw octets never switch anything on, and the
empty value counts as absent. Everything else lacks what it takes, and says so.

* `Value.flag`: an entry read as a flag;
* `Value.readSettings`: settings from an environment that is an object (`Runtime.from_env`);
* `Environment.checkVariables`: what the environment of a process refuses to hold.
-/

namespace Narrowing.Menagerie

namespace Species

/-- The refusal of a species, as an object, that is to lose an attribute it lacks. -/
def lacks {β : Type} (s : Species) (field : String) : Except Fault β :=
  .error ⟨.attributeError, s!"type object '{s.title.name}' has no attribute '{field}'"⟩

/-- The refusal of a species, as an object, that is asked for an attribute it lacks. A species
of named members takes it for the name of one, and only repeats it. -/
def missing {β : Type} (s : Species) (field : String) : Except Fault β :=
  if s = .color ∨ s = .level then .error ⟨.attributeError, field⟩ else s.lacks field

end Species

namespace Value

/-- The refusal of an object that is asked for an attribute it lacks. -/
def missing {β : Type} (v : Value) (field : String) : Except Fault β :=
  match v with
  | ofSpecies s => s.missing field
  | _ => missingAttribute v.species.title.name field

/-- **An entry read as a flag.** The species of texts and of octets know how to trim, but
have nothing to trim. -/
def flag (v : Value) : Except Fault Bool :=
  match v with
  | none => .ok false
  | atom (.text _ _ s) => .ok (Flag.isOn s)
  | atom (.octets _ _) => .ok false
  | ofSpecies .text | ofSpecies .textHeir =>
      typeFault "unbound method str.strip() needs an argument"
  | ofSpecies .octets => typeFault "unbound method bytes.strip() needs an argument"
  | _ => v.missing "strip"

/-- The entries of a dictionary whose keys are texts. -/
def textEntries (keys values : List Value) : List (String × Value) :=
  (keys.zip values).filterMap fun (k, v) => k.text?.map (·, v)

/-- **Settings from an environment that is an object.** A species of dictionaries knows how
to look up, but not where. -/
def readSettings (environment : Value) : Except Fault (Settings Bool) :=
  match environment with
  | dict _ keys values => Settings.ofEntries flag (textEntries keys values)
  | ofSpecies .dict | ofSpecies .movie =>
      typeFault "descriptor 'get' for 'dict' objects doesn't apply to a 'str' object"
  | ofSpecies .mapping => typeFault "Mapping.get() missing 1 required positional argument: 'key'"
  | _ => environment.missing "get"

end Value

end Narrowing.Menagerie

namespace Narrowing.Environment

/-- The variables of a process hold no character zero, and no name has a sign of equality
in it or is empty. The first variable that is out of order is the one reported. -/
def checkVariables (entries : List (String × String)) : Except Fault Unit :=
  entries.forM fun (name, text) =>
    if name.contains '\x00' || text.contains '\x00' then
      .error ⟨.valueError, "embedded null byte"⟩
    else if name.contains '=' then .error ⟨.valueError, "illegal environment variable name"⟩
    else if name.isEmpty then .error ⟨.named "OSError", "[Errno 22] Invalid argument"⟩
    else .ok ()

end Narrowing.Environment
