import Narrowing.Menagerie.Object

/-!
# Recipes

Objects and targets are written down as **recipes**. What a recipe stands for is made anew
each time it is followed, save for what exists only once and what it refers to by name. A
recipe may be malformed; that is found out when it is followed, not before.

* `Recipe`: an object, settings included;
* `TargetRecipe`: a target;
* `OptionRecipe`: a literal option, or literals within literals.
-/

namespace Narrowing.Script

open Menagerie (Color Level HitSort SequenceSort Claim)

/-- **How an object is made.** -/
inductive Recipe where
  | none
  | bool (b : Bool)
  | int (n : Int)
  | text (s : String)
  | reference (name : String)
  | float (written : String)
  | octets (bs : List UInt8)
  | sequence (sort : SequenceSort) (items : List Recipe)
  /-- Keys and values in turn. -/
  | dict (parts : List Recipe)
  | creature (species : String) (label : Recipe)
  | textHeir (s : String)
  | intHeir (n : Int)
  | color (c : Color)
  | level (l : Level)
  | species (name : String)
  | hit (sort : HitSort) (payload : Recipe)
  | miss
  | newMiss
  | missHeir
  | liar (claim : Claim)
  /-- Settings with arguments by place and by name. -/
  | settings (places : List Recipe) (names : List String) (named : List Recipe)
  /-- Settings read from an environment. -/
  | settingsFrom (keys : List String) (entries : List Recipe)
  | malformed (text : String)

/-- **A literal option**: an object, or further literals. -/
inductive OptionRecipe where
  | option (r : Recipe)
  | literal (options : List OptionRecipe)

/-- **How a target is made.** -/
inductive TargetRecipe where
  | named (name : String)
  | object (r : Recipe)
  | tuple (members : List TargetRecipe)
  | literal (options : List OptionRecipe)
  | spelled (members : List TargetRecipe)
  | optional (member : TargetRecipe)
  | piped (members : List TargetRecipe)
  | annotated (base : TargetRecipe) (notes : List Recipe)
  | subscripted (head : TargetRecipe) (arguments : List TargetRecipe)
  | malformed (text : String)

end Narrowing.Script
