import Narrowing.Text.Blank
import Narrowing.Text.Lower

/-!
# Flags

A flag is a text that switches something on: one of four words, in any case, with
blank characters around it (`Flag.isOn`). Everything else leaves it off.
-/

namespace Narrowing.Flag

/-- The words that switch a flag on. -/
def words : List String := ["1", "true", "yes", "on"]

/-- **Whether a text switches a flag on.** -/
def isOn (text : String) : Bool :=
  words.any fun w => (Text.trim text.toList).flatMap Text.lower = w.toList

end Narrowing.Flag
