/-!
# Listings

Written items one after the other: set apart by commas, between brackets of one kind or
another. A single item between parentheses is followed by a comma, which tells it from an
item that is merely enclosed.
-/

namespace Narrowing.Text

/-- Items set apart by commas. -/
def commas (items : List String) : String := ", ".intercalate items

/-- Items between square brackets. -/
def brackets (items : List String) : String := "[" ++ commas items ++ "]"

/-- Items between parentheses. -/
def parentheses : List String → String
  | [item] => s!"({item},)"
  | items => "(" ++ commas items ++ ")"

end Narrowing.Text
