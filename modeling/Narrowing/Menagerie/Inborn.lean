import Narrowing.Menagerie.Species

/-!
# Inborn attributes

The attributes that a species gives to its objects, and that an object without room for
attributes of its own (`__slots__`) can neither change nor lose. A species has those of its parents as well.

* `Species.inborn`: the inborn attributes of a species;
* `Species.partOwner?`: the species behind an attribute that is a part of a number.
-/

namespace Narrowing.Menagerie.Species

/-- The words of a text, with a space between each two. -/
def wordsOf (text : String) : List String := text.splitOn " "

/-- What all objects can do. -/
def common : String :=
  "__doc__ __eq__ __ne__ __hash__ __repr__ __str__ __init__ __new__ __lt__ __le__ __gt__ __ge__ " ++
  "__getattribute__ __setattr__ __delattr__ __format__ __init_subclass__ __subclasshook__ " ++
  "__reduce__ __reduce_ex__ __getstate__ __sizeof__ __dir__"

/-- What all numbers can do. -/
def numeric : String :=
  "__abs__ __add__ __bool__ __ceil__ __divmod__ __float__ __floor__ __floordiv__ " ++
  "__getnewargs__ __int__ __mod__ __mul__ __neg__ __pos__ __pow__ __radd__ __rdivmod__ " ++
  "__rfloordiv__ __rmod__ __rmul__ __round__ __rpow__ __rsub__ __rtruediv__ __sub__ " ++
  "__truediv__ __trunc__ as_integer_ratio conjugate"

/-- What integers can do besides. -/
def integral : String :=
  "__and__ __index__ __invert__ __lshift__ __or__ __rand__ __rlshift__ __ror__ __rrshift__ " ++
  "__rshift__ __rxor__ __xor__ bit_count bit_length from_bytes to_bytes"

/-- What texts and octets can do. -/
def textual : String :=
  "__add__ __contains__ __getitem__ __getnewargs__ __iter__ __len__ __mod__ __mul__ __rmod__ " ++
  "__rmul__ capitalize center count endswith expandtabs find index isalnum isalpha isascii " ++
  "isdigit islower isspace istitle isupper join ljust lower lstrip maketrans partition " ++
  "removeprefix removesuffix replace rfind rindex rjust rpartition rsplit rstrip split " ++
  "splitlines startswith strip swapcase title translate upper zfill"

/-- What the objects of a species can do, apart from what those of its parents can. -/
def abilities : Species → List String
  | object => wordsOf common
  | int => wordsOf numeric ++ wordsOf integral
  | float => wordsOf numeric ++ ["__getformat__", "fromhex", "hex", "is_integer"]
  | text =>
      wordsOf textual ++
        wordsOf "casefold encode format format_map isdecimal isidentifier isnumeric isprintable"
  | octets => wordsOf textual ++ ["__bytes__", "decode", "fromhex", "hex"]
  | list =>
      wordsOf
        ("__add__ __class_getitem__ __contains__ __delitem__ __getitem__ __iadd__ __imul__ " ++
          "__iter__ __len__ __mul__ __reversed__ __rmul__ __setitem__ append clear copy count " ++
          "extend index insert pop remove reverse sort")
  | tuple =>
      wordsOf
        ("__add__ __class_getitem__ __contains__ __getitem__ __getnewargs__ __iter__ __len__ " ++
          "__mul__ __rmul__ count index")
  | dict =>
      wordsOf
        ("__class_getitem__ __contains__ __delitem__ __getitem__ __ior__ __iter__ __len__ " ++
          "__or__ __reversed__ __ror__ __setitem__ clear copy fromkeys get items keys pop " ++
          "popitem setdefault update values")
  | void => ["__bool__"]
  | pair =>
      wordsOf
        ("__annotations__ __match_args__ __module__ __orig_bases__ __slots__ _asdict " ++
          "_field_defaults _fields _make _replace")
  | miss => ["__slots__", "__module__"]
  | _ => []

/-- **The inborn attributes of a species.** -/
def inborn (s : Species) : List String := (lineage 5 s).flatMap abilities

/-- The parts of a number: numbers that nobody can set. -/
def parts : Species → List String
  | int => ["real", "imag", "numerator", "denominator"]
  | float => ["real", "imag"]
  | _ => []

/-- **The species behind a part of a number**: the one that gives the part to its objects. -/
def partOwner? (s : Species) (name : String) : Option Species :=
  (lineage 5 s).find? fun above => above.parts.contains name

end Narrowing.Menagerie.Species
