import Narrowing.Menagerie.Species

/-!
# Descriptions

Some species come with a description (`__doc__`), which their members share with them. An heir does not
take it over.

* `Species.description`: the description of a species.
-/

namespace Narrowing.Menagerie

namespace Species

/-- The description of hits. -/
def hitDescription : String := "The classifier recognized the candidate as a ``U``; here it is."

/-- The description of misses. -/
def missDescription : String :=
  "The classifier does not recognize the candidate.\n\n    " ++
  "Carries nothing. Every instance equals every other one, so ``Miss()`` and\n    " ++
  "the module constant ``miss`` are interchangeable.\n    "

/-- The description of settings. -/
def settingsDescription : String :=
  "Runtime contract-checking settings.\n\n    " ++
  "Static checkers verify that a classifier's hits match the declared\n    " ++
  "narrowing. With ``debug`` on, refinements additionally check each\n    " ++
  "classifier outcome as it is produced. ``strict`` raises on a violation\n    " ++
  "instead of warning, and implies ``debug``.\n    "

/-- **The description of a species**, if it has one. -/
def description : Species → Option String
  | hit => some hitDescription
  | miss => some missDescription
  | settings => some settingsDescription
  | pair => some "Pair(a, b)"
  | object =>
      some ("The base class of the class hierarchy.\n\n" ++
        "When called, it accepts no arguments and returns a new featureless\n" ++
        "instance that has no instance attributes and cannot be given any.\n")
  | int =>
      some ("int([x]) -> integer\nint(x, base=10) -> integer\n\n" ++
        "Convert a number or string to an integer, or return 0 if no arguments\n" ++
        "are given.  If x is a number, return x.__int__().  For floating point\n" ++
        "numbers, this truncates towards zero.\n\n" ++
        "If x is not a number or if base is given, then x must be a string,\n" ++
        "bytes, or bytearray instance representing an integer literal in the\n" ++
        "given base.  The literal can be preceded by '+' or '-' and be surrounded\n" ++
        "by whitespace.  The base defaults to 10.  Valid bases are 0 and 2-36.\n" ++
        "Base 0 means to interpret the base from the string as an integer literal.\n" ++
        ">>> int('0b100', base=0)\n4")
  | bool =>
      some ("bool(x) -> bool\n\nReturns True when the argument x is true, False otherwise.\n" ++
        "The builtins True and False are the only two instances of the class bool.\n" ++
        "The class bool is a subclass of the class int, and cannot be subclassed.")
  | float =>
      some ("Convert a string or number to a floating point number, if possible.")
  | text =>
      some ("str(object='') -> str\nstr(bytes_or_buffer[, encoding[, errors]]) -> str\n\n" ++
        "Create a new string object from the given object. If encoding or\n" ++
        "errors is specified, then the object must expose a data buffer\n" ++
        "that will be decoded using the given encoding and error handler.\n" ++
        "Otherwise, returns the result of object.__str__() (if defined)\nor repr(object).\n" ++
        "encoding defaults to sys.getdefaultencoding().\nerrors defaults to 'strict'.")
  | octets =>
      some ("bytes(iterable_of_ints) -> bytes\nbytes(string, encoding[, errors]) -> bytes\n" ++
        "bytes(bytes_or_buffer) -> immutable copy of bytes_or_buffer\n" ++
        "bytes(int) -> bytes object of size given by the parameter initialized with null bytes\n" ++
        "bytes() -> empty bytes object\n\nConstruct an immutable array of bytes from:\n" ++
        "  - an iterable yielding integers in range(256)\n" ++
        "  - a text string encoded using the specified encoding\n" ++
        "  - any object implementing the buffer API.\n  - an integer")
  | list =>
      some ("Built-in mutable sequence.\n\n" ++
        "If no argument is given, the constructor creates a new empty list.\n" ++
        "The argument must be an iterable if specified.")
  | tuple =>
      some ("Built-in immutable sequence.\n\n" ++
        "If no argument is given, the constructor returns an empty tuple.\n" ++
        "If iterable is specified the tuple is initialized from iterable's items.\n\n" ++
        "If the argument is a tuple, the return value is the same object.")
  | dict =>
      some ("dict() -> new empty dictionary\n" ++
        "dict(mapping) -> new dictionary initialized from a mapping object's\n" ++
        "    (key, value) pairs\ndict(iterable) -> new dictionary initialized as if via:\n" ++
        "    d = \x7b\x7d\n    for k, v in iterable:\n        d[k] = v\n" ++
        "dict(**kwargs) -> new dictionary initialized with the name=value pairs\n" ++
        "    in the keyword argument list.  For example:  dict(one=1, two=2)")
  | sort =>
      some ("type(object) -> the object's type\ntype(name, bases, dict, **kwds) -> a new type")
  | sequence =>
      some ("All the operations on a read-only sequence.\n\n" ++
        "    Concrete subclasses must override __new__ or __init__,\n" ++
        "    __getitem__, and __len__.\n    ")
  | mapping =>
      some ("A Mapping is a generic container for associating key/value\n    pairs.\n\n" ++
        "    This class provides concrete generic implementations of all\n" ++
        "    methods except for __getitem__, __iter__, and __len__.\n    ")
  | _ => none

end Species

end Narrowing.Menagerie
