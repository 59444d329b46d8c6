/-
This file lists the names that values have for their operations.
-/

import EmacsSession.Value.Basic

namespace EmacsSession.Kind

/-- The names that all values share. -/
def sharedOperations : List String := [
    "__delattr__", "__dir__", "__doc__", "__eq__", "__format__", "__ge__", "__getattribute__",
    "__getstate__", "__gt__", "__hash__", "__init__", "__init_subclass__", "__le__", "__lt__",
    "__ne__", "__new__", "__reduce__", "__reduce_ex__", "__repr__", "__setattr__", "__sizeof__",
    "__str__", "__subclasshook__"]

/-- The names of nil. -/
def nilOperations : List String := [
    "__annotations__", "__bool__", "__module__", "__slots__", "_instance"]

/-- The names that all numbers share. -/
def numberOperations : List String := [
    "__abs__", "__add__", "__bool__", "__ceil__", "__divmod__", "__float__", "__floor__",
    "__floordiv__", "__getnewargs__", "__int__", "__mod__", "__mul__", "__neg__", "__pos__",
    "__pow__", "__radd__", "__rdivmod__", "__rfloordiv__", "__rmod__", "__rmul__", "__round__",
    "__rpow__", "__rsub__", "__rtruediv__", "__sub__", "__truediv__", "__trunc__",
    "as_integer_ratio", "conjugate"]

/-- The names of integers beside those of all numbers. -/
def integerOperations : List String := [
    "__and__", "__index__", "__invert__", "__lshift__", "__or__", "__rand__", "__rlshift__",
    "__ror__", "__rrshift__", "__rshift__", "__rxor__", "__xor__", "bit_count", "bit_length",
    "from_bytes", "to_bytes"]

/-- The names of numbers with decimal places beside those of all numbers. -/
def realOperations : List String := ["__getformat__", "fromhex", "hex", "is_integer"]

/-- The names of texts. -/
def textOperations : List String := [
    "__add__", "__contains__", "__getitem__", "__getnewargs__", "__iter__", "__len__", "__mod__",
    "__mul__", "__rmod__", "__rmul__", "capitalize", "casefold", "center", "count", "encode",
    "endswith", "expandtabs", "find", "format", "format_map", "index", "isalnum", "isalpha",
    "isascii", "isdecimal", "isdigit", "isidentifier", "islower", "isnumeric", "isprintable",
    "isspace", "istitle", "isupper", "join", "ljust", "lower", "lstrip", "maketrans", "partition",
    "removeprefix", "removesuffix", "replace", "rfind", "rindex", "rjust", "rpartition", "rsplit",
    "rstrip", "split", "splitlines", "startswith", "strip", "swapcase", "title", "translate",
    "upper", "zfill"]

/-- The names that only values of the kind have. Kinds without a printed form are left out. -/
def ownOperations : Kind → List String
  | .absent => ["__bool__"]
  | .nil => nilOperations
  | .truth => numberOperations ++ integerOperations
  | .int => numberOperations ++ integerOperations
  | .float => numberOperations ++ realOperations
  | .text => textOperations
  | _ => []

/-- All values of the kind have an operation of the name. -/
def hasOperation (kind : Kind) (name : String) : Bool :=
  sharedOperations.contains name || kind.ownOperations.contains name

/-- The parts of a number that follow from its value. -/
def derivedParts : Kind → List String
  | .truth => ["real", "imag", "numerator", "denominator"]
  | .int => ["real", "imag", "numerator", "denominator"]
  | .float => ["real", "imag"]
  | _ => []

/-- The kind that a derived part belongs to; truth values have theirs as integers. -/
def owner : Kind → Kind
  | .truth => .int
  | kind => kind

end EmacsSession.Kind
