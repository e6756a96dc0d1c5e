import TargetHelp.Thing.ValueType

/-!
# The type of bytes

Bytes have nearly all the methods that texts have.
-/

set_option autoImplicit false
set_option relaxedAutoImplicit false

namespace TargetHelp.ValueType

/-- Rows of bytes. -/
def bytes : ValueType where
  name := "bytes"
  description := some "bytes(iterable_of_ints) -> bytes"
  sizes := layout 33 1 0 0 138941696
  construct := some (.refuses "encoding without a string argument")
  members := holding "bytes" (
    Slot.named (
        "__repr__ __hash__ __str__ __getattribute__ __lt__ __le__ __eq__ __ne__ __gt__ " ++
        "__ge__ __iter__ __mod__ __rmod__ __len__ __getitem__ __add__ __contains__") ++
    Slot.refusing "__mul__" " expected 1 argument, got 2" ++
    Slot.refusing "__rmul__" " expected 1 argument, got 2" ++
    [
      maker "bytes",
      .method "__getnewargs__" .nothing "" "",
      .method "__bytes__" .nothing "($self, /)" "Convert this value to exact type bytes.",
      .method "capitalize" .nothing "" "B.capitalize() -> copy of B",
      .method "center"
        (.replies (.refuses "'_io.TextIOWrapper' object cannot be interpreted as an integer"))
        "($self, width, fillchar=b' ', /)" "Return a centered string of length width.",
      .method "count"
        (.replies (.refuses "slice indices must be integers or None or have an __index__ method"))
        "" "B.count(sub[, start[, end]]) -> int",
      .method "decode"
        (.replies (.refuses "decode() argument 'encoding' must be str, not _io.TextIOWrapper"))
        "($self, /, encoding='utf-8', errors='strict')"
        "Decode the bytes using the codec registered for encoding.",
      .method "endswith"
        (.replies (.refuses "slice indices must be integers or None or have an __index__ method"))
        "" "B.endswith(suffix[, start[, end]]) -> bool",
      .method "expandtabs" (.named 1) "($self, /, tabsize=8)"
        "Return a copy where all tab characters are expanded using spaces.",
      .method "find"
        (.replies (.refuses "slice indices must be integers or None or have an __index__ method"))
        "" "B.find(sub[, start[, end]]) -> int",
      .classMethod "fromhex" .one "($type, string, /)"
        "Create a bytes object from a string of hexadecimal numbers.",
      .method "hex" (.replies (.refuses "'str' object cannot be interpreted as an integer"))
        "($self, /, sep=<unrepresentable>, bytes_per_sep=1)"
        "Create a string of hexadecimal numbers from a bytes object.",
      .method "index"
        (.replies (.refuses "slice indices must be integers or None or have an __index__ method"))
        "" "B.index(sub[, start[, end]]) -> int",
      .method "isalnum" .nothing "" "B.isalnum() -> bool",
      .method "isalpha" .nothing "" "B.isalpha() -> bool",
      .method "isascii" .nothing "" "B.isascii() -> bool",
      .method "isdigit" .nothing "" "B.isdigit() -> bool",
      .method "islower" .nothing "" "B.islower() -> bool",
      .method "isspace" .nothing "" "B.isspace() -> bool",
      .method "istitle" .nothing "" "B.istitle() -> bool",
      .method "isupper" .nothing "" "B.isupper() -> bool",
      .method "join" .one "($self, iterable_of_bytes, /)"
        "Concatenate any number of bytes objects.",
      .method "ljust"
        (.replies (.refuses "'_io.TextIOWrapper' object cannot be interpreted as an integer"))
        "($self, width, fillchar=b' ', /)" "Return a left-justified string of length width.",
      .method "lower" .nothing "" "B.lower() -> copy of B",
      .method "lstrip" (.atMost 1) "($self, bytes=None, /)"
        "Strip leading bytes contained in the argument.",
      .static "maketrans"
        (.replies (.refuses "a bytes-like object is required, not '_io.TextIOWrapper'"))
        "(frm, to, /)"
        "Return a translation table useable for the bytes or bytearray translate method.",
      .method "partition" .one "($self, sep, /)"
        "Partition the bytes into three parts using the given separator.",
      .method "replace"
        (.replies (.refuses "a bytes-like object is required, not '_io.TextIOWrapper'"))
        "($self, old, new, count=-1, /)"
        "Return a copy with all occurrences of substring old replaced by new.",
      .method "removeprefix" .one "($self, prefix, /)"
        "Return a bytes object with the given prefix string removed if present.",
      .method "removesuffix" .one "($self, suffix, /)"
        "Return a bytes object with the given suffix string removed if present.",
      .method "rfind"
        (.replies (.refuses "slice indices must be integers or None or have an __index__ method"))
        "" "B.rfind(sub[, start[, end]]) -> int",
      .method "rindex"
        (.replies (.refuses "slice indices must be integers or None or have an __index__ method"))
        "" "B.rindex(sub[, start[, end]]) -> int",
      .method "rjust"
        (.replies (.refuses "'_io.TextIOWrapper' object cannot be interpreted as an integer"))
        "($self, width, fillchar=b' ', /)" "Return a right-justified string of length width.",
      .method "rpartition" .one "($self, sep, /)"
        "Partition the bytes into three parts using the given separator.",
      .method "rsplit" (.replies (.refuses "'str' object cannot be interpreted as an integer"))
        "($self, /, sep=None, maxsplit=-1)"
        "Return a list of the sections in the bytes, using sep as the delimiter.",
      .method "rstrip" (.atMost 1) "($self, bytes=None, /)"
        "Strip trailing bytes contained in the argument.",
      .method "split" (.replies (.refuses "'str' object cannot be interpreted as an integer"))
        "($self, /, sep=None, maxsplit=-1)"
        "Return a list of the sections in the bytes, using sep as the delimiter.",
      .method "splitlines" (.named 1) "($self, /, keepends=False)"
        "Return a list of the lines in the bytes, breaking at line boundaries.",
      .method "startswith"
        (.replies (.refuses "slice indices must be integers or None or have an __index__ method"))
        "" "B.startswith(prefix[, start[, end]]) -> bool",
      .method "strip" (.atMost 1) "($self, bytes=None, /)"
        "Strip leading and trailing bytes contained in the argument.",
      .method "swapcase" .nothing "" "B.swapcase() -> copy of B",
      .method "title" .nothing "" "B.title() -> copy of B",
      .method "translate"
        (.replies (.refuses "a bytes-like object is required, not '_io.TextIOWrapper'"))
        "($self, table, /, delete=b'')"
        "Return a copy with each character mapped by the given translation table.",
      .method "upper" .nothing "" "B.upper() -> copy of B",
      .method "zfill" .one "($self, width, /)"
        "Pad a numeric string with zeros on the left, to fill a field of the given width."])

end TargetHelp.ValueType
