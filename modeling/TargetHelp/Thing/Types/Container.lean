import TargetHelp.Thing.ValueType

/-!
# Types of containers

Lists, tables, tuples, sets of both kinds, and tables that are read only.
-/

set_option autoImplicit false
set_option relaxedAutoImplicit false

namespace TargetHelp.ValueType

/-- Lists. -/
def list : ValueType where
  name := "list"
  description := some (
    "Built-in mutable sequence.\n\nIf no argument is given, the constructor creates a new " ++
    "empty list.\nThe argument must be an iterable if specified.")
  signature := some "(iterable=(), /)"
  sizes := layout 40 0 0 0 38294816
  construct := some (.refuses "list expected at most 1 argument, got 2")
  members := holding "list" (
    Slot.named (
        "__repr__ __getattribute__ __lt__ __le__ __eq__ __ne__ __gt__ __ge__ __iter__ " ++
        "__len__ __delitem__ __add__ __contains__ __iadd__") ++
    Slot.refusing "__init__" "list expected at most 1 argument, got 2" ++
    Slot.refusing "__setitem__" "list indices must be integers or slices, not _io.TextIOWrapper" ++
    Slot.refusing "__mul__" " expected 1 argument, got 2" ++
    Slot.refusing "__rmul__" " expected 1 argument, got 2" ++
    Slot.refusing "__imul__" " expected 1 argument, got 2" ++
    [
      maker "list",
      .method "__getitem__" .one "" "x.__getitem__(y) <==> x[y]",
      .method "__reversed__" .nothing "($self, /)" "Return a reverse iterator over the list.",
      .method "__sizeof__" .nothing "($self, /)"
        "Return the size of the list in memory, in bytes.",
      .method "clear" .nothing "($self, /)" "Remove all items from list.",
      .method "copy" .nothing "($self, /)" "Return a shallow copy of the list.",
      .method "append" .one "($self, object, /)" "Append object to the end of the list.",
      .method "insert"
        (.replies (.refuses "'_io.TextIOWrapper' object cannot be interpreted as an integer"))
        "($self, index, object, /)" "Insert object before index.",
      .method "extend" .one "($self, iterable, /)"
        "Extend list by appending elements from the iterable.",
      .method "pop" (.atMost 1) "($self, index=-1, /)" (
          "Remove and return item at index (default last).\n\nRaises IndexError if list is " ++
          "empty or index is out of range."),
      .method "remove" .one "($self, value, /)"
        "Remove first occurrence of value.\n\nRaises ValueError if the value is not present.",
      .method "index"
        (.replies (.refuses "slice indices must be integers or have an __index__ method"))
        "($self, value, start=0, stop=sys.maxsize, /)"
        "Return first index of value.\n\nRaises ValueError if the value is not present.",
      .method "count" .one "($self, value, /)" "Return number of occurrences of value.",
      .method "reverse" .nothing "($self, /)" "Reverse *IN PLACE*.",
      .method "sort" .namesOnly "($self, /, *, key=None, reverse=False)" (
          "Sort the list in ascending order and return None.\n\nThe sort is in-place (i.e. " ++
          "the list itself is modified) and stable (i.e. the\norder of two equal elements is " ++
          "maintained).\n\nIf a key function is given, apply it once to each list item and " ++
          "sort them,\nascending or descending, according to their function values.\n\nThe " ++
          "reverse flag can be set to sort in descending order."),
      .classMethod "__class_getitem__" .one "" "See PEP 585"]) ++ unhashable

/-- Values by keys. -/
def dictionary : ValueType where
  name := "dict"
  description := some (
    "dict() -> new empty dictionary\ndict(mapping) -> new dictionary initialized from a " ++
    "mapping object's\n    (key, value) pairs\ndict(iterable) -> new dictionary initialized " ++
    "as if via:\n    d = \x7b\x7d\n    for k, v in iterable:\n        d[k] = " ++
    "v\ndict(**kwargs) -> new dictionary initialized with the name=value pairs\n    in the " ++
    "keyword argument list.  For example:  dict(one=1, two=2)")
  sizes := layout 48 0 0 0 541611328
  construct := some (.refuses "dict expected at most 1 argument, got 2")
  members := holding "dict" (
    Slot.named (
        "__repr__ __getattribute__ __lt__ __le__ __eq__ __ne__ __gt__ __ge__ __iter__ __or__ " ++
        "__ror__ __ior__ __len__ __setitem__ __delitem__") ++
    Slot.refusing "__init__" "dict expected at most 1 argument, got 2" ++
    [
      maker "dict",
      .method "__getitem__" .one "" "x.__getitem__(y) <==> x[y]",
      .method "__contains__" .one "($self, key, /)"
        "True if the dictionary has the specified key, else False.",
      .method "__sizeof__" .nothing "" "D.__sizeof__() -> size of D in memory, in bytes",
      .method "get" (.replies .givesDirectory) "($self, key, default=None, /)"
        "Return the value for key if key is in the dictionary, else default.",
      .method "setdefault" (.replies .givesDirectory) "($self, key, default=None, /)" (
          "Insert key with a value of default if key is not in the dictionary.\n\nReturn the " ++
          "value for key if key is in the dictionary, else default."),
      .method "pop" (.replies .givesDirectory) "($self, key, default=<unrepresentable>, /)" (
          "D.pop(k[,d]) -> v, remove specified key and return the corresponding value.\n\nIf " ++
          "the key is not found, return the default if given; otherwise,\nraise a KeyError."),
      .method "popitem" .nothing "($self, /)" (
          "Remove and return a (key, value) pair as a 2-tuple.\n\nPairs are returned in LIFO " ++
          "(last-in, first-out) order.\nRaises KeyError if the dict is empty."),
      .method "keys" .nothing "" "D.keys() -> a set-like object providing a view on D's keys",
      .method "items" .nothing "" "D.items() -> a set-like object providing a view on D's items",
      .method "values" .nothing "" "D.values() -> an object providing a view on D's values",
      .method "update" (.atMost 1) "" (
          "D.update([E, ]**F) -> None.  Update D from dict/iterable E and F.\nIf E is " ++
          "present and has a .keys() method, then does:  for k in E: D[k] = E[k]\nIf E is " ++
          "present and lacks a .keys() method, then does:  for k, v in E: D[k] = v\nIn " ++
          "either case, this is followed by: for k in F:  D[k] = F[k]"),
      .classMethod "fromkeys" (.replies .givesLines) "($type, iterable, value=None, /)"
        "Create a new dictionary with keys from iterable and values set to value.",
      .method "clear" .nothing "" "D.clear() -> None.  Remove all items from D.",
      .method "copy" .nothing "" "D.copy() -> a shallow copy of D",
      .method "__reversed__" .nothing "($self, /)"
        "Return a reverse iterator over the dict keys.",
      .classMethod "__class_getitem__" .one "" "See PEP 585"]) ++ unhashable

/-- Several things in order. -/
def tuple : ValueType where
  name := "tuple"
  description := some (
    "Built-in immutable sequence.\n\nIf no argument is given, the constructor returns an " ++
    "empty tuple.\nIf iterable is specified the tuple is initialized from iterable's " ++
    "items.\n\nIf the argument is a tuple, the return value is the same object.")
  signature := some "(iterable=(), /)"
  sizes := layout 24 8 0 0 71849248
  construct := some (.refuses "tuple expected at most 1 argument, got 2")
  members := holding "tuple" (
    Slot.named (
        "__repr__ __hash__ __getattribute__ __lt__ __le__ __eq__ __ne__ __gt__ __ge__ " ++
        "__iter__ __len__ __getitem__ __add__ __contains__") ++
    Slot.refusing "__mul__" " expected 1 argument, got 2" ++
    Slot.refusing "__rmul__" " expected 1 argument, got 2" ++
    [
      maker "tuple",
      .method "__getnewargs__" .nothing "($self, /)" "",
      .method "index"
        (.replies (.refuses "slice indices must be integers or have an __index__ method"))
        "($self, value, start=0, stop=sys.maxsize, /)"
        "Return first index of value.\n\nRaises ValueError if the value is not present.",
      .method "count" .one "($self, value, /)" "Return number of occurrences of value.",
      .classMethod "__class_getitem__" .one "" "See PEP 585"])

/-- Sets. -/
def set : ValueType where
  name := "set"
  description := some (
    "set() -> new empty set object\nset(iterable) -> new set object\n\nBuild an unordered " ++
    "collection of unique elements.")
  sizes := layout 200 0 0 192 4740352
  construct := some (.refuses "set expected at most 1 argument, got 2")
  members := holding "set" (
    Slot.named (
        "__repr__ __getattribute__ __lt__ __le__ __eq__ __ne__ __gt__ __ge__ __iter__ " ++
        "__sub__ __rsub__ __and__ __rand__ __xor__ __rxor__ __or__ __ror__ __isub__ __iand__ " ++
        "__ixor__ __ior__ __len__") ++
    Slot.refusing "__init__" "set expected at most 1 argument, got 2" ++
    [
      maker "set",
      .method "__contains__" .one "" "x.__contains__(y) <==> y in x.",
      .method "add" .one ""
        "Add an element to a set.\n\nThis has no effect if the element is already present.",
      .method "clear" .nothing "" "Remove all elements from this set.",
      .method "copy" .nothing "" "Return a shallow copy of a set.",
      .method "discard" .one "" (
          "Remove an element from a set if it is a member.\n\nUnlike set.remove(), the " ++
          "discard() method does not raise\nan exception when an element is missing from the " ++
          "set."),
      .method "difference" (.replies (.afterLines (.givesMany "str"))) "" (
          "Return the difference of two or more sets as a new set.\n\n(i.e. all elements " ++
          "that are in this set but not the others.)"),
      .method "difference_update" (.replies (.afterLines (.gives "NoneType"))) ""
        "Remove all elements of another set from this set.",
      .method "intersection" (.replies (.afterLines .givesNone)) "" (
          "Return the intersection of two sets as a new set.\n\n(i.e. all elements that are " ++
          "in both sets.)"),
      .method "intersection_update" (.replies (.afterLines (.gives "NoneType"))) ""
        "Update a set with the intersection of itself and another.",
      .method "isdisjoint" .one "" "Return True if two sets have a null intersection.",
      .method "issubset" .one "($self, other, /)"
        "Test whether every element in the set is in other.",
      .method "issuperset" .one "($self, other, /)"
        "Test whether every element in other is in the set.",
      .method "pop" .nothing ""
        "Remove and return an arbitrary set element.\nRaises KeyError if the set is empty.",
      .method "__reduce__" .nothing "" "Return state information for pickling.",
      .method "remove" .one "" (
          "Remove an element from a set; it must be a member.\n\nIf the element is not a " ++
          "member, raise a KeyError."),
      .method "__sizeof__" .nothing "" "S.__sizeof__() -> size of S in memory, in bytes",
      .method "symmetric_difference" .one "" (
          "Return the symmetric difference of two sets as a new set.\n\n(i.e. all elements " ++
          "that are in exactly one of the sets.)"),
      .method "symmetric_difference_update" .one ""
        "Update a set with the symmetric difference of itself and another.",
      .method "union" (.replies (.afterLines (.givesMany "str"))) ""
        "Return the union of sets as a new set.\n\n(i.e. all elements that are in either set.)",
      .method "update" (.replies (.afterLines (.gives "NoneType"))) ""
        "Update a set with the union of itself and others.",
      .classMethod "__class_getitem__" .one "" "See PEP 585"]) ++ unhashable

/-- Sets that cannot change. -/
def frozenSet : ValueType where
  name := "frozenset"
  description := some "frozenset() -> empty frozenset object"
  sizes := layout 200 0 0 192 4740352
  construct := some (.refuses "frozenset expected at most 1 argument, got 2")
  members := holding "frozenset" (
    Slot.named (
        "__repr__ __hash__ __getattribute__ __lt__ __le__ __eq__ __ne__ __gt__ __ge__ " ++
        "__iter__ __sub__ __rsub__ __and__ __rand__ __xor__ __rxor__ __or__ __ror__ __len__") ++
    [
      maker "frozenset",
      .method "__contains__" .one "" "x.__contains__(y) <==> y in x.",
      .method "copy" .nothing "" "Return a shallow copy of a set.",
      .method "difference" (.replies (.afterLines (.givesMany "str"))) ""
        "Return the difference of two or more sets as a new set.",
      .method "intersection" (.replies (.afterLines .givesNone)) ""
        "Return the intersection of two sets as a new set.",
      .method "isdisjoint" .one "" "Return True if two sets have a null intersection.",
      .method "issubset" .one "($self, other, /)"
        "Test whether every element in the set is in other.",
      .method "issuperset" .one "($self, other, /)"
        "Test whether every element in other is in the set.",
      .method "__reduce__" .nothing "" "Return state information for pickling.",
      .method "__sizeof__" .nothing "" "S.__sizeof__() -> size of S in memory, in bytes",
      .method "symmetric_difference" .one ""
        "Return the symmetric difference of two sets as a new set.",
      .method "union" (.replies (.afterLines (.givesMany "str"))) ""
        "Return the union of sets as a new set.",
      .classMethod "__class_getitem__" .one "" "See PEP 585"])

/-- Tables that are read only. -/
def mapping : ValueType where
  name := "mappingproxy"
  sizes := layout 24 0 0 0 545088
  construct := some (.refuses "mappingproxy() takes at most 1 argument (2 given)")
  members := holding "mappingproxy" (
    Slot.named (
        "__repr__ __str__ __getattribute__ __lt__ __le__ __eq__ __ne__ __gt__ __ge__ " ++
        "__iter__ __or__ __ror__ __ior__ __len__ __getitem__ __contains__") ++
    [
      maker "mappingproxy",
      .method "get" (.replies .givesDirectory) ""
        "D.get(k[,d]) -> D[k] if k in D, else d.  d defaults to None.",
      .method "keys" .nothing "" "D.keys() -> a set-like object providing a view on D's keys",
      .method "values" .nothing "" "D.values() -> an object providing a view on D's values",
      .method "items" .nothing "" "D.items() -> a set-like object providing a view on D's items",
      .method "copy" .nothing "" "D.copy() -> a shallow copy of D",
      .classMethod "__class_getitem__" .one "" "See PEP 585",
      .method "__reversed__" .nothing "" "D.__reversed__() -> reverse iterator"]) ++ unhashable

end TargetHelp.ValueType
