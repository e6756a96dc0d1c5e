import TargetHelp.Thing.ValueType

/-!
# The type of texts

Texts have the most methods of all types.
-/

set_option autoImplicit false
set_option relaxedAutoImplicit false

namespace TargetHelp.ValueType

/-- Texts. -/
def text : ValueType where
  name := "str"
  description := some (
    "str(object='') -> str\nstr(bytes_or_buffer[, encoding[, errors]]) -> str\n\nCreate a " ++
    "new string object from the given object. If encoding or\nerrors is specified, then the " ++
    "object must expose a data buffer\nthat will be decoded using the given encoding and " ++
    "error handler.\nOtherwise, returns the result of object.__str__() (if defined)\nor " ++
    "repr(object).\nencoding defaults to sys.getdefaultencoding().\nerrors defaults to " ++
    "'strict'.")
  sizes := layout 80 0 0 0 273159424
  construct := some (.refuses
    "decoding to str: need a bytes-like object, _io.TextIOWrapper found")
  members := holding "str" (
    Slot.named (
        "__repr__ __hash__ __str__ __getattribute__ __lt__ __le__ __eq__ __ne__ __gt__ " ++
        "__ge__ __iter__ __mod__ __rmod__ __len__ __getitem__ __add__ __contains__") ++
    Slot.refusing "__mul__" " expected 1 argument, got 2" ++
    Slot.refusing "__rmul__" " expected 1 argument, got 2" ++
    [
      maker "str",
      .method "encode"
        (.replies (.refuses "encode() argument 'encoding' must be str, not _io.TextIOWrapper"))
        "($self, /, encoding='utf-8', errors='strict')" (
          "Encode the string using the codec registered for encoding.\n\n  encoding\n    The " ++
          "encoding in which to encode the string.\n  errors\n    The error handling scheme " ++
          "to use for encoding errors.\n    The default is 'strict' meaning that encoding " ++
          "errors raise a\n    UnicodeEncodeError.  Other possible values are 'ignore', " ++
          "'replace' and\n    'xmlcharrefreplace' as well as any other name registered " ++
          "with\n    codecs.register_error that can handle UnicodeEncodeErrors."),
      .method "replace"
        (.replies (.refuses "replace() argument 1 must be str, not _io.TextIOWrapper"))
        "($self, old, new, count=-1, /)" (
          "Return a copy with all occurrences of substring old replaced by new.\n\n  count\n " ++
          "   Maximum number of occurrences to replace.\n    -1 (the default value) means " ++
          "replace all occurrences.\n\nIf the optional argument count is given, only the " ++
          "first count occurrences are\nreplaced."),
      .method "split" (.replies (.refuses "'str' object cannot be interpreted as an integer"))
        "($self, /, sep=None, maxsplit=-1)" (
          "Return a list of the substrings in the string, using sep as the separator " ++
          "string.\n\n  sep\n    The separator used to split the string.\n\n    When set to " ++
          "None (the default value), will split on any whitespace\n    character (including " ++
          "\\n \\r \\t \\f and spaces) and will discard\n    empty strings from the " ++
          "result.\n  maxsplit\n    Maximum number of splits.\n    -1 (the default value) " ++
          "means no limit.\n\nSplitting starts at the front of the string and works to the " ++
          "end.\n\nNote, str.split() is mainly useful for data that has been " ++
          "intentionally\ndelimited.  With natural text that includes punctuation, consider " ++
          "using\nthe regular expression module."),
      .method "rsplit" (.replies (.refuses "'str' object cannot be interpreted as an integer"))
        "($self, /, sep=None, maxsplit=-1)" (
          "Return a list of the substrings in the string, using sep as the separator " ++
          "string.\n\n  sep\n    The separator used to split the string.\n\n    When set to " ++
          "None (the default value), will split on any whitespace\n    character (including " ++
          "\\n \\r \\t \\f and spaces) and will discard\n    empty strings from the " ++
          "result.\n  maxsplit\n    Maximum number of splits.\n    -1 (the default value) " ++
          "means no limit.\n\nSplitting starts at the end of the string and works to the " ++
          "front."),
      .method "join" .one "($self, iterable, /)" (
          "Concatenate any number of strings.\n\nThe string whose method is called is " ++
          "inserted in between each given string.\nThe result is returned as a new " ++
          "string.\n\nExample: '.'.join(['ab', 'pq', 'rs']) -> 'ab.pq.rs'"),
      .method "capitalize" .nothing "($self, /)" (
          "Return a capitalized version of the string.\n\nMore specifically, make the first " ++
          "character have upper case and the rest lower\ncase."),
      .method "casefold" .nothing "($self, /)"
        "Return a version of the string suitable for caseless comparisons.",
      .method "title" .nothing "($self, /)" (
          "Return a version of the string where each word is titlecased.\n\nMore " ++
          "specifically, words start with uppercased characters and all remaining\ncased " ++
          "characters have lower case."),
      .method "center"
        (.replies (.refuses "'_io.TextIOWrapper' object cannot be interpreted as an integer"))
        "($self, width, fillchar=' ', /)" (
          "Return a centered string of length width.\n\nPadding is done using the specified " ++
          "fill character (default is a space)."),
      .method "count"
        (.replies (.refuses "slice indices must be integers or None or have an __index__ method"))
        "" (
          "S.count(sub[, start[, end]]) -> int\n\nReturn the number of non-overlapping " ++
          "occurrences of substring sub in\nstring S[start:end].  Optional arguments start " ++
          "and end are\ninterpreted as in slice notation."),
      .method "expandtabs" (.named 1) "($self, /, tabsize=8)" (
          "Return a copy where all tab characters are expanded using spaces.\n\nIf tabsize " ++
          "is not given, a tab size of 8 characters is assumed."),
      .method "find"
        (.replies (.refuses "slice indices must be integers or None or have an __index__ method"))
        "" (
          "S.find(sub[, start[, end]]) -> int\n\nReturn the lowest index in S where " ++
          "substring sub is found,\nsuch that sub is contained within S[start:end].  " ++
          "Optional\narguments start and end are interpreted as in slice notation.\n\nReturn " ++
          "-1 on failure."),
      .method "partition" .one "($self, sep, /)" (
          "Partition the string into three parts using the given separator.\n\nThis will " ++
          "search for the separator in the string.  If the separator is found,\nreturns a " ++
          "3-tuple containing the part before the separator, the separator\nitself, and the " ++
          "part after it.\n\nIf the separator is not found, returns a 3-tuple containing the " ++
          "original string\nand two empty strings."),
      .method "index"
        (.replies (.refuses "slice indices must be integers or None or have an __index__ method"))
        "" (
          "S.index(sub[, start[, end]]) -> int\n\nReturn the lowest index in S where " ++
          "substring sub is found,\nsuch that sub is contained within S[start:end].  " ++
          "Optional\narguments start and end are interpreted as in slice notation.\n\nRaises " ++
          "ValueError when the substring is not found."),
      .method "ljust"
        (.replies (.refuses "'_io.TextIOWrapper' object cannot be interpreted as an integer"))
        "($self, width, fillchar=' ', /)" (
          "Return a left-justified string of length width.\n\nPadding is done using the " ++
          "specified fill character (default is a space)."),
      .method "lower" .nothing "($self, /)" "Return a copy of the string converted to lowercase.",
      .method "lstrip" (.atMost 1) "($self, chars=None, /)" (
          "Return a copy of the string with leading whitespace removed.\n\nIf chars is given " ++
          "and not None, remove characters in chars instead."),
      .method "rfind"
        (.replies (.refuses "slice indices must be integers or None or have an __index__ method"))
        "" (
          "S.rfind(sub[, start[, end]]) -> int\n\nReturn the highest index in S where " ++
          "substring sub is found,\nsuch that sub is contained within S[start:end].  " ++
          "Optional\narguments start and end are interpreted as in slice notation.\n\nReturn " ++
          "-1 on failure."),
      .method "rindex"
        (.replies (.refuses "slice indices must be integers or None or have an __index__ method"))
        "" (
          "S.rindex(sub[, start[, end]]) -> int\n\nReturn the highest index in S where " ++
          "substring sub is found,\nsuch that sub is contained within S[start:end].  " ++
          "Optional\narguments start and end are interpreted as in slice notation.\n\nRaises " ++
          "ValueError when the substring is not found."),
      .method "rjust"
        (.replies (.refuses "'_io.TextIOWrapper' object cannot be interpreted as an integer"))
        "($self, width, fillchar=' ', /)" (
          "Return a right-justified string of length width.\n\nPadding is done using the " ++
          "specified fill character (default is a space)."),
      .method "rstrip" (.atMost 1) "($self, chars=None, /)" (
          "Return a copy of the string with trailing whitespace removed.\n\nIf chars is " ++
          "given and not None, remove characters in chars instead."),
      .method "rpartition" .one "($self, sep, /)" (
          "Partition the string into three parts using the given separator.\n\nThis will " ++
          "search for the separator in the string, starting at the end. If\nthe separator is " ++
          "found, returns a 3-tuple containing the part before the\nseparator, the separator " ++
          "itself, and the part after it.\n\nIf the separator is not found, returns a " ++
          "3-tuple containing two empty strings\nand the original string."),
      .method "splitlines" (.named 1) "($self, /, keepends=False)" (
          "Return a list of the lines in the string, breaking at line boundaries.\n\nLine " ++
          "breaks are not included in the resulting list unless keepends is given and\ntrue."),
      .method "strip" (.atMost 1) "($self, chars=None, /)" (
          "Return a copy of the string with leading and trailing whitespace removed.\n\nIf " ++
          "chars is given and not None, remove characters in chars instead."),
      .method "swapcase" .nothing "($self, /)"
        "Convert uppercase characters to lowercase and lowercase characters to uppercase.",
      .method "translate" .one "($self, table, /)" (
          "Replace each character in the string using the given translation table.\n\n  " ++
          "table\n    Translation table, which must be a mapping of Unicode ordinals to\n    " ++
          "Unicode ordinals, strings, or None.\n\nThe table must implement lookup/indexing " ++
          "via __getitem__, for instance a\ndictionary or list.  If this operation raises " ++
          "LookupError, the character is\nleft untouched.  Characters mapped to None are " ++
          "deleted."),
      .method "upper" .nothing "($self, /)" "Return a copy of the string converted to uppercase.",
      .method "startswith"
        (.replies (.refuses "slice indices must be integers or None or have an __index__ method"))
        "" (
          "S.startswith(prefix[, start[, end]]) -> bool\n\nReturn True if S starts with the " ++
          "specified prefix, False otherwise.\nWith optional start, test S beginning at that " ++
          "position.\nWith optional end, stop comparing S at that position.\nprefix can also " ++
          "be a tuple of strings to try."),
      .method "endswith"
        (.replies (.refuses "slice indices must be integers or None or have an __index__ method"))
        "" (
          "S.endswith(suffix[, start[, end]]) -> bool\n\nReturn True if S ends with the " ++
          "specified suffix, False otherwise.\nWith optional start, test S beginning at that " ++
          "position.\nWith optional end, stop comparing S at that position.\nsuffix can also " ++
          "be a tuple of strings to try."),
      .method "removeprefix" .one "($self, prefix, /)" (
          "Return a str with the given prefix string removed if present.\n\nIf the string " ++
          "starts with the prefix string, return string[len(prefix):].\nOtherwise, return a " ++
          "copy of the original string."),
      .method "removesuffix" .one "($self, suffix, /)" (
          "Return a str with the given suffix string removed if present.\n\nIf the string " ++
          "ends with the suffix string and that suffix is not empty,\nreturn " ++
          "string[:-len(suffix)]. Otherwise, return a copy of the original\nstring."),
      .method "isascii" .nothing "($self, /)" (
          "Return True if all characters in the string are ASCII, False otherwise.\n\nASCII " ++
          "characters have code points in the range U+0000-U+007F.\nEmpty string is ASCII " ++
          "too."),
      .method "islower" .nothing "($self, /)" (
          "Return True if the string is a lowercase string, False otherwise.\n\nA string is " ++
          "lowercase if all cased characters in the string are lowercase and\nthere is at " ++
          "least one cased character in the string."),
      .method "isupper" .nothing "($self, /)" (
          "Return True if the string is an uppercase string, False otherwise.\n\nA string is " ++
          "uppercase if all cased characters in the string are uppercase and\nthere is at " ++
          "least one cased character in the string."),
      .method "istitle" .nothing "($self, /)" (
          "Return True if the string is a title-cased string, False otherwise.\n\nIn a " ++
          "title-cased string, upper- and title-case characters may only\nfollow uncased " ++
          "characters and lowercase characters only cased ones."),
      .method "isspace" .nothing "($self, /)" (
          "Return True if the string is a whitespace string, False otherwise.\n\nA string is " ++
          "whitespace if all characters in the string are whitespace and there\nis at least " ++
          "one character in the string."),
      .method "isdecimal" .nothing "($self, /)" (
          "Return True if the string is a decimal string, False otherwise.\n\nA string is a " ++
          "decimal string if all characters in the string are decimal and\nthere is at least " ++
          "one character in the string."),
      .method "isdigit" .nothing "($self, /)" (
          "Return True if the string is a digit string, False otherwise.\n\nA string is a " ++
          "digit string if all characters in the string are digits and there\nis at least " ++
          "one character in the string."),
      .method "isnumeric" .nothing "($self, /)" (
          "Return True if the string is a numeric string, False otherwise.\n\nA string is " ++
          "numeric if all characters in the string are numeric and there is at\nleast one " ++
          "character in the string."),
      .method "isalpha" .nothing "($self, /)" (
          "Return True if the string is an alphabetic string, False otherwise.\n\nA string " ++
          "is alphabetic if all characters in the string are alphabetic and there\nis at " ++
          "least one character in the string."),
      .method "isalnum" .nothing "($self, /)" (
          "Return True if the string is an alpha-numeric string, False otherwise.\n\nA " ++
          "string is alpha-numeric if all characters in the string are alpha-numeric " ++
          "and\nthere is at least one character in the string."),
      .method "isidentifier" .nothing "($self, /)" (
          "Return True if the string is a valid Python identifier, False otherwise.\n\nCall " ++
          "keyword.iskeyword(s) to test whether string s is a reserved identifier,\nsuch as " ++
          "\"def\" or \"class\"."),
      .method "isprintable" .nothing "($self, /)" (
          "Return True if the string is printable, False otherwise.\n\nA string is printable " ++
          "if all of its characters are considered printable in\nrepr() or if it is empty."),
      .method "zfill" .one "($self, width, /)" (
          "Pad a numeric string with zeros on the left, to fill a field of the given " ++
          "width.\n\nThe string is never truncated."),
      .method "format" .itself "" (
          "S.format(*args, **kwargs) -> str\n\nReturn a formatted version of S, using " ++
          "substitutions from args and kwargs.\nThe substitutions are identified by braces " ++
          "('\x7b' and '\x7d')."),
      .method "format_map" .one "" (
          "S.format_map(mapping) -> str\n\nReturn a formatted version of S, using " ++
          "substitutions from mapping.\nThe substitutions are identified by braces ('\x7b' " ++
          "and '\x7d')."),
      .method "__format__" .one "($self, format_spec, /)"
        "Return a formatted version of the string as described by format_spec.",
      .static "maketrans"
        (.replies (.refuses
          "first maketrans argument must be a string if there is a second argument"))
        "(x, y=<unrepresentable>, z=<unrepresentable>, /)" (
          "Return a translation table usable for str.translate().\n\nIf there is only one " ++
          "argument, it must be a dictionary mapping Unicode\nordinals (integers) or " ++
          "characters to Unicode ordinals, strings or None.\nCharacter keys will be then " ++
          "converted to ordinals.\nIf there are two arguments, they must be strings of equal " ++
          "length, and\nin the resulting dictionary, each character in x will be mapped to " ++
          "the\ncharacter at the same position in y. If there is a third argument, it\nmust " ++
          "be a string, whose characters will be mapped to None in the result."),
      .method "__sizeof__" .nothing "($self, /)"
        "Return the size of the string in memory, in bytes.",
      .method "__getnewargs__" .nothing "" ""])

end TargetHelp.ValueType
