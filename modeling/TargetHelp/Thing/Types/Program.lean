import TargetHelp.Thing.ValueType

/-!
# Types of the parts of a program

Modules, the code of functions, the variables that functions share, and what can be raised.
-/

set_option autoImplicit false
set_option relaxedAutoImplicit false

namespace TargetHelp.ValueType

/-- Modules. -/
def module : ValueType where
  name := "module"
  description := some (
    "Create a module object.\n\nThe name must be a string; the optional doc argument can " ++
    "have any type.")
  signature := some "(name, doc=None)"
  sizes := layout 56 0 16 40 546048
  construct := some (.refuses "module() argument 'name' must be str, not _io.TextIOWrapper")
  members := holding "module" (
    Slot.named "__repr__ __getattribute__ __setattr__ __delattr__" ++
    Slot.refusing "__init__" "module() argument 'name' must be str, not _io.TextIOWrapper" ++
    [
      maker "module",
      .method "__dir__" .nothing "" "__dir__() -> list\nspecialized dir() implementation",
      .field "__dict__" "",
      .computed "__annotations__" ""])

/-- What functions run. -/
def code : ValueType where
  name := "code"
  description := some "Create a code object.  Not for the faint of heart."
  signature := some (
    "(argcount, posonlyargcount, kwonlyargcount, nlocals, stacksize,\n     flags, " ++
    "codestring, constants, names, varnames, filename, name,\n     qualname, firstlineno, " ++
    "linetable, exceptiontable, freevars=(),\n     cellvars=(), /)")
  sizes := layout 184 2 0 144 4352
  construct := some (.refuses "code expected at least 16 arguments, got 2")
  members := holding "code" (
    Slot.named (
        "__repr__ __hash__ __getattribute__ __lt__ __le__ __eq__ __ne__ __gt__ __ge__") ++
    [
      maker "code",
      .method "__sizeof__" .nothing "" "",
      .method "co_lines" .nothing "" "",
      .method "co_positions" .nothing "" "",
      .method "replace" .namesOnly "($self, /, **changes)"
        "Return a copy of the code object with new values for the specified fields.",
      .method "_varname_from_oparg" (.named 1) "($self, /, oparg)" (
          "(internal-only) Return the local variable name for the given oparg.\n\nWARNING: " ++
          "this method is for internal use only and may change or go away."),
      .field "co_argcount" "",
      .field "co_posonlyargcount" "",
      .field "co_kwonlyargcount" "",
      .field "co_stacksize" "",
      .field "co_flags" "",
      .field "co_nlocals" "",
      .field "co_consts" "",
      .field "co_names" "",
      .field "co_filename" "",
      .field "co_name" "",
      .field "co_qualname" "",
      .field "co_firstlineno" "",
      .field "co_linetable" "",
      .field "co_exceptiontable" "",
      .computed "co_lnotab" "",
      .computed "_co_code_adaptive" "",
      .computed "co_varnames" "",
      .computed "co_cellvars" "",
      .computed "co_freevars" "",
      .computed "co_code" ""])

/-- Variables that functions share. -/
def cell : ValueType where
  name := "cell"
  description := some (
    "Create a new cell object.\n\n  contents\n    the contents of the cell. If not " ++
    "specified, the cell will be empty,\n    and \n further attempts to access its " ++
    "cell_contents attribute will\n    raise a ValueError.")
  signature := some "([contents])"
  sizes := layout 24 0 0 0 20736
  construct := some (.refuses "cell expected at most 1 argument, got 2")
  members := holding "cell" (
    Slot.named "__repr__ __getattribute__ __lt__ __le__ __eq__ __ne__ __gt__ __ge__" ++
    [
      maker "cell",
      .computed "cell_contents" ""]) ++ unhashable

/-- What can be raised. -/
def exception : ValueType where
  name := "BaseException"
  description := some "Common base class for all exceptions"
  sizes := layout 72 0 16 0 1074287872
  members := holding "BaseException" (
    Slot.named "__repr__ __str__ __getattribute__ __setattr__ __delattr__ __init__" ++
    [
      maker "BaseException",
      .method "__reduce__" .nothing "" "",
      .method "__setstate__" .one "" "",
      .method "with_traceback" .one ""
        "Exception.with_traceback(tb) --\n    set self.__traceback__ to tb and return self.",
      .method "add_note" .one "" "Exception.add_note(note) --\n    add a note to the exception",
      .field "__suppress_context__" "",
      .computed "__dict__" "",
      .computed "args" "",
      .computed "__traceback__" "",
      .computed "__context__" "exception context",
      .computed "__cause__" "exception cause"])

/-- What is raised for an error. -/
def error : ValueType where
  name := "Exception"
  above := ["BaseException", "object"]
  description := some "Common base class for all non-exit exceptions."
  sizes := layout 72 0 16 0 1074287872
  members := holding "Exception" (
    Slot.named "__init__" ++
    [
      maker "Exception"])

/-- What is raised for a value that is wrong. -/
def valueError : ValueType where
  name := "ValueError"
  above := ["Exception", "BaseException", "object"]
  description := some "Inappropriate argument value (of correct type)."
  sizes := layout 72 0 16 0 1073763584
  members := holding "ValueError" (
    Slot.named "__init__" ++
    [
      maker "ValueError"])

end TargetHelp.ValueType
