import TargetHelp.Thing.ValueType

/-!
# Types of everything

The type above all others, and the type of types.
-/

set_option autoImplicit false
set_option relaxedAutoImplicit false

namespace TargetHelp.ValueType

/-- What every type is a kind of. -/
def anything : ValueType where
  name := "object"
  above := []
  description := some (
    "The base class of the class hierarchy.\n\nWhen called, it accepts no arguments and " ++
    "returns a new featureless\ninstance that has no instance attributes and cannot be given " ++
    "any.\n")
  signature := some "()"
  sizes := layout 16 0 0 0 529664
  construct := some (.refuses "object() takes no arguments")
  members := holding "object" (
    Slot.named (
        "__repr__ __hash__ __str__ __getattribute__ __setattr__ __delattr__ __lt__ __le__ " ++
        "__eq__ __ne__ __gt__ __ge__ __init__") ++
    [
      maker "object",
      .method "__reduce_ex__" .one "($self, protocol, /)" "Helper for pickle.",
      .method "__reduce__" .nothing "($self, /)" "Helper for pickle.",
      .method "__getstate__" .nothing "($self, /)" "Helper for pickle.",
      .classMethod "__subclasshook__" (.replies (.gives "NotImplementedType")) "" (
          "Abstract classes can override this to customize issubclass().\n\nThis is invoked " ++
          "early on by abc.ABCMeta.__subclasscheck__().\nIt should return True, False or " ++
          "NotImplemented.  If it returns\nNotImplemented, the normal algorithm is used.  " ++
          "Otherwise, it\noverrides the normal algorithm (and the outcome is cached).\n"),
      .classMethod "__init_subclass__" .nothing "" (
          "This method is called when a class is subclassed.\n\nThe default implementation " ++
          "does nothing. It may be\noverridden to extend subclasses.\n"),
      .method "__format__" .one "($self, format_spec, /)" "Default object formatter.",
      .method "__sizeof__" .nothing "($self, /)" "Size of object in memory, in bytes.",
      .method "__dir__" .nothing "($self, /)" "Default dir() implementation.",
      .computed "__class__" "the object's class"])

/-- The type of types. -/
def type : ValueType where
  name := "type"
  description := some (
    "type(object) -> the object's type\ntype(name, bases, dict, **kwds) -> a new type")
  sizes := layout 904 40 264 368 2148031744
  construct := some (.refuses "type() takes 1 or 3 arguments")
  members := holding "type" (
    Slot.named (
        "__repr__ __call__ __getattribute__ __setattr__ __delattr__ __init__ __or__ __ror__") ++
    [
      maker "type",
      .method "mro" .nothing "($self, /)" "Return a type's method resolution order.",
      .method "__subclasses__" .nothing "($self, /)" "Return a list of immediate subclasses.",
      .classMethod "__prepare__" (.replies .givesNone) ""
        "__prepare__() -> dict\nused to create the namespace for the class statement",
      .method "__instancecheck__" .one "($self, instance, /)"
        "Check if an object is an instance.",
      .method "__subclasscheck__" .one "($self, subclass, /)" "Check if a class is a subclass.",
      .method "__dir__" .nothing "($self, /)" "Specialized __dir__ implementation for types.",
      .method "__sizeof__" .nothing "($self, /)" "Return memory consumption of the type object.",
      .field "__basicsize__" "",
      .field "__itemsize__" "",
      .field "__flags__" "",
      .field "__weakrefoffset__" "",
      .field "__base__" "",
      .field "__dictoffset__" "",
      .field "__mro__" "",
      .computed "__name__" "",
      .computed "__qualname__" "",
      .computed "__bases__" "",
      .computed "__module__" "",
      .computed "__abstractmethods__" "",
      .computed "__dict__" "",
      .computed "__doc__" "",
      .computed "__text_signature__" "",
      .computed "__annotations__" ""])

end TargetHelp.ValueType
