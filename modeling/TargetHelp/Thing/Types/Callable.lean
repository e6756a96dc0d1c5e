import TargetHelp.Thing.ValueType

/-!
# Types of callables

Functions, methods, and what types hold in the place of methods.
-/

set_option autoImplicit false
set_option relaxedAutoImplicit false

namespace TargetHelp.ValueType

/-- Functions. -/
def function : ValueType where
  name := "function"
  description := some (
    "Create a function object.\n\n  code\n    a code object\n  globals\n    the globals " ++
    "dictionary\n  name\n    a string that overrides the name from the code object\n  " ++
    "argdefs\n    a tuple that specifies the default argument values\n  closure\n    a tuple " ++
    "that supplies the bindings for free variables")
  signature := some "(code, globals, name=None, argdefs=None, closure=None)"
  sizes := layout 136 0 88 96 678144
  construct := some (.refuses "function() argument 'code' must be code, not _io.TextIOWrapper")
  members := holding "function" (
    Slot.named "__repr__ __call__ __get__" ++
    [
      maker "function",
      .field "__closure__" "",
      .field "__doc__" "",
      .field "__globals__" "",
      .field "__module__" "",
      .field "__builtins__" "",
      .computed "__code__" "",
      .computed "__defaults__" "",
      .computed "__kwdefaults__" "",
      .computed "__annotations__" "",
      .computed "__dict__" "",
      .computed "__name__" "",
      .computed "__qualname__" ""])

/-- Functions bound to something. -/
def method : ValueType where
  name := "method"
  description := some "Create a bound instance method object."
  signature := some "(function, instance, /)"
  sizes := layout 48 0 0 32 22784
  construct := some (.refuses "first argument must be callable")
  members := holding "method" (
    Slot.named (
        "__repr__ __hash__ __call__ __getattribute__ __setattr__ __delattr__ __lt__ __le__ " ++
        "__eq__ __ne__ __gt__ __ge__") ++
    [
      maker "method",
      .method "__reduce__" .nothing "($self, /)" "",
      .field "__func__" "the function (or other callable) implementing a method",
      .field "__self__" "the instance to which a method is bound",
      .computed "__doc__" ""])

/-- Built-in functions and methods. -/
def builtin : ValueType where
  name := "builtin_function_or_method"
  sizes := layout 56 0 0 40 547200
  construct := some (.refuses "cannot create 'builtin_function_or_method' instances")
  members := holding "builtin_function_or_method" (
    Slot.named (
        "__repr__ __hash__ __call__ __getattribute__ __lt__ __le__ __eq__ __ne__ __gt__ " ++
        "__ge__") ++
    [
      .method "__reduce__" .nothing "" "",
      .field "__module__" "",
      .computed "__doc__" "",
      .computed "__name__" "",
      .computed "__qualname__" "",
      .computed "__self__" "",
      .computed "__text_signature__" ""])

/-- Slots bound to something. -/
def boundSlot : ValueType where
  name := "method-wrapper"
  sizes := layout 32 0 0 0 20864
  construct := some (.refuses "cannot create 'method-wrapper' instances")
  members := holding "method-wrapper" (
    Slot.named (
        "__repr__ __hash__ __call__ __getattribute__ __lt__ __le__ __eq__ __ne__ __gt__ " ++
        "__ge__") ++
    [
      .method "__reduce__" .nothing "" "",
      .field "__self__" "",
      .computed "__objclass__" "",
      .computed "__name__" "",
      .computed "__qualname__" "",
      .computed "__doc__" "",
      .computed "__text_signature__" ""])

/-- Types of containers with what they contain. -/
def keyed : ValueType where
  name := "GenericAlias"
  home := "types"
  description := some (
    "Represent a PEP 585 generic type\n\nE.g. for t = list[int], t.__origin__ is list and " ++
    "t.__args__ is (int,).")
  sizes := layout 64 0 0 40 548096
  construct := some (.givesMany streamType)
  members := holding "types.GenericAlias" (
    Slot.named (
        "__repr__ __hash__ __call__ __getattribute__ __lt__ __le__ __eq__ __ne__ __gt__ " ++
        "__ge__ __iter__ __or__ __ror__ __getitem__") ++
    [
      maker "types.GenericAlias",
      .method "__mro_entries__" .one "" "",
      .method "__instancecheck__" .one "" "",
      .method "__subclasscheck__" .one "" "",
      .method "__reduce__" .nothing "" "",
      .method "__dir__" (.replies (.refuses "object.__dir__() takes no arguments (1 given)")) ""
        "",
      .field "__origin__" "",
      .field "__args__" "",
      .field "__unpacked__" "",
      .computed "__parameters__" "Type variables in the GenericAlias.",
      .computed "__typing_unpacked_tuple_args__" ""])

/-- Methods that are bound to nothing. -/
def static : ValueType where
  name := "staticmethod"
  description := some (
    "staticmethod(function) -> method\n\nConvert a function to be a static method.\n\nA " ++
    "static method does not receive an implicit first argument.\nTo declare a static method, " ++
    "use this idiom:\n\n     class C:\n         @staticmethod\n         def f(arg1, arg2, " ++
    "argN):\n             ...\n\nIt can be called either on the class (e.g. C.f()) or on an " ++
    "instance\n(e.g. C().f()). Both the class and the instance are ignored, and\nneither is " ++
    "passed implicitly as the first argument to the method.\n\nStatic methods in Python are " ++
    "similar to those found in Java or C++.\nFor a more advanced concept, see the " ++
    "classmethod builtin.")
  sizes := layout 32 0 24 0 546048
  construct := some (.refuses "staticmethod expected 1 argument, got 2")
  members := holding "staticmethod" (
    Slot.named "__repr__ __call__ __get__" ++
    Slot.refusing "__init__" "staticmethod expected 1 argument, got 2" ++
    [
      maker "staticmethod",
      .field "__func__" "",
      .field "__wrapped__" "",
      .computed "__isabstractmethod__" "",
      .computed "__dict__" ""])

/-- Methods of types. -/
def classWise : ValueType where
  name := "classmethod"
  description := some (
    "classmethod(function) -> method\n\nConvert a function to be a class method.\n\nA class " ++
    "method receives the class as implicit first argument,\njust like an instance method " ++
    "receives the instance.\nTo declare a class method, use this idiom:\n\n  class C:\n      " ++
    "@classmethod\n      def f(cls, arg1, arg2, argN):\n          ...\n\nIt can be called " ++
    "either on the class (e.g. C.f()) or on an instance\n(e.g. C().f()).  The instance is " ++
    "ignored except for its class.\nIf a class method is called for a derived class, the " ++
    "derived class\nobject is passed as the implied first argument.\n\nClass methods are " ++
    "different than C++ or Java static methods.\nIf you want those, see the staticmethod " ++
    "builtin.")
  sizes := layout 32 0 24 0 546048
  construct := some (.refuses "classmethod expected 1 argument, got 2")
  members := holding "classmethod" (
    Slot.named "__repr__ __get__" ++
    Slot.refusing "__init__" "classmethod expected 1 argument, got 2" ++
    [
      maker "classmethod",
      .field "__func__" "",
      .field "__wrapped__" "",
      .computed "__isabstractmethod__" "",
      .computed "__dict__" ""])

/-- Members that are computed. -/
def property : ValueType where
  name := "property"
  description := some (
    "Property attribute.\n\n  fget\n    function to be used for getting an attribute value\n " ++
    " fset\n    function to be used for setting an attribute value\n  fdel\n    function to " ++
    "be used for del'ing an attribute\n  doc\n    docstring\n\nTypical use is to define a " ++
    "managed attribute x:\n\nclass C(object):\n    def getx(self): return self._x\n    def " ++
    "setx(self, value): self._x = value\n    def delx(self): del self._x\n    x = " ++
    "property(getx, setx, delx, \"I'm the 'x' property.\")\n\nDecorators make defining new " ++
    "properties or modifying existing ones easy:\n\nclass C(object):\n    @property\n    def " ++
    "x(self):\n        \"I am the 'x' property.\"\n        return self._x\n    @x.setter\n   " ++
    " def x(self, value):\n        self._x = value\n    @x.deleter\n    def x(self):\n       " ++
    " del self._x")
  signature := some "(fget=None, fset=None, fdel=None, doc=None)"
  sizes := layout 64 0 0 0 546048
  construct := some (.gives "property")
  members := holding "property" (
    Slot.named "__getattribute__ __get__ __set__ __delete__ __init__" ++
    [
      maker "property",
      .method "getter" .one ""
        "Descriptor to obtain a copy of the property with a different getter.",
      .method "setter" .one ""
        "Descriptor to obtain a copy of the property with a different setter.",
      .method "deleter" .one ""
        "Descriptor to obtain a copy of the property with a different deleter.",
      .method "__set_name__" (.replies (.gives "NoneType")) ""
        "Method to set name of a property.",
      .field "fget" "",
      .field "fset" "",
      .field "fdel" "",
      .field "__doc__" "",
      .computed "__isabstractmethod__" ""])

end TargetHelp.ValueType
