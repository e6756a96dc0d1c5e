import TargetHelp.Thing.Member

/-!
# Slots

The members that stand for operators and for the protocol of the language, whatever type has them:
what each says about itself, and how many operands it takes.
-/

set_option autoImplicit false
set_option relaxedAutoImplicit false

namespace TargetHelp

namespace Slot

/-- Slots of one signature, with so many operands, by their names and descriptions. -/
def group (signature : Text) (operands : Nat) (slots : List (String × String)) : List Member :=
  slots.map fun (name, description) => {
    name := Text.ofString name
    sort := .slot
    takes := .operands operands
    signature := some signature
    description := some (Text.ofString description) }

/-- Slots without an argument. -/
def unary : List Member := group "($self, /)" 0 [
  ("__abs__", "abs(self)"),
  ("__bool__", "True if self else False"),
  ("__del__", "Called when the instance is about to be destroyed."),
  ("__float__", "float(self)"),
  ("__hash__", "Return hash(self)."),
  ("__index__",
    "Return self converted to an integer, if self is suitable for use as an index into a list."),
  ("__int__", "int(self)"),
  ("__invert__", "~self"),
  ("__iter__", "Implement iter(self)."),
  ("__len__", "Return len(self)."),
  ("__neg__", "-self"),
  ("__next__", "Implement next(self)."),
  ("__pos__", "+self"),
  ("__repr__", "Return repr(self)."),
  ("__str__", "Return str(self).")]

/-- Slots with a second operand. -/
def binary : List Member := group "($self, value, /)" 1 [
  ("__add__", "Return self+value."),
  ("__and__", "Return self&value."),
  ("__divmod__", "Return divmod(self, value)."),
  ("__eq__", "Return self==value."),
  ("__floordiv__", "Return self//value."),
  ("__ge__", "Return self>=value."),
  ("__gt__", "Return self>value."),
  ("__iadd__", "Implement self+=value."),
  ("__iand__", "Return self&=value."),
  ("__ifloordiv__", "Return self//=value."),
  ("__ilshift__", "Return self<<=value."),
  ("__imatmul__", "Return self@=value."),
  ("__imod__", "Return self%=value."),
  ("__imul__", "Implement self*=value."),
  ("__ior__", "Return self|=value."),
  ("__ipow__", "Return self**=value."),
  ("__irshift__", "Return self>>=value."),
  ("__isub__", "Return self-=value."),
  ("__itruediv__", "Return self/=value."),
  ("__ixor__", "Return self^=value."),
  ("__le__", "Return self<=value."),
  ("__lshift__", "Return self<<value."),
  ("__lt__", "Return self<value."),
  ("__matmul__", "Return self@value."),
  ("__mod__", "Return self%value."),
  ("__mul__", "Return self*value."),
  ("__ne__", "Return self!=value."),
  ("__or__", "Return self|value."),
  ("__radd__", "Return value+self."),
  ("__rand__", "Return value&self."),
  ("__rdivmod__", "Return divmod(value, self)."),
  ("__rfloordiv__", "Return value//self."),
  ("__rlshift__", "Return value<<self."),
  ("__rmatmul__", "Return value@self."),
  ("__rmod__", "Return value%self."),
  ("__rmul__", "Return value*self."),
  ("__ror__", "Return value|self."),
  ("__rrshift__", "Return value>>self."),
  ("__rshift__", "Return self>>value."),
  ("__rsub__", "Return value-self."),
  ("__rtruediv__", "Return value/self."),
  ("__rxor__", "Return value^self."),
  ("__sub__", "Return self-value."),
  ("__truediv__", "Return self/value."),
  ("__xor__", "Return self^value.")]

def powers : List Member :=
  (group "($self, value, mod=None, /)" 2 [
    ("__pow__", "Return pow(self, value, mod)."),
    ("__rpow__", "Return pow(value, self, mod).")]).map
    (Member.replying · (.gives "NotImplementedType"))

def calls : List Member :=
  (group "($self, /, *args, **kwargs)" 2 [
    ("__call__", "Call self as a function."),
    ("__init__", "Initialize self.  See help(type(self)) for accurate signature.")]).map
    (Member.replying · (.gives "NoneType"))

/-- Slots for the items of containers. -/
def items : List Member :=
  group "($self, key, /)" 1 [
    ("__contains__", "Return key in self."),
    ("__delitem__", "Delete self[key]."),
    ("__getitem__", "Return self[key].")] ++
  (group "($self, key, value, /)" 2 [("__setitem__", "Set self[key] to value.")]).map
    (Member.replying · (.gives "NoneType"))

/-- Slots for the members of things. -/
def members : List Member :=
  group "($self, name, /)" 1 [
    ("__delattr__", "Implement delattr(self, name)."),
    ("__getattribute__", "Return getattr(self, name).")] ++
  (group "($self, name, value, /)" 2
    [("__setattr__", "Implement setattr(self, name, value).")]).map
    (Member.refusing · ("attribute name must be string, not '" ++ streamType ++ "'"))

/-- Slots for what describes a member. -/
def descriptors : List Member :=
  group "($self, instance, /)" 1 [("__delete__", "Delete an attribute of instance.")] ++
  group "($self, instance, owner=None, /)" 2
    [("__get__", "Return an attribute of instance, which is of type owner.")] ++
  group "($self, instance, value, /)" 2 [("__set__", "Set an attribute of instance to value.")]

def all : List Member := unary ++ binary ++ powers ++ calls ++ items ++ members ++ descriptors

/-- The slots with these names, which are separated by spaces. -/
def named (names : String) : List Member :=
  (Text.splitAll Text.space names).filterMap fun name => all.find? fun slot => slot.name = name

/-- The slot with a name that refuses the arguments of a parser. -/
def refusing (name : String) (message : Text) : List Member :=
  (named name).map (Member.refusing · message)

end Slot

end TargetHelp
