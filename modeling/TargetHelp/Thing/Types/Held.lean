import TargetHelp.Thing.ValueType

/-!
# Types of what types hold

Slots, methods, attributes and fields that are bound to nothing yet.
-/

set_option autoImplicit false
set_option relaxedAutoImplicit false

namespace TargetHelp.ValueType

/-- Slots as types hold them. -/
def heldSlot : ValueType where
  name := "wrapper_descriptor"
  sizes := layout 56 0 0 0 676224
  construct := some (.refuses "cannot create 'wrapper_descriptor' instances")
  members := holding "wrapper_descriptor" (
    Slot.named "__repr__ __call__ __getattribute__ __get__" ++
    [
      .method "__reduce__" .nothing "" "",
      .field "__objclass__" "",
      .field "__name__" "",
      .computed "__doc__" "",
      .computed "__qualname__" "",
      .computed "__text_signature__" ""])

/-- Methods as types hold them. -/
def heldMethod : ValueType where
  name := "method_descriptor"
  sizes := layout 56 0 0 0 678272
  construct := some (.refuses "cannot create 'method_descriptor' instances")
  members := holding "method_descriptor" (
    Slot.named "__repr__ __call__ __getattribute__ __get__" ++
    [
      .method "__reduce__" .nothing "" "",
      .field "__objclass__" "",
      .field "__name__" "",
      .computed "__doc__" "",
      .computed "__qualname__" "",
      .computed "__text_signature__" ""])

/-- Methods of types as these hold them. -/
def heldClassMethod : ValueType where
  name := "classmethod_descriptor"
  sizes := layout 56 0 0 0 545152
  construct := some (.refuses "cannot create 'classmethod_descriptor' instances")
  members := holding "classmethod_descriptor" (
    Slot.named "__repr__ __call__ __getattribute__ __get__" ++
    [
      .field "__objclass__" "",
      .field "__name__" "",
      .computed "__doc__" "",
      .computed "__qualname__" "",
      .computed "__text_signature__" ""])

/-- Attributes as types hold them. -/
def heldAttribute : ValueType where
  name := "getset_descriptor"
  sizes := layout 48 0 0 0 545152
  construct := some (.refuses "cannot create 'getset_descriptor' instances")
  members := holding "getset_descriptor" (
    Slot.named "__repr__ __getattribute__ __get__ __set__ __delete__" ++
    [
      .field "__objclass__" "",
      .field "__name__" "",
      .computed "__doc__" "",
      .computed "__qualname__" ""])

/-- Fields as types hold them. -/
def heldField : ValueType where
  name := "member_descriptor"
  sizes := layout 48 0 0 0 545152
  construct := some (.refuses "cannot create 'member_descriptor' instances")
  members := holding "member_descriptor" (
    Slot.named "__repr__ __getattribute__ __get__ __set__ __delete__" ++
    [
      .method "__reduce__" .nothing "" "",
      .field "__objclass__" "",
      .field "__name__" "",
      .computed "__doc__" "",
      .computed "__qualname__" ""])

end TargetHelp.ValueType
