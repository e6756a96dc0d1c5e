import TargetHelp.Thing.Basic
import TargetHelp.Thing.Slot

/-!
# Types

What is known of a type: its name and its module, the types above it, how it describes itself, what
it holds, and what it does when it is called. A type has a key, by which things tell it, and a
label, by which messages do.
-/

set_option autoImplicit false
set_option relaxedAutoImplicit false

namespace TargetHelp

structure ValueType where
  name : Text
  home : Text := "builtins"
  /-- The keys of the types above it, nearest first. -/
  above : List Text := ["object"]
  /-- The key of the type of the type itself. -/
  metatype : Text := "type"
  /-- Whether it is defined by a program. -/
  isDefined : Bool := false
  description : Option Text := none
  signature : Option Text := none
  /-- Sizes and flags. -/
  sizes : Fields Json := []
  members : Fields Thing := []
  /-- What its values have themselves, as far as that is known. -/
  values : Fields Thing := []
  /-- What it does when it is called, unless it makes a value of its own. -/
  construct : Option Reply := none

namespace ValueType

/-- A name behind that of what it belongs to. -/
def behind (front name : Text) : Text := front ++ CodePoint.ofChar '.' :: name

/-- The key of a type, by its module and its name. -/
def keyOf (home name : Text) : Text := if home = "builtins" then name else behind home name

def key (t : ValueType) : Text := keyOf t.home t.name

def lastName (name : Text) : Text := (Text.splitAll '.' name).getLastD []

def label (t : ValueType) : Text := if t.isDefined then lastName t.name else t.key

/-- The members of the type with a key, as it holds them. -/
def holding (key : Text) (members : List Member) : Fields Thing :=
  members.map fun m => (m.name,
    match m.sort with
    | .constructor => .bound (.type key) key m
    | .static => .static (.bound (.type key) key m)
    | _ => .held key m)

/-- The constructor of the type with a label. -/
def maker (label : Text) : Member :=
  Member.constructor.refusing
    (label ++ ".__new__(X): X is not a type object (" ++ streamType ++ ")")

/-- That the values of a type are not looked up by. -/
def unhashable : Fields Thing := [("__hash__", .value .null)]

def layout (size itemSize fieldsAt referencesAt flags : Nat) : Fields Json := [
  ("__basicsize__", .int size), ("__itemsize__", .int itemSize), ("__dictoffset__", .int fieldsAt),
  ("__weakrefoffset__", .int referencesAt), ("__flags__", .int flags)]

/-- What a type holds under a name itself. -/
def own? (t : ValueType) (name : Text) : Option Thing :=
  match Fields.get? name t.members with
  | some found => some found
  | none =>
    if name = "__doc__" then some (if t.isDefined then .instance "str" else .ofText? t.description)
    else if name = "__module__" ∧ t.isDefined then some (.ofText t.home)
    else none

/-- What a type holds under a name about itself, of which no more is known than the type. -/
def stated? (t : ValueType) (name : Text) : Option Thing :=
  (t.own? name).filter Thing.isKnownByType

/-- Whether the values of a type tell its module; such types can have annotations. -/
def tellsHome (t : ValueType) : Bool := t.isDefined || (t.stated? "__module__").isSome

end ValueType

end TargetHelp
