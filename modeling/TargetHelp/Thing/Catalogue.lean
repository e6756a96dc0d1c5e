import TargetHelp.Thing.Types.Base
import TargetHelp.Thing.Types.Bytes
import TargetHelp.Thing.Types.Callable
import TargetHelp.Thing.Types.Container
import TargetHelp.Thing.Types.Held
import TargetHelp.Thing.Types.Number
import TargetHelp.Thing.Types.Program
import TargetHelp.Thing.Types.Stream
import TargetHelp.Thing.Types.Text

/-!
# Catalogues

The types and modules at hand, by which names are followed. A name is looked up in a type and then
in the types above it; the nearest that holds it counts.
-/

set_option autoImplicit false
set_option relaxedAutoImplicit false

namespace TargetHelp

/-- A module, and what it holds unless its code ends in a fault when it is imported. -/
structure Module where
  name : Text
  /-- Whether modules can be inside it. -/
  isPackage : Bool := false
  /-- Whether it is imported by its name. -/
  isOffered : Bool := true
  /-- The key of the type that loads it, unless it is loaded from a file of its own. -/
  loader? : Option Text := none
  members : Except Fault (Fields Thing) := .ok []

/-- The types that are built in. -/
def ValueType.builtIn : List ValueType := [
  anything, type, int, float, bool, null, text, bytes, list, dictionary, tuple, set, frozenSet,
  mapping, stream, textStream, decodedStream, function, method, builtin, boundSlot, keyed,
  static, classWise, property, heldSlot, heldMethod, heldClassMethod, heldAttribute, heldField,
  module, code, cell, exception, error, valueError]

structure Catalogue where
  types : List ValueType
  modules : List Module := []
  /-- The faults of looking names up in things that do it in their own way. -/
  refusal? : Thing → (name : Text) → Option Fault := fun _ _ => none
  /-- How many parts the dotted name of a module can have before the stack is exhausted. -/
  room : Nat := 246

namespace Catalogue

/-- The catalogue of the built-in types alone. -/
def ofTypes : Catalogue := { types := ValueType.builtIn }

/-- The type with a key; of one that is not listed only the key is known. -/
def typeOf (catalogue : Catalogue) (key : Text) : ValueType :=
  (catalogue.types.find? fun t => t.key = key).getD { name := key }

/-- A type and all types above it. -/
def lineage (catalogue : Catalogue) (key : Text) : List ValueType :=
  catalogue.typeOf key :: (catalogue.typeOf key).above.map catalogue.typeOf

/-- What a type, or the nearest above it that has it, holds under a name. -/
def lookUp (catalogue : Catalogue) (key name : Text) : Option Thing :=
  (catalogue.lineage key).findSome? fun t => t.own? name

/-- What the values of a type have themselves under a name. -/
def value? (catalogue : Catalogue) (key name : Text) : Option Thing :=
  (catalogue.lineage key).findSome? fun t => Fields.get? name t.values

def module? (catalogue : Catalogue) (name : Text) : Option Module :=
  catalogue.modules.find? fun m => m.name = name

/-- What a module holds that can be imported. -/
def held (catalogue : Catalogue) (name : Text) : Fields Thing :=
  match (catalogue.module? name).map Module.members with
  | some (.ok members) => members
  | _ => []

/-- A catalogue with what another one has besides. Where both have something under one name, that of
the first counts. -/
def followedBy (first rest : Catalogue) : Catalogue where
  types := first.types ++ rest.types
  modules := first.modules.map (fun m => { m with
    isPackage := m.isPackage || (rest.module? m.name).any Module.isPackage
    members := m.members.map fun members => members ++ rest.held m.name }) ++ rest.modules
  refusal? := first.refusal?
  room := first.room

/-- The key of the type of a thing. -/
def typeKey (catalogue : Catalogue) : Thing → Text
  | .value v => v.typeName
  | .tuple _ => "tuple"
  | .type key => (catalogue.typeOf key).metatype
  | .keyed _ _ => "types.GenericAlias"
  | .held _ m => Thing.heldTypeKey m.sort
  | .bound _ _ m => if m.sort = .slot then "method-wrapper" else "builtin_function_or_method"
  | .table _ => "mappingproxy"
  | .function _ => "function"
  | .method _ _ => "method"
  | .classWise _ => "classmethod"
  | .static _ => "staticmethod"
  | .property _ _ _ _ => "property"
  | .builtin _ _ _ => "builtin_function_or_method"
  | .alias a => a.type
  | .module _ => "module"
  | .spec _ => "_frozen_importlib.ModuleSpec"
  | .choice type _ _ => type
  | .instance type => type

/-- The name of a thing's type in messages. -/
def typeLabel (catalogue : Catalogue) (thing : Thing) : Text :=
  (catalogue.typeOf (catalogue.typeKey thing)).label

/-- Whether a thing can be called. -/
def isCallable (catalogue : Catalogue) (thing : Thing) : Bool :=
  (catalogue.lookUp (catalogue.typeKey thing) "__call__").isSome

end Catalogue

end TargetHelp
