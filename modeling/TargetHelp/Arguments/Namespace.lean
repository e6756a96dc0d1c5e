import TargetHelp.Platform
import TargetHelp.Thing.Attribute

/-!
# Namespaces of arguments

A namespace has the attributes that it was given, and behind them those that every namespace has.
What one of the latter leads to need not be a value, and then it cannot be written.
-/

set_option autoImplicit false
set_option relaxedAutoImplicit false

namespace TargetHelp.Arguments.Namespace

/-- The key of the type of namespaces. -/
def typeKey : Text := "argparse.Namespace"

def description : Text :=
  "Simple object for storing attributes.\n\n    " ++
  "Implements equality by attribute names and values, and provides a simple\n    " ++
  "string representation.\n    "

/-- The fault of a thing that is no value where it is to be written. -/
def unwritable (thing : Thing) : Fault :=
  let type := Platform.catalogue.typeOf (Platform.catalogue.typeKey thing)
  .ofUse ("Object of type " ++ ValueType.lastName type.name ++ " is not JSON serializable")

/-- What every namespace has under a name. -/
def shared? (name : Text) : Option (Except Fault Json) :=
  match Platform.catalogue.member (.instance typeKey) name with
  | .error _ => none
  | .ok (.value v) => some (.ok v)
  | .ok thing =>
    if Platform.catalogue.typeKey thing = "NoneType" then some (.ok .null)
    else some (.error (unwritable thing))

/-- What a namespace has under a name. -/
def attribute? (given : Fields Json) (name : Text) : Option (Except Fault Json) :=
  match Fields.get? name given with
  | some v => some (.ok v)
  | none =>
    if name = "__dict__" then some (.ok (.obj given))
    else if name = "__doc__" then some (.ok (.str description))
    else shared? name

/-- The attributes that were given, with those of the names that lead to values. -/
def values (given : Fields Json) (names : List Text) : Fields Json :=
  names.foldl (fun fields name =>
    match attribute? given name with
    | some (.ok v) => Fields.set name v fields
    | _ => fields) given

/-- The fault of the first name that leads to something else. -/
def fault? (given : Fields Json) (names : List Text) : Option Fault :=
  names.findSome? fun name =>
    match attribute? given name with
    | some (.error fault) => some fault
    | _ => none

end TargetHelp.Arguments.Namespace
