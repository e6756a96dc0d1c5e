import TargetHelp.Fault

/-!
# Parameters

The parameters of a function, and what it says to a call that does not fit them: too many arguments
first, then arguments that are missing. `ofText` reads parameters as they are written: a star stands
before those that are given by name, and an equals sign behind those that may be left out.
-/

set_option autoImplicit false
set_option relaxedAutoImplicit false

namespace TargetHelp

structure Parameters where
  required : List Text := []
  optional : List Text := []
  /-- Whether further arguments are taken. -/
  takesMore : Bool := false
  /-- Parameters that are given by name only. -/
  named : List Text := []
  namedOptional : List Text := []
  /-- Whether further names are taken. -/
  takesNames : Bool := false
  deriving DecidableEq, Repr

namespace Parameters

/-! ### Reading -/

def comma : CodePoint := ','

def star : CodePoint := '*'

def equals : CodePoint := '='

/-- Parameters with one more in front of them, as it is written. `isNamed` says that it stands
behind a star. -/
def add (isNamed : Bool) (written : Text) (parameters : Parameters) : Parameters :=
  match written.getLast? with
  | none => parameters
  | some c =>
    let name := written.dropLast
    match isNamed, decide (c = equals) with
    | false, false => { parameters with required := written :: parameters.required }
    | false, true => { parameters with optional := name :: parameters.optional }
    | true, false => { parameters with named := written :: parameters.named }
    | true, true => { parameters with namedOptional := name :: parameters.namedOptional }

/-- Parameters from the first on; `isNamed` says that a star has been read. -/
def ofWritten (isNamed : Bool) : List Text → Parameters
  | [] => {}
  | written :: rest =>
    match written with
    | [c] =>
      if c = star then ofWritten true rest else add isNamed [c] (ofWritten isNamed rest)
    | c :: d :: name =>
      if c = star ∧ d = star then { ofWritten isNamed rest with takesNames := true }
      else if c = star then { ofWritten true rest with takesMore := true }
      else add isNamed (c :: d :: name) (ofWritten isNamed rest)
    | [] => ofWritten isNamed rest

def ofText (t : Text) : Parameters := ofWritten false (Text.splitAll comma t)

/-! ### Calls -/

/-- Names in a row, the last one behind an "and". -/
def enumeration : List Text → Text
  | [] => []
  | [name] => Text.quoted name
  | [name, last] => Text.quoted name ++ " and " ++ Text.quoted last
  | [name, next, last] =>
    Text.quoted name ++ ", " ++ Text.quoted next ++ ", and " ++ Text.quoted last
  | name :: rest => Text.quoted name ++ ", " ++ enumeration rest

def plural (count : Nat) : Text := if count = 1 then "" else "s"

/-- How many arguments are taken. -/
def taken (parameters : Parameters) : Text :=
  let least := parameters.required.length
  let most := least + parameters.optional.length
  if least = most then Text.decimal most ++ " positional argument" ++ plural most
  else
    "from " ++ Text.decimal least ++ " to " ++ Text.decimal most ++ " positional arguments"

/-- The fault of too many arguments for a function. -/
def tooMany (parameters : Parameters) (function : Text) (given : Nat) : Fault :=
  .ofUse (function ++ "() takes " ++ parameters.taken ++ " but " ++ Text.decimal given ++
    (if given = 1 then " was given" else " were given"))

/-- The fault of missing arguments of some sort. -/
def missing (function sort : Text) (names : List Text) : Fault :=
  .ofUse (function ++ "() missing " ++ Text.decimal names.length ++ " required " ++ sort ++
    " argument" ++ plural names.length ++ ": " ++ enumeration names)

/-- The fault of missing arguments, if there are any among the names of parameters. -/
def missing? (function : Text) (positional named : List Text) : Option Fault :=
  if !positional.isEmpty then some (missing function "positional" positional)
  else if !named.isEmpty then some (missing function "keyword-only" named)
  else none

/-- What a function says to so many arguments, none of them by name, unless they fit. -/
def fault? (parameters : Parameters) (function : Text) (given : Nat) : Option Fault :=
  let most := parameters.required.length + parameters.optional.length
  if most < given ∧ parameters.takesMore = false then some (parameters.tooMany function given)
  else missing? function (parameters.required.drop given) parameters.named

/-- What a function says to one argument and others under these names, unless they fit. -/
def namedFault? (parameters : Parameters) (function : Text) (names : List Text) : Option Fault :=
  let own := parameters.required.drop 1
  let known := own ++ parameters.optional ++ parameters.named ++ parameters.namedOptional
  match names.find? fun name => !(parameters.takesNames || known.contains name) with
  | some name =>
    some (.ofUse (function ++ "() got an unexpected keyword argument " ++ Text.quoted name))
  | none =>
    let absent := fun name => !names.contains name
    missing? function (own.filter absent) (parameters.named.filter absent)

end Parameters

end TargetHelp
