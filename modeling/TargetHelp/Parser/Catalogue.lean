import TargetHelp.Node.Stream
import TargetHelp.Thing.Call

/-!
# Loading parsers

A specification names a module and, in it, a callable by the names that lead to it. Each part of the
module's dotted name must be there before the next is looked for. Whatever can be called acts as a
parser; if it takes other arguments, its reading ends in a fault. Importing a module runs its code,
and looking a name up can run code as well; what such code raises is a fault of loading only if it
says that there is no such module or no such member.
-/

set_option autoImplicit false
set_option relaxedAutoImplicit false

namespace TargetHelp

namespace Catalogue

open TargetHelp.Parser (ImportError)

/-- The name of a module inside another one. -/
def childName (parent? : Option Module) (part : Text) : Text :=
  match parent? with
  | none => part
  | some parent => ValueType.behind parent.name part

/-- Why a module cannot be had: it is not there, or its code raises another fault. -/
inductive ImportFault where
  | absent (error : ImportError)
  | raised (fault : Fault)

namespace ImportFault

def ofCode (fault : Fault) : ImportFault :=
  if fault.isImport then absent (.broken fault.message) else raised fault

/-- The fault of loading a parser from a module that cannot be had. -/
def toFault (moduleName : Text) : ImportFault → Fault
  | absent error => .load (.notImported moduleName error)
  | raised fault => fault

end ImportFault

/-- The module of one more part of a dotted name. -/
def importPart (catalogue : Catalogue) (parent? : Option Module) (part : Text) :
    Except ImportFault Module :=
  let name := childName parent? part
  match (catalogue.module? name).filter Module.isOffered with
  | some m =>
    match m.members with
    | .ok _ => .ok m
    | .error fault => .error (.ofCode fault)
  | none =>
    match parent? with
    | some parent =>
      if parent.isPackage then .error (.absent (.missing name))
      else .error (.absent (.notPackage name parent.name))
    | none => .error (.absent (.missing name))

/-- The fault of a name with more parts than the stack has room for. -/
def tooDeep : Fault := .raised Kind.recursion [.str "maximum recursion depth exceeded"]

/-- The module with a dotted name. A module is asked for before the one that it is inside, so a name
with too many parts fails before any of them is looked for. -/
def importModule (catalogue : Catalogue) (name : Text) : Except ImportFault Module := do
  let parts := Text.splitAll '.' name
  if catalogue.room < parts.length then throw (.raised tooDeep)
  let found ← parts.foldlM
    (fun parent? part => do return some (← catalogue.importPart parent? part)) none
  match found with
  | some m => .ok m
  | none => .error (.absent (.missing name))

/-- What a name leads to from a thing, unless looking it up raises a fault of its own. -/
def lead (catalogue : Catalogue) (thing : Thing) (name : Text) : Except Fault Thing :=
  match catalogue.refusal? thing name with
  | some fault => .error fault
  | none => (catalogue.member thing name).mapError .template

/-- What names lead to from a thing, one after the other. -/
def follow (catalogue : Catalogue) (thing : Thing) (names : List Text) : Except Fault Thing :=
  names.foldlM catalogue.lead thing

/-- Following names in a row is following the first of them and then the others. -/
theorem follow_append (catalogue : Catalogue) (thing : Thing) (names more : List Text) :
    catalogue.follow thing (names ++ more) =
      (catalogue.follow thing names >>= fun found => catalogue.follow found more) := by
  simp [follow]

/-- The callable that a specification names. -/
def load (catalogue : Catalogue) (written : Text) : Except Fault Thing := do
  let spec ← (Parser.Spec.parse written).mapError .load
  if Text.startsWith "." spec.moduleName then throw (.relativeModule spec.moduleName)
  let m ← (catalogue.importModule spec.moduleName).mapError (ImportFault.toFault spec.moduleName)
  match catalogue.follow (.module m.name) (Text.splitAll '.' spec.path) with
  | .error fault =>
    if fault.isMember then throw (.load (.noMember spec.moduleName spec.path))
    else throw fault
  | .ok thing =>
    if catalogue.isCallable thing then return thing else throw (.load (.notCallable written))

/-- The parser that a callable acts as. -/
def parserOf (catalogue : Catalogue) (thing : Thing) : Parser where
  display := catalogue.display thing
  read := catalogue.call thing

end Catalogue

/-! ### The built-in parser -/

namespace Parser

/-- The specification of the built-in parser. -/
def defaultSpec : Text := "mmhelp.nodestream:parse_recursive"

/-- The function of the built-in parser. -/
def nodeStreamFunction : Function where
  home := "mmhelp.nodestream"
  name := "parse_recursive"
  parameters := .ofText "source,include_path"
  reply := .reads Node.readStream

end Parser

/-- The catalogue that offers the built-in parser and nothing else. -/
def Catalogue.builtIn : Catalogue where
  types := ValueType.builtIn
  modules := [
    { name := "mmhelp", isPackage := true },
    { name := "mmhelp.nodestream"
      members := .ok [("parse_recursive", .function Parser.nodeStreamFunction)] }]

end TargetHelp
