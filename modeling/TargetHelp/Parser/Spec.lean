import TargetHelp.Text.Quoted

/-!
# Parser specifications

A specification `MODULE:PATH` names a callable: the module before the first colon and, after it,
names separated by dots that lead from the module to the callable. `LoadError` says what can keep
it from being found.
-/

set_option autoImplicit false
set_option relaxedAutoImplicit false

namespace TargetHelp.Parser

structure Spec where
  moduleName : Text
  path : Text
  deriving DecidableEq, Repr

/-- Why a module is not there. -/
inductive ImportError where
  | missing (name : Text)
  /-- Something is looked for inside a module that holds no modules. -/
  | notPackage (name parent : Text)
  | broken (message : Text)
  deriving DecidableEq, Repr

def ImportError.message : ImportError → Text
  | .missing name => "No module named " ++ Text.quoted name
  | .notPackage name parent =>
    "No module named " ++ Text.quoted name ++ "; " ++ Text.quoted parent ++ " is not a package"
  | .broken message => message

inductive LoadError where
  | malformed (spec : Text)
  | notImported (moduleName : Text) (error : ImportError)
  | noMember (moduleName path : Text)
  | notCallable (spec : Text)
  deriving DecidableEq, Repr

def LoadError.message : LoadError → Text
  | .malformed spec =>
    "invalid parser spec " ++ Text.quoted spec ++ " (expected 'package.module:callable')"
  | .notImported moduleName error =>
    "cannot import parser module " ++ Text.quoted moduleName ++ ": " ++ error.message
  | .noMember moduleName path =>
    "parser module " ++ Text.quoted moduleName ++ " has no attribute " ++ Text.quoted path
  | .notCallable spec => "parser " ++ Text.quoted spec ++ " is not callable"

def Spec.parse (spec : Text) : Except LoadError Spec :=
  match Text.splitFirst ':' spec with
  | (moduleName, some path) =>
    if moduleName.isEmpty ∨ path.isEmpty then .error (.malformed spec)
    else .ok ⟨moduleName, path⟩
  | (_, none) => .error (.malformed spec)

end TargetHelp.Parser
