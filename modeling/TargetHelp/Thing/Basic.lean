import TargetHelp.Thing.Member
import TargetHelp.Thing.Parameters

/-!
# Things

What names lead to besides values: types and what they hold, methods bound to something, functions,
modules. Types are known by their keys, so that things need not hold them. Of some things no more is
known than their type.
-/

set_option autoImplicit false
set_option relaxedAutoImplicit false

namespace TargetHelp

/-- A function that is not built in. -/
structure Function where
  /-- The module that it was defined in. -/
  home : Text
  /-- The name that leads to it in its module. -/
  name : Text
  parameters : Parameters
  isDescribed : Bool := true
  /-- Whether it shares variables with the place that it was defined at. -/
  hasClosure : Bool := false
  /-- The name of the function around which it is wrapped. -/
  wrapped? : Option Text := none
  /-- What it does with the arguments of a parser, if it takes so many. -/
  reply : Reply
  /-- What it does with them behind the thing that it is bound to. -/
  boundReply : Reply := reply

/-- A name for a type, which cannot make values. -/
structure Alias where
  /-- The key of the type of the alias. -/
  type : Text
  title : Text
  /-- What it contains, as it shows it. -/
  arguments : Text := []
  /-- The key of the type that it stands for. -/
  origin? : Option Text := none
  /-- What it says when it is called, unless it does what it stands for. -/
  reply? : Option Reply

/-- Whether an alias is named by what it stands for alone. -/
def Alias.isUnnamed (a : Alias) : Bool := a.origin?.isNone && !a.arguments.isEmpty

/-- The name of a member behind that of what it belongs to, if that has one. -/
def Member.nameBehind (m : Member) : Option Text → Text
  | some front => front ++ CodePoint.ofChar '.' :: m.name
  | none => m.name

inductive Thing where
  | value (v : Json)
  | tuple (items : List Thing)
  | type (key : Text)
  /-- A type of containers with what it contains. -/
  | keyed (origin : Text) (key : Json)
  /-- A member as its type holds it. -/
  | held (owner : Text) (member : Member)
  /-- A member of something. -/
  | bound (self : Thing) (owner : Text) (member : Member)
  /-- The table of what a type holds. -/
  | table (type : Text)
  | function (f : Function)
  | method (f : Function) (self : Thing)
  | classWise (f : Function)
  | static (inner : Thing)
  /-- A member that a function computes, with the key of its type, whether it can be set, and what
  it does for a source. -/
  | property (type : Text) (getter : Function) (isWritable : Bool) (reply : Reply)
  /-- A built-in function of a module. -/
  | builtin (home name : Text) (reply : Reply)
  | alias (a : Alias)
  | module (name : Text)
  /-- How a module was found. -/
  | spec (module : Text)
  /-- One of the values that a type enumerates. -/
  | choice (type name : Text) (v : Json)
  /-- A thing of which only the type is known. -/
  | instance (type : Text)

namespace Thing

def ofText (t : Text) : Thing := value (.str t)

def ofText? (t? : Option Text) : Thing :=
  match t? with
  | some t => ofText t
  | none => value .null

/-- The key of the type of what a type holds. -/
def heldTypeKey : MemberSort → Text
  | .slot => "wrapper_descriptor"
  | .method => "method_descriptor"
  | .classMethod => "classmethod_descriptor"
  | .constructor | .static => "builtin_function_or_method"
  | .attribute => "getset_descriptor"
  | .field => "member_descriptor"

/-- Whether no more is known of a thing than its type. -/
def isKnownByType : Thing → Bool
  | .instance _ => true
  | _ => false

/-- Whether a thing stands before what something has itself under the same name. -/
def isLeading : Thing → Bool
  | held _ m => m.sort = .attribute || m.sort = .field
  | property _ _ _ _ => true
  | _ => false

end Thing

end TargetHelp
