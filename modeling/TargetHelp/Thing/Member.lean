import TargetHelp.Thing.Reply

/-!
# Members of types

What a type holds under a name: a slot, which stands for an operator or for a part of the language's
own protocol, a method, a method of the type itself, an attribute, or a field. `Takes` tells which
arguments a member takes, and so what it says when it is called as a parser.
-/

set_option autoImplicit false
set_option relaxedAutoImplicit false

namespace TargetHelp

/-- The sort of a member. -/
inductive MemberSort where
  | slot
  | method
  | classMethod
  /-- What makes the values of the type. -/
  | constructor
  /-- A method that is not bound to anything. -/
  | static
  | attribute
  | field
  deriving DecidableEq, Repr

/-- The arguments that a member takes. -/
inductive Takes where
  | nothing
  | one
  /-- No more than so many, by position. -/
  | atMost (most : Nat)
  /-- No more than so many, which may be named. -/
  | named (most : Nat)
  /-- None that is not named. -/
  | namesOnly
  /-- Just so many operands. -/
  | operands (count : Nat)
  /-- Any, in reply to which comes what it is called on. -/
  | itself
  | replies (reply : Reply)

structure Member where
  name : Text
  sort : MemberSort
  takes : Takes := .nothing
  signature : Option Text := none
  description : Option Text := none

/-- A number of arguments. -/
def Text.arguments (count : Nat) : Text :=
  Text.decimal count ++ (if count = 1 then " argument" else " arguments")

namespace Takes

/-- What is said to so many arguments, of a callable with its full name and its name. What comes in
reply to any arguments is not told here. -/
def reply (takes : Takes) (fullName name : Text) (given : Nat) : Reply :=
  let count := Text.decimal given
  match takes with
  | nothing => .refuses (fullName ++ "() takes no arguments (" ++ count ++ " given)")
  | one => .refuses (fullName ++ "() takes exactly one argument (" ++ count ++ " given)")
  | atMost most =>
    .refuses (name ++ " expected at most " ++ Text.arguments most ++ ", got " ++ count)
  | named most =>
    .refuses (name ++ "() takes at most " ++ Text.arguments most ++ " (" ++ count ++ " given)")
  | namesOnly => .refuses (name ++ "() takes no positional arguments")
  | operands wanted => .refuses ("expected " ++ Text.arguments wanted ++ ", got " ++ count)
  | itself => .givesMany "str"
  | replies reply => reply

end Takes

namespace Member

def given? (t : Text) : Option Text := if t.isEmpty then none else some t

def method (name : Text) (takes : Takes) (signature description : Text) : Member where
  name
  sort := .method
  takes
  signature := given? signature
  description := given? description

def classMethod (name : Text) (takes : Takes) (signature description : Text) : Member where
  name
  sort := .classMethod
  takes
  signature := given? signature
  description := given? description

def static (name : Text) (takes : Takes) (signature description : Text) : Member where
  name
  sort := .static
  takes
  signature := given? signature
  description := given? description

def computed (name description : Text) : Member where
  name
  sort := .attribute
  description := given? description

def field (name description : Text) : Member where
  name
  sort := .field
  description := given? description

/-- What makes the values of a type, which wants a type as its first argument. -/
def constructor : Member where
  name := "__new__"
  sort := .constructor
  signature := some "($type, *args, **kwargs)"
  description := some "Create and return a new object.  See help(type) for accurate signature."

/-- A member that replies in its own way. -/
def replying (m : Member) (reply : Reply) : Member := { m with takes := .replies reply }

/-- A member that refuses the arguments of a parser. -/
def refusing (m : Member) (message : Text) : Member := m.replying (.refuses message)

/-- How the types that hold members call them. -/
def sortName (m : Member) : Text :=
  match m.sort with
  | .slot => "slot wrapper"
  | .method | .classMethod | .constructor | .static => "method"
  | .attribute => "attribute"
  | .field => "member"

end Member

end TargetHelp
