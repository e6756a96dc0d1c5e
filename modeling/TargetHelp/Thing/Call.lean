import TargetHelp.Thing.Attribute

/-!
# Calling things

What a thing does when it is called as a parser. A type makes a value, which is no sequence of
nodes; a member that is bound to nothing wants a value of its type first, which a source is not.
-/

set_option autoImplicit false
set_option relaxedAutoImplicit false

namespace TargetHelp.Catalogue

/-- What a function does with so many arguments, the last two of which are those of a parser. -/
def callFunction (f : Function) (given : Nat) (reply : Reply) : Reply :=
  match f.parameters.fault? f.name given with
  | some fault => .fails fault
  | none => reply

/-- What a type does that makes values by what it holds for that. -/
def constructOwn (catalogue : Catalogue) (t : ValueType) : Reply :=
  match catalogue.lookUp t.key "__init__" with
  | some (.function f) => callFunction f 3 (.gives t.label)
  | some (.held owner _) =>
    if owner = "object" then .refuses (t.label ++ "() takes no arguments") else .gives t.label
  | _ => .gives t.label

def construct (catalogue : Catalogue) (key : Text) : Reply :=
  let t := catalogue.typeOf key
  t.construct.getD (catalogue.constructOwn t)

/-! ### Members bound to nothing -/

/-- The fault of a member for a source, which it does not apply to. -/
def notApplicable (owner : ValueType) (m : Member) : Reply :=
  .refuses ("descriptor '" ++ m.name ++ "' for '" ++ owner.label ++
    "' objects doesn't apply to a '" ++ streamType ++ "' object")

def comparisons : List Text := ["__eq__", "__ge__", "__gt__", "__le__", "__lt__", "__ne__"]

/-- The fault of a source without a member that is named by the directory. -/
def noNamedMember : Reply := fun source directory =>
  Reply.fails (.noMember streamType directory.plain) source directory

/-- What a member of every type does with a source; the directory is its operand. -/
def callOnSource (m : Member) : Reply :=
  if comparisons.contains m.name then .gives "NotImplementedType"
  else if m.name = "__getattribute__" ∨ m.name = "__delattr__" then noNamedMember
  else if m.name = "__setattr__" then .refuses " expected 2 arguments, got 1"
  else if m.name = "__init__" then
    .refuses "object.__init__() takes exactly one argument (the instance to initialize)"
  else if m.name = "__format__" then
    .refuses ("unsupported format string passed to " ++ streamType ++ ".__format__")
  else if m.name = "__reduce_ex__" then
    .refuses "'str' object cannot be interpreted as an integer"
  else m.takes.reply (ValueType.behind "object" m.name) m.name 1

def callHeld (catalogue : Catalogue) (owner : Text) (m : Member) : Reply :=
  let t := catalogue.typeOf owner
  match m.sort with
  | .slot =>
    if owner = "object" then callOnSource m
    else .refuses ("descriptor '" ++ m.name ++ "' requires a '" ++ t.label ++
      "' object but received a '" ++ streamType ++ "'")
  | .method => if owner = "object" then callOnSource m else notApplicable t m
  | _ => .refuses ("descriptor '" ++ m.name ++ "' for type '" ++ t.label ++
      "' needs a type, not a '" ++ streamType ++ "' as arg 2")

/-! ### Bound members -/

/-- What a thing becomes that is bound to a source. -/
def bindToSource (catalogue : Catalogue) (thing : Thing) : Reply :=
  match thing with
  | .held owner m =>
    if m.sort = .classMethod then
      .refuses ("descriptor '" ++ m.name ++ "' for type '" ++ (catalogue.typeOf owner).label ++
        "' needs a type, not a 'str' as arg 2")
    else if owner ≠ "object" then notApplicable (catalogue.typeOf owner) m
    else if m.sort = .slot then .gives "method-wrapper"
    else if m.sort = .method then .gives "builtin_function_or_method"
    else .gives "type"
  | .static inner => .gives (catalogue.typeLabel inner)
  | .property _ _ _ reply => reply
  | _ => .gives "method"

/-- What is said where a thing is to be set in a source. -/
def setInSource (catalogue : Catalogue) (thing : Thing) : Reply :=
  match thing with
  | .held owner m => notApplicable (catalogue.typeOf owner) m
  | _ => .fails (.raised Kind.member [.str "property of 'TextIOWrapper' object has no setter"])

/-- What a text or another thing consists of, where nodes are wanted. -/
def givesThing : Thing → Reply
  | .value v => .givesParts v
  | _ => .givesMany "str"

/-- What a bound member does, but for one that calls what it is bound to. -/
def callBound (catalogue : Catalogue) (self : Thing) (owner : Text) (m : Member) : Reply :=
  if m.sort = .slot ∧ m.name = "__get__" then catalogue.bindToSource self
  else if m.sort = .slot ∧ m.name = "__set__" then catalogue.setInSource self
  else
    match m.takes with
    | .itself => givesThing self
    | takes =>
      takes.reply (m.nameBehind (catalogue.boundFront? self owner m)) m.name 2

/-- The methods of types by which they make values. -/
def makers : List Text := ["__call__", "_create_"]

def callAlias (catalogue : Catalogue) (a : Alias) : Reply :=
  a.reply?.getD (catalogue.construct (a.origin?.getD []))

def call (catalogue : Catalogue) : Thing → Reply
  | .type key => catalogue.construct key
  | .keyed origin _ => catalogue.construct origin
  | .held owner m => catalogue.callHeld owner m
  | .bound self owner m =>
    if m.sort = .slot ∧ m.name = "__call__" then call catalogue self
    else catalogue.callBound self owner m
  | .function f => callFunction f 2 f.reply
  | .method f self =>
    match self, makers.contains (ValueType.lastName f.name) with
    | .type key, true => catalogue.construct key
    | .alias a, true => catalogue.callAlias a
    | _, _ => callFunction f 3 f.boundReply
  | .static inner => call catalogue inner
  | .builtin _ _ reply => reply
  | .alias a => catalogue.callAlias a
  | thing =>
    .refuses ("'" ++ catalogue.typeLabel thing ++ "' object is not callable")

end TargetHelp.Catalogue
