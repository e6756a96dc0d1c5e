import TargetHelp.Thing.Call
import TargetHelp.Thing.Listing.State

/-!
# Entries of a listing

How functions, classes, records, aliases and the members of built-in types are written. What a
callable replies is not written, but looked up by its module and its path.
-/

set_option autoImplicit false
set_option relaxedAutoImplicit false

namespace TargetHelp.Listing

/-! ### Functions -/

/-- The mark behind the path of a function whose reply is that of one bound to something. -/
def boundMark : CodePoint := '+'

/-- A function as it is written: its path, its parameters in parentheses, a mark if it is not
described, a mark if it has a closure, and a mark if it is wrapped around another one, with the name
of that. The parameter of its sort is a member that it wants of a source. -/
def functionOf (replies : Replies) (home parameter word : Text) : Function :=
  let (name, rest?) := Text.splitFirst '(' word
  let reply := (replies home name).getD
    (if parameter.isEmpty then .gives "NoneType" else .fails (.noMember streamType parameter))
  let (parameters, marks?) := Text.splitFirst ')' (rest?.getD [])
  let (marks, wrapped?) := Text.splitFirst '@' (marks?.getD [])
  {
    home
    name
    parameters := .ofText parameters
    isDescribed := !marks.contains '!'
    hasClosure := wrapped?.isSome || marks.contains '^'
    wrapped? := wrapped?.map fun wrapped => if wrapped.isEmpty then name else wrapped
    reply
    boundReply := (replies home (name ++ [boundMark])).getD reply }

/-- A computed member as it is written: its name, marks if it is not described and if it can be set,
and the key of its type. -/
def propertyOf (replies : Replies) (home path parameter rest : Text) : Thing :=
  let (marks, type?) := Text.splitFirst '=' rest
  let getter : Function := {
    home
    name := path
    parameters := .ofText "self"
    isDescribed := !marks.contains '!'
    reply := .gives "NoneType" }
  let reply := (replies home path).getD (.fails (.noMember streamType parameter))
  .property (type?.getD "object") getter (marks.contains '&') reply

/-! ### Members of built-in types -/

/-- What a built-in callable takes: nothing, one argument, names only, or, behind a sign, so many
arguments. -/
def takesOf (name parameter : Text) : Takes :=
  let count (t : Text) : Nat := (Text.decimalValue? (t.getLastD '0')).getD 0
  let expects (t front : Text) : Takes :=
    .replies (.refuses
      (name ++ " expected " ++ front ++ Text.arguments (count t) ++ ", got 2"))
  match parameter with
  | [] => .replies (.gives "NoneType")
  | sign :: rest =>
    if sign = '<' then .atMost (count rest)
    else if sign = '>' then expects rest "at least "
    else if sign = '=' then expects rest []
    else if sign = '_' then .named (count rest)
    else if sign = '1' then .one
    else if sign = 'n' then .namesOnly
    else .nothing

/-- A member of a built-in type as it is written, with a mark if it is not described and one if it
has no signature. -/
def memberOf (sort : MemberSort) (replies : Replies) (home owner parameter word : Text) : Member :=
  let name : Text := List.filter (fun c : CodePoint => c ≠ '!' ∧ c ≠ '?') word
  let takes := takesOf name parameter
  {
    name
    sort
    takes := ((replies home (ValueType.behind owner name)).map .replies).getD takes
    signature := if word.contains '?' then none else some []
    description := if word.contains '!' then none else some [] }

/-- A slot with its reply, unless it replies as such slots do. -/
def slotOf (replies : Replies) (home owner word : Text) : Member :=
  let slot := (Slot.all.find? fun slot => slot.name = word).getD { name := word, sort := .slot }
  match replies home (ValueType.behind owner word) with
  | some reply => slot.replying reply
  | none => slot

/-- What makes the values of the type with a label. -/
def makerOf (replies : Replies) (home owner word : Text) : Member :=
  match replies home (ValueType.behind owner word) with
  | some reply => Member.constructor.replying reply
  | none => ValueType.maker (ValueType.keyOf home owner)

/-- The members of built-in types by the sorts of words. -/
def memberSorts : List (Text × MemberSort) := [
  ("slot", .slot), ("method", .method), ("ofType", .classMethod), ("loose", .static),
  ("maker", .constructor), ("field", .field), ("computed", .attribute)]

/-- Adds a member of a built-in type. The parameter of the sort of a field tells the key of its
type. -/
def addMember (replies : Replies) (sort : MemberSort) (state : State) (word : Text) : State :=
  let owner := state.owner
  let key := state.classKey owner
  let m :=
    match sort with
    | .slot => slotOf replies state.home owner word
    | .constructor => makerOf replies state.home owner word
    | sort => memberOf sort replies state.home owner state.parameter word
  let state := (ValueType.holding key [m]).foldl (fun state held => state.add held.1 held.2) state
  let isTyped := (sort = .field ∨ sort = .attribute) ∧ !state.parameter.isEmpty
  if isTyped then state.addToValues m.name (.instance state.parameter) else state

/-! ### Classes -/

/-- The types above a type with these bases: each with those above it, and those that several share
behind the last. -/
def aboveOf (catalogue : Catalogue) (bases : List Text) : List Text :=
  (bases.flatMap fun base => base :: (catalogue.typeOf base).above).foldr
    (fun key keys => if keys.contains key then keys else key :: keys) []

/-- What the values of a class have unless those of the types above it have it already. -/
def valueMembers : List (Member × Text) := [
  (.computed "__dict__" "dictionary for instance variables (if defined)", "__dictoffset__"),
  (.computed "__weakref__" "list of weak references to the object (if defined)",
    "__weakrefoffset__")]

/-- Whether the values of a type have something, for which there is an offset in the type. -/
def hasMember (catalogue : Catalogue) (key name offset : Text) : Bool :=
  (catalogue.lookUp key name).isSome ||
    ((Fields.get? offset (catalogue.typeOf key).sizes).bind Json.integer?).any (· ≠ 0)

/-- The mark behind a class whose values have nothing but what it lists. -/
def bareMark : CodePoint := '!'

/-- A type of the module. The parameter of its sort tells the keys of its bases and, behind a slash,
that of its own type. A class is a type that a program defines. -/
def typeOf (isDefined : Bool) (replies : Replies) (state : State) (word : Text) : ValueType :=
  let name := (Text.splitFirst bareMark word).1
  let (bases, metatype?) := Text.splitFirst '/' state.parameter
  let bases : List Text := if bases.isEmpty then ["object"] else Text.splitAll ',' bases
  let inherited := (bases.head?.map fun base => (state.catalogue.typeOf base).metatype).getD "type"
  let added := valueMembers.filter fun (m, offset) =>
    !(word.contains bareMark ||
      bases.any fun base => hasMember state.catalogue base m.name offset)
  {
    name
    home := state.home
    above := aboveOf state.catalogue bases
    metatype := metatype?.getD inherited
    isDefined
    members :=
      if isDefined then ValueType.holding (state.classKey name) (added.map Prod.fst) else []
    construct := replies state.home name }

def addType (isDefined : Bool) (replies : Replies) (state : State) (word : Text) : State :=
  let t := typeOf isDefined replies state word
  let state := state.addPath t.name (.type t.key)
  { state with catalogue.types := t :: state.catalogue.types }

/-! ### Records -/

/-- What a record that cannot change says to the removal of a field. -/
def keepingReply (fields : List Text) : Reply := fun source directory =>
  if fields.contains directory.plain then
    Reply.fails (.raised (Kind.ofLabel "FrozenInstanceError")
      [.str ("cannot delete field " ++ Text.quoted directory.plain)]) source directory
  else
    Reply.refuses "super(type, obj): obj must be an instance or subtype of type" source directory

/-- The words for the functions of a record, by which it is made, shown and compared. -/
def recordWords (name fields marks : Text) (isFrozen : Bool) : List Text :=
  let word (title parameters marks : Text) : Text :=
    ValueType.behind name title ++ "(self" ++ parameters ++ ")!" ++ marks
  word "__init__" (if fields.isEmpty then [] else CodePoint.ofChar ',' :: fields) marks ::
  word "__repr__" [] "@__create_fn__.<locals>.__repr__" ::
  word "__eq__" ",other" [] ::
    if isFrozen then
      [word "__hash__" [] [], word "__setattr__" ",name,value" "^", word "__delattr__" ",name" "^"]
    else []

/-- The replies of the functions of a record. -/
def recordReplies (replies : Replies) (fields : List Text) : Replies := fun home path =>
  let title := ValueType.lastName path
  (replies home path).or <|
    if title = "__eq__" then some (.gives "NotImplementedType")
    else if title = "__delattr__" then some (keepingReply fields)
    else none

/-- What a record holds besides its functions. -/
def recordParts (isFrozen : Bool) : Fields Thing :=
  ("__match_args__", .instance "tuple") :: ("__dataclass_fields__", .instance "dict") ::
  ("__dataclass_params__", .instance "dataclasses._DataclassParams") ::
    if isFrozen then [] else ValueType.unhashable

/-- A record of the module, a class with a function for each of its operations. It is written as its
name, its fields in parentheses, and the marks of the function that makes it. -/
def addRecord (replies : Replies) (state : State) (word : Text) : State :=
  let isFrozen := decide (state.parameter = "frozen")
  let (name, rest?) := Text.splitFirst '(' word
  let (fields, marks?) := Text.splitFirst ')' (rest?.getD [])
  let names := (Text.splitAll ',' fields).map fun field => (Text.splitFirst '=' field).1
  let marks : Text := if isFrozen then "^" else marks?.getD []
  let functions := (recordWords name fields marks isFrozen).map
    (functionOf (recordReplies replies names) state.home [])
  let made := addType true replies { state with parameter := [] } name
  let made := functions.foldl (fun made f => made.addPath f.name (.function f)) made
  let made := (recordParts isFrozen).foldl
    (fun made (title, thing) => made.addToClass name title thing) made
  { made with parameter := state.parameter }

/-! ### Aliases -/

/-- What an alias says when it is called. One of a built-in type makes no values, and one of nothing
at all neither; any other does what it stands for. -/
def aliasReply? (home title : Text) : Option Text → Option Reply
  | none => some (.refuses ("Cannot instantiate " ++ ValueType.behind home title))
  | some origin =>
    if origin.contains '.' then none
    else some (.refuses
      ("Type " ++ title ++ " cannot be instantiated; use " ++ origin ++ "() instead"))

/-- An alias of the module. The parameter of its sort tells the key of its type. It is written as
its name, its title behind a mark if that is another one, with what it contains, and what it stands
for. -/
def addAlias (state : State) (name : Text) (origin? : Option Text) : State :=
  let (name, title?) := Text.splitFirst '@' name
  let (title, arguments?) := Text.splitFirst '[' (title?.getD name)
  let shown (arguments : Text) : Text :=
    CodePoint.ofChar '[' :: Text.replaceEach ',' ", " arguments
  state.add name (.alias {
    type := state.parameter
    title
    arguments := (arguments?.map shown).getD []
    origin?
    reply? := aliasReply? (state.catalogue.typeOf state.parameter).home title origin? })

/-! ### Further entries -/

/-- A built-in function. A mark stands behind one that belongs to no module. -/
def addBuiltin (replies : Replies) (state : State) (word : Text) : State :=
  let name := (Text.splitFirst '!' word).1
  let home : Text := if word.contains '!' then [] else state.home
  state.add name (.builtin home name ((replies state.home name).getD
    ((takesOf name state.parameter).reply (ValueType.behind home name) name 2)))

/-- One of the values that the class enumerates. The parameter of its sort tells whether it is a
number; the title of a second name stands behind a mark. -/
def addChoice (state : State) (name value : Text) : State :=
  let (name, title?) := Text.splitFirst '@' name
  let v : Json :=
    if state.parameter.isEmpty then .str value else .int ((Text.readInteger? value).getD 0)
  state.add name (.choice (state.classKey state.owner) (title?.getD name) v)

/-- A member of a value of a type, bound to it. -/
def addBound (state : State) (name title : Text) : State :=
  match state.catalogue.instanceMember (.instance state.parameter) title with
  | .ok found => state.add name found
  | .error _ => state

end TargetHelp.Listing
