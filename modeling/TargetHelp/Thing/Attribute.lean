import TargetHelp.Template.Basic
import TargetHelp.Thing.Display

/-!
# Following names

`member` follows a name from a thing and `item` a key. A name is looked up in the type of the thing
and among what the thing has itself, and what the type holds is bound to the thing: a method becomes
a method of the thing, an attribute becomes its value. A type looks a name up in its own lineage as
well, where it finds members as types hold them.
-/

set_option autoImplicit false
set_option relaxedAutoImplicit false

namespace TargetHelp.Catalogue

/-! ### Attributes -/

/-- The parts of an integer. -/
def integerPart? (n : Int) (name : Text) : Option Thing :=
  if name = "real" ∨ name = "numerator" then some (.value (.int n))
  else if name = "imag" then some (.value (.int 0))
  else if name = "denominator" then some (.value (.int 1))
  else none

/-- The attributes of a value. -/
def valuePart? (v : Json) (name : Text) : Option Thing :=
  match v with
  | .float x =>
    if name = "real" then some (.value (.float x))
    else if name = "imag" then some (.value (.float (.finite false 0 0)))
    else none
  | v => v.integer?.bind fun n => integerPart? n name

/-- What a type says about itself. -/
def typePart? (catalogue : Catalogue) (t : ValueType) (name : Text) : Option Thing :=
  if name = "__name__" then some (.ofText (ValueType.lastName t.name))
  else if name = "__qualname__" then some (.ofText t.name)
  else if name = "__module__" then some (.ofText t.home)
  else if name = "__doc__" then
    match t.description with
    | some description => some (.ofText description)
    | none => t.own? name
  else if name = "__text_signature__" then some (.ofText? t.signature)
  else if name = "__mro__" then
    some (.tuple ((catalogue.lineage t.key).map fun t => .type t.key))
  else if name = "__bases__" then some (.tuple ((t.above.take 1).map .type))
  else if name = "__base__" then
    match t.above with
    | [] => some (.value .null)
    | parent :: _ => some (.type parent)
  else if name = "__dict__" then some (.table t.key)
  else if name = "__annotations__" then
    if t.tellsHome then some (.instance "dict") else none
  else if name = "__abstractmethods__" then t.stated? name
  else some (((Fields.get? name t.sizes).map .value).getD (.instance "int"))

/-- What a member says about itself, bound or not; `front?` is the name before its own. -/
def memberPart? (front? : Option Text) (owner : Text) (m : Member) (name : Text) : Option Thing :=
  if name = "__name__" then some (.ofText m.name)
  else if name = "__qualname__" then
    some (.ofText (m.nameBehind front?))
  else if name = "__objclass__" then some (.type owner)
  else if name = "__doc__" then some (.ofText? m.description)
  else if name = "__text_signature__" then some (.ofText? m.signature)
  else none

/-- The name of the type before that of a bound member. A method of a module has none. -/
def boundFront? (catalogue : Catalogue) (self : Thing) (owner : Text) (m : Member) :
    Option Text :=
  match m.sort, self with
  | .slot, _ => some (catalogue.typeOf owner).name
  | _, .module _ => none
  | _, .type key => some (catalogue.typeOf key).name
  | _, self => some (catalogue.typeOf (catalogue.typeKey self)).name

def boundPart? (catalogue : Catalogue) (self : Thing) (owner : Text) (m : Member) (name : Text) :
    Option Thing :=
  if name = "__self__" then some (if m.sort = .static then .value .null else self)
  else if name = "__module__" then some (.value .null)
  else memberPart? (catalogue.boundFront? self owner m) owner m name

/-- What a built-in function says about itself. One of no module has no home. -/
def namedPart? (home name part : Text) : Option Thing :=
  if part = "__name__" ∨ part = "__qualname__" then some (.ofText name)
  else if part = "__module__" then some (if home.isEmpty then .value .null else .ofText home)
  else if part = "__self__" then some (if home.isEmpty then .value .null else .module home)
  else none

/-- What a function says about itself. -/
def functionPart? (f : Function) (name : Text) : Option Thing :=
  if name = "__name__" then some (.ofText (ValueType.lastName f.name))
  else if name = "__qualname__" then some (.ofText f.name)
  else if name = "__module__" then some (.ofText f.home)
  else if name = "__doc__" then
    some (if f.isDescribed then .instance "str" else .value .null)
  else if name = "__defaults__" then
    some (if f.parameters.optional.isEmpty ∨ f.wrapped?.isSome then .value .null
      else .instance "tuple")
  else if name = "__kwdefaults__" then
    some (if f.parameters.namedOptional.isEmpty ∨ f.wrapped?.isSome then .value .null
      else .instance "dict")
  else if name = "__closure__" then
    some (if f.hasClosure then .instance "tuple" else .value .null)
  else if name = "__code__" then some (.instance "code")
  else some (.instance "dict")

/-- The function around which another one is wrapped. -/
def wrappedIn (f : Function) (name : Text) : Thing :=
  .function { f with name, hasClosure := false, wrapped? := none }

/-- The attributes of things of which only the type is known, by what type they are. -/
def knownParts : List (Text × List Text) := [
  ("str", ["__name__", "__qualname__", "__module__", "__doc__", "__text_signature__", "co_name",
    "co_qualname", "co_filename", "encoding", "errors"]),
  ("int", ["real", "imag", "numerator", "denominator", "co_argcount", "co_posonlyargcount",
    "co_kwonlyargcount", "co_nlocals", "co_stacksize", "co_flags", "co_firstlineno"]),
  ("bool", ["closed", "line_buffering", "write_through", "__isabstractmethod__"]),
  ("NoneType", ["__weakref__", "newlines"]),
  ("tuple", ["co_consts", "co_names", "co_varnames", "co_freevars", "co_cellvars", "args"]),
  ("bytes", ["co_code", "_co_code_adaptive", "co_linetable", "co_lnotab", "co_exceptiontable"]),
  ("dict", ["__dict__", "__globals__", "__builtins__", "__annotations__"]),
  ("_io.BufferedReader", ["buffer"])]

def instancePart (name : Text) : Thing :=
  match knownParts.find? fun part => part.2.contains name with
  | some (type, _) => .instance type
  | none => .instance "object"

/-- The key of the type of what is no type, but stands for one once it contains others. -/
def formKey : Text := "typing._SpecialForm"

/-- What an alias stands for. An alias that contains others and stands for no type stands for what
is filled with them; one that contains nothing may stand for nothing. -/
def aliasOrigin? (a : Alias) : Option Thing :=
  match a.origin? with
  | some origin => some (.type origin)
  | none =>
    if a.arguments.isEmpty then none else some (.alias { a with type := formKey, arguments := [] })

/-- What fills a form with what it is to contain. -/
def formFunction (a : Alias) : Function where
  home := "typing"
  name := a.title
  parameters := .ofText "self,parameters"
  reply := .gives "typing._GenericAlias"

/-- What an alias has itself. -/
def aliasMember? (a : Alias) (name : Text) : Option Thing :=
  if name = "__name__" ∨ name = "__qualname__" then some (.ofText a.title)
  else if name = "_name" then some (if a.isUnnamed then .value .null else .ofText a.title)
  else if name = "__doc__" then some (.instance "str")
  else if name = "__origin__" then aliasOrigin? a
  else if a.type = formKey then
    if name = "_getitem" then some (.function (formFunction a)) else none
  else if name = "_inst" then some (.value (.bool (!a.origin?.any fun key => !key.contains '.')))
  else if a.arguments.isEmpty then
    if name = "_nparams" then some (.instance "int")
    else if name = "__slots__" then some (.value .null)
    else none
  else if name = "__args__" ∨ name = "__parameters__" then some (.instance "tuple")
  else if name = "_paramspec_tvars" then some (.instance "bool")
  else if name = "__slots__" then some (.value .null)
  else none

/-- What a computed member says about itself. -/
def propertyPart? (getter : Function) (isWritable : Bool) (name : Text) : Option Thing :=
  if name = "fget" then some (.function getter)
  else if name = "fset" then
    some (if isWritable then .function { getter with parameters := .ofText "self,value" }
      else .value .null)
  else if name = "fdel" then some (.value .null)
  else if name = "__doc__" then functionPart? getter name
  else none

/-- The value of an attribute or of a field of a thing. -/
def partOf (catalogue : Catalogue) (thing : Thing) (name : Text) : Option Thing :=
  if name = "__class__" then some (.type (catalogue.typeKey thing))
  else
    match thing with
    | .value v => valuePart? v name
    | .type key => catalogue.typePart? (catalogue.typeOf key) name
    | .keyed origin key =>
      if name = "__origin__" then some (.type origin)
      else if name = "__args__" then some (.tuple [.value key])
      else if name = "__parameters__" then some (.tuple [])
      else if name = "__unpacked__" then some (.value (.bool false))
      else some (.value .null)
    | .held owner m => memberPart? (some (catalogue.typeOf owner).name) owner m name
    | .bound self owner m => catalogue.boundPart? self owner m name
    | .function f => functionPart? f name
    | .method f self =>
      if name = "__func__" then some (.function f)
      else if name = "__self__" then some self
      else functionPart? f name
    | .classWise f =>
      if name = "__func__" ∨ name = "__wrapped__" then some (.function f)
      else functionPart? f name
    | .static inner =>
      if name = "__func__" ∨ name = "__wrapped__" then some inner
      else if name = "__dict__" then some (.value (.obj []))
      else some (.value (.bool false))
    | .builtin home title _ => (namedPart? home title name).or (some (instancePart name))
    | .alias a => (aliasMember? a name).or (some (instancePart name))
    | .property _ getter isWritable _ =>
      (propertyPart? getter isWritable name).or (some (instancePart name))
    | .instance type => (catalogue.value? type name).or (some (instancePart name))
    | .module _ | .spec _ | .choice _ _ _ | .tuple _ | .table _ => some (instancePart name)

/-! ### Members -/

/-- What loads a module: a type, or a value that knows the file of the module. -/
def loaderOf : Option Text → Thing
  | some key => .type key
  | none => .instance "_frozen_importlib_external.SourceFileLoader"

/-- What every module has; one with a file of its own has more. -/
def moduleParts (home : Text) (loader? : Option Text) : Fields Thing :=
  ("__name__", .ofText home) :: ("__doc__", .instance "str") ::
  ("__package__", .instance "str") :: ("__spec__", .spec home) ::
  ("__loader__", loaderOf loader?) ::
    if loader?.isSome then []
    else [("__file__", .instance "str"), ("__cached__", .instance "str"),
      ("__builtins__", .instance "dict")]

/-- What is known of how a module was found. -/
def specParts (m : Module) : Fields Thing := [
  ("name", .ofText m.name), ("origin", .instance "str"), ("loader", loaderOf m.loader?),
  ("loader_state",
    if m.loader? = some "_frozen_importlib.FrozenImporter" then .instance "types.SimpleNamespace"
    else .value .null),
  ("submodule_search_locations", if m.isPackage then .instance "list" else .value .null),
  ("_set_fileattr", .instance "bool"), ("_initializing", .instance "bool"),
  ("_uninitialized_submodules", .instance "list"),
  ("_cached", if m.loader?.isSome then .value .null else .instance "str")]

/-- What a module holds, the modules inside it included. -/
def moduleMember? (catalogue : Catalogue) (home name : Text) : Option Thing :=
  let inner := ValueType.behind home name
  match catalogue.module? home with
  | some { members := .ok members, isPackage, loader?, .. } =>
    match Fields.get? name members with
    | some found => some found
    | none =>
      if (catalogue.module? inner).isSome then some (.module inner)
      else if isPackage ∧ name = "__path__" then some (.instance "list")
      else Fields.get? name (moduleParts home loader?)
  | _ => Fields.get? name (moduleParts home none)

/-- Whether a name is part of the language's own protocol. -/
def isProtocol (name : Text) : Bool :=
  Text.startsWith "__" name && Text.startsWith "__" name.reverse

/-- What a thing has itself, whatever its type. -/
def ownMember? (catalogue : Catalogue) (thing : Thing) (name : Text) : Option Thing :=
  match thing with
  | .function f =>
    if name = "__wrapped__" then f.wrapped?.map (wrappedIn f) else none
  | .module home => catalogue.moduleMember? home name
  | .spec home => (catalogue.module? home).bind fun m => Fields.get? name (specParts m)
  | .choice type title v =>
    if name = "value" ∨ name = "_value_" then some (.value v)
    else if name = "name" ∨ name = "_name_" then some (.ofText title)
    else if name = "__objclass__" then some (.type type)
    else if name = "_sort_order_" then some (.instance "int")
    else none
  | .instance type => catalogue.value? type name
  | .alias a => aliasMember? a name
  | _ => none

/-- The fault of a name that leads nowhere. -/
def noMember (catalogue : Catalogue) (thing : Thing) (name : Text) : Template.Fault :=
  match thing with
  | .type key => .noTypeMember (catalogue.typeOf key).label name
  | thing => .noMember (catalogue.typeLabel thing) name

/-- What is held under a name by the type of a thing, bound to the thing. -/
def bind (catalogue : Catalogue) (thing : Thing) (name : Text) (found : Thing) :
    Except Template.Fault Thing :=
  match found with
  | .held owner m =>
    match m.sort with
    | .attribute | .field =>
      match catalogue.partOf thing name with
      | some part => .ok part
      | none => .error (catalogue.noMember thing name)
    | .classMethod => .ok (.bound (.type (catalogue.typeKey thing)) owner m)
    | _ => .ok (.bound thing owner m)
  | .function f => .ok (.method f thing)
  | .classWise f => .ok (.method f (.type (catalogue.typeKey thing)))
  | .static inner => .ok inner
  | .property type _ _ _ => .ok (.instance type)
  | found => .ok found

/-- A member of a thing, by its type and by what it has itself. -/
def instanceMember (catalogue : Catalogue) (thing : Thing) (name : Text) :
    Except Template.Fault Thing :=
  match catalogue.lookUp (catalogue.typeKey thing) name, catalogue.ownMember? thing name with
  | some found, some own => if found.isLeading then catalogue.bind thing name found else .ok own
  | some found, none => catalogue.bind thing name found
  | none, some own => .ok own
  | none, none => .error (catalogue.noMember thing name)

/-- What a type holds, as the type with a key gives it. -/
def unbound (key : Text) : Thing → Thing
  | .held owner m => if m.sort = .classMethod then .bound (.type key) owner m else .held owner m
  | .classWise f => .method f (.type key)
  | .static inner => inner
  | found => found

/-- A member of a type: what it says about itself, what its values have, or what every type has. -/
def typeMember (catalogue : Catalogue) (key name : Text) : Except Template.Fault Thing :=
  let metatype := (catalogue.typeOf key).metatype
  match catalogue.lookUp metatype name, catalogue.lookUp key name with
  | some found, some own =>
    if found.isLeading then catalogue.bind (.type key) name found else .ok (unbound key own)
  | some found, none => catalogue.bind (.type key) name found
  | none, some own => .ok (unbound key own)
  | none, none => .error (catalogue.noMember (.type key) name)

/-- What a type of containers says about itself, rather than its type alone. -/
def keyedParts : List Text := [
  "__class__", "__origin__", "__args__", "__parameters__", "__unpacked__",
  "__typing_unpacked_tuple_args__", "__mro_entries__", "__reduce__", "__reduce_ex__", "__copy__",
  "__deepcopy__"]

/-- What a name leads to from a thing. -/
def member (catalogue : Catalogue) (thing : Thing) (name : Text) : Except Template.Fault Thing :=
  match thing with
  | .type key => catalogue.typeMember key name
  | .keyed origin key =>
    if keyedParts.contains name then catalogue.instanceMember (.keyed origin key) name
    else catalogue.typeMember origin name
  | .method f self =>
    match catalogue.instanceMember (.method f self) name with
    | .ok found => .ok found
    | .error _ => catalogue.instanceMember (.function f) name
  | .alias a =>
    match catalogue.instanceMember (.alias a) name with
    | .ok found => .ok found
    | .error fault =>
      match (aliasOrigin? a).filter fun _ => !isProtocol name with
      | some (.type origin) => catalogue.typeMember origin name
      | some form => catalogue.instanceMember form name
      | none => .error fault
  | thing => catalogue.instanceMember thing name

/-! ### Items -/

/-- A type with a key, which only types of containers and the type of types have. -/
def typeItem (catalogue : Catalogue) (type : Text) (key : Json) : Except Template.Fault Thing :=
  if type = "type" ∨ (catalogue.lookUp type "__class_getitem__").isSome then .ok (.keyed type key)
  else .error (.typeNotSubscriptable (catalogue.typeOf type).label)

/-- What a type holds at a key. -/
def tableItem (catalogue : Catalogue) (type key : Text) : Except Template.Fault Thing :=
  match (catalogue.typeOf type).own? key with
  | some found => .ok found
  | none => .error (.missingName key)

/-- What a key leads to from a thing; digits are a position as well as a key. -/
def item (catalogue : Catalogue) (thing : Thing) (key : Text) (position? : Option Nat) :
    Except Template.Fault Thing :=
  match thing, position? with
  | .value v, _ => (v.item key position?).map .value
  | .type t, some i => catalogue.typeItem t (.int i)
  | .type t, none => catalogue.typeItem t (.str key)
  | .tuple items, some i =>
    match items[i]? with
    | some found => .ok found
    | none => .error .tupleRange
  | .tuple _, none => .error .tupleIndex
  | .table _, some i => .error (.missingNumber i)
  | .table type, none => catalogue.tableItem type key
  | .keyed origin key, _ => .error (.notGeneric (displayKeyed origin key))
  | thing, _ => .error (.notSubscriptable (catalogue.typeLabel thing))

end TargetHelp.Catalogue
