import TargetHelp.Thing.Listing.Entry

/-!
# Listings

A listing describes modules in words. `/NAME` enters a module, and `~NAME` one that is not imported
by its name; a module that has been left can be entered again. `in:CLASS` tells that what follows is
in a class of the module, and `of:CLASS` that the values of the class have it; no class is meant
where none is named. `SORT:PARAMETER` tells what the words behind it are, up to the next such word:
functions with their parameters, classes, values of a type, members of other modules. Words are read
from left to right, so what is referred to stands before that.

What a callable replies is not listed, but looked up by its module and its path.
-/

set_option autoImplicit false
set_option relaxedAutoImplicit false

namespace TargetHelp.Listing

/-- The entry of a function under a name, as the thing that the sort makes of it. -/
def addFunction (replies : Replies) (make : Function → Thing) (state : State) (word : Text) :
    State :=
  let (name, rest?) := Text.splitFirst '(' word
  let path := state.pathOf name
  let written := path ++ (rest?.map fun rest => CodePoint.ofChar '(' :: rest).getD []
  state.addPath path (make (functionOf replies state.home state.parameter written))

/-- The entry of a function under another name than its own, as the thing that the sort makes of it.
The parameter of its sort tells its module unless it is this one. -/
def addNamed (replies : Replies) (make : Function → Thing) (state : State) (name written : Text) :
    State :=
  let home := if state.parameter.isEmpty then state.home else state.parameter
  state.add name (make (functionOf replies home [] written))

/-- The entry of what another module holds, or this one. The parameter of its sort tells which. -/
def addFrom (state : State) (name path : Text) : State :=
  let home := if state.parameter.isEmpty then state.home else state.parameter
  match state.find? home path with
  | some found => state.add name found
  | none => state

/-- The entry of a computed member with its marks. -/
def addProperty (replies : Replies) (state : State) (word : Text) : State :=
  let name : Text := List.takeWhile (fun c : CodePoint => c ≠ '!' ∧ c ≠ '&' ∧ c ≠ '=') word
  let path := state.pathOf name
  state.addPath path
    (propertyOf replies state.home path state.parameter (word.drop name.length))

/-- The entries that are a name with, behind an equals sign, what it is given. -/
def readAssignment (replies : Replies) (state : State) (word : Text) : State :=
  let (name, value?) := Text.splitFirst '=' word
  let value := value?.getD name
  let sort := state.sort
  if sort = "from" then addFrom state name value
  else if sort = "module" then state.add name (.module value)
  else if sort = "local" then addNamed replies .function state name value
  else if sort = "classWise" then addNamed replies .classWise state name value
  else if sort = "bound" then addBound state name value
  else if sort = "choice" then addChoice state name value
  else if sort = "text" then state.add name (.ofText (value?.getD []))
  else if sort = "alias" then addAlias state name value?
  else state

/-- The state after a word that is neither a module nor a sort. -/
def readEntry (replies : Replies) (state : State) (word : Text) : State :=
  let sort := state.sort
  if sort = "def" then addFunction replies .function state word
  else if sort = "static" then addFunction replies (fun f => .static (.function f)) state word
  else if sort = "own" then addFunction replies .classWise state word
  else if sort = "property" then addProperty replies state word
  else if sort = "class" then addType true replies state word
  else if sort = "type" then addType false replies state word
  else if sort = "record" then addRecord replies state word
  else if sort = "is" then state.add word (.instance state.parameter)
  else if sort = "builtin" then addBuiltin replies state word
  else
    match Fields.get? sort memberSorts with
    | some sort => addMember replies sort state word
    | none => readAssignment replies state word

/-- The state after a word that tells what the next ones are. -/
def readSort (state : State) (sort parameter : Text) : State :=
  if sort = "in" then { state with owner := parameter, ofValues := false }
  else if sort = "of" then { state with owner := parameter, ofValues := true }
  else if sort = "loader" then
    if parameter.isEmpty then state
    else state.editModule fun m => { m with loader? := some parameter }
  else { state with sort, parameter }

/-- The state after one more word. -/
def readWord (replies : Replies) (state : State) (word : Text) : State :=
  match word with
  | [] => state
  | c :: name =>
    if c = '/' ∨ c = '~' then state.enter name (c = '/')
    else
      match Text.splitFirst ':' word with
      | (sort, some parameter) => readSort state sort parameter
      | (_, none) => readEntry replies state word

/-- Words with each that ends in a comma joined to the next. -/
def joinWords : List Text → List Text
  | [] => []
  | word :: rest =>
    match joinWords rest, decide (word.getLast? = some ',') with
    | next :: others, true => (word ++ next) :: others
    | others, _ => word :: others

/-- The words of a text, which are separated by spaces and line feeds. A word that ends in a comma
goes on in the next. -/
def words (t : Text) : List Text :=
  joinWords <|
    ((Text.splitAll Text.lineFeed t).flatMap (Text.splitAll Text.space)).filter fun word =>
      !word.isEmpty

/-- A module with whether other modules are inside it. -/
def settled (modules : List Module) (m : Module) : Module :=
  { m with isPackage := m.isPackage || modules.any fun other =>
      Text.startsWith (ValueType.behind m.name []) other.name }

/-- A catalogue with the modules of a listing. -/
def extend (catalogue : Catalogue) (replies : Replies) (listing : Text) : Catalogue :=
  let read := ((words listing).foldl (readWord replies) { catalogue }).catalogue
  { read with modules := read.modules.map (settled read.modules) }

end TargetHelp.Listing
