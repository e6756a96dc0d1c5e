import TargetHelp.Thing.Catalogue

/-!
# What a listing has told

A listing is read from left to right. What it has told so far is a catalogue, the module that it is
in, the class whose members or whose values it describes, and what the next words are.
-/

set_option autoImplicit false
set_option relaxedAutoImplicit false

namespace TargetHelp.Listing

/-- The replies of callables by module and path. -/
abbrev Replies := (home path : Text) → Option Reply

/-- A path without its last name, and that name. -/
def splitPath (path : Text) : Text × Text :=
  match (Text.splitAll '.' path).reverse with
  | [] => ([], [])
  | name :: front => (Text.join "." front.reverse, name)

structure State where
  catalogue : Catalogue
  home : Text := []
  /-- The class whose members are described, if any. -/
  owner : Text := []
  /-- Whether it is rather what the values of the class have. -/
  ofValues : Bool := false
  sort : Text := []
  parameter : Text := []

namespace State

/-- The key of a class of the module. -/
def classKey (state : State) (name : Text) : Text := ValueType.keyOf state.home name

/-- The path of a name in the module. -/
def pathOf (state : State) (name : Text) : Text :=
  if state.owner.isEmpty then name else ValueType.behind state.owner name

/-- Begins a module, or goes on with one that has been begun. -/
def enter (state : State) (name : Text) (isOffered : Bool) : State :=
  let state := { state with home := name, owner := [], ofValues := false }
  if (state.catalogue.module? name).isSome then state
  else { state with catalogue.modules := { name, isOffered } :: state.catalogue.modules }

def editModule (state : State) (edit : Module → Module) : State :=
  { state with catalogue.modules := state.catalogue.modules.map fun m =>
      if m.name = state.home then edit m else m }

/-- Adds a member to the module. -/
def addToModule (state : State) (name : Text) (thing : Thing) : State :=
  state.editModule fun m => { m with members := m.members.map fun old => (name, thing) :: old }

/-- Adds a member to a class of the module, or what its values have. -/
def addToClass (state : State) (owner name : Text) (thing : Thing) : State :=
  let grown (t : ValueType) : ValueType :=
    if t.name = owner ∧ t.home = state.home then
      if state.ofValues then { t with values := (name, thing) :: t.values }
      else { t with members := (name, thing) :: t.members }
    else t
  { state with catalogue.types := state.catalogue.types.map grown }

/-- Adds what a path leads to. -/
def addPath (state : State) (path : Text) (thing : Thing) : State :=
  match splitPath path with
  | ([], name) => state.addToModule name thing
  | (owner, name) => state.addToClass owner name thing

/-- Adds what a name leads to, in the class that is described if there is one. -/
def add (state : State) (name : Text) (thing : Thing) : State :=
  state.addPath (state.pathOf name) thing

/-- Adds to what the values of the class have that is described. -/
def addToValues (state : State) (name : Text) (thing : Thing) : State :=
  { { state with ofValues := true }.add name thing with ofValues := state.ofValues }

/-- A type of the catalogue. -/
def type? (state : State) (home name : Text) : Option Thing :=
  if state.catalogue.types.any fun t => decide (t.name = name ∧ t.home = home) then
    some (.type (ValueType.keyOf home name))
  else none

/-- What a path leads to in a module of the catalogue. Of a module that is not in the catalogue
there are its types. -/
def find? (state : State) (home path : Text) : Option Thing :=
  match splitPath path with
  | ([], name) =>
    match (state.catalogue.module? home).map Module.members with
    | some (.ok members) =>
      (Fields.get? name members).or (state.type? home name)
    | some (.error _) => none
    | none => state.type? home name
  | (owner, name) => (state.catalogue.typeOf (ValueType.keyOf home owner)).own? name

end State

end TargetHelp.Listing
