import TargetHelp.Thing.Catalogue

/-!
# Texts of things

How a thing shows itself. Where something stands in memory is not known; a mark stands for it.
-/

set_option autoImplicit false
set_option relaxedAutoImplicit false

namespace TargetHelp.Catalogue

def address : Text := "ADDR"

/-- A text between angle brackets. -/
def bracketed (t : Text) : Text := CodePoint.ofChar '<' :: t ++ [CodePoint.ofChar '>']

def displayType (catalogue : Catalogue) (key : Text) : Text :=
  let t := catalogue.typeOf key
  if t.metatype = "enum.EnumType" then bracketed ("enum '" ++ t.name ++ "'")
  else bracketed ("class '" ++ key ++ "'")

/-- A type of containers with what it contains. -/
def displayKeyed (origin : Text) (key : Json) : Text :=
  origin ++ CodePoint.ofChar '[' :: key.display ++ [CodePoint.ofChar ']']

def displayHeld (catalogue : Catalogue) (owner : Text) (m : Member) : Text :=
  bracketed (m.sortName ++ " '" ++ m.name ++ "' of '" ++ (catalogue.typeOf owner).label ++
    "' objects")

def displayBound (typeLabel : Text) (m : Member) : Text :=
  if m.sort = .slot then
    bracketed ("method-wrapper '" ++ m.name ++ "' of " ++ typeLabel ++ " object at " ++ address)
  else
    bracketed ("built-in method " ++ m.name ++ " of " ++ typeLabel ++ " object at " ++ address)

/-- Something of which no more is shown than the key of its type. -/
def displayInstance (type : Text) : Text := bracketed (type ++ " object at " ++ address)

mutual

def display (catalogue : Catalogue) : Thing → Text
  | .value v => v.display
  | .tuple items => CodePoint.ofChar '(' :: displayItems catalogue items
  | .type key => catalogue.displayType key
  | .keyed origin key => displayKeyed origin key
  | .held owner m => catalogue.displayHeld owner m
  | .bound self _ m => displayBound (catalogue.typeLabel self) m
  | .table type => "mappingproxy(" ++ catalogue.displayType type ++ ")"
  | .function f => bracketed ("function " ++ f.name ++ " at " ++ address)
  | .method f self =>
    bracketed ("bound method " ++ f.name ++ " of " ++ display catalogue self)
  | .classWise f => bracketed ("classmethod(" ++ bracketed ("function " ++ f.name) ++ ")")
  | .static inner => bracketed ("staticmethod(" ++ display catalogue inner ++ ")")
  | .property _ _ _ _ => displayInstance "property"
  | .builtin _ name _ => bracketed ("built-in function " ++ name)
  | .alias a => ValueType.behind (catalogue.typeOf a.type).home a.title ++ a.arguments
  | .module name => bracketed ("module '" ++ name ++ "'")
  | .spec _ => displayInstance "ModuleSpec"
  | .choice type name v =>
    bracketed ((catalogue.typeOf type).label ++ CodePoint.ofChar '.' :: name ++ ": " ++ v.display)
  | .instance type => displayInstance type

/-- Things with commas between them and a bracket behind them; behind a single one there is a
comma as well. -/
def displayItems (catalogue : Catalogue) : List Thing → Text
  | [] => [CodePoint.ofChar ')']
  | [item] => display catalogue item ++ ",)"
  | item :: next :: items =>
    display catalogue item ++ ", " ++ displayFurther catalogue (next :: items)

def displayFurther (catalogue : Catalogue) : List Thing → Text
  | [] => [CodePoint.ofChar ')']
  | [item] => display catalogue item ++ [CodePoint.ofChar ')']
  | item :: next :: items =>
    display catalogue item ++ ", " ++ displayFurther catalogue (next :: items)

end

/-- A thing as part of a text. -/
def plain (catalogue : Catalogue) : Thing → Text
  | .value v => v.plain
  | thing => catalogue.display thing

end TargetHelp.Catalogue
