import TargetHelp.Fault
import TargetHelp.Json.Order

/-!
# Using JSON values

A value may stand where one of a certain sort is wanted: several values, a text, a number, something
with a length, something to look up by or to look up in, a table. Each use gives what is wanted or
the fault of a value that is not of the sort.
-/

set_option autoImplicit false
set_option relaxedAutoImplicit false

namespace TargetHelp.Json

/-- The values that a value consists of: items, code points, or the keys of fields. -/
def parts : Json → Except Fault (List Json)
  | arr items => .ok items
  | str t => .ok (t.map fun c => str [c])
  | obj fields => .ok ((Fields.keys fields).map str)
  | value => .error (.notIterable value.typeName)

def length : Json → Except Fault Nat
  | arr items => .ok items.length
  | str t => .ok t.length
  | obj fields => .ok fields.length
  | value => .error (.noLength value.typeName)

/-- A text, of which a member is wanted. -/
def textWith (member : Text) : Json → Except Fault Text
  | str t => .ok t
  | value => .error (.noMember value.typeName member)

/-- What holds other values cannot be looked up by. -/
def checkKey : Json → Except Fault Unit
  | arr items => .error (.unhashable (arr items).typeName)
  | obj fields => .error (.unhashable (obj fields).typeName)
  | _ => .ok ()

@[simp]
theorem checkKey_str (t : Text) : checkKey (str t) = .ok () := rfl

/-! ### Items -/

/-- The item of a value at the key written `key`; digits are a position, not a key. -/
def item (v : Json) (key : Text) (position? : Option Nat) : Except Template.Fault Json :=
  match v, position? with
  | arr items, some i =>
    match items[i]? with
    | some found => .ok found
    | none => .error .listRange
  | arr _, none => .error .listIndex
  | str t, some i =>
    match t[i]? with
    | some c => .ok (str [c])
    | none => .error .textRange
  | str _, none => .error .textIndex
  | obj fields, none =>
    match Fields.get? key fields with
    | some found => .ok found
    | none => .error (.missingName key)
  | obj _, some i => .error (.missingNumber i)
  | v, _ => .error (.notSubscriptable v.typeName)

/-- What a value holds under a name. -/
def under (name : Text) (v : Json) : Except Fault Json := (v.item name none).mapError .template

/-! ### Order -/

def isBelow (a b : Json) : Except Fault Bool :=
  (less a b).mapError fun error => .unordered "<" error.left error.right

def isAbove (a b : Json) : Except Fault Bool :=
  (less b a).mapError fun error => .unordered ">" error.right error.left

/-- Whether a number is at most a level. -/
def isAtMost (a : Json) (level : Int) : Except Fault Bool :=
  match a.amount? with
  | some x => .ok (x.below (.ofInt level) || x.same (.ofInt level))
  | none => .error (.unordered "<=" a.typeName (int level).typeName)

/-! ### Tables -/

/-- Values by keys that may be any values to look up by. -/
abbrev Table (α : Type) := List (Json × α)

namespace Table

variable {α : Type}

def get? (key : Json) (table : Table α) : Option α :=
  (table.find? fun entry => same entry.1 key).map Prod.snd

/-- The value of `key` replaced in place, or the key added at the end. -/
def set (key : Json) (value : α) : Table α → Table α
  | [] => [(key, value)]
  | (k, v) :: rest => if same k key then (k, value) :: rest else (k, v) :: set key value rest

end Table

/-- The key and the value that the element of a table consists of. -/
def pair (index : Nat) (element : Json) : Except Fault (Json × Json) :=
  match element.parts with
  | .ok [key, value] => do
    key.checkKey
    return (key, value)
  | .ok parts => .error (.wrongPair index parts.length)
  | .error _ => .error (.noPair index)

/-- The table that a value stands for: the fields of an object, or a sequence of pairs. -/
def table : Json → Except Fault (Table Json)
  | obj fields => .ok (fields.map fun (key, value) => (str key, value))
  | value => do
    let elements ← value.parts
    let pairs ← elements.zipIdx.mapM fun (element, index) => pair index element
    return pairs.foldl (fun table (key, value) => Table.set key value table) []

end TargetHelp.Json
