import TargetHelp.Number.Binary64
import TargetHelp.Text.Basic

/-!
# JSON values

Integers and binary floating-point numbers are different values. The fields of an object keep the
order in which their keys first appeared, and setting a key again replaces its value in place, so
`Fields.get?` after `Fields.set` behaves like a finite map with an order.
-/

set_option autoImplicit false
set_option relaxedAutoImplicit false

namespace TargetHelp

inductive Json where
  | null
  | bool (value : Bool)
  | int (value : Int)
  | float (value : Binary64)
  | str (value : Text)
  | arr (items : List Json)
  | obj (fields : List (Text × Json))
  deriving Repr, Inhabited

/-- Keys with their values, in the order in which the keys first appeared. -/
abbrev Fields (α : Type) := List (Text × α)

namespace Fields

variable {α : Type}

def get? (key : Text) : Fields α → Option α
  | [] => none
  | (k, v) :: rest => if k = key then some v else get? key rest

/-- The value of `key` replaced in place, or the key added at the end. -/
def set (key : Text) (value : α) : Fields α → Fields α
  | [] => [(key, value)]
  | (k, v) :: rest => if k = key then (k, value) :: rest else (k, v) :: set key value rest

/-- The fields but for those under `key`. -/
def erase (key : Text) (fields : Fields α) : Fields α := fields.filter fun field => field.1 ≠ key

def keys (fields : Fields α) : List Text := fields.map Prod.fst

@[simp]
theorem get?_nil (key : Text) : get? key ([] : Fields α) = none := rfl

theorem get?_set_self (key : Text) (value : α) (fields : Fields α) :
    get? key (set key value fields) = some value := by
  induction fields with
  | nil => simp [set, get?]
  | cons field rest ih =>
    obtain ⟨k, v⟩ := field
    simp only [set]
    split
    · next h => simp [get?, h]
    · next h => simp [get?, h, ih]

theorem get?_set_of_ne {key other : Text} (h : other ≠ key) (value : α) (fields : Fields α) :
    get? other (set key value fields) = get? other fields := by
  induction fields with
  | nil => simp [set, get?, Ne.symm h]
  | cons field rest ih =>
    obtain ⟨k, v⟩ := field
    simp only [set]
    split
    · next hk =>
      subst hk
      simp [get?, Ne.symm h]
    · simp only [get?, ih]

theorem get?_eq_none_iff (key : Text) (fields : Fields α) :
    get? key fields = none ↔ key ∉ fields.keys := by
  induction fields with
  | nil => simp [keys]
  | cons field rest ih =>
    obtain ⟨k, v⟩ := field
    simp only [keys] at ih
    by_cases h : k = key
    · simp [get?, keys, h]
    · simp [get?, keys, h, Ne.symm h, ih]

end Fields

namespace Json

/-- Whether a value counts as given: nothing, false, zero and what is empty do not. -/
def isGiven : Json → Bool
  | null => false
  | bool value => value
  | int value => value != 0
  | float value => !value.isZero
  | str value => !value.isEmpty
  | arr items => !items.isEmpty
  | obj fields => !fields.isEmpty

def text? : Json → Option Text
  | str value => some value
  | _ => none

/-- An integer; true and false count as one and zero. -/
def integer? : Json → Option Int
  | int value => some value
  | bool value => some (if value then 1 else 0)
  | _ => none

/-- The items of an array; other values have none. -/
def items : Json → List Json
  | arr items => items
  | _ => []

/-- The fields of an object; other values have none. -/
def fields : Json → Fields Json
  | obj fields => fields
  | _ => []

/-- The name of a value's type in messages about misused values. -/
def typeName : Json → Text
  | null => "NoneType"
  | bool _ => "bool"
  | int _ => "int"
  | float _ => "float"
  | str _ => "str"
  | arr _ => "list"
  | obj _ => "dict"

end Json

end TargetHelp
