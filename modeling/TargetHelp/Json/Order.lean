import TargetHelp.Json.Value

/-!
# Comparing JSON values

`same` is equality of values: numbers are equal by their amount whatever their type, true and false
being one and zero, and objects by their fields in any order. `less` orders numbers, texts and
arrays among themselves; values of other types have no order.
-/

set_option autoImplicit false
set_option relaxedAutoImplicit false

namespace TargetHelp

/-- The amount of a number, as a quotient if it is finite. -/
inductive Amount where
  | none
  | infinite (negative : Bool)
  | quotient (num : Int) (den : Nat)
  deriving DecidableEq, Repr

namespace Amount

def ofInt (n : Int) : Amount := quotient n 1

def ofBinary : Binary64 → Amount
  | .nan => none
  | .infinite negative => infinite negative
  | .finite negative mantissa exponent =>
    let (num, den) := Binary64.quotient negative mantissa exponent
    quotient num den

def below : Amount → Amount → Bool
  | infinite negative, infinite other => negative && !other
  | infinite negative, quotient _ _ => negative
  | quotient _ _, infinite negative => !negative
  | quotient num den, quotient num' den' => num * den' < num' * den
  | none, _ | _, none => false

def same : Amount → Amount → Bool
  | infinite negative, infinite other => negative == other
  | quotient num den, quotient num' den' => num * den' == num' * den
  | _, _ => false

end Amount

namespace Json

/-- The amount of a number; other values have none. -/
def amount? : Json → Option Amount
  | float value => some (.ofBinary value)
  | value => value.integer?.map .ofInt

/-- The types of two values that have no order. -/
structure Unordered where
  left : Text
  right : Text
  deriving DecidableEq, Repr

mutual

/-- Whether two values are equal. -/
def same : Json → Json → Bool
  | null, null => true
  | str s, str t => s == t
  | arr items, arr others => sameItems items others
  | obj fields, obj others => fields.length == others.length && sameFields fields others
  | a, b =>
    match a.amount?, b.amount? with
    | some x, some y => x.same y
    | _, _ => false

def sameItems : List Json → List Json → Bool
  | [], [] => true
  | item :: items, other :: others => same item other && sameItems items others
  | _, _ => false

/-- Whether each field is among others with an equal value. -/
def sameFields : List (Text × Json) → List (Text × Json) → Bool
  | [], _ => true
  | (key, value) :: fields, others =>
    (match Fields.get? key others with
      | some other => same value other
      | none => false) && sameFields fields others

end

/-- Texts are equal values only if they are the same text. -/
@[simp]
theorem same_str (s t : Text) : same (str s) (str t) = (s == t) := by
  simp [same]

mutual

/-- Whether a value comes before another one. -/
def less : Json → Json → Except Unordered Bool
  | str s, str t => .ok (s != t && Text.atMost s t)
  | arr items, arr others => lessItems items others
  | a, b =>
    match a.amount?, b.amount? with
    | some x, some y => .ok (x.below y)
    | _, _ => .error ⟨a.typeName, b.typeName⟩

/-- The first items that differ decide, or else the length. -/
def lessItems : List Json → List Json → Except Unordered Bool
  | _, [] => .ok false
  | [], _ :: _ => .ok true
  | item :: items, other :: others =>
    if same item other then lessItems items others else less item other

end

end Json

end TargetHelp
