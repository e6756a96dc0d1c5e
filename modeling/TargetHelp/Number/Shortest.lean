import TargetHelp.Number.Binary64
import TargetHelp.Text.Decimal

/-!
# Shortest decimals

A finite number is written with the fewest decimal digits that read back as the same number and,
among those, the decimal nearest to it. For one digit, two digits and so on, the two neighbours
of the number on that decimal grid are tested against the interval of values that round to it;
the first grid with a hit wins.

Decimals are positional while the point falls at most sixteen digits to the right of the first
digit or three zeros to its left, and always show a fraction; others carry an exponent of at
least two digits.
-/

set_option autoImplicit false
set_option relaxedAutoImplicit false

namespace TargetHelp.Binary64

/-- Whether one quotient is at most another, the denominators being positive. -/
def quotientLE (a b : Nat × Nat) : Bool := a.1 * b.2 ≤ b.1 * a.2

def quotientLT (a b : Nat × Nat) : Bool := a.1 * b.2 < b.1 * a.2

/-- Whether a decimal reads back as the number `m * 2 ^ q`: it lies between the middles to the
two neighbouring numbers, which themselves round to the even mantissa. -/
def readsBack (m : Nat) (q : Int) (decimal : Nat × Nat) : Bool :=
  let below := if m = leastFull ∧ minExponent < q then 4 * m - 1 else 4 * m - 2
  let low := ratio below 2 (q - 2)
  let high := ratio (4 * m + 2) 2 (q - 2)
  if m % 2 = 0 then quotientLE low decimal && quotientLE decimal high
  else quotientLT low decimal && quotientLT decimal high

/-- The better of the two neighbours of `value` on the grid of multiples of `10 ^ grid`, if one
of them reads back: the nearer one, the even one of two equally near. -/
def onGrid? (m : Nat) (q : Int) (value : Nat × Nat) (grid : Int) : Option Nat :=
  let unit := ratio 1 10 grid
  let lower := value.1 * unit.2 / (value.2 * unit.1)
  let lowerHit := readsBack m q (ratio lower 10 grid)
  let upperHit := readsBack m q (ratio (lower + 1) 10 grid)
  let middle := (2 * lower + 1) * unit.1 * value.2
  let twice := 2 * value.1 * unit.2
  let preferLower := twice < middle || (twice == middle && lower % 2 == 0)
  if lowerHit && (preferLower || !upperHit) then some lower
  else if upperHit then some (lower + 1)
  else none

/-- The first grid with a hit, each ten times finer than the one before; at most `grids` are
tried. -/
def firstHit (m : Nat) (q : Int) (value : Nat × Nat) : (grids : Nat) → (grid : Int) → Nat × Int
  | 0, grid => (m, grid)
  | grids + 1, grid =>
    match onGrid? m q value grid with
    | some digits => (digits, grid)
    | none => firstHit m q value grids (grid - 1)

/-- How many digits a positive quotient has before its point, from the first that is not zero; zeros
behind the point count as less than none. A quotient below `10 ^ (-342)` is none of a number. -/
def pointOf (value : Nat × Nat) : Int :=
  (Nat.toDigits 10 (value.1 * Nat.pow 10 342 / value.2)).length - 342

/-- The shortest decimal of `m * 2 ^ q` for positive `m`: its digits and their power of ten. -/
def shortest (m : Nat) (q : Int) : Nat × Int :=
  let value := ratio m 2 q
  firstHit m q value 17 (pointOf value - 1)

/-- Digits without the zeros at their end. -/
def dropTrailingZeros (digits : Text) : Text :=
  (digits.reverse.dropWhile fun c => c = CodePoint.ofChar '0').reverse

def zeros (n : Nat) : Text := List.replicate n (CodePoint.ofChar '0')

/-- Digits with the point after the first `point` of them. -/
def writePoint (digits : Text) (point : Int) : Text :=
  if point ≤ -4 ∨ 16 < point then
    let exponent := point - 1
    let sign : CodePoint := if exponent < 0 then '-' else '+'
    let power := Text.decimal exponent.natAbs
    let fraction : Text :=
      match digits.drop 1 with
      | [] => []
      | rest => CodePoint.ofChar '.' :: rest
    digits.take 1 ++ fraction ++ CodePoint.ofChar 'e' :: sign :: (zeros (2 - power.length) ++ power)
  else if point ≤ 0 then "0." ++ zeros (-point).toNat ++ digits
  else if (digits.length : Int) ≤ point then
    digits ++ zeros (point.toNat - digits.length) ++ ".0"
  else digits.take point.toNat ++ CodePoint.ofChar '.' :: digits.drop point.toNat

def sign (negative : Bool) : Text := if negative then "-" else ""

/-- The text of a number, with the given names for what is no number and for infinity. -/
def written (nanName infinityName : Text) : Binary64 → Text
  | nan => nanName
  | infinite negative => sign negative ++ infinityName
  | finite negative mantissa exponent =>
    if mantissa = 0 then sign negative ++ "0.0"
    else
      let (digits, power) := shortest mantissa exponent
      let digits := Text.decimal digits
      sign negative ++ writePoint (dropTrailingZeros digits) (digits.length + power)

end TargetHelp.Binary64
