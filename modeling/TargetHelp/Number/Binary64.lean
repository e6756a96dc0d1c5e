/-!
# Binary floating-point numbers

A finite number is an integer times a power of two; `nearest` rounds a quotient to 53 bits, ties
to the even neighbour, and `ofDecimal` reads a decimal with it. Numbers too large are infinite
and numbers too small are zero, both with their sign.
-/

set_option autoImplicit false
set_option relaxedAutoImplicit false

namespace TargetHelp

/-- A number of the 64-bit binary format; `finite negative m q` is `m * 2 ^ q` with its sign. -/
inductive Binary64 where
  | nan
  | infinite (negative : Bool)
  | finite (negative : Bool) (mantissa : Nat) (exponent : Int)
  deriving DecidableEq, Repr

namespace Binary64

/-- `m * base ^ exponent` as a numerator and a denominator. -/
def ratio (m base : Nat) (exponent : Int) : Nat × Nat :=
  if exponent < 0 then (m, Nat.pow base (-exponent).toNat)
  else (m * Nat.pow base exponent.toNat, 1)

/-- The integer nearest to a quotient; a half goes to the even neighbour. -/
def divideToEven (num den : Nat) : Nat :=
  let quotient := num / den
  let twice := 2 * (num % den)
  if twice < den then quotient
  else if den < twice then quotient + 1
  else if quotient % 2 = 0 then quotient
  else quotient + 1

/-- The least mantissa of 53 bits. -/
def leastFull : Nat := Nat.pow 2 52

/-- The least exponent of a finite number. -/
def minExponent : Int := -1074

/-- The greatest exponent of a finite number with a mantissa of 53 bits. -/
def maxExponent : Int := 971

/-- `num / den` divided by `2 ^ exponent`, as a numerator and a denominator. -/
def scale (num den : Nat) (exponent : Int) : Nat × Nat :=
  if exponent < 0 then (num * Nat.pow 2 (-exponent).toNat, den)
  else (num, den * Nat.pow 2 exponent.toNat)

/-- The number nearest to `num / den`, for a positive denominator. -/
def nearest (negative : Bool) (num den : Nat) : Binary64 :=
  if num = 0 then finite negative 0 0
  else
    let guess : Int := (num.log2 : Int) - den.log2 - 53
    let trial := scale num den guess
    let fitting := if trial.1 / trial.2 < 2 * leastFull then guess else guess + 1
    let exponent := max fitting minExponent
    let scaled := scale num den exponent
    let mantissa := divideToEven scaled.1 scaled.2
    let (mantissa, exponent) :=
      if mantissa = 2 * leastFull then (leastFull, exponent + 1) else (mantissa, exponent)
    if maxExponent < exponent then infinite negative else finite negative mantissa exponent

/-- The number nearest to `digits * 10 ^ exponent`. Decimals of more than 310 places before the
point are beyond every finite number, and those with 330 zeros behind it below every positive
one, so that huge exponents cost nothing. -/
def ofDecimal (negative : Bool) (digits : Nat) (exponent : Int) : Binary64 :=
  let places : Int := (Nat.toDigits 10 digits).length + exponent
  if digits = 0 then finite negative 0 0
  else if 310 < places then infinite negative
  else if places < -330 then finite negative 0 0
  else
    let (num, den) := ratio digits 10 exponent
    nearest negative num den

/-- A finite number as a quotient of an integer and a power of two. -/
def quotient (negative : Bool) (mantissa : Nat) (exponent : Int) : Int × Nat :=
  let (num, den) := ratio mantissa 2 exponent
  (if negative then -(num : Int) else num, den)

/-- The number nearest to the sum of a number and an integer. -/
def addInteger (n : Int) : Binary64 → Binary64
  | finite negative mantissa exponent =>
    let (num, den) := quotient negative mantissa exponent
    let sum := num + n * den
    nearest (sum < 0) sum.natAbs den
  | x => x

/-- The number nearest to the product of a number and a positive one. -/
def timesNatural (n : Nat) : Binary64 → Binary64
  | finite negative mantissa exponent =>
    let (num, den) := ratio mantissa 2 exponent
    nearest negative (num * n) den
  | x => x

/-- The number nearest to an integer. -/
def ofInt (n : Int) : Binary64 := nearest (n < 0) n.natAbs 1

/-- Whether a number has a negative sign, as the negative zero does. -/
def isNegative : Binary64 → Bool
  | nan => false
  | infinite negative => negative
  | finite negative _ _ => negative

def isInfinite : Binary64 → Bool
  | infinite _ => true
  | _ => false

/-- Whether a number is above an integer. -/
def isAbove (n : Int) : Binary64 → Bool
  | nan => false
  | infinite negative => !negative
  | finite negative mantissa exponent =>
    let (num, den) := quotient negative mantissa exponent
    n * den < num

def isZero : Binary64 → Bool
  | finite _ mantissa _ => mantissa = 0
  | _ => false

end Binary64

end TargetHelp
