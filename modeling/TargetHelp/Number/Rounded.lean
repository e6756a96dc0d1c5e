import TargetHelp.Number.Shortest

/-!
# Rounded decimals

A number written with a point or an exponent: with so many places behind the point, with one digit
before it, or with so many digits in all and in the shorter of the two ways. Digits that are left
out are rounded to the nearest, a half to the even neighbour. The number is the quotient of two
natural numbers, of which the second is not zero; no quotient between zero and the least positive
number of the binary format is written.
-/

set_option autoImplicit false
set_option relaxedAutoImplicit false

namespace TargetHelp

/-- An unsigned number as written: the digits before the point, and all that stands behind them. -/
structure Rounded where
  whole : Text
  rest : Text
  deriving DecidableEq, Repr

namespace Rounded

/-- No number of the binary format has more digits than this, or more places behind the point. -/
def maxDigits : Nat := 1100

/-- A fraction behind its point; an empty one has a point only if it must show. -/
def withPoint (showsPoint : Bool) (fraction : Text) : Text :=
  if fraction.isEmpty && !showsPoint then [] else CodePoint.ofChar '.' :: fraction

/-- Digits extended by zeros to `count` of them. -/
def extend (count : Nat) (digits : Text) : Text :=
  digits ++ Binary64.zeros (count - digits.length)

/-- With so many places behind the point. -/
def positional (places : Nat) (showsPoint : Bool) (value : Nat × Nat) : Rounded :=
  let kept := min places maxDigits
  let digits := Text.decimal (Binary64.divideToEven (value.1 * Nat.pow 10 kept) value.2)
  let digits := Binary64.zeros (kept + 1 - digits.length) ++ digits
  let point := digits.length - kept
  ⟨digits.take point, withPoint showsPoint (extend places (digits.drop point))⟩

/-- The first `count` digits of a number, rounded and without the zeros at their end, and how many
digits stand before the point, which is negative for zeros behind it. -/
def significant (count : Nat) (value : Nat × Nat) : Text × Int :=
  if value.1 = 0 then ("0", 1)
  else
    let count := min count maxDigits
    let point := Binary64.pointOf value
    let (num, den) := Binary64.ratio value.1 10 (count - point)
    let digits := Text.decimal (Binary64.divideToEven num (den * value.2))
    (Binary64.dropTrailingZeros digits, point + (digits.length - count))

/-- Digits with the point behind the first of them and an exponent of at least two digits. -/
def withExponent (mark : CodePoint) (showsPoint : Bool) (digits : Text) (power : Int) : Rounded :=
  let sign : CodePoint := if power < 0 then '-' else '+'
  let power := Text.decimal power.natAbs
  ⟨digits.take 1, withPoint showsPoint (digits.drop 1) ++
    mark :: sign :: (Binary64.zeros (2 - power.length) ++ power)⟩

/-- With an exponent and so many places behind the point. -/
def exponential (mark : CodePoint) (places : Nat) (showsPoint : Bool) (value : Nat × Nat) :
    Rounded :=
  let (digits, point) := significant (places + 1) value
  withExponent mark showsPoint (extend (places + 1) digits) (point - 1)

/-- With so many digits, at least one, and an exponent if the whole part has more than these or
more than three zeros stand behind the point. Zeros at the end of the fraction are dropped unless
the point must show. `showsPlace` asks for at least one place behind the point, which counts as one
of the digits. -/
def general (mark : CodePoint) (count : Nat) (showsPlace showsPoint : Bool) (value : Nat × Nat) :
    Rounded :=
  let count := max 1 count
  let (digits, point) := significant count value
  let digits := if showsPoint then extend count digits else digits
  if point ≤ -4 ∨ (if showsPlace then (count : Int) - 1 else count) < point then
    withExponent mark showsPoint digits (point - 1)
  else
    let whole : Text := if point ≤ 0 then "0" else extend point.toNat (digits.take point.toNat)
    let fraction := Binary64.zeros (-point).toNat ++ digits.drop point.toNat
    let fraction : Text := if showsPlace && fraction.isEmpty then "0" else fraction
    ⟨whole, withPoint showsPoint fraction⟩

/-- A decimal that is already written. -/
def ofText (showsPoint : Bool) (t : Text) : Rounded :=
  let isDigit (c : CodePoint) : Bool := 0x30 ≤ c.val && c.val ≤ 0x39
  let rest := t.dropWhile isDigit
  let hasPoint := Text.startsWith "." rest
  ⟨t.takeWhile isDigit, if showsPoint && !hasPoint then CodePoint.ofChar '.' :: rest else rest⟩

/-- Whether all digits are zero; those of an exponent do not count. -/
def isZero (number : Rounded) : Bool :=
  let isZero (c : CodePoint) : Bool := c = CodePoint.ofChar '0'
  !number.whole.isEmpty && number.whole.all isZero &&
    ((number.rest.drop 1).takeWhile fun c => 0x30 ≤ c.val && c.val ≤ 0x39).all isZero

end Rounded

end TargetHelp
