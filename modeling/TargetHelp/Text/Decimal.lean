import TargetHelp.Text.Blank
import TargetHelp.Text.Digit

/-!
# Written numbers

`decimal` and `signedDecimal` write numbers in ASCII digits. `readInteger?` reads an integer
literal: blanks around it, an optional sign, and decimal digits of any script with single
underscores between them. A literal may have `maxDigits` digits, signs and underscores not
counted.
-/

set_option autoImplicit false
set_option relaxedAutoImplicit false

namespace TargetHelp.Text

/-- The digits of `n` in a base of at most sixteen, letters in lower case. -/
def inBase (base n : Nat) : Text := (Nat.toDigits base n).map CodePoint.ofChar

def decimal (n : Nat) : Text := inBase 10 n

def signedDecimal : Int → Text
  | .ofNat n => decimal n
  | .negSucc n => CodePoint.ofChar '-' :: decimal (n + 1)

/-- The hexadecimal digits of `n` with zeros in front up to `width` digits. -/
def hexadecimal (width n : Nat) : Text :=
  let digits := inBase 16 n
  List.replicate (width - digits.length) (CodePoint.ofChar '0') ++ digits

/-- How many digits an integer literal may have. -/
def maxDigits : Nat := 4300

/-- The blanks allowed around an integer literal: all but the four information separators. -/
def isLiteralBlank (c : CodePoint) : Bool :=
  isBlankPoint c && !(0x1C ≤ c.val && c.val ≤ 0x1F)

/-- Value and number of the digits of a text in which single underscores stand between digits;
`afterDigit` says whether a digit has just been read. -/
def digitsValue? : (afterDigit : Bool) → (value count : Nat) → Text → Option (Nat × Nat)
  | afterDigit, value, count, [] => if afterDigit then some (value, count) else none
  | afterDigit, value, count, c :: t =>
    match decimalValue? c with
    | some d => digitsValue? true (value * 10 + d) (count + 1) t
    | none => if afterDigit = true ∧ c = '_' then digitsValue? false value count t else none

/-- The value of an unsigned literal. -/
def readNatural? (t : Text) : Option Nat :=
  match digitsValue? false 0 0 t with
  | some (value, count) => if count ≤ maxDigits then some value else none
  | none => none

def readInteger? (t : Text) : Option Int :=
  match trim isLiteralBlank t with
  | [] => none
  | c :: digits =>
    if c = '-' then (readNatural? digits).map fun n => -(n : Int)
    else if c = '+' then (readNatural? digits).map fun n => (n : Int)
    else (readNatural? (c :: digits)).map fun n => (n : Int)

end TargetHelp.Text
