import TargetHelp.Number.Rounded
import TargetHelp.Template.Basic

/-!
# Format specifications

A specification reads `[[fill]align][sign][z][#][0][width][separator][.precision][code]`, every
part of it optional. Texts are cut to the precision and padded to the width; integers are written
in the base of their code and other numbers rounded to the precision, grouped by the separator, and
padded at either end or behind the sign.
-/

set_option autoImplicit false
set_option relaxedAutoImplicit false

namespace TargetHelp.Template

/-- Where the padding stands: behind a value, before it, around it, or behind its sign. -/
inductive Align where
  | left
  | right
  | center
  | afterSign
  deriving DecidableEq, Repr

def Align.ofPoint? (c : CodePoint) : Option Align :=
  if c = '<' then some .left
  else if c = '>' then some .right
  else if c = '^' then some .center
  else if c = '=' then some .afterSign
  else none

/-- Which numbers show a sign: negative ones alone, all of them, or positive ones by a space. -/
inductive SignRule where
  | minus
  | plus
  | space
  deriving DecidableEq, Repr

def SignRule.ofPoint? (c : CodePoint) : Option SignRule :=
  if c = '-' then some .minus
  else if c = '+' then some .plus
  else if c = ' ' then some .space
  else none

structure Spec where
  fill : CodePoint
  align : Align
  sign : Option SignRule
  zeroCoercion : Bool
  alternate : Bool
  width : Option Nat
  separator : Option CodePoint
  precision : Option Nat
  code : CodePoint
  deriving DecidableEq, Repr

/-- What a specification leaves open for values of one type. -/
structure Defaults where
  typeName : Text
  align : Align
  code : CodePoint

namespace Spec

/-! ### Reading -/

/-- The alignment at the start of a text, with the fill code point before it if there is one. -/
def takeAlign : Text → Option (Option CodePoint × Align) × Text
  | [] => (none, [])
  | [c] =>
    match Align.ofPoint? c with
    | some align => (some (none, align), [])
    | none => (none, [c])
  | c :: d :: t =>
    match Align.ofPoint? d with
    | some align => (some (some c, align), t)
    | none =>
      match Align.ofPoint? c with
      | some align => (some (none, align), d :: t)
      | none => (none, c :: d :: t)

def takeSign : Text → Option SignRule × Text
  | [] => (none, [])
  | c :: t =>
    match SignRule.ofPoint? c with
    | some sign => (some sign, t)
    | none => (none, c :: t)

/-- Whether a text starts with `mark`, and what follows it. -/
def takeMark (mark : CodePoint) : Text → Bool × Text
  | [] => (false, [])
  | c :: t => if c = mark then (true, t) else (false, c :: t)

/-- The separator at the start of a text: a comma or an underscore, but not both. -/
def takeSeparator (t : Text) : Except Fault (Option CodePoint × Text) :=
  let (comma, t) := takeMark ',' t
  let (underscore, t) := takeMark '_' t
  if underscore = true ∧ (comma = true ∨ (takeMark ',' t).1 = true) then
    .error .commaAndUnderscore
  else if comma then .ok (some (CodePoint.ofChar ','), t)
  else if underscore then .ok (some (CodePoint.ofChar '_'), t)
  else .ok (none, t)

def takePrecision (t : Text) : Except Fault (Option Nat × Text) :=
  match takeMark '.' t with
  | (false, t) => .ok (none, t)
  | (true, t) =>
    match leadingNumber t with
    | .error fault => .error fault
    | .ok (none, _) => .error .missingPrecision
    | .ok (some precision, t) => .ok (some precision, t)

/-- Whether digits written by `code` may be grouped by `separator`. The null code may, although
nothing is written by it. -/
def allowsSeparator (separator code : CodePoint) : Bool :=
  ("defgEG%F\x00" : Text).contains code ||
    (separator = CodePoint.ofChar '_' && ("boxX" : Text).contains code)

def parse (defaults : Defaults) (t : Text) : Except Fault Spec := do
  let (aligned, rest) := takeAlign t
  let (sign, rest) := takeSign rest
  let (zeroCoercion, rest) := takeMark 'z' rest
  let (alternate, rest) := takeMark '#' rest
  let chosenFill := aligned.bind Prod.fst
  let (zeroPadded, rest) := if chosenFill.isNone then takeMark '0' rest else (false, rest)
  let (width, rest) ← leadingNumber rest
  let (separator, rest) ← takeSeparator rest
  let (precision, rest) ← takePrecision rest
  let code ←
    match rest with
    | [] => .ok defaults.code
    | [code] => .ok code
    | _ => .error (.invalidSpec t defaults.typeName)
  match separator with
  | some mark => if !allowsSeparator mark code then .error (.separator mark code)
  | none => pure ()
  let defaultAlign :=
    if zeroPadded = true ∧ defaults.align = .right then .afterSign else defaults.align
  let defaultFill := if zeroPadded then CodePoint.ofChar '0' else Text.space
  return {
    fill := chosenFill.getD defaultFill
    align := (aligned.map Prod.snd).getD defaultAlign
    sign, zeroCoercion, alternate, width, separator, precision, code }

/-! ### Padding -/

/-- A value in two parts, the first of which is its sign, padded to the width. -/
def pad (s : Spec) (front back : Text) : Text :=
  let missing := s.width.getD 0 - (front.length + back.length)
  let filling (n : Nat) : Text := List.replicate n s.fill
  match s.align with
  | .left => front ++ back ++ filling missing
  | .right => filling missing ++ front ++ back
  | .center => filling (missing / 2) ++ front ++ back ++ filling (missing - missing / 2)
  | .afterSign => front ++ filling missing ++ back

/-- From this length on a text is too long to be built. -/
def sizeLimit : Nat := 0x100000000

/-- Whether a width asks for a text that is too long. -/
def isOversized (s : Spec) : Bool := sizeLimit ≤ s.width.getD 0

/-! ### Texts -/

def textDefaults : Defaults := ⟨"str", .left, 's'⟩

def formatText (s : Spec) (t : Text) : Except Fault Text :=
  if s.code ≠ 's' then .error (.unknownCode s.code textDefaults.typeName)
  else if s.sign.isSome then .error (.signInText (s.sign = some .space))
  else if s.zeroCoercion then .error .zeroInText
  else if s.alternate then .error .alternateInText
  else if s.align = .afterSign then .error .alignmentInText
  else if s.isOversized then .error .textSize
  else
    match s.precision with
    | none => .ok (s.pad [] t)
    | some precision => .ok (s.pad [] (t.take precision))

/-! ### Integers -/

def integerDefaults (typeName : Text) : Defaults := ⟨typeName, .right, 'd'⟩

/-- Digits in groups of `size`, counted from the right, with `mark` between groups. -/
def group (size : Nat) (mark : CodePoint) (digits : Text) : Text :=
  let count := digits.length
  (digits.zipIdx.map fun (d, i) =>
    if i ≠ 0 ∧ (count - i) % size = 0 then [mark, d] else [d]).flatten

/-- How many digits fill `width` places if a mark stands after each `size` of them; a mark in
front gives way to one more digit. -/
def digitsToFill (size width : Nat) : Nat := width - (width - 1) / (size + 1)

/-- Digits grouped as the specification says and extended by zeros in front to `width` places. -/
def writeDigits (s : Spec) (width : Nat) (digits : Text) : Text :=
  let extend (n : Nat) : Text :=
    List.replicate (n - digits.length) (CodePoint.ofChar '0') ++ digits
  match s.separator with
  | none => extend width
  | some mark =>
    let size := if ("boxX" : Text).contains s.code then 4 else 3
    group size mark (extend (digitsToFill size width))

def signText (s : Spec) (negative : Bool) : Text :=
  if negative then "-"
  else
    match s.sign with
    | some .plus => "+"
    | some .space => " "
    | _ => []

/-- Whether the width is filled by digits, which are grouped like the others. -/
def isZeroFilled (s : Spec) : Bool := s.fill = CodePoint.ofChar '0' ∧ s.align = .afterSign

/-- The base of an integer code, and the mark of the base in the alternate form. -/
def base? (code : CodePoint) : Option (Nat × Text) :=
  if code = 'd' ∨ code = 'n' then some (10, [])
  else if code = 'b' then some (2, "0b")
  else if code = 'o' then some (8, "0o")
  else if code = 'x' then some (16, "0x")
  else if code = 'X' then some (16, "0X")
  else none

/-- ASCII small letters made capital. -/
def capitals (t : Text) : Text :=
  t.map fun c => if 0x61 ≤ c.val ∧ c.val ≤ 0x7A then CodePoint.ofNat (c.val - 0x20) else c

/-- The code point with an integer as its number. -/
def formatCharacter (s : Spec) (value : Int) : Except Fault Text :=
  if s.sign.isSome then .error .signInCharacter
  else if s.alternate then .error .alternateInCharacter
  else if (maxNumber : Int) < value ∨ value < -(maxNumber : Int) - 1 then .error .characterSize
  else if value < 0 ∨ 0x10FFFF < value then .error .characterRange
  else if s.isOversized then .error .textSize
  else .ok (s.pad [] [CodePoint.ofNat value.toNat])

def formatBase (s : Spec) (base : Nat) (mark : Text) (value : Int) : Text :=
  let front := s.signText (value < 0) ++ if s.alternate then mark else []
  let digits := Text.inBase base value.natAbs
  let digits := if s.code = 'X' then capitals digits else digits
  let width := if s.isZeroFilled then s.width.getD 0 - front.length else 0
  s.pad front (s.writeDigits width digits)

/-! ### Rounded numbers -/

/-- How a code for rounded numbers writes them. -/
inductive Style where
  | positional
  | exponential (mark : CodePoint)
  /-- Positional or exponential, whatever is shorter, and perhaps with a place behind the point. -/
  | general (mark : CodePoint) (showsPlace : Bool)
  | percent
  /-- With as few digits as read back. -/
  | shortest
  deriving DecidableEq, Repr

def Style.ofCode? (code : CodePoint) : Option Style :=
  if code = 'f' ∨ code = 'F' then some .positional
  else if code = 'e' ∨ code = 'E' then some (.exponential code)
  else if code = 'g' then some (.general 'e' false)
  else if code = 'G' then some (.general 'E' false)
  else if code = '%' then some .percent
  else none

/-- The unsigned text of a number in a style. -/
def Style.write (precision : Nat) (showsPoint : Bool) (x : Binary64) (style : Style) : Rounded :=
  match x with
  | .nan => ⟨[], "nan"⟩
  | .infinite _ => ⟨[], "inf"⟩
  | .finite _ mantissa exponent =>
    let value := Binary64.ratio mantissa 2 exponent
    match style with
    | .positional | .percent => .positional precision showsPoint value
    | .exponential mark => .exponential mark precision showsPoint value
    | .general mark showsPlace => .general mark precision showsPlace showsPoint value
    | .shortest => .ofText showsPoint ((Binary64.finite false mantissa exponent).written [] [])

/-- The precision of a rounded number if none is given. -/
def defaultPrecision : Nat := 6

def maxPrecision : Nat := 0x7FFFFFFF

/-- A rounded number with its sign, grouped and padded; only digits are grouped. -/
def padNumber (s : Spec) (negative : Bool) (number : Rounded) : Text :=
  let front := s.signText negative
  let width := if s.isZeroFilled then s.width.getD 0 - front.length - number.rest.length else 0
  let whole := if number.whole.isEmpty then [] else s.writeDigits width number.whole
  s.pad front (whole ++ number.rest)

/-- A number written in a style. A percentage may be too large for the binary format. What rounds
to zero may be asked to lose its sign, and what is no number has none. -/
def formatNumber (s : Spec) (style : Style) (x : Binary64) : Except Fault Text :=
  let precision := s.precision.getD defaultPrecision
  if maxPrecision < precision then .error .precisionSize
  else if s.isOversized then .error .textSize
  else
    let x := if style = .percent then x.timesNatural 100 else x
    let number := style.write precision s.alternate x
    let negative := x.isNegative && !(s.zeroCoercion && number.isZero)
    let rest := if ("EFG" : Text).contains s.code then capitals number.rest else number.rest
    let mark : Text := if style = .percent then "%" else []
    .ok (s.padNumber negative ⟨number.whole, rest ++ mark⟩)

/-- An integer rounded to the binary format and then written in a style. -/
def formatRounded (s : Spec) (style : Style) (value : Int) : Except Fault Text :=
  let x := Binary64.ofInt value
  if x.isInfinite then .error .integerSize else s.formatNumber style x

/-! ### Floating-point numbers -/

/-- The code that stands for none. -/
def noCode : CodePoint := '\x00'

def floatDefaults : Defaults := ⟨"float", .right, noCode⟩

/-- Without a code a number takes as few digits as read back, or the precision with a place behind
the point. -/
def formatFloat (s : Spec) (x : Binary64) : Except Fault Text :=
  if s.code = noCode then
    s.formatNumber (if s.precision.isNone then .shortest else .general 'e' true) x
  else if s.code = 'n' then s.formatNumber (.general 'e' false) x
  else
    match Style.ofCode? s.code with
    | some style => s.formatNumber style x
    | none => .error (.unknownCode s.code floatDefaults.typeName)

/-! ### All codes of integers -/

def formatInteger (s : Spec) (typeName : Text) (value : Int) : Except Fault Text :=
  match Style.ofCode? s.code, base? s.code with
  | some style, _ => s.formatRounded style value
  | none, some (base, mark) =>
    if s.precision.isSome then .error .precisionInInteger
    else if s.zeroCoercion then .error .zeroInInteger
    else if s.isOversized then .error .textSize
    else .ok (s.formatBase base mark value)
  | none, none =>
    if s.code ≠ 'c' then .error (.unknownCode s.code typeName)
    else if s.precision.isSome then .error .precisionInInteger
    else if s.zeroCoercion then .error .zeroInInteger
    else s.formatCharacter value

end Spec

/-- A value written as the specification `spec` says; an empty one takes the value's plain text. -/
def formatValue (value : Json) (spec : Text) : Except Fault Text :=
  if spec.isEmpty then .ok value.plain
  else
    let typeName := value.typeName
    let integer (n : Int) : Except Fault Text := do
      (← Spec.parse (Spec.integerDefaults typeName) spec).formatInteger typeName n
    match value with
    | .str t => do (← Spec.parse Spec.textDefaults spec).formatText t
    | .int n => integer n
    | .bool b => integer (if b then 1 else 0)
    | .float x => do (← Spec.parse Spec.floatDefaults spec).formatFloat x
    | _ => .error (.unsupportedSpec typeName)

end TargetHelp.Template
