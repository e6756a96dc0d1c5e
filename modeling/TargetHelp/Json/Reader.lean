import TargetHelp.Json.Value
import TargetHelp.Text.Decimal

/-!
# Reading JSON

The reader is an automaton: `step` takes one code point, `finish` the end of the text, and
reading a text folds the one over it and ends with the other. Its state holds the stack of open
arrays and objects. The first fault decides; a failed state is never left.

Beyond the standard grammar the reader takes the names `NaN`, `Infinity` and `-Infinity`. A pair of
escaped surrogates is one code point, a lone one stands for itself. Integers have at most
`Text.maxDigits` digits and containers nest at most `maxDepth` deep.
-/

set_option autoImplicit false
set_option relaxedAutoImplicit false

namespace TargetHelp.Json

inductive SyntaxError where
  | byteOrderMark
  | expectingValue
  | expectingKey
  | expectingColon
  | expectingComma
  | extraData
  | unterminatedString
  | controlCharacter
  | badEscape
  | badUnicodeEscape
  deriving DecidableEq, Repr

def SyntaxError.message : SyntaxError → Text
  | .byteOrderMark => "Unexpected UTF-8 BOM (decode using utf-8-sig)"
  | .expectingValue => "Expecting value"
  | .expectingKey => "Expecting property name enclosed in double quotes"
  | .expectingColon => "Expecting ':' delimiter"
  | .expectingComma => "Expecting ',' delimiter"
  | .extraData => "Extra data"
  | .unterminatedString => "Unterminated string starting at"
  | .controlCharacter => "Invalid control character at"
  | .badEscape => "Invalid \\escape"
  | .badUnicodeEscape => "Invalid \\uXXXX escape"

inductive Container where
  | array
  | object
  deriving DecidableEq, Repr

inductive ReadError where
  | invalid (error : SyntaxError)
  | tooManyDigits (digits : Nat)
  | tooDeep (container : Container)
  deriving DecidableEq, Repr

def ReadError.message : ReadError → Text
  | .invalid error => error.message
  | .tooManyDigits digits =>
    "Exceeds the limit (" ++ Text.decimal Text.maxDigits ++
      " digits) for integer string conversion: value has " ++ Text.decimal digits ++
      " digits; use sys.set_int_max_str_digits() to increase the limit"
  | .tooDeep .array =>
    "maximum recursion depth exceeded while decoding a JSON array from a unicode string"
  | .tooDeep .object =>
    "maximum recursion depth exceeded while decoding a JSON object from a unicode string"

/-- How deep containers may nest. -/
def maxDepth : Nat := 988

/-! ### States -/

/-- An open container: the items so far, last first, or the fields so far and the key whose value
is being read. -/
inductive Frame where
  | array (items : List Json)
  | object (fields : Fields Json) (key : Text)

/-- What a string being read is for. -/
inductive Role where
  | value (stack : List Frame)
  | key (stack : List Frame) (fields : Fields Json)

/-- Where in a string the reader is. A high surrogate waits until it is known whether an escaped
low one follows it. -/
inductive StringState where
  | plain
  | afterBackslash (high : Option CodePoint)
  /-- After some of the four digits of an escape by number. -/
  | digits (high : Option CodePoint) (value count : Nat)
  /-- After a complete escape by number, which something has to follow. -/
  | escaped (c : CodePoint)

/-- The part of a number read last. -/
inductive NumberState where
  | minus
  | zero
  | whole
  | point
  | fraction
  | mark
  | markSign
  | exponent
  deriving DecidableEq

/-- A number so far: its digits as one number, how many stand before and after the point, and the
exponent. -/
structure Numeral where
  negative : Bool
  digits : Nat := 0
  wholeCount : Nat := 0
  fractionCount : Nat := 0
  exponentNegative : Bool := false
  exponent : Nat := 0

inductive State where
  | start
  /-- Before a value; `opened` says that its array has only just been opened. -/
  | value (stack : List Frame) (opened : Bool)
  /-- Before a key; `opened` says that its object has only just been opened. -/
  | key (stack : List Frame) (fields : Fields Json) (opened : Bool)
  | colon (stack : List Frame) (fields : Fields Json) (key : Text)
  /-- After a complete value. -/
  | after (stack : List Frame) (value : Json)
  /-- In a string, whose code points so far stand last first. -/
  | string (role : Role) (read : Text) (place : StringState)
  | number (stack : List Frame) (place : NumberState) (numeral : Numeral)
  /-- In a fixed word, of which `rest` is still to come. -/
  | word (stack : List Frame) (rest : Text) (value : Json)
  | failed (error : ReadError)

def State.invalid (error : SyntaxError) : State := .failed (.invalid error)

def isSpace (c : CodePoint) : Bool := c = ' ' || c = '\t' || c = '\n' || c = '\r'

/-! ### Steps -/

/-- The steps after a complete value: a space, or what the innermost container allows. -/
def stepAfter (stack : List Frame) (value : Json) (c : CodePoint) : State :=
  if isSpace c then .after stack value
  else
    match stack with
    | [] => .invalid .extraData
    | .array items :: outer =>
      if c = ',' then .value (.array (value :: items) :: outer) false
      else if c = ']' then .after outer (.arr (value :: items).reverse)
      else .invalid .expectingComma
    | .object fields key :: outer =>
      if c = ',' then .key outer (fields.set key value) false
      else if c = '\x7d' then .after outer (.obj (fields.set key value))
      else .invalid .expectingComma

def hexValue? (c : CodePoint) : Option Nat :=
  let n := c.val
  if 0x30 ≤ n ∧ n ≤ 0x39 then some (n - 0x30)
  else if 0x61 ≤ n ∧ n ≤ 0x66 then some (n - 0x61 + 10)
  else if 0x41 ≤ n ∧ n ≤ 0x46 then some (n - 0x41 + 10)
  else none

/-- The code point that a backslash followed by `c` stands for. -/
def simpleEscape? (c : CodePoint) : Option CodePoint :=
  if c = '\x22' then some c
  else if c = '\x5c' then some c
  else if c = '/' then some c
  else if c = 'b' then some (CodePoint.ofChar '\x08')
  else if c = 'f' then some (CodePoint.ofChar '\x0c')
  else if c = 'n' then some (CodePoint.ofChar '\n')
  else if c = 'r' then some (CodePoint.ofChar '\r')
  else if c = 't' then some (CodePoint.ofChar '\t')
  else none

/-- The code point of a high and a low surrogate. -/
def joinSurrogates (high low : CodePoint) : CodePoint :=
  CodePoint.ofNat (0x10000 + (high.val - 0xD800) * 0x400 + (low.val - 0xDC00))

def Role.close (role : Role) (read : Text) : State :=
  match role with
  | .value stack => .after stack (.str read.reverse)
  | .key stack fields => .colon stack fields read.reverse

def stepPlain (role : Role) (read : Text) (c : CodePoint) : State :=
  if c = '\x22' then role.close read
  else if c = '\x5c' then .string role read (.afterBackslash none)
  else if c.val < 0x20 then .invalid .controlCharacter
  else .string role (c :: read) .plain

/-- `read` with a waiting high surrogate added. -/
def flush (high : Option CodePoint) (read : Text) : Text :=
  match high with
  | none => read
  | some h => h :: read

/-- After the last digit of an escape for `c`: a waiting high surrogate joins a low one. -/
def completeEscape (role : Role) (read : Text) (high : Option CodePoint) (c : CodePoint) : State :=
  match high with
  | none => .string role read (.escaped c)
  | some h =>
    if c.IsLowSurrogate then .string role read (.escaped (joinSurrogates h c))
    else .string role (h :: read) (.escaped c)

def stepString (role : Role) (read : Text) (place : StringState) (c : CodePoint) : State :=
  match place with
  | .plain => stepPlain role read c
  | .afterBackslash high =>
    if c = 'u' then .string role read (.digits high 0 0)
    else
      match simpleEscape? c with
      | some e => .string role (e :: flush high read) .plain
      | none => .invalid .badEscape
  | .digits high value count =>
    match hexValue? c with
    | none => .invalid .badUnicodeEscape
    | some d =>
      if count = 3 then completeEscape role read high (CodePoint.ofNat (value * 16 + d))
      else .string role read (.digits high (value * 16 + d) (count + 1))
  | .escaped e =>
    if e.IsHighSurrogate ∧ c = '\x5c' then .string role read (.afterBackslash (some e))
    else stepPlain role (e :: read) c

def Numeral.addWhole (n : Numeral) (d : Nat) : Numeral :=
  { n with digits := n.digits * 10 + d, wholeCount := n.wholeCount + 1 }

def Numeral.addFraction (n : Numeral) (d : Nat) : Numeral :=
  { n with digits := n.digits * 10 + d, fractionCount := n.fractionCount + 1 }

def Numeral.addExponent (n : Numeral) (d : Nat) : Numeral :=
  { n with exponent := n.exponent * 10 + d }

def Numeral.toInt (n : Numeral) : Int := if n.negative then -(n.digits : Int) else n.digits

def Numeral.toFloat (n : Numeral) : Binary64 :=
  let exponent : Int := if n.exponentNegative then -(n.exponent : Int) else n.exponent
  Binary64.ofDecimal n.negative n.digits (exponent - n.fractionCount)

/-- The value of a complete number. -/
def Numeral.value (n : Numeral) (isInteger : Bool) : Except ReadError Json :=
  if isInteger then
    if Text.maxDigits < n.wholeCount then .error (.tooManyDigits n.wholeCount)
    else .ok (.int n.toInt)
  else .ok (.float n.toFloat)

/-- The end of a number before `c`. A point without a digit, or an exponent mark without one, is
left over and follows the number where nothing of the kind may stand. -/
def endNumber (stack : List Frame) (place : NumberState) (n : Numeral) (next : CodePoint) : State :=
  let close (isInteger : Bool) (c : CodePoint) : State :=
    match n.value isInteger with
    | .error error => .failed error
    | .ok value => stepAfter stack value c
  match place with
  | .minus => .invalid .expectingValue
  | .zero | .whole => close true next
  | .point => close true '.'
  | .mark | .markSign => close (n.fractionCount = 0) 'e'
  | .fraction | .exponent => close false next

def infinityTail : Text := "nfinity"

def stepNumber (stack : List Frame) (place : NumberState) (n : Numeral) (c : CodePoint) : State :=
  let d := Text.asciiDigitValue c
  let isDigit := Text.isAsciiDigit c
  let isMark : Bool := c = 'e' || c = 'E'
  match place with
  | .minus =>
    if c = 'I' then .word stack infinityTail (.float (.infinite true))
    else if c = '0' then .number stack .zero (n.addWhole 0)
    else if isDigit then .number stack .whole (n.addWhole d)
    else .invalid .expectingValue
  | .zero =>
    if c = '.' then .number stack .point n
    else if isMark then .number stack .mark n
    else endNumber stack place n c
  | .whole =>
    if isDigit then .number stack .whole (n.addWhole d)
    else if c = '.' then .number stack .point n
    else if isMark then .number stack .mark n
    else endNumber stack place n c
  | .point =>
    if isDigit then .number stack .fraction (n.addFraction d) else endNumber stack place n c
  | .fraction =>
    if isDigit then .number stack .fraction (n.addFraction d)
    else if isMark then .number stack .mark n
    else endNumber stack place n c
  | .mark =>
    if isDigit then .number stack .exponent (n.addExponent d)
    else if c = '+' then .number stack .markSign n
    else if c = '-' then .number stack .markSign { n with exponentNegative := true }
    else endNumber stack place n c
  | .markSign | .exponent =>
    if isDigit then .number stack .exponent (n.addExponent d) else endNumber stack place n c

def stepWord (stack : List Frame) (rest : Text) (value : Json) (c : CodePoint) : State :=
  match rest with
  | [] => .invalid .expectingValue
  | [d] => if c = d then .after stack value else .invalid .expectingValue
  | d :: rest => if c = d then .word stack rest value else .invalid .expectingValue

/-- The first code point of a value. -/
def stepValue (stack : List Frame) (opened : Bool) (c : CodePoint) : State :=
  if isSpace c then .value stack opened
  else if c = '\x22' then .string (.value stack) [] .plain
  else if c = '\x7b' then
    if maxDepth ≤ stack.length then .failed (.tooDeep .object) else .key stack [] true
  else if c = '[' then
    if maxDepth ≤ stack.length then .failed (.tooDeep .array) else .value (.array [] :: stack) true
  else if c = 'n' then .word stack "ull" .null
  else if c = 't' then .word stack "rue" (.bool true)
  else if c = 'f' then .word stack "alse" (.bool false)
  else if c = 'N' then .word stack "aN" (.float .nan)
  else if c = 'I' then .word stack infinityTail (.float (.infinite false))
  else if c = '-' then .number stack .minus ⟨true, 0, 0, 0, false, 0⟩
  else if c = '0' then .number stack .zero ⟨false, 0, 1, 0, false, 0⟩
  else if Text.isAsciiDigit c then
    .number stack .whole ⟨false, Text.asciiDigitValue c, 1, 0, false, 0⟩
  else
    match opened, stack with
    | true, .array _ :: outer =>
      if c = ']' then .after outer (.arr []) else .invalid .expectingValue
    | _, _ => .invalid .expectingValue

def stepKey (stack : List Frame) (fields : Fields Json) (opened : Bool) (c : CodePoint) : State :=
  if isSpace c then .key stack fields opened
  else if c = '\x22' then .string (.key stack fields) [] .plain
  else if c = '\x7d' ∧ opened = true then .after stack (.obj [])
  else .invalid .expectingKey

def byteOrderMark : CodePoint := '\ufeff'

def step : State → CodePoint → State
  | .start, c => if c = byteOrderMark then .invalid .byteOrderMark else stepValue [] false c
  | .value stack opened, c => stepValue stack opened c
  | .key stack fields opened, c => stepKey stack fields opened c
  | .colon stack fields key, c =>
    if isSpace c then .colon stack fields key
    else if c = ':' then .value (.object fields key :: stack) false
    else .invalid .expectingColon
  | .after stack value, c => stepAfter stack value c
  | .string role read place, c => stepString role read place c
  | .number stack place numeral, c => stepNumber stack place numeral c
  | .word stack rest value, c => stepWord stack rest value c
  | .failed error, _ => .failed error

/-! ### The end of the text -/

/-- A complete value, which ends the text if no container is open. -/
def finishAfter (stack : List Frame) (value : Json) : Except ReadError Json :=
  match stack with
  | [] => .ok value
  | _ :: _ => .error (.invalid .expectingComma)

def finish : State → Except ReadError Json
  | .start | .value _ _ | .word _ _ _ => .error (.invalid .expectingValue)
  | .key _ _ _ => .error (.invalid .expectingKey)
  | .colon _ _ _ => .error (.invalid .expectingColon)
  | .after stack value => finishAfter stack value
  | .string _ _ .plain | .string _ _ (.afterBackslash _) =>
    .error (.invalid .unterminatedString)
  | .string _ _ _ => .error (.invalid .badUnicodeEscape)
  | .number stack place numeral =>
    -- What follows a number at the end of the text is a space that adds nothing.
    match endNumber stack place numeral ' ' with
    | .after stack value => finishAfter stack value
    | .failed error => .error error
    | _ => .error (.invalid .expectingValue)
  | .failed error => .error error

/-- The state of the reader after the code points of a text. -/
def run (s : State) (t : Text) : State := t.foldl step s

def read (t : Text) : Except ReadError Json := finish (run .start t)

theorem run_append (s : State) (t u : Text) : run s (t ++ u) = run (run s t) u :=
  List.foldl_append

@[simp]
theorem run_nil (s : State) : run s [] = s := rfl

theorem run_cons (s : State) (c : CodePoint) (t : Text) : run s (c :: t) = run (step s c) t := rfl

@[simp]
theorem run_failed (error : ReadError) (t : Text) : run (.failed error) t = .failed error := by
  induction t with
  | nil => rfl
  | cons c t ih => rw [run_cons]; exact ih

end TargetHelp.Json
