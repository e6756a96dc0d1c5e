import TargetHelp.Json.Reader

/-!
# Where a text is malformed

The place of a syntax error is found by running the reader once more with the index of the next
code point and that of the string, number or word being read. Most errors stand at the code point
that caused them; an unfinished string, number or word is reported where it starts, an escape at
its backslash or at its `u`, and what cannot belong to a number where it starts.
-/

set_option autoImplicit false
set_option relaxedAutoImplicit false

namespace TargetHelp.Json

/-- A place in a text: lines and columns count from one, the offset from zero. -/
structure Location where
  line : Nat
  column : Nat
  offset : Nat
  deriving DecidableEq, Repr

namespace Location

def ofOffset (t : Text) (offset : Nat) : Location :=
  let before := t.take offset
  let lineFeeds := before.filter fun c => c = Text.lineFeed
  let lastLine := before.reverse.takeWhile fun c => c ≠ Text.lineFeed
  ⟨lineFeeds.length + 1, lastLine.length + 1, offset⟩

def text (place : Location) : Text :=
  "line " ++ Text.decimal place.line ++ " column " ++ Text.decimal place.column ++
    " (char " ++ Text.decimal place.offset ++ ")"

end Location

/-- Whether the reader is within a string, a number or a word. -/
def State.isWithin : State → Bool
  | .string _ _ _ | .number _ _ _ | .word _ _ _ => true
  | _ => false

/-- Where an error stands that the code point at `index` or the end of the text has caused in a
state. What was being read starts at `start`. -/
def State.offset (s : State) (start index : Nat) (error : SyntaxError) : Nat :=
  match error, s with
  | .unterminatedString, _ => start
  | .badEscape, _ => index - 1
  | .badUnicodeEscape, .string _ _ (.digits _ _ count) => index - count - 1
  | .badUnicodeEscape, _ => index - 5
  | .expectingValue, .word _ _ _ | .expectingValue, .number _ .minus _ => start
  | _, .number _ .point _ | _, .number _ .mark _ => index - 1
  | _, .number _ .markSign _ => index - 2
  | _, _ => index

/-- The offset of an error in what is still to be read. -/
def offsetFrom (error : SyntaxError) (s : State) (start index : Nat) : Text → Nat
  | [] => s.offset start index error
  | c :: t =>
    match step s c with
    | .failed _ => s.offset start index error
    | next => offsetFrom error next (if s.isWithin then start else index) (index + 1) t

/-- The place of an error that reading a text has ended in. -/
def locate (t : Text) (error : SyntaxError) : Location :=
  .ofOffset t (offsetFrom error .start 0 0 t)

/-- What is wrong with a text, and where. -/
def SyntaxError.report (error : SyntaxError) (place : Location) : Text :=
  error.message ++ (": " : Text) ++ place.text

end TargetHelp.Json
