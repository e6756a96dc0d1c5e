import TargetHelp.Json.Value
import TargetHelp.Number.Shortest
import TargetHelp.Text.Quoted

/-!
# Writing JSON

Two texts of a value. `encode` writes JSON in printable ASCII on one line, with a space after each
comma and colon. `display` shows a value to a reader, with texts quoted as by `Text.quoted`.
-/

set_option autoImplicit false
set_option relaxedAutoImplicit false

namespace TargetHelp.Json

/-- The escape `\uXXXX` of a number below 0x10000. -/
def unitEscape (n : Nat) : Text :=
  Text.backslash :: CodePoint.ofChar 'u' :: Text.hexadecimal 4 n

/-- How a code point is written in a string; one beyond 0xFFFF becomes a pair of surrogates. -/
def encodePoint (c : CodePoint) : Text :=
  if c = Text.quotationMark ∨ c = Text.backslash then [Text.backslash, c]
  else if c = '\n' then "\\n"
  else if c = '\r' then "\\r"
  else if c = '\t' then "\\t"
  else if c.val = 0x08 then "\\b"
  else if c.val = 0x0C then "\\f"
  else if 0x20 ≤ c.val ∧ c.val < 0x7F then [c]
  else if c.val < 0x10000 then unitEscape c.val
  else
    unitEscape (0xD800 + (c.val - 0x10000) / 0x400) ++
      unitEscape (0xDC00 + (c.val - 0x10000) % 0x400)

def encodeText (t : Text) : Text :=
  Text.quotationMark :: t.flatMap encodePoint ++ [Text.quotationMark]

mutual

def encode : Json → Text
  | .null => "null"
  | .bool true => "true"
  | .bool false => "false"
  | .int value => Text.signedDecimal value
  | .float value => value.written "NaN" "Infinity"
  | .str value => encodeText value
  | .arr items => "[" ++ Text.join ", " (encodeItems items) ++ "]"
  | .obj fields => "\x7b" ++ Text.join ", " (encodeFields fields) ++ "\x7d"

def encodeItems : List Json → List Text
  | [] => []
  | item :: items => encode item :: encodeItems items

def encodeFields : List (Text × Json) → List Text
  | [] => []
  | (key, value) :: fields => (encodeText key ++ ": " ++ encode value) :: encodeFields fields

end

mutual

def display : Json → Text
  | .null => "None"
  | .bool true => "True"
  | .bool false => "False"
  | .int value => Text.signedDecimal value
  | .float value => value.written "nan" "inf"
  | .str value => Text.quoted value
  | .arr items => "[" ++ Text.join ", " (displayItems items) ++ "]"
  | .obj fields => "\x7b" ++ Text.join ", " (displayFields fields) ++ "\x7d"

def displayItems : List Json → List Text
  | [] => []
  | item :: items => display item :: displayItems items

def displayFields : List (Text × Json) → List Text
  | [] => []
  | (key, value) :: fields => (Text.quoted key ++ ": " ++ display value) :: displayFields fields

end

/-- A value within a sentence: a text stands for itself. -/
def plain : Json → Text
  | .str value => value
  | value => display value

end TargetHelp.Json
