import TargetHelp.Diagnostics.Manager
import TargetHelp.Json.Reader
import TargetHelp.Node.Record
import TargetHelp.Parser.Basic
import TargetHelp.Text.Blank

/-!
# Node streams

The built-in format: one node record to a line. Blank lines count but hold nothing. The first line
that is no record ends the reading with its number.
-/

set_option autoImplicit false
set_option relaxedAutoImplicit false

namespace TargetHelp.Node

/-- Records, one to a line. -/
def dumpRecords (records : List Json) : Text :=
  (records.map fun record => record.encode ++ [Text.lineFeed]).flatten

/-- The nodes as records, one to a line. -/
def dump (nodes : List Node) : Text := dumpRecords (nodes.map toJson)

/-- The node of a line that is not blank. -/
def ofLine (number : Nat) (line : Text) : Except Fault Node :=
  match Json.read line with
  | .error (.invalid error) => .error (.parse ("invalid JSON: " ++ error.message) (some number))
  | .error (.tooDeep _) => .error (.parse "invalid JSON: nested too deeply" (some number))
  | .error (.tooManyDigits digits) => .error (.json (.tooManyDigits digits))
  | .ok value =>
    match ofJson value with
    | .error error => .error (.parse error.message (some number))
    | .ok node => .ok node

/-- The nodes of lines whose first one has a given number, and what ended them early. -/
def ofLines (number : Nat) : List Text → List Node × Option Fault
  | [] => ([], none)
  | line :: lines =>
    if Text.isBlank line then ofLines (number + 1) lines
    else
      match ofLine number line with
      | .error fault => ([], some fault)
      | .ok node =>
        let (nodes, fault) := ofLines (number + 1) lines
        (node :: nodes, fault)

/-- What a completed reading reports. -/
def readingReport (count : Nat) (includePath : Json) : Report where
  level := Level.debug
  channel := "parse"
  text := "  [parse] decoded " ++ Text.decimal count ++ " nodes (include path " ++
    includePath.plain ++ ")"

/-- The nodes of a source. What is included has already been resolved, so the directory for
includes is only mentioned. -/
def readStream (source : Source) (includePath : Json) : Reading :=
  let (nodes, fault) := ofLines 1 source.lines
  match fault.or source.fault with
  | some fault => { nodes, fault := some fault }
  | none => { nodes, reports := [readingReport nodes.length includePath] }

end TargetHelp.Node

namespace TargetHelp.Parser

/-- The parser used when no other is named. -/
def nodeStream : Parser where
  display := "<function parse_recursive at ADDR>"
  read := .reads Node.readStream

end TargetHelp.Parser
