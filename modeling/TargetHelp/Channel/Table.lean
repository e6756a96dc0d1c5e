import TargetHelp.Json.Use

/-!
# Channel tables

The channels that are known, what they are described as, and which of them stay silent unless they
are asked for. `generic` holds the channels of any program, `help` those of this one. Names and
descriptions are texts by rule, but a table can be given other values for them.
-/

set_option autoImplicit false
set_option relaxedAutoImplicit false

namespace TargetHelp.Channel

structure Table where
  known : List Json
  descriptions : Json
  optIn : List Json

namespace Table

/-- A table of names, their descriptions, and the names that are opt-in. -/
def ofNames (known : List Text) (descriptions : Fields Text) (optIn : List Text) : Table where
  known := known.map .str
  descriptions := .obj (descriptions.map fun (name, text) => (name, .str text))
  optIn := optIn.map .str

def generic : Table := ofNames ["general", "hint", "error", "trace"] [
    ("general", "General output"),
    ("hint", "Contextual tips and suggestions"),
    ("error", "Error messages"),
    ("trace", "Function call tracing")] ["trace"]

def help : Table := ofNames ["parse", "render", "config", "general", "hint", "error", "trace"] [
    ("parse", "Parser selection and node counts"),
    ("render", "Rendered view summaries"),
    ("config", "Configuration loading and resolution"),
    ("general", "General output"),
    ("hint", "Contextual tips and suggestions"),
    ("error", "Error messages"),
    ("trace", "Function call tracing (--show trace:3)")] ["trace"]

/-- The names among the known channels. -/
def names (table : Table) : List Text := table.known.filterMap Json.text?

/-- The names among the opt-in channels. -/
def optInNames (table : Table) : List Text := table.optIn.filterMap Json.text?

/-- The length of the longest known name. -/
def nameWidth (table : Table) : Nat := (table.names.map List.length).foldl max 0

/-- The description of a name, empty if there is none. -/
def description (table : Table) (name : Text) : Except Fault Text :=
  match table.descriptions with
  | .obj fields => .ok (((Fields.get? name fields).map Json.plain).getD [])
  | value => .error (.noMember value.typeName "get")

/-- The line of one channel: its name, padded, its description, and whether it is opt-in. -/
def line (table : Table) (name : Text) : Except Fault Text := do
  return "  " ++ Text.padRight table.nameWidth name ++ "  " ++ (← table.description name) ++
    (if table.optInNames.contains name then " (opt-in)" else "")

/-- The known channels in the order of their names, one to a line; without channels there is
nothing to list. -/
def listing (table : Table) : Except Fault Text := do
  if table.known.isEmpty then throw .noChannels
  table.known.forM fun name => discard name.length
  let lines ← (Text.sortedDistinct table.names).mapM table.line
  return Text.join [Text.lineFeed] ("Available channels:" :: lines)

end Table

end TargetHelp.Channel
