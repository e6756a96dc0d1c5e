import TargetHelp.Json.Use

/-!
# Hints

A hint is a tip shown at most once, after a step of one of its contexts. The registry keeps hints
in the order in which their identifiers first came; registering an identifier again replaces its
hint in place. Its parts are texts and a level by rule, but may be any values; identifiers and
contexts must be values to look up by.
-/

set_option autoImplicit false
set_option relaxedAutoImplicit false

namespace TargetHelp

structure Hint where
  id : Json
  message : Json
  contexts : List Json := [.str "result"]
  minLevel : Json := .int 0
  category : Json := .str "general"

namespace Hint

abbrev Registry := List Hint

namespace Registry

def register (hint : Hint) : Registry → Registry
  | [] => [hint]
  | other :: rest =>
    if Json.same other.id hint.id then hint :: rest else other :: register hint rest

/-- Registers hints one after the other, up to the first whose identifier is nothing to look up by,
and tells that fault. -/
def registerAll (registry : Registry) : List Hint → Registry × Option Fault
  | [] => (registry, none)
  | hint :: hints =>
    match hint.id.checkKey with
    | .ok () => registerAll (register hint registry) hints
    | .error fault => (registry, some fault)

def find? (id : Json) (registry : Registry) : Option Hint :=
  List.find? (fun hint => Json.same hint.id id) registry

def inCategory (category : Json) (registry : Registry) : List Hint :=
  registry.filter fun hint => Json.same hint.category category

end Registry

/-! ### The hints of this program -/

def tryDescribe : Hint where
  id := .str "list.describe"
  message := .str "  Tip: Run 'mmhelp describe <target>' for a target's full description."
  minLevel := .int 1
  category := .str "render"

def noComments : Hint where
  id := .str "list.empty"
  message := .str (
    "  Note: No target comments found. Comments must be attached to a target by the parser to " ++
      "appear here.")
  category := .str "render"

def noMatch : Hint where
  id := .str "describe.no_match"
  message :=
    .str "  Note: No help found for target '\x7btarget\x7d' (names are case-sensitive)."
  category := .str "render"

def nodeStream : Hint where
  id := .str "parse.node_stream"
  message := .str ("  Tip: The built-in parser reads a JSON Lines node stream. " ++
    "Use --parser 'package.module:callable' to plug in a build-file parser.")
  contexts := [.str "error"]
  category := .str "parse"

def ofProgram : List Hint := [tryDescribe, noComments, noMatch, nodeStream]

end Hint

end TargetHelp
