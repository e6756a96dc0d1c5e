import TargetHelp.Diagnostics.Trace
import TargetHelp.Draft
import TargetHelp.Node.Stream

/-!
# Rendering

Comments are collected before anything is written, so a fault of the parser leaves the output
untouched. Whatever a parser raises is reported as one kind of failure with the parser's own fault
as its cause; only an interrupt passes unchanged.
-/

set_option autoImplicit false
set_option relaxedAutoImplicit false

namespace TargetHelp

/-- Some drafts as a trace shows them. -/
def Draft.briefList (drafts : List Draft) : Text :=
  if 3 < drafts.length then Text.briefCount drafts.length
  else Text.brief ("[" ++ Text.join ", " (drafts.map Draft.display) ++ "]")

/-- Some comments as a trace shows them. -/
def Comment.briefList (comments : List Comment) : Text :=
  Draft.briefList (comments.map Draft.ofComment)

/-- The fault that a fault of a parser becomes: a failure of parsing, but for an interrupt and for
what the parser is not to blame for. -/
def Fault.ofParsing : Fault → Fault
  | .misuse fault => fault
  | fault => if fault.isInterrupt then fault else .failure "parsing" fault

namespace Session

/-- The nodes that a parser reads, or the fault that its fault becomes. -/
def parseNodes (parser : Parser) (source : Source) (includePath : Json) : SessionM (List Node) :=
  tryCatch (parser.read source includePath) fun fault => throw fault.ofParsing

def countNote (nodes comments : Nat) : Text :=
  "  [parse] " ++ Text.decimal nodes ++ " nodes, " ++ Text.decimal comments ++ " target comments"

def collectUntraced (parser : Parser) (source : Source) (includePath : Json) :
    SessionM (List Comment) := do
  let nodes ← parseNodes parser source includePath
  let comments := Node.documented nodes
  report Level.detail "parse" (countNote nodes.length comments.length)
  return comments

/-- The call that collects comments. A trace of it shows the arguments `named` by the caller,
already made brief. -/
def collecting (named : Fields Text) (source : Source) : Call :=
  ⟨"mmhelp.lib.help_lib.core.get_comments", [Text.brief source.display], named⟩

/-- The comments of a source, ordered by target. -/
def collect (named : Fields Text) (parser : Parser) (source : Source) (includePath : Json) :
    SessionM (List Comment) :=
  traced (collecting named source) (fun comments => some (Comment.briefList comments))
    (collectUntraced parser source includePath)

/-- The drafts among records in the place of nodes, ordered by target, unless a fault ends the
reading of the records. -/
def collectDrafts (named : Fields Text) (source : Source) (records : List Json)
    (fault? : Option Fault) : SessionM (List Draft) :=
  traced (collecting named source) (fun drafts => some (Draft.briefList drafts)) do
    if let some fault := fault? then throw fault.ofParsing
    let drafts := Draft.attached (records.filterMap Draft.ofRecord?)
    report Level.detail "parse" (countNote records.length drafts.length)
    attempt (Draft.sorted drafts)

/-- The directory searched for includes unless another is set. -/
def defaultIncludePath : Json := .str "/usr/local/include"

/-- The arguments of a rendering that a trace shows. -/
def renderingArguments (parser? : Option Parser) (includePath : Json) : Fields Text :=
  let shownParser :=
    match parser? with
    | some parser => parser.display
    | none => Json.display .null
  [("parser", Text.briefWithAddress shownParser), ("include_path", includePath.brief)]

/-- Writes the pieces of a view to the output and returns how many there are. -/
def writeView (view : View) (pieces : List Text) : SessionM Nat := do
  (View.frame pieces).forM writeOutput
  report Level.summary "render" (view.summary pieces.length)
  return pieces.length

/-- Writes the view of a source to the output and returns how many entries it shows. -/
def render (view : View) (source : Source) (parser? : Option Parser) (includePath : Json) :
    SessionM Nat := do
  let named := renderingArguments parser? includePath
  let comments ← collect named (parser?.getD .nodeStream) source includePath
  writeView view (view.pieces comments)

/-- The view of a single target, which may be given as any value. -/
def renderTarget (target : Json) (source : Source) (parser? : Option Parser) (includePath : Json) :
    SessionM Nat := do
  let named := renderingArguments parser? includePath
  let comments ← collect named (parser?.getD .nodeStream) source includePath
  let view := View.target target.plain
  writeView view (← attempt (Draft.pieces view target (comments.map Draft.ofComment)))

/-- `render` for records in the place of nodes; a view of a single target shows `target`. -/
def renderDrafts (view : View) (target : Json) (source : Source) (parser : Parser)
    (records : List Json) (fault? : Option Fault) (includePath : Json) : SessionM Nat := do
  let drafts ← collectDrafts (renderingArguments (some parser) includePath) source records fault?
  writeView view (← attempt (Draft.pieces view target drafts))

end Session

end TargetHelp
