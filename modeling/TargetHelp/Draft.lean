import TargetHelp.Json.Use
import TargetHelp.Node.Record
import TargetHelp.Sorting
import TargetHelp.Template.Spec
import TargetHelp.View

/-!
# Drafts of comments

A comment whose parts may be any values. Parsers make comments of texts, but nothing keeps a parser
from giving other values, and the views then go as far as these let them: a part is refused only
where its text, its length or its order is wanted.
-/

set_option autoImplicit false
set_option relaxedAutoImplicit false

namespace TargetHelp

structure Draft where
  target : Json
  value : Json

namespace Draft

def ofComment (c : Comment) : Draft := ⟨.str c.target, .str c.value⟩

/-- The draft in the record of a comment; records of other kinds hold none. -/
def ofRecord? (record : Json) : Option Draft :=
  let part (key : Text) : Json := (Fields.get? key record.fields).getD (.str [])
  if Json.same (part "kind") (.str Node.commentKind) then some ⟨part "target", part "value"⟩
  else none

/-- The record of a draft. -/
def toJson (d : Draft) : Json :=
  .obj [("kind", .str Node.commentKind), ("target", d.target), ("value", d.value)]

/-! ### Selecting and sorting -/

def isAttached (d : Draft) : Bool := d.target.isGiven

def attached (drafts : List Draft) : List Draft := drafts.filter isAttached

/-- Ordered by target; drafts of one target keep their order. -/
def sorted (drafts : List Draft) : Except Fault (List Draft) :=
  Sorting.sortedBy (fun c d => c.target.isBelow d.target) drafts

/-- The length of the longest target. -/
def targetWidth (drafts : List Draft) : Except Fault Nat := do
  return (← drafts.mapM fun d => d.target.length).foldl max 0

/-! ### Views -/

/-- The column of targets in a table of a width, two wider than that, as a format specification. A
width may be any number. -/
def columnSpec : Json → Except Fault Text
  | .float width =>
    .ok (CodePoint.ofChar '<' :: (Json.float (width.addInteger 2)).plain)
  | width =>
    match width.integer? with
    | some width => .ok (CodePoint.ofChar '<' :: Text.signedDecimal (width + 2))
    | none => .error (.notAddable width.typeName)

/-- A line of a table whose column is written as a format specification says. -/
def tableLine (spec : Text) (d : Draft) : Except Fault Text := do
  let column ← (Template.formatValue d.target spec).mapError .template
  return Comment.tableLine column ⟨[], ← d.value.textWith "split"⟩

/-- The text of a draft, to which others are added. -/
def valueText (d : Draft) : Except Fault Text :=
  match d.value with
  | .str t => .ok t
  | value => .error (.notText value.typeName)

def block (d : Draft) : Except Fault Text := do
  return Comment.block ⟨d.target.plain, ← d.valueText⟩

def description (d : Draft) : Except Fault Text := do
  return Comment.description ⟨[], ← d.valueText⟩

/-- The pieces of a view; one of a single target shows the drafts whose target is equal to
`target`. -/
def pieces (view : View) (target : Json) (drafts : List Draft) : Except Fault (List Text) :=
  match view with
  | .short => do
    let spec ← columnSpec (.int (← targetWidth drafts))
    drafts.mapM (tableLine spec)
  | .long => drafts.mapM block
  | .target _ => (drafts.filter fun d => Json.same d.target target).mapM description

/-- A draft as a trace shows it. -/
def display (d : Draft) : Text :=
  "Comment(target=" ++ d.target.display ++ ", value=" ++ d.value.display ++
    ", kind=<NodeKind.COMMENT: 'comment'>)"

end Draft

end TargetHelp
