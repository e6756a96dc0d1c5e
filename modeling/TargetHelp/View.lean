import TargetHelp.Node.Basic
import TargetHelp.Text.Decimal
import TargetHelp.Text.Layout

/-!
# Views

The three ways to show comments: a table with one line for each, a description of every one under
its target, and the descriptions of one target alone. A view's pieces carry their own line feeds;
`frame` puts the view between two empty lines.
-/

set_option autoImplicit false
set_option relaxedAutoImplicit false

namespace TargetHelp

namespace Comment

/-- The length of the longest target. -/
def targetWidth (comments : List Comment) : Nat :=
  (comments.map fun c => c.target.length).foldl max 0

/-- A line of a table: what stands in the column of targets, and the summary behind it. -/
def tableLine (column : Text) (c : Comment) : Text :=
  Text.indentation ++ column ++ Text.space :: Text.firstLine c.value ++ [Text.lineFeed]

/-- A line of a table whose longest target has `width` code points; two spaces more make the
column of targets. -/
def summaryLine (width : Nat) (c : Comment) : Text :=
  c.tableLine (Text.padRight (width + 2) c.target)

/-- A target as a heading, its text below it, and an empty line. -/
def block (c : Comment) : Text :=
  Text.indentation ++ c.target ++ ":\n" ++ Text.indent (Text.indent c.value) ++ "\n\n"

/-- A comment's text without a heading. -/
def description (c : Comment) : Text := Text.indent c.value ++ [Text.lineFeed]

end Comment

inductive View where
  | short
  | long
  | target (name : Text)
  deriving DecidableEq, Repr

namespace View

/-- The pieces of a view, one for each comment shown. -/
def pieces (view : View) (comments : List Comment) : List Text :=
  match view with
  | .short => comments.map (Comment.summaryLine (Comment.targetWidth comments))
  | .long => comments.map Comment.block
  | .target name => (comments.filter fun c => c.target = name).map Comment.description

def frame (pieces : List Text) : List Text := ([[Text.lineFeed]] ++ pieces) ++ [[Text.lineFeed]]

theorem flatten_frame (pieces : List Text) :
    (frame pieces).flatten = Text.lineFeed :: (pieces.flatten ++ [Text.lineFeed]) := by
  unfold frame
  rw [List.flatten_append, List.flatten_append]
  rfl

/-- What a view says about itself when it has been written. -/
def summary (view : View) (count : Nat) : Text :=
  match view with
  | .short => "  [render] short view: " ++ Text.decimal count ++ " targets"
  | .long => "  [render] long view: " ++ Text.decimal count ++ " targets"
  | .target name => "  [render] " ++ name ++ ": " ++ Text.decimal count ++ " blocks"

end View

end TargetHelp
