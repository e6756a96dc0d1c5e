import TargetHelp.Text.Basic

/-!
# Nodes

What a parser makes of a build file, in file order: comments, rules and includes. A comment
documents the target it names; one that names none is attached to nothing. `documented` selects
the attached comments of some nodes and orders them by target, those of one target as they came.
-/

set_option autoImplicit false
set_option relaxedAutoImplicit false

namespace TargetHelp

structure Comment where
  target : Text
  value : Text
  deriving DecidableEq, Repr

inductive Node where
  | comment (c : Comment)
  | target (name : Text)
  | include (path : Text) (isOptional : Bool)
  deriving DecidableEq, Repr

namespace Node

def comment? : Node → Option Comment
  | .comment c => some c
  | .target _ => none
  | .include _ _ => none

/-- The comments among some nodes, in their order. -/
def comments (nodes : List Node) : List Comment := nodes.filterMap comment?

end Node

namespace Comment

def isAttached (c : Comment) : Bool := !c.target.isEmpty

def attached (comments : List Comment) : List Comment := comments.filter isAttached

/-- Ordered by target, code point by code point; comments of one target keep their order. -/
def sorted (comments : List Comment) : List Comment :=
  comments.mergeSort fun c d => Text.atMost c.target d.target

end Comment

/-- The attached comments of some nodes, ordered by target. -/
def Node.documented (nodes : List Node) : List Comment :=
  Comment.sorted (Comment.attached (Node.comments nodes))

end TargetHelp
