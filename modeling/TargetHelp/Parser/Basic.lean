import TargetHelp.Diagnostics.Report
import TargetHelp.Node.Basic
import TargetHelp.Source

/-!
# Parsers

A parser turns a source and the directory searched for includes into nodes, or ends in a fault. It
is a step on the session like any other: it can report what it does, show hints, and change the
manager in charge. Most parsers do nothing but read; these are described by a `Reading`.
-/

set_option autoImplicit false
set_option relaxedAutoImplicit false

namespace TargetHelp

/-- A message with its level and channel. -/
structure Report where
  level : Int
  channel : Text
  text : Text
  deriving DecidableEq, Repr

/-- What is read in a source: some nodes, and then either the end or a fault. -/
structure Reading where
  nodes : List Node
  /-- What ended the reading early, after the nodes. -/
  fault : Option Fault := none
  /-- What the reading has to say before it ends. -/
  reports : List Report := []

/-- What a callable does when it is called as a parser. -/
abbrev Reply := Source → (directory : Json) → SessionM (List Node)

namespace Session

/-- The nodes of a reading, or its fault, once it has said what it has to say. -/
def finish (reading : Reading) : SessionM (List Node) := do
  reading.reports.forM fun r => report r.level r.channel r.text
  match reading.fault with
  | some fault => throw fault
  | none => return reading.nodes

end Session

/-- The reply that comes to a reading. -/
def Reply.reads (read : Source → (directory : Json) → Reading) : Reply :=
  fun source directory => Session.finish (read source directory)

structure Parser where
  /-- How traces show the parser. -/
  display : Text
  read : Reply

/-- Whether a parser does nothing but read. -/
def Parser.Reads (parser : Parser) (read : Source → (directory : Json) → Reading) : Prop :=
  parser.read = .reads read

end TargetHelp
