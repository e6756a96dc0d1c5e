import TargetHelp.Json.Use
import TargetHelp.Parser.Basic
import TargetHelp.Template.Spec

/-!
# Replies

What a callable does when it is called as a parser, with a source and the directory for includes.
Few callables are parsers. Others refuse the arguments, or give something that is no sequence of
nodes.
-/

set_option autoImplicit false
set_option relaxedAutoImplicit false

namespace TargetHelp

namespace Reply

def fails (fault : Fault) : Reply := fun _ _ => throw fault

/-- A fault whose message tells of the source and of the directory. -/
def tells (kind : Kind) (message : (source : Text) → (directory : Json) → Text) : Reply :=
  fun source directory => throw (.raised kind [.str (message source.display directory)])

def refuses (message : Text) : Reply := fails (.ofUse message)

/-- One value of a type, where several are wanted. -/
def gives (typeName : Text) : Reply := fails (.notIterable typeName)

/-- Several values of a type which are no nodes. -/
def givesMany (typeName : Text) : Reply := fails (.misuse (.noMember typeName "kind"))

def givesNone : Reply := fun _ _ => return []

/-- What a value consists of, where nodes are wanted. -/
def givesParts (value : Json) : Reply :=
  match value.parts with
  | .ok [] => givesNone
  | .ok (part :: _) => givesMany part.typeName
  | .error fault => fails fault

def givesDirectory : Reply := fun source directory => givesParts directory source directory

/-- The text of a source in a format that the directory tells. -/
def formats : Reply := fun source directory =>
  match Template.formatValue (.str source.display) directory.plain with
  | .ok t => givesParts (.str t) source directory
  | .error fault => throw (.template fault)

/-- What is done once the lines of a source have all been read. -/
def afterLines (reply : Reply) : Reply := fun source directory =>
  match source.fault with
  | some fault => throw fault
  | none => reply source directory

/-- What is done with the lines of a source, unless there are none. -/
def withLines (reply otherwise : Reply) : Reply := fun source directory =>
  if source.lines.isEmpty then otherwise.afterLines source directory else reply source directory

/-- The lines of a source, where nodes are wanted. -/
def givesLines : Reply := afterLines (withLines (givesMany "str") givesNone)

end Reply

/-- The type of the streams that are read as sources. -/
def streamType : Text := "_io.TextIOWrapper"

end TargetHelp
