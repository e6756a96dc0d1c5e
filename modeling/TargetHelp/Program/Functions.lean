import TargetHelp.Run

/-!
# Functions of the program in the place of a parser

A specification can name any function of the program. Each is then called with a source and the
directory for includes, whatever it expects, and acts on the session as it does anywhere else: it
resolves settings, renders, puts a manager in charge or changes the one that is. A function gives
back no nodes, and what it gives back instead has no kind.
-/

set_option autoImplicit false
set_option relaxedAutoImplicit false

namespace TargetHelp.Program

/-- The fault of a value that is no function where one is wanted. -/
def notCalled (value : Json) : Fault :=
  .ofUse ("'" ++ value.typeName ++ "' object is not callable")

/-- A value of a type is given back, where several are wanted. -/
def giveBack (typeName : Text) : SessionM (List Node) := throw (.notIterable typeName)

/-- Values of a type are given back which are no nodes. -/
def giveStrangers (typeName : Text) : SessionM (List Node) :=
  throw (.misuse (.noMember typeName "kind"))

/-! ### Settings and renderings -/

/-- Settings are resolved for the keys that the path consists of; their names are given back. -/
def resolveConfig (system : Files.System) : Reply := fun _ path => do
  let keys := path.parts.toOption.getD []
  let names := (keys.takeWhile fun key => key.text?.isSome).filterMap Json.text?
  let _ ← Settings.resolve system [] names none
  let _ ← Session.attempt path.parts
  match keys[names.length]? with
  | some other => throw (.noMember other.typeName "replace")
  | none => giveStrangers "str"

/-- A rendering is wanted, and the path is none. A code and a count are given back. -/
def renderWith (world : World) : Reply := fun _ path => do
  let _ ← world.renderWith [] fun _ _ _ => throw (notCalled path)
  giveStrangers "int"

/-- The path is the parser that reads the comments of the source. -/
def getComments : Reply := fun source path =>
  let call : Call := ⟨"mmhelp.lib.help_lib.core.get_comments",
    [Text.brief source.display, path.brief], []⟩
  Session.traced call (fun _ => none) (throw (.failure "parsing" (notCalled path)))

/-- The path is the output that the comments of the source are written to. -/
def renderAll : Reply := fun source path => do
  let named := Session.renderingArguments none Session.defaultIncludePath
  let _ ← Session.collect named .nodeStream source Session.defaultIncludePath
  throw (.noMember path.typeName "write")

/-- The fault of a path that is no output, whatever is written. -/
def notWritten : Reply := fun _ path => throw (.noMember path.typeName "write")

/-- Each line of the source is a node that is written to the path. -/
def dumpNodes : Reply := .withLines notWritten (.gives "NoneType")

/-- Each line of the source is a command. -/
def buildParser : Reply :=
  .withLines (.fails (.noMember "str" "register")) (.gives "ArgumentParser")

/-- Each line of the source is a comment. -/
def formatList : Reply := .withLines (.fails (.noMember "str" "target")) .givesNone

/-! ### Managers -/

/-- A new manager is put in charge, with the path for the specifications of channels and the source
for its verbosity. -/
def initOutput : Reply := fun _ path => do
  Session.startGiven (.stranger streamType) path .errors
  giveBack "OutputManager"

/-- A new manager is made with the path for its overrides. -/
def makeManager : Reply := fun _ path => do
  let _ ← Session.attempt path.table
  giveBack "OutputManager"

/-- The manager in charge is given a source for its verbosity and then, if that is a table, the path
for its overrides. -/
def remakeManager : Reply := fun _ path => do
  modify fun session => { session with manager.verbosity := .stranger streamType }
  let table ← Session.attempt path.table
  modify fun session =>
    { session with manager := {
        verbosity := session.manager.verbosity
        overrides := table.map fun (key, value) => (key, .ofJson value) } }
  giveBack "NoneType"

/-- The path is a message and the source its level, which the manager in charge compares with its
threshold unless that shows nothing. -/
def emit : Reply := fun _ _ => do
  let threshold := (← get).manager.threshold "general"
  if ← Session.attempt threshold.isWall then giveBack "NoneType"
  else throw (.unordered ">" streamType threshold.typeName)

end TargetHelp.Program
