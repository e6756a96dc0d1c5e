import TargetHelp.Arguments.Program
import TargetHelp.Parser.Catalogue
import TargetHelp.Render
import TargetHelp.Settings

/-!
# A run of the program

The command line is read, settings are resolved, and the view that a command asks for is written to
the output; diagnostics go to the error stream. `run` is the whole program as a function of the
world around it: it ends in an exit code, or in a fault that nothing handles, of which the exit of
the reader of command lines is one.
-/

set_option autoImplicit false
set_option relaxedAutoImplicit false

namespace TargetHelp

/-- What a run depends on besides its arguments. -/
structure World where
  system : Files.System
  /-- The bytes on the standard input. -/
  input : Bytes
  /-- Whether the standard input is a terminal. -/
  isTerminal : Bool
  catalogue : Catalogue

namespace World

open Session

/-! ### Sources and parsers -/

/-- The path that stands for the standard input. -/
def inputName : Json := .str "-"

/-- How traces show a stream of text. -/
def streamDisplay (name : Json) : Text :=
  "<_io.TextIOWrapper name=" ++ name.display ++ " mode='r' encoding='utf-8'>"

def isInput : Json → Bool
  | .str path => path = "-"
  | _ => false

/-- The source at a path, with a warning before a terminal is read. -/
def openSource (world : World) (path : Json) : SessionM Source := do
  if isInput path then
    if world.isTerminal then
      printWarning "Reading node stream from stdin (Ctrl-D to finish)"
    return Source.ofBytes (streamDisplay (.str "<stdin>")) world.input
  else
    return Source.ofOpened (streamDisplay path) (← attempt (world.system.opened path))

/-- The descriptor of the error stream. -/
def errorDescriptor : Int := 2

/-- Closes the descriptor of the error stream, which takes nothing more then. -/
def closeErrors : SessionM Unit :=
  modify fun session =>
    { session with errors.policy := .broken (.file .badDescriptor none) }

/-- Runs a step that reads from a path, and closes what it has read from however the step ends. -/
def closing {α : Type} (path : Json) (step : SessionM α) : SessionM α :=
  if Files.descriptor? path = some errorDescriptor then do
    let value ← tryCatch step fun fault => do
      closeErrors
      throw fault
    closeErrors
    return value
  else step

/-- The parser that a setting names, or the built-in one if it names none. -/
def loadParser (world : World) (setting : Json) : Except Fault Parser :=
  if setting.isGiven then
    match setting with
    | .str spec => (world.catalogue.load spec).map world.catalogue.parserOf
    | value => .error (.noMember value.typeName "partition")
  else (world.catalogue.load Parser.defaultSpec).map world.catalogue.parserOf

/-- A setting, or a value in its place if it is not given. -/
def settingOr (settings : Fields Json) (key : Text) (default : Json) : Json :=
  let value := (Fields.get? key settings).getD .null
  if value.isGiven then value else default

def parserNote (setting : Json) : Text := "  [parse] parser: " ++ setting.plain

/-! ### Rendering with settings -/

/-- The report of a source that cannot be read. -/
def unreadable (path : Json) (fault : Fault) : Text :=
  "cannot read " ++ path.plain ++ ": " ++ fault.reason?.getD fault.message

/-- Reports a fault of reading or parsing; others are not handled here. -/
def reportFault (path parserSetting : Json) (fault : Fault) : SessionM (Option Nat) := do
  match fault with
  | .failure context cause =>
    printError (Fault.failure context cause).message
    if Settings.isNull parserSetting then hint "parse.node_stream" "error" []
    return none
  | fault =>
    if fault.isSystem then
      printError (unreadable path fault)
      return none
    else throw fault

/-- A source turned into output by a parser and a directory for includes; how many entries were
shown is returned. -/
abbrev Rendering := Source → Parser → (includePath : Json) → SessionM Nat

/-- The rendering of a view. -/
def rendering (view : View) : Rendering := fun source parser includePath =>
  render view source (some parser) includePath

/-- The number of entries in what has been rendered with the settings, or nothing if an error was
reported instead. -/
def renderWith (world : World) (arguments : Fields Json) (rendering : Rendering) :
    SessionM (Option Nat) := do
  let settings ← Settings.resolve world.system arguments Settings.programKeys none
  let path := settingOr settings "file" inputName
  let includePath := settingOr settings "include_dir" defaultIncludePath
  let parserSetting := (Fields.get? "parser" settings).getD .null
  match world.loadParser parserSetting with
  | .error (.load error) =>
    printError error.message
    return none
  | .error fault => throw fault
  | .ok parser =>
    report Level.detail "parse"
      (parserNote (settingOr settings "parser" (.str "built-in node stream")))
    tryCatch
      (do
        let source ← world.openSource path
        closing path do return some (← rendering source parser includePath))
      (reportFault path parserSetting)

/-! ### Commands -/

def list (world : World) (arguments : Fields Json) : SessionM Nat := do
  match ← world.renderWith arguments (rendering .short) with
  | none => return 1
  | some count =>
    hint (if count = 0 then "list.empty" else "list.describe") "result" []
    return 0

def describe (world : World) (arguments : Fields Json) : SessionM Nat := do
  match Fields.get? Arguments.targetKey arguments with
  | some (.str target) =>
    match ← world.renderWith arguments (rendering (.target target)) with
    | none => return 1
    | some count =>
      if count = 0 then hint "describe.no_match" "result" [("target", .str target)]
      return 0
  | _ =>
    match ← world.renderWith arguments (rendering .long) with
    | none => return 1
    | some count =>
      if count = 0 then hint "list.empty" "result" []
      return 0

/-- Runs the command that has been read. -/
def command (world : World) (arguments : Fields Json) : SessionM Nat :=
  match Fields.get? Arguments.commandKey arguments with
  | some (.str name) =>
    if name = Arguments.listCommand then world.list arguments else world.describe arguments
  | _ => do
    writeOutput Arguments.mainHelp
    return 0

/-- Ends a command that the user interrupts. -/
def interruptible (step : SessionM Nat) : SessionM Nat :=
  tryCatch step fun fault => do
    if fault.isUserInterrupt then
      writeErrors "\nInterrupted.\n"
      return 130
    else throw fault

/-! ### The program -/

/-- Ends the program where its command line is read, which is no way to return a code. -/
def exit (e : Arguments.Exit) : SessionM Nat := do
  if !e.output.isEmpty then writeOutput e.output
  if !e.errors.isEmpty then writeErrors e.errors
  throw (.exit e.code)

/-- How often a flag is given. -/
def countOf (value : Json) : Int := value.integer?.getD 0

/-- The specifications of channels, or nothing if one flag asks for the list of channels. -/
def channelSpecs? : Json → Option (List Text)
  | .arr items => items.mapM Json.text?
  | _ => some []

/-- The values of a command, with global ones where it has none of its own. -/
def merge (arguments global : Fields Json) : Fields Json :=
  global.foldl (fun merged (key, value) =>
    match Fields.get? key merged with
    | none | some .null => Fields.set key value merged
    | some _ => merged) arguments

def runCommand (world : World) (global : Fields Json) (remaining : List Text) : SessionM Nat := do
  if remaining.isEmpty then
    writeOutput Arguments.mainHelp
    return 0
  else
    match Arguments.readMain remaining with
    | .error e => exit e
    | .ok arguments => interruptible (world.command (merge arguments global))

/-- The verbosity that the global flags add up to. -/
def verbosityOf (global : Arguments.Read) : Int :=
  countOf (global.value "verbose") - countOf (global.value "quiet")

def runGlobal (world : World) (global : Arguments.Read) : SessionM Nat := do
  useChannels .help
  match channelSpecs? (global.value "show") with
  | none =>
    writeOutput ((← channelListing) ++ [Text.lineFeed])
    return 0
  | some specs =>
    let begin : SessionM Bool := do
      start (verbosityOf global) specs .errors
      return true
    let started ← tryCatch begin fun fault => do
      writeErrors ("mmhelp: error: --show: " ++ fault.message ++ [Text.lineFeed])
      return false
    if started then world.runCommand global.values global.leftOver else return 2

def run (world : World) (arguments : List Text) : SessionM Nat :=
  match Arguments.readGlobal arguments with
  | .error e => exit e
  | .ok global => world.runGlobal global

/-- The manager that a run puts in charge, if it comes to that. -/
def managerOf? (arguments : List Text) : Option Manager := do
  let global ← (Arguments.readGlobal arguments).toOption
  let specs ← channelSpecs? (global.value "show")
  (Session.managerOf .help (verbosityOf global) specs .errors).toOption

/-- A session whose streams are those of a program. -/
def session : Session where
  errors := ⟨.escaping, []⟩
  output := ⟨.strict, []⟩

end World

end TargetHelp
