import TargetHelp.Diagnostics.Session
import TargetHelp.Files.Open
import TargetHelp.Text.Line

/-!
# Settings

Settings come in three layers: the command line, the file `.mmhelp.json` nearest above a directory,
and a global file. The first layer that gives a key a value other than null decides. Files may
spell a key with dashes for its underscores.
-/

set_option autoImplicit false
set_option relaxedAutoImplicit false

namespace TargetHelp.Settings

open Session

/-! ### Files of settings -/

def projectFileName : Text := ".mmhelp.json"

/-- The path of the global file in the user's own directory. -/
def globalPath (system : Files.System) : Text :=
  let home := Files.normalize system.workingDirectory system.home
  (home.child ".mmhelp" |>.child "config.json").text

/-- The object that a text holds; if it holds none there is a warning and the object is empty. -/
def ofText (path t : Text) : SessionM (Fields Json) := do
  match Json.read t with
  | .ok (.obj fields) => return fields
  | .ok _ =>
    warning ("  [WARN] Ignoring config " ++ path ++ ": not a JSON object")
    return []
  | .error (.invalid error) =>
    warning ("  [WARN] Ignoring malformed config " ++ path ++ ": " ++ error.message)
    return []
  | .error error => throw (.json error)

/-- The settings in a file, none if it is missing. -/
def load (system : Files.System) (path : Json) : SessionM (Fields Json) := do
  match system.open path with
  | .error (.file .missing _) => return []
  | .error fault => throw fault
  | .ok bytes =>
    match Utf8.decode bytes with
    | .error error => throw (.decoding error)
    | .ok t => ofText path.plain (Text.universalLineEnds t)

/-- The settings in the global file, or in the file given in its place. -/
def loadGlobal (system : Files.System) (path : Json) : SessionM (Fields Json) :=
  load system (if path.isGiven then path else .str (globalPath system))

/-- The first of some directories that holds a project file. -/
def firstWithFile (system : Files.System) : List Files.Absolute → Except Fault (Option Text)
  | [] => .ok none
  | directory :: directories =>
    let path := (directory.child projectFileName).text
    match system.isFile path with
    | .error problem => .error (.file problem (some path))
    | .ok true => .ok (some path)
    | .ok false => firstWithFile system directories

/-- The project file in a directory or in the nearest one above it; the working directory stands in
for a directory that is not named. -/
def findProject (system : Files.System) (start : Option Text) : Except Fault (Option Text) :=
  let directory := Files.normalize system.workingDirectory (start.getD [])
  match Files.pathFault? (start.getD []) with
  | some fault => .error (.ofPath fault)
  | none => firstWithFile system directory.ancestors

/-- The settings in the project file, and its path. -/
def loadProject (system : Files.System) (start : Option Text) :
    SessionM (Fields Json × Option Text) := do
  match ← attempt (findProject system start) with
  | none => return ([], none)
  | some path => return (← load system (.str path), some path)

/-! ### Layers -/

inductive Layer where
  | commandLine
  | project
  | global
  deriving DecidableEq, Repr

def Layer.name : Layer → Text
  | .commandLine => "cli"
  | .project => "project"
  | .global => "global"

def underscored (key : Text) : Text := Text.replaceEach '-' "_" key

def dashed (key : Text) : Text := Text.replaceEach '_' "-" key

/-- The value of a key in a file of settings. Where both spellings are there, that with
underscores counts, even if it says null. -/
def fileValue (fields : Fields Json) (key : Text) : Json :=
  match Fields.get? key fields with
  | some value => value
  | none => (Fields.get? (dashed key) fields).getD .null

def isNull : Json → Bool
  | .null => true
  | _ => false

/-- The first value that is not null, with its layer. -/
def firstValue? : List (Json × Layer) → Option (Json × Layer)
  | [] => none
  | (value, layer) :: rest => if isNull value then firstValue? rest else some (value, layer)

/-- The value of a key spelled with underscores. -/
def value? (arguments project global : Fields Json) (key : Text) : Option (Json × Layer) :=
  firstValue? [
    ((Fields.get? key arguments).getD .null, .commandLine),
    (fileValue project key, .project),
    (fileValue global key, .global)]

/-- The keys that the program asks for. -/
def programKeys : List Text := ["file", "include_dir", "parser"]

def detail (t : Text) : SessionM Unit := report Level.detail "config" t

/-- The values of some keys, by their spelling with underscores; null where no layer has one. -/
def resolveKeys (arguments project global : Fields Json) :
    (resolved : Fields Json) → (keys : List Text) → SessionM (Fields Json)
  | resolved, [] => return resolved
  | resolved, key :: keys => do
    let key := underscored key
    match value? arguments project global key with
    | none => resolveKeys arguments project global (Fields.set key .null resolved) keys
    | some (value, layer) =>
      detail ("  [config] " ++ key ++ " = " ++ value.display ++ " (" ++ layer.name ++ ")")
      resolveKeys arguments project global (Fields.set key value resolved) keys

def resolve (system : Files.System) (arguments : Fields Json) (keys : List Text)
    (start : Option Text) : SessionM (Fields Json) := do
  let (project, path?) ← loadProject system start
  let global ← loadGlobal system ((Fields.get? "config" arguments).getD .null)
  match path? with
  | some path => detail ("  [config] project config: " ++ path)
  | none => pure ()
  resolveKeys arguments project global [] keys

end TargetHelp.Settings
