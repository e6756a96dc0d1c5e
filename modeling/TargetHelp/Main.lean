import TargetHelp.Program

/-!
# The program

The outer layer: it collects what a run can look at, runs, and writes what the run has written.
-/

set_option autoImplicit false
set_option relaxedAutoImplicit false

namespace TargetHelp.Main

def toString (t : Text) : String := String.ofList (t.map fun c => Char.ofNat c.val)

/-- The entry at a path, if there is one that can be read. -/
def readEntry (path : Text) : IO (Option Files.Entry) := do
  let path := toString path
  try
    if ← (← IO.FS.realPath path).isDir then return some (.directory [])
    return some (.file (← IO.FS.readBinFile path).toList)
  catch _ => return none

/-- The entries at some paths added to a system that does not know them yet. -/
def addEntries (system : Files.System) : List Text → IO Files.System
  | [] => return system
  | path :: paths => do
    let names := (Files.normalize system.workingDirectory path).names
    let system := match system.locate path, ← readEntry path with
      | .error _, some found => { system with root := found.insert names system.root }
      | _, _ => system
    addEntries system paths

/-- The paths at which settings may stand. -/
def settingsPaths (system : Files.System) (arguments : List Text) : List Text :=
  let directory := Files.normalize system.workingDirectory []
  let project := directory.ancestors.map fun d => (d.child Settings.projectFileName).text
  let named := match Arguments.readGlobal arguments with
    | .ok r => (r.value "config").text?.toList
    | .error _ => []
  project ++ Settings.globalPath system :: named

/-- The path that a run with these arguments reads its nodes from. -/
def sourcePath (system : Files.System) (arguments : List Text) : Json :=
  match Arguments.readGlobal arguments with
  | .error _ => .null
  | .ok global =>
    match Arguments.readMain global.leftOver with
    | .error _ => .null
    | .ok values =>
      let step := Settings.resolve system (World.merge values global.values)
        Settings.programKeys none
      match (ExceptT.run step World.session).1 with
      | .ok settings => World.settingOr settings "file" World.inputName
      | .error _ => .null

def collect (arguments : List Text) : IO World := do
  let names := (Files.names (Text.ofString (← IO.currentDir).toString)).filter (!·.isEmpty)
  let home := Text.ofString ((← IO.getEnv "HOME").getD "/")
  let root := (Files.Entry.directory []).insert names (.directory [])
  let unreadable : Except Files.Problem Bytes := .error .badDescriptor
  let system : Files.System := {
    root
    workingDirectory := names
    home
    descriptors := [(1, unreadable), (World.errorDescriptor, unreadable)] }
  let system ← addEntries system (settingsPaths system arguments)
  let path := sourcePath system arguments
  let system ← addEntries system (if World.isInput path then [] else path.text?.toList)
  let stdin ← IO.getStdin
  let input ← if World.isInput path then stdin.readBinToEnd else pure ByteArray.empty
  return Program.offering ⟨system, input.toList, ← stdin.isTty, Catalogue.builtIn⟩

def run (arguments : List Text) : IO UInt32 := do
  let world ← collect arguments
  let (result, session) := ExceptT.run (world.run arguments) World.session
  (← IO.getStdout).putStr (toString session.output.text)
  (← IO.getStderr).putStr (toString session.errors.text)
  match result with
  | .ok code | .error (.exit code) => return UInt32.ofNat code
  | .error fault =>
    (← IO.getStderr).putStrLn (toString (fault.kind.label ++ ": " ++ fault.message))
    return 1

end TargetHelp.Main

def main (arguments : List String) : IO UInt32 :=
  TargetHelp.Main.run (arguments.map TargetHelp.Text.ofString)
