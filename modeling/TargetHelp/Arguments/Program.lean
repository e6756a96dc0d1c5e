import TargetHelp.Arguments.Read
import TargetHelp.Release

/-!
# The program's command line

Global flags may stand anywhere and are read first; what they leave over names a command and says
where its input comes from. The texts of help and usage are laid out for 78 columns.
-/

set_option autoImplicit false
set_option relaxedAutoImplicit false

namespace TargetHelp.Arguments

/-- Lines, each ended by a line feed. -/
def unlines (lines : List String) : Text :=
  lines.flatMap fun line => Text.ofString line ++ [Text.lineFeed]

/-! ### Flags -/

def verboseFlag : Flag := ⟨["--verbose", "-v"], .count "verbose"⟩

def quietFlag : Flag := ⟨["--quiet", "-Q"], .count "quiet"⟩

def showFlag : Flag := ⟨["--show"], .collect "show"⟩

def configFlag : Flag := ⟨["--config"], .store "config"⟩

def helpFlag : Flag := ⟨["-h", "--help"], .showHelp⟩

def versionFlag : Flag := ⟨["--version", "-V"], .showVersion⟩

def fileFlag : Flag := ⟨["--file", "-f"], .store "file"⟩

def includeFlag : Flag := ⟨["--include-dir", "-I"], .store "include_dir"⟩

def parserFlag : Flag := ⟨["--parser"], .store "parser"⟩

def globalFlags : List Flag := [verboseFlag, quietFlag, showFlag, configFlag]

def sourceFlags : List Flag := [fileFlag, includeFlag, parserFlag]

def globalDefaults : Fields Json :=
  [("verbose", .int 0), ("quiet", .int 0), ("show", .null), ("config", .null)]

def sourceDefaults : Fields Json :=
  [("file", .null), ("include_dir", .null), ("parser", .null)]

/-! ### Grammars -/

/-- The global flags alone. -/
def globalGrammar : Grammar where
  program := Release.programName
  usage := unlines ["usage: mmhelp [--verbose] [--quiet] [--show [CHANNEL[:LEVEL]]] [--config PATH]"]
  help := []
  flags := globalFlags
  word := none
  defaults := globalDefaults

/-- The flags that select a source, which every command knows. -/
def sourceGrammar : Grammar where
  program := Release.programName
  usage := unlines ["usage: mmhelp [--file PATH] [--include-dir DIR] [--parser MODULE:CALLABLE]"]
  help := []
  flags := sourceFlags
  word := none
  defaults := sourceDefaults

def mainUsage : Text := unlines [
  "usage: mmhelp [-h] [--version] [--verbose] [--quiet]",
  "              [--show [CHANNEL[:LEVEL]]] [--config PATH]",
  "              <command> ..."]

def mainHelp : Text := mainUsage ++ unlines [
  "",
  "mmhelp - help text for build targets",
  "",
  "options:",
  "  -h, --help            show this help message and exit",
  "  --version, -V         show program's version number and exit",
  "  --verbose, -v         Increase verbosity (-v, -vv, -vvv)",
  "  --quiet, -Q           Decrease verbosity (-Q, -QQ, -QQQ, -QQQQ=silent)",
  "  --show [CHANNEL[:LEVEL]]",
  "                        Show output channel (bare --show lists channels)",
  "  --config PATH         Path to global config file (default:",
  "                        ~/.mmhelp/config.json)",
  "",
  "commands:",
  "  <command>",
  "    list                Show a one-line summary for every documented target",
  "    describe            Show the full description of a target (or of every",
  "                        target)",
  "",
  "Run 'mmhelp <command> --help' for details on a specific command.",
  "",
  "Global flags (--verbose, --quiet, --show, --config) can appear",
  "before or after the subcommand."]

/-- The whole command line but for what stands behind a command. -/
def mainGrammar : Grammar where
  program := Release.programName
  usage := mainUsage
  help := mainHelp
  flags := [helpFlag, versionFlag] ++ globalFlags
  word := none
  defaults := globalDefaults ++ [(commandKey, .null)]

/-- The help on the flags that every command knows. -/
def commandOptions : Text := unlines [
  "options:",
  "  -h, --help            show this help message and exit",
  "  --file PATH, -f PATH  Node stream to read, or input for --parser ('-' =",
  "                        stdin, the default)",
  "  --include-dir DIR, -I DIR",
  "                        Include search directory (default: /usr/local/include)",
  "  --parser MODULE:CALLABLE",
  "                        Parser to use (default: built-in JSON Lines node",
  "                        stream)"]

def listUsage : Text := unlines [
  "usage: mmhelp list [-h] [--file PATH] [--include-dir DIR]",
  "                   [--parser MODULE:CALLABLE]"]

def listHelp : Text := listUsage ++ unlines [
  "",
  "Print an aligned table of targets and the first line of each",
  "target's comment, sorted by target name.",
  ""] ++ commandOptions

def listGrammar : Grammar where
  program := "mmhelp list"
  usage := listUsage
  help := listHelp
  flags := helpFlag :: sourceFlags
  word := none
  defaults := sourceDefaults

def describeUsage : Text := unlines [
  "usage: mmhelp describe [-h] [--file PATH] [--include-dir DIR]",
  "                       [--parser MODULE:CALLABLE]",
  "                       [TARGET]"]

def describeHelp : Text := describeUsage ++ unlines [
  "",
  "With TARGET, print that target's complete comment. Without it,",
  "print every target followed by its indented description.",
  "Target names are matched exactly and case-sensitively.",
  "",
  "positional arguments:",
  "  TARGET                Target to describe (default: all targets)",
  ""] ++ commandOptions

def targetKey : Text := "target"

def describeGrammar : Grammar where
  program := "mmhelp describe"
  usage := describeUsage
  help := describeHelp
  flags := helpFlag :: sourceFlags
  word := some targetKey
  defaults := sourceDefaults ++ [(targetKey, .null)]

def listCommand : Text := "list"

def describeCommand : Text := "describe"

def commands : List Command := [
  (listCommand, readKnown listGrammar []),
  (describeCommand, readKnown describeGrammar [])]

/-! ### Readings -/

/-- The global flags anywhere on a command line, and what they leave over. -/
def readGlobal (arguments : List Text) : Except Exit Read := readKnown globalGrammar [] arguments

def readSource (arguments : List Text) : Except Exit (Fields Json) :=
  readAll sourceGrammar [] arguments

def readMain (arguments : List Text) : Except Exit (Fields Json) :=
  readAll mainGrammar commands arguments

/-- What goes to the output when the program ends early. -/
def Exit.output : Exit → Text
  | .help t => t
  | .version => Release.programName ++ Text.space :: Release.current.text ++ [Text.lineFeed]
  | .usage _ _ _ => []

end TargetHelp.Arguments
