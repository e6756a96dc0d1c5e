import TargetHelp.Json.Value
import TargetHelp.Text.Quoted

/-!
# Grammars of arguments

A grammar lists the flags that a command line may hold, what each of them does, and the word, if
any, that may stand among them. `Exit` says how reading a command line ends the program early: with
a text that was asked for, or with a usage error.
-/

set_option autoImplicit false
set_option relaxedAutoImplicit false

namespace TargetHelp.Arguments

/-- What a flag does. A counting flag takes no value, a collecting one may take a value and notes
null without one, and a storing one needs a value. -/
inductive Action where
  | count (key : Text)
  | collect (key : Text)
  | store (key : Text)
  | showHelp
  | showVersion
  deriving DecidableEq, Repr

structure Flag where
  names : List Text
  action : Action
  deriving DecidableEq, Repr

/-- How messages name a flag: by all its names. -/
def Flag.display (flag : Flag) : Text := Text.join "/" flag.names

structure Grammar where
  /-- The program as messages name it. -/
  program : Text
  usage : Text
  help : Text
  flags : List Flag
  /-- The key of the word that may stand among the flags. -/
  word : Option Text
  /-- The values before anything has been read. -/
  defaults : Fields Json

namespace Grammar

/-- All names of flags, each with its flag. -/
def names (g : Grammar) : List (Text × Flag) :=
  g.flags.flatMap fun flag => flag.names.map fun name => (name, flag)

def find? (g : Grammar) (name : Text) : Option Flag := Fields.get? name g.names

end Grammar

inductive UsageError where
  | ambiguous (written : Text) (names : List Text)
  | ignoredValue (flag : Flag) (value : Text)
  | missingValue (flag : Flag)
  | unknownCommand (written : Text) (commands : List Text)
  | unrecognized (arguments : List Text)
  deriving DecidableEq, Repr

def UsageError.message : UsageError → Text
  | .ambiguous written names =>
    "ambiguous option: " ++ written ++ " could match " ++ Text.join ", " names
  | .ignoredValue flag value =>
    "argument " ++ flag.display ++ ": ignored explicit argument " ++ Text.quoted value
  | .missingValue flag => "argument " ++ flag.display ++ ": expected one argument"
  | .unknownCommand written commands =>
    "argument <command>: invalid choice: " ++ Text.quoted written ++ " (choose from " ++
      Text.join ", " (commands.map Text.quoted) ++ ")"
  | .unrecognized arguments => "unrecognized arguments: " ++ Text.join [Text.space] arguments

/-- An early end of the program. -/
inductive Exit where
  | help (t : Text)
  | version
  | usage (program usage : Text) (error : UsageError)
  deriving DecidableEq, Repr

namespace Exit

def code : Exit → Nat
  | help _ => 0
  | version => 0
  | usage _ _ _ => 2

/-- What goes to the error stream: how the program is used, and what is wrong. -/
def errors : Exit → Text
  | usage program text error => text ++ program ++ ": error: " ++ error.message ++ [Text.lineFeed]
  | _ => []

end Exit

def Grammar.fail (g : Grammar) (error : UsageError) : Exit := .usage g.program g.usage error

end TargetHelp.Arguments
