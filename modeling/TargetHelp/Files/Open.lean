import TargetHelp.Fault

/-!
# Opening files

What a value names as a file: a text is a path, and an integer a descriptor that may be open. What
is open need not be open for reading, and then opening it succeeds and reading from it fails.
-/

set_option autoImplicit false
set_option relaxedAutoImplicit false

namespace TargetHelp.Files

/-- The content of the file at a path. -/
def System.openPath (system : System) (path : Text) : Except Fault Bytes :=
  match pathFault? path with
  | some fault => .error (.ofPath fault)
  | none => (system.read path).mapError fun problem => .file problem (some path)

/-- What comes of reading from an open descriptor. Descriptors are 32-bit integers; others name
nothing. -/
def System.openDescriptor (system : System) (descriptor : Int) :
    Except Fault (Except Problem Bytes) :=
  if descriptor < -0x80000000 ∨ 0x80000000 ≤ descriptor then .error (.notPath "int")
  else if descriptor < 0 then .error .negativeDescriptor
  else
    match system.descriptors.find? fun entry => entry.1 = descriptor with
    | some (_, content) => .ok content
    | none => .error (.file .badDescriptor none)

/-- The descriptor that a value names. -/
def descriptor? : Json → Option Int
  | .int descriptor => some descriptor
  | .bool b => some (if b then 1 else 0)
  | _ => none

/-- The content of what a value names. -/
def System.open (system : System) (value : Json) : Except Fault Bytes :=
  match value with
  | .str path => system.openPath path
  | value =>
    match descriptor? value with
    | some descriptor => do
      (← system.openDescriptor descriptor).mapError fun problem => .file problem none
    | none => .error (.notPath value.typeName)

/-- What comes of reading from what a value names, once it has been opened. -/
def System.opened (system : System) (value : Json) : Except Fault (Except Problem Bytes) :=
  match descriptor? value with
  | some descriptor => system.openDescriptor descriptor
  | none => (system.open value).map .ok

end TargetHelp.Files
