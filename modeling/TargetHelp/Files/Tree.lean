import TargetHelp.Files.Path
import TargetHelp.Json.Value

/-!
# File trees

A tree of files and directories without links, and how a path is followed in it. Following stops
with the first name that is missing, too long, or looked for in something that is no directory.
-/

set_option autoImplicit false
set_option relaxedAutoImplicit false

namespace TargetHelp.Files

inductive Entry where
  | file (content : Bytes)
  | directory (entries : List (Text × Entry))
  deriving Repr, Inhabited

/-- An entry put at a list of names below a directory, with the directories on the way; nothing is
put below a file. -/
def Entry.insert (content : Entry) : (names : List Text) → Entry → Entry
  | [], _ => content
  | name :: names, .directory entries =>
    let inner := (Fields.get? name entries).getD (.directory [])
    .directory (Fields.set name (insert content names inner) entries)
  | _ :: _, .file other => .file other

/-- What the system refuses a file for. -/
inductive Problem where
  | missing
  | badDescriptor
  | notDirectory
  | isDirectory
  | nameTooLong
  deriving DecidableEq, Repr

def Problem.code : Problem → Nat
  | .missing => 2
  | .badDescriptor => 9
  | .notDirectory => 20
  | .isDirectory => 21
  | .nameTooLong => 36

def Problem.reason : Problem → Text
  | .missing => "No such file or directory"
  | .badDescriptor => "Bad file descriptor"
  | .notDirectory => "Not a directory"
  | .isDirectory => "Is a directory"
  | .nameTooLong => "File name too long"

/-! ### Names as bytes -/

/-- A surrogate that stands for a byte which is no text. -/
def isByteSurrogate (c : CodePoint) : Bool := 0xDC80 ≤ c.val && c.val ≤ 0xDCFF

/-- The first run of surrogates in a path that cannot be written in bytes; `start` is the position
of the first code point. -/
def unencodable? (start : Nat) : Text → Option Utf8.EncodeError
  | [] => none
  | c :: t =>
    if c.IsSurrogate ∧ !isByteSurrogate c then
      some ⟨c, start, 1 + (t.takeWhile fun d => decide d.IsSurrogate).length⟩
    else unencodable? (start + 1) t

/-- How many bytes a name or a path takes. -/
def byteLength (t : Text) : Nat :=
  (t.map fun c => if isByteSurrogate c then 1 else (Utf8.encodePoint c).length).foldl (· + ·) 0

def maxNameLength : Nat := 255

def maxPathLength : Nat := 4095

/-- Why a text is no path at all. -/
inductive PathFault where
  | unencodable (error : Utf8.EncodeError)
  | nullByte
  deriving DecidableEq, Repr

def pathFault? (path : Text) : Option PathFault :=
  match unencodable? 0 path with
  | some error => some (.unencodable error)
  | none => if path.contains (CodePoint.ofChar '\x00') then some .nullByte else none

/-! ### Following a path -/

/-- An entry with the directories above it, the nearest first. -/
structure Place where
  entry : Entry
  above : List Entry

namespace Place

def parent (place : Place) : Place :=
  match place.above with
  | [] => place
  | directory :: above => ⟨directory, above⟩

/-- One name looked up in a place. -/
def step (place : Place) (name : Text) : Except Problem Place :=
  match place.entry with
  | .file _ => .error .notDirectory
  | .directory entries =>
    if name.isEmpty ∨ name = "." then .ok place
    else if name = ".." then .ok place.parent
    else if maxNameLength < byteLength name then .error .nameTooLong
    else
      match Fields.get? name entries with
      | some entry => .ok ⟨entry, place.entry :: place.above⟩
      | none => .error .missing

def follow (place : Place) (names : List Text) : Except Problem Place := names.foldlM step place

end Place

/-- The files at hand: the tree from its root, the names that lead to the working directory, and
the path of the user's own directory. -/
structure System where
  root : Entry
  workingDirectory : List Text
  home : Text
  /-- The open descriptors, with what comes of reading from each. -/
  descriptors : List (Int × Except Problem Bytes) := []

namespace System

def locate (system : System) (path : Text) : Except Problem Place := do
  let root : Place := ⟨system.root, []⟩
  if path.isEmpty then .error .missing
  else if maxPathLength < byteLength path then .error .nameTooLong
  else if isAbsolute path then root.follow (names path)
  else (← root.follow system.workingDirectory).follow (names path)

/-- The content of the file at a path. -/
def read (system : System) (path : Text) : Except Problem Bytes := do
  match (← system.locate path).entry with
  | .file content => .ok content
  | .directory _ => .error .isDirectory

/-- Whether a path is that of a file; what is too long for a name is refused. -/
def isFile (system : System) (path : Text) : Except Problem Bool :=
  match system.locate path with
  | .ok place =>
    match place.entry with
    | .file _ => .ok true
    | .directory _ => .ok false
  | .error .nameTooLong => .error .nameTooLong
  | .error _ => .ok false

end System

end TargetHelp.Files
