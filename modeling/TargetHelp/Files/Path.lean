import TargetHelp.Text.Utf8

/-!
# Paths

A path is a text of names between slashes. `normalize` makes it absolute by its text alone, without
looking at any file, and `Absolute.ancestors` lists the directories from a path up to the root.
-/

set_option autoImplicit false
set_option relaxedAutoImplicit false

namespace TargetHelp.Files

def slash : CodePoint := '/'

def names (path : Text) : List Text := Text.splitAll slash path

def isAbsolute (path : Text) : Bool := Text.startsWith [slash] path

/-- A path from the root, as its names. -/
structure Absolute where
  names : List Text
  deriving DecidableEq, Repr

namespace Absolute

def text (path : Absolute) : Text := slash :: Text.join [slash] path.names

/-- One name after another taken from a directory: nothing and `.` stay there, `..` leads to its
parent, the root being its own. -/
def step (names : List Text) (name : Text) : List Text :=
  if name.isEmpty ∨ name = "." then names
  else if name = ".." then names.dropLast
  else names ++ [name]

def follow (path : Absolute) (names : List Text) : Absolute :=
  ⟨names.foldl step path.names⟩

/-- The beginnings of a list of names, the longest first. -/
def beginnings : List Text → List (List Text)
  | [] => [[]]
  | name :: names => (beginnings names).map (name :: ·) ++ [[]]

/-- The path itself and all directories above it, the nearest first. -/
def ancestors (path : Absolute) : List Absolute :=
  (beginnings path.names).map Absolute.mk

/-- The path of an entry of this directory. -/
def child (path : Absolute) (name : Text) : Absolute := ⟨path.names ++ [name]⟩

end Absolute

/-- The absolute path that a path has in a working directory. -/
def normalize (workingDirectory : List Text) (path : Text) : Absolute :=
  Absolute.follow ⟨if isAbsolute path then [] else workingDirectory⟩ (names path)

end TargetHelp.Files
