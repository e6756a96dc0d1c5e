import TargetHelp.Arguments.Grammar
import TargetHelp.Text.Digit

/-!
# Tokens of a command line

Each argument is told apart before any of them is used: the separator `--`, a word, a flag with the
value written into the same argument if there is one, or what looks like a flag but is none. A long
flag may be shortened while it stays unambiguous; behind the separator everything is a word.
-/

set_option autoImplicit false
set_option relaxedAutoImplicit false

namespace TargetHelp.Arguments

inductive Form where
  | separator
  | word
  | flag (flag : Flag) (name : Text) (value : Option Text)
  | unknown
  deriving DecidableEq, Repr

structure Token where
  text : Text
  form : Form
  deriving DecidableEq, Repr

def dash : CodePoint := '-'

def separator : Text := [dash, dash]

/-! ### Words that start with a dash -/

def digits (t : Text) : Bool := t.all fun c => (Text.decimalValue? c).isSome

/-- Whether a text is a negative number: a dash, then digits, or digits around a point of which
those behind it must not be missing. One line feed may follow. -/
def isNegativeNumber (t : Text) : Bool :=
  match t with
  | [] => false
  | c :: rest =>
    let rest := if rest.getLast? = some Text.lineFeed then rest.dropLast else rest
    let (whole, fraction?) := Text.splitFirst '.' rest
    c = dash &&
      match fraction? with
      | none => !whole.isEmpty && digits whole
      | some fraction => digits whole && !fraction.isEmpty && digits fraction

/-! ### Flags -/

/-- The readings of an argument that starts with two dashes as the beginning of a flag. -/
def longCandidates (g : Grammar) (t : Text) : List (Flag × Text × Option Text) :=
  let (front, value) := Text.splitFirst '=' t
  g.names.filterMap fun (name, flag) =>
    if Text.startsWith front name then some (flag, name, value) else none

/-- The readings of an argument that starts with one dash: a short flag with its value behind it. -/
def shortCandidates (g : Grammar) (t : Text) : List (Flag × Text × Option Text) :=
  g.names.filterMap fun (name, flag) =>
    if name = t.take 2 then some (flag, name, some (t.drop 2))
    else if Text.startsWith t name then some (flag, name, none)
    else none

def candidates (g : Grammar) (t : Text) : List (Flag × Text × Option Text) :=
  if Text.startsWith separator t then longCandidates g t else shortCandidates g t

/-- The flag that an argument names in full, with the value behind its first equals sign. -/
def named? (g : Grammar) (t : Text) : Option Form :=
  match g.find? t with
  | some flag => some (.flag flag t none)
  | none =>
    match Text.splitFirst '=' t with
    | (name, some value) => (g.find? name).map fun flag => .flag flag name (some value)
    | (_, none) => none

/-- The form of an argument that names no flag in full. -/
def unnamedForm (g : Grammar) (t : Text) : Except Exit Form :=
  match candidates g t with
  | [] => .ok (if isNegativeNumber t || t.contains Text.space then .word else .unknown)
  | [(flag, name, value)] => .ok (.flag flag name value)
  | found => .error (g.fail (.ambiguous t (found.map fun (_, name, _) => name)))

def formOf (g : Grammar) (t : Text) : Except Exit Form :=
  if t.head? ≠ some dash ∨ t = [dash] then .ok .word
  else
    match named? g t with
    | some form => .ok form
    | none => unnamedForm g t

def tokens (g : Grammar) : List Text → Except Exit (List Token)
  | [] => .ok []
  | t :: rest =>
    if t = separator then .ok (⟨t, .separator⟩ :: rest.map fun u => ⟨u, .word⟩)
    else do
      let form ← formOf g t
      return ⟨t, form⟩ :: (← tokens g rest)

end TargetHelp.Arguments
