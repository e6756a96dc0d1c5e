import TargetHelp.Template.Spec
import TargetHelp.Thing.Attribute

/-!
# Filling templates

A template holds fields in braces: a name, accessors into the named value, a conversion and a
format specification, which may itself hold fields. Doubled braces stand for one. `pieces` takes a
template apart; `fill` writes the pieces from left to right, so the first fault in the text decides.
-/

set_option autoImplicit false
set_option relaxedAutoImplicit false

namespace TargetHelp.Template

/-! ### Pieces -/

/-- A replacement field as written. `isNested` says that the specification holds braces. -/
structure Field where
  name : Text
  conversion : Option CodePoint
  spec : Text
  isNested : Bool
  deriving DecidableEq, Repr

inductive Piece where
  | literal (c : CodePoint)
  | field (f : Field)
  | fault (f : Fault)
  deriving DecidableEq, Repr

/-- Where in a template the scan is. What has been read of a name or a specification stands last
first; `depth` counts the open braces of a specification beyond the field's own. -/
inductive Place where
  | literal
  | opened
  | closed
  | name (read : Text)
  | bracket (read : Text)
  | conversion (name : Text)
  | converted (name : Text) (code : CodePoint)
  | spec (name : Text) (code : Option CodePoint) (depth : Nat) (isNested : Bool) (read : Text)
  | stopped
  deriving DecidableEq, Repr

def openBrace : CodePoint := '\x7b'

def closeBrace : CodePoint := '\x7d'

def stop (f : Fault) : List Piece × Place := ([.fault f], .stopped)

def stepName (read : Text) (c : CodePoint) : List Piece × Place :=
  if c = openBrace then stop .openInName
  else if c = '[' then ([], .bracket (c :: read))
  else if c = closeBrace then ([.field ⟨read.reverse, none, [], false⟩], .literal)
  else if c = ':' then ([], .spec read.reverse none 0 false [])
  else if c = '!' then ([], .conversion read.reverse)
  else ([], .name (c :: read))

/-- The pieces completed by a code point, and the place after it. -/
def step : Place → CodePoint → List Piece × Place
  | .literal, c =>
    if c = openBrace then ([], .opened)
    else if c = closeBrace then ([], .closed)
    else ([.literal c], .literal)
  | .opened, c => if c = openBrace then ([.literal c], .literal) else stepName [] c
  | .closed, c => if c = closeBrace then ([.literal c], .literal) else stop .singleClose
  | .name read, c => stepName read c
  | .bracket read, c => ([], if c = ']' then .name (c :: read) else .bracket (c :: read))
  | .conversion name, c => ([], .converted name c)
  | .converted name code, c =>
    if c = closeBrace then ([.field ⟨name, some code, [], false⟩], .literal)
    else if c = ':' then ([], .spec name (some code) 0 false [])
    else stop .afterConversion
  | .spec name code depth isNested read, c =>
    if c = openBrace then ([], .spec name code (depth + 1) true (c :: read))
    else if c = closeBrace then
      match depth with
      | 0 => ([.field ⟨name, code, read.reverse, isNested⟩], .literal)
      | depth + 1 => ([], .spec name code depth isNested (c :: read))
    else ([], .spec name code depth isNested (c :: read))
  | .stopped, _ => ([], .stopped)

/-- What the end of the template leaves to be said. -/
def finish : Place → List Piece
  | .literal | .stopped => []
  | .opened => [.fault .singleOpen]
  | .closed => [.fault .singleClose]
  | .name _ | .bracket _ => [.fault .unclosedField]
  | .conversion _ => [.fault .missingConversion]
  | .converted _ _ | .spec _ _ _ _ _ => [.fault .unclosedSpec]

def piecesFrom : Place → Text → List Piece
  | place, [] => finish place
  | place, c :: t => (step place c).1 ++ piecesFrom (step place c).2 t

def pieces (t : Text) : List Piece := piecesFrom .literal t

/-! ### Following accessors -/

/-- Whether the whole of a text is a number, which must not be too large. -/
def wholeNumber? (t : Text) : Except Fault (Option Nat) :=
  match leadingNumber t with
  | .error fault => .error fault
  | .ok (number?, rest) => .ok (if rest.isEmpty then number? else none)

/-- Where in the accessors behind a name the reading is. -/
inductive AccessPlace where
  | next
  | member (read : Text)
  | key (read : Text)
  deriving DecidableEq, Repr

/-- What the names in templates lead through: the built-in types and no modules. -/
def reach : Catalogue := .ofTypes

def readMember (reached : Thing) (read : Text) : Except Fault Thing :=
  if read.isEmpty then .error .emptyAccessor else reach.member reached read.reverse

def readItem (reached : Thing) (read : Text) : Except Fault Thing :=
  match wholeNumber? read.reverse with
  | .error fault => .error fault
  | .ok position? =>
    if read.isEmpty then .error .emptyAccessor else reach.item reached read.reverse position?

/-- What the accessors `.name` and `[key]` that a text holds lead to. -/
def access (reached : Thing) : AccessPlace → Text → Except Fault Thing
  | .next, [] => .ok reached
  | .member read, [] => readMember reached read
  | .key _, [] => .error .unclosedBracket
  | .next, c :: t =>
    if c = '.' then access reached (.member []) t
    else if c = '[' then access reached (.key []) t
    else .error .afterBracket
  | .member read, c :: t =>
    if c = '.' ∨ c = '[' then
      match readMember reached read with
      | .error fault => .error fault
      | .ok reached => access reached (if c = '.' then .member [] else .key []) t
    else access reached (.member (c :: read)) t
  | .key read, c :: t =>
    if c = ']' then
      match readItem reached read with
      | .error fault => .error fault
      | .ok reached => access reached .next t
    else access reached (.key (c :: read)) t

def isAccessor (c : CodePoint) : Bool := c = '.' || c = '['

/-- What a field reaches: the argument of its name, then what its accessors lead to. Arguments have
names alone, so that a number or no name at all finds none. -/
def lookup (arguments : Fields Json) (written : Text) : Except Fault Thing :=
  let name := written.takeWhile fun c => !isAccessor c
  match wholeNumber? name with
  | .error fault => .error fault
  | .ok (some index) => .error (.position index)
  | .ok none =>
    if name.isEmpty then .error (.position 0)
    else
      match arguments.get? name with
      | none => .error (.missingName name)
      | some v => access (.value v) .next (written.dropWhile fun c => !isAccessor c)

/-- What a conversion makes of what has been reached. The null code stands for no conversion. -/
def convert (reached : Thing) : Option CodePoint → Except Fault Thing
  | none => .ok reached
  | some code =>
    if code = '\x00' then .ok reached
    else if code = 'r' then .ok (.ofText (reach.display reached))
    else if code = 's' then .ok (.ofText (reach.plain reached))
    else if code = 'a' then .ok (.ofText (Text.asciiOnly (reach.display reached)))
    else .error (.unknownConversion code)

/-- What has been reached, written as a specification says; only values take one. -/
def formatThing (reached : Thing) (spec : Text) : Except Fault Text :=
  match reached with
  | .value v => formatValue v spec
  | reached =>
    if spec.isEmpty then .ok (reach.plain reached)
    else .error (.unsupportedSpec (reach.typeLabel reached))

/-! ### Filling -/

/-- One field written out; `expand` fills a specification that holds fields. -/
def writeField (expand : Text → Except Fault Text) (arguments : Fields Json) (f : Field) :
    Except Fault Text := do
  let reached ← lookup arguments f.name
  let reached ← convert reached f.conversion
  let spec ← if f.isNested then expand f.spec else .ok f.spec
  formatThing reached spec

def writePieces (expand : Text → Except Fault Text) (arguments : Fields Json) :
    List Piece → Except Fault Text
  | [] => .ok []
  | .literal c :: rest => do return c :: (← writePieces expand arguments rest)
  | .field f :: rest => do
    let written ← writeField expand arguments f
    return written ++ (← writePieces expand arguments rest)
  | .fault f :: _ => .error f

/-- Fills a template whose specifications may hold fields at most `depth - 1` deep. -/
def fillNested : (depth : Nat) → Fields Json → Text → Except Fault Text
  | 0, _, _ => .error .nestedTooDeep
  | depth + 1, arguments, t => writePieces (fillNested depth arguments) arguments (pieces t)

/-- How many templates may stand inside one another. -/
def maxNesting : Nat := 2

def fill (arguments : Fields Json) (t : Text) : Except Fault Text :=
  fillNested maxNesting arguments t

/-- A message with its arguments: without any, it is no template and stands as it is. -/
def message (arguments : Fields Json) (t : Text) : Except Fault Text :=
  if arguments.isEmpty then .ok t else fill arguments t

end TargetHelp.Template
