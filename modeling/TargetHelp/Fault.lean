import TargetHelp.Channel.Spec
import TargetHelp.Files.Tree
import TargetHelp.Json.Location
import TargetHelp.Parser.Spec
import TargetHelp.Template.Basic

/-!
# Faults

Everything that can stop a step, as its cause. `Fault.message` is the text shown to the user and
`Fault.kind` the sort of fault, whose label trace lines show and whose family decides who handles
it: system and value faults of the diagnostics are survived when an error is reported, an import or
a member that fails is a fault of loading a parser, and an interrupt is handled by nobody but the
program as a whole.
-/

set_option autoImplicit false
set_option relaxedAutoImplicit false

namespace TargetHelp

inductive Family where
  | system
  | value
  | key
  | member
  | importing
  | interrupt
  | other
  deriving DecidableEq, Repr

/-- A sort of fault, by the label under which it is shown. -/
structure Kind where
  label : Text
  family : Family
  deriving DecidableEq, Repr

namespace Kind

def parse : Kind := ⟨"ParseError", .other⟩
def failure : Kind := ⟨"ParseFailure", .other⟩
def load : Kind := ⟨"ParserLoadError", .value⟩
def value : Kind := ⟨"ValueError", .value⟩
def decoding : Kind := ⟨"UnicodeDecodeError", .value⟩
def encoding : Kind := ⟨"UnicodeEncodeError", .value⟩
def mapping : Kind := ⟨"UnicodeTranslateError", .value⟩
def json : Kind := ⟨"JSONDecodeError", .value⟩
def key : Kind := ⟨"KeyError", .key⟩
def position : Kind := ⟨"IndexError", .other⟩
def type : Kind := ⟨"TypeError", .other⟩
def member : Kind := ⟨"AttributeError", .member⟩
def memory : Kind := ⟨"MemoryError", .other⟩
def overflow : Kind := ⟨"OverflowError", .other⟩
def recursion : Kind := ⟨"RecursionError", .other⟩
def system : Kind := ⟨"OSError", .system⟩
def unsupported : Kind := ⟨"UnsupportedOperation", .system⟩
def missingFile : Kind := ⟨"FileNotFoundError", .system⟩
def blocking : Kind := ⟨"BlockingIOError", .system⟩
def directory : Kind := ⟨"IsADirectoryError", .system⟩
def notDirectory : Kind := ⟨"NotADirectoryError", .system⟩
def interrupt : Kind := ⟨"KeyboardInterrupt", .interrupt⟩
def exit : Kind := ⟨"SystemExit", .interrupt⟩
def importing : Kind := ⟨"ImportError", .importing⟩

/-- The system faults that have a kind of their own, with their codes. -/
def ofCode? (code : Nat) : Option Kind :=
  if code = 1 ∨ code = 13 then some ⟨"PermissionError", .system⟩
  else if code = 2 then some missingFile
  else if code = 3 then some ⟨"ProcessLookupError", .system⟩
  else if code = 4 then some ⟨"InterruptedError", .system⟩
  else if code = 10 then some ⟨"ChildProcessError", .system⟩
  else if code = 11 ∨ code = 114 ∨ code = 115 then some blocking
  else if code = 17 then some ⟨"FileExistsError", .system⟩
  else if code = 20 then some notDirectory
  else if code = 21 then some directory
  else if code = 32 ∨ code = 108 then some ⟨"BrokenPipeError", .system⟩
  else if code = 103 then some ⟨"ConnectionAbortedError", .system⟩
  else if code = 104 then some ⟨"ConnectionResetError", .system⟩
  else if code = 110 then some ⟨"TimeoutError", .system⟩
  else if code = 111 then some ⟨"ConnectionRefusedError", .system⟩
  else none

/-- The kinds by label. -/
def known : List Kind :=
  [parse, failure, load, value, decoding, encoding, json, key, position, type, member, overflow,
    recursion, memory, system, unsupported, interrupt, mapping, ⟨"UnicodeError", .value⟩,
    ⟨"ConnectionError", .system⟩, exit, ⟨"GeneratorExit", .interrupt⟩] ++
    [1, 2, 3, 4, 10, 11, 17, 20, 21, 32, 103, 104, 110, 111].filterMap ofCode?

/-- The kind of a label, of which the system faults have several; one that is not known belongs to
no family. -/
def ofLabel (label : Text) : Kind :=
  if label = "IOError" ∨ label = "EnvironmentError" then system
  else
    match known.find? fun kind => kind.label = label with
    | some kind => kind
    | none => ⟨label, .other⟩

end Kind

inductive Fault where
  /-- Input that cannot be turned into nodes, with the number of its line if that is known. -/
  | parse (message : Text) (line : Option Int)
  /-- A parser's fault as the renderer reports it. -/
  | failure (context : Text) (cause : Fault)
  | load (error : Parser.LoadError)
  /-- A module named relative to nothing. -/
  | relativeModule (name : Text)
  | channel (error : Channel.SpecError)
  | noChannels
  | template (fault : Template.Fault)
  /-- A text that is no JSON, with the place where it is malformed. -/
  | malformed (error : Json.SyntaxError) (place : Json.Location)
  | json (error : Json.ReadError)
  | decoding (error : Utf8.DecodeError)
  | encoding (error : Utf8.EncodeError)
  | file (problem : Files.Problem) (path : Option Text)
  | nullByte
  | negativeDescriptor
  /-- A value of this type stands where a path is wanted. -/
  | notPath (typeName : Text)
  /-- A value of this type stands where one with such a member is wanted. -/
  | noMember (typeName name : Text)
  /-- A value of this type stands where something is looked up by it. -/
  | unhashable (typeName : Text)
  /-- An argument has a name that the step has for itself. -/
  | reservedName (step name : Text)
  /-- A fault of a given kind with its arguments, raised from outside. -/
  | raised (kind : Kind) (arguments : List Json)
  /-- The end of the program with this code, before its command has been run. -/
  | exit (code : Nat)
  /-- A fault in the use of what a parser has given, for which the parser is not to blame. -/
  | misuse (fault : Fault)
  deriving Inhabited

namespace Fault

def interrupt : Fault := .raised Kind.interrupt []

/-- A fault in how something is called or used. -/
def ofUse (message : Text) : Fault := .raised Kind.type [.str message]

/-- The fault of a text that cannot be read as JSON. -/
def ofReading (t : Text) (error : Json.ReadError) : Fault :=
  match error with
  | .invalid error => malformed error (Json.locate t error)
  | error => json error

/-- A value of this type stands where one is wanted to which an integer is added. -/
def notAddable (typeName : Text) : Fault :=
  if typeName = "str" ∨ typeName = "list" then
    ofUse ("can only concatenate " ++ typeName ++ " (not \"int\") to " ++ typeName)
  else ofUse ("unsupported operand type(s) for +: '" ++ typeName ++ "' and 'int'")

/-- A value of this type is added to a text. -/
def notText (typeName : Text) : Fault :=
  ofUse ("can only concatenate str (not \"" ++ typeName ++ "\") to str")

/-- Something of this type stands where several values are wanted. -/
def notIterable (typeName : Text) : Fault := ofUse ("'" ++ typeName ++ "' object is not iterable")

/-- Something of this type stands where a length is wanted. -/
def noLength (typeName : Text) : Fault :=
  ofUse ("object of type '" ++ typeName ++ "' has no len()")

/-- Values of these types are compared, which have no order. -/
def unordered (sign left right : Text) : Fault :=
  ofUse ("'" ++ sign ++ "' not supported between instances of '" ++ left ++ "' and '" ++
    right ++ "'")

/-- An element of a sequence of pairs has another length than two. -/
def wrongPair (index length : Nat) : Fault :=
  .raised Kind.value [.str ("dictionary update sequence element #" ++ Text.decimal index ++
    " has length " ++ Text.decimal length ++ "; 2 is required")]

/-- An element of a sequence of pairs is no sequence. -/
def noPair (index : Nat) : Fault :=
  ofUse ("cannot convert dictionary update sequence element #" ++ Text.decimal index ++
    " to a sequence")

def ofPath : Files.PathFault → Fault
  | .unencodable error => .encoding error
  | .nullByte => .nullByte

def templateKind : Template.Family → Kind
  | .value => Kind.value
  | .name => Kind.key
  | .position => Kind.position
  | .type => Kind.type
  | .member => Kind.member
  | .overflow => Kind.overflow
  | .memory => Kind.memory

/-- What a system fault says: its code, its reason, and the files it is about. -/
structure SystemParts where
  code : Json
  reason : Json
  file : Option Json := none
  target : Option Json := none

/-- A file among the arguments of a system fault. A blocking fault gives the number of what has been
written in its place. -/
def file? (kind : Kind) (argument : Json) : Option Json :=
  match argument with
  | .null => none
  | .int _ | .bool _ | .float _ => if kind = Kind.blocking then none else some argument
  | _ => some argument

/-- What the arguments of a system fault say, of which there are two to five. The fourth has no
meaning, and the fifth only behind a file. -/
def systemParts? (kind : Kind) : List Json → Option SystemParts
  | [code, reason] => some { code, reason }
  | [code, reason, source] | [code, reason, source, _] =>
    some { code, reason, file := file? kind source }
  | [code, reason, source, _, target] =>
    match file? kind source with
    | none => some { code, reason }
    | some source =>
      let target := match target with
        | .null => none
        | target => some target
      some { code, reason, file := some source, target }
  | _ => none

/-- The kind of a raised fault: a plain system fault with a code takes the kind of the code. -/
def raisedKind (kind : Kind) (arguments : List Json) : Kind :=
  let ofCode (code : Int) : Kind :=
    if code < 0 then kind else (Kind.ofCode? code.toNat).getD kind
  if kind ≠ Kind.system then kind
  else
    match systemParts? kind arguments with
    | some ⟨.int code, _, _, _⟩ => ofCode code
    | some ⟨.bool code, _, _, _⟩ => ofCode (if code then 1 else 0)
    | _ => kind

def kind : Fault → Kind
  | parse _ _ => Kind.parse
  | failure _ _ => Kind.failure
  | load _ => Kind.load
  | relativeModule _ => Kind.type
  | channel _ => Kind.value
  | noChannels => Kind.value
  | template fault => templateKind fault.family
  | malformed _ _ => Kind.json
  | json (.invalid _) => Kind.json
  | json (.tooManyDigits _) => Kind.value
  | json (.tooDeep _) => Kind.recursion
  | decoding _ => Kind.decoding
  | encoding _ => Kind.encoding
  | file problem _ => (Kind.ofCode? problem.code).getD Kind.system
  | nullByte => Kind.value
  | negativeDescriptor => Kind.value
  | notPath _ => Kind.type
  | noMember _ _ => Kind.member
  | unhashable _ => Kind.type
  | reservedName _ _ => Kind.type
  | raised kind arguments => raisedKind kind arguments
  | exit _ => Kind.exit
  | misuse fault => fault.kind

def isSystem (fault : Fault) : Bool := fault.kind.family = .system

def isInterrupt (fault : Fault) : Bool := fault.kind.family = .interrupt

/-- Whether the user has interrupted the program. -/
def isUserInterrupt (fault : Fault) : Bool := fault.kind = Kind.interrupt

theorem isUserInterrupt_eq_false {fault : Fault} (h : fault.isInterrupt = false) :
    fault.isUserInterrupt = false := by
  refine decide_eq_false fun hkind => ?_
  rw [isInterrupt, hkind] at h
  cases h

/-- Whether a fault says that a module cannot be imported. -/
def isImport (fault : Fault) : Bool := fault.kind.family = .importing

/-- Whether a fault says that there is no such member. -/
def isMember (fault : Fault) : Bool := fault.kind.family = .member

/-- Whether a failing error report falls back to the error stream. -/
def isReportable (fault : Fault) : Bool :=
  fault.kind.family = .system || fault.kind.family = .value

/-- The text of a system fault: its code, its reason and the files it is about. -/
def systemText (code reason : Text) (names : List Text) : Text :=
  "[Errno " ++ code ++ "] " ++ reason ++
    match names with
    | [] => []
    | names => (": " : Text) ++ Text.join " -> " names

def SystemParts.text (parts : SystemParts) : Text :=
  systemText parts.code.plain parts.reason.plain
    ((parts.file.toList ++ parts.target.toList).map Json.display)

/-- Several arguments of a fault, in parentheses. -/
def argumentsText (arguments : List Json) : Text :=
  "(" ++ Text.join ", " (arguments.map Json.display) ++ ")"

def plainText (kind : Kind) : List Json → Text
  | [] => []
  | [argument] => if kind.family = .key then argument.display else argument.plain
  | arguments => argumentsText arguments

def raisedText (kind : Kind) (arguments : List Json) : Text :=
  if kind.family = .system then
    match systemParts? kind arguments with
    | some parts => parts.text
    | none => plainText kind arguments
  else plainText kind arguments

def message : Fault → Text
  | parse message none => message
  | parse message (some line) => "line " ++ Text.signedDecimal line ++ ": " ++ message
  | failure context cause => context ++ ": " ++ cause.message
  | load error => error.message
  | relativeModule name =>
    "the 'package' argument is required to perform a relative import for " ++ Text.quoted name
  | channel error => error.message
  | noChannels => "max() arg is an empty sequence"
  | template fault => fault.message
  | malformed error place => error.report place
  | json error => error.message
  | decoding error => error.message
  | encoding error => error.message
  | file problem path =>
    systemText (Text.decimal problem.code) problem.reason (path.map Text.quoted).toList
  | nullByte => "embedded null byte"
  | negativeDescriptor => "negative file descriptor"
  | notPath typeName => "expected str, bytes or os.PathLike object, not " ++ typeName
  | noMember typeName name => (Template.Fault.noMember typeName name).message
  | unhashable typeName => "unhashable type: '" ++ typeName ++ "'"
  | reservedName step name =>
    step ++ "() got multiple values for argument '" ++ name ++ "'"
  | raised kind arguments => raisedText (raisedKind kind arguments) arguments
  | exit code => Text.decimal code
  | misuse fault => fault.message

/-- What the system gives as the reason of a fault, if it gives one. -/
def reason? : Fault → Option Text
  | file problem _ => some problem.reason
  | raised kind arguments =>
    if kind.family = .system then
      match systemParts? kind arguments with
      | some parts => if parts.reason.isGiven then some parts.reason.plain else none
      | none => none
    else none
  | _ => none

end Fault

end TargetHelp
