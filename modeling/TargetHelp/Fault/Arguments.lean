import TargetHelp.Fault

/-!
# Faults made from arguments

A fault that somebody else raises is given as its label and its arguments. Some kinds take a fixed
number of arguments of fixed types; whoever gives others gets the fault of having done so in place
of the one that was meant. All other kinds take anything.
-/

set_option autoImplicit false
set_option relaxedAutoImplicit false

namespace TargetHelp.Fault

/-- A fault of parsing at a line, which may be given as any value. -/
def atLine (message line : Json) : Fault :=
  match line with
  | .null => .parse message.plain none
  | .int number => .parse message.plain (some number)
  | line => .raised Kind.parse [.str ("line " ++ line.plain ++ ": " ++ message.plain)]

/-! ### Arguments of fixed types -/

/-- Whether a number can be a place in a sequence, which takes 64 bits and a sign. -/
def isIndex (number : Int) : Bool :=
  decide (-0x8000000000000000 ≤ number) && decide (number < 0x8000000000000000)

def notInteger (argument : Json) : Fault :=
  ofUse ("'" ++ argument.typeName ++ "' object cannot be interpreted as an integer")

/-- The text that stands in this place among the arguments, counted from one. -/
def textArgument (place : Nat) (argument : Json) : Except Fault Text :=
  match argument with
  | .str text => .ok text
  | argument =>
    let name : Text := match argument with
      | .null => "None"
      | argument => argument.typeName
    .error (ofUse ("argument " ++ Text.decimal place ++ " must be str, not " ++ name))

def indexArgument (argument : Json) : Except Fault Int :=
  match argument.integer? with
  | none => .error (notInteger argument)
  | some number =>
    if isIndex number then .ok number
    else .error (.raised Kind.overflow [.str "Python int too large to convert to C ssize_t"])

/-! ### Faults that report bytes or code points -/

/-- The part of a text that cannot be handled, and why. One code point is named, several are not. -/
def unhandled (subject : Text) (object : Text) (first last : Int) (reason : Text) : Text :=
  let single : Option CodePoint :=
    if first < 0 ∨ last ≠ first + 1 then none else object[first.toNat]?
  match single with
  | some point =>
    subject ++ " character '" ++ Text.numericEscape point ++ "' in position " ++
      Text.signedDecimal first ++ ": " ++ reason
  | none =>
    subject ++ " characters in position " ++ Text.signedDecimal first ++ "-" ++
      Text.signedDecimal ((last - 1).bmod 0x10000000000000000) ++ ": " ++ reason

def wrongCount (expected found : Nat) : Fault :=
  ofUse ("function takes exactly " ++ Text.decimal expected ++ " arguments (" ++
    Text.decimal found ++ " given)")

def ofEncoding : List Json → Except Fault Fault
  | [codec, object, first, last, reason] => do
    let codec ← textArgument 1 codec
    let object ← textArgument 2 object
    let first ← indexArgument first
    let last ← indexArgument last
    let reason ← textArgument 5 reason
    return .raised Kind.encoding
      [.str (unhandled ("'" ++ codec ++ "' codec can't encode") object first last reason)]
  | arguments => .error (wrongCount 5 arguments.length)

/-- Bytes are wanted as the second argument, and no argument is bytes. -/
def ofDecoding : List Json → Except Fault Fault
  | [codec, object, first, last, reason] => do
    let _ ← textArgument 1 codec
    let _ ← indexArgument first
    let _ ← indexArgument last
    let _ ← textArgument 5 reason
    .error (ofUse ("a bytes-like object is required, not '" ++ object.typeName ++ "'"))
  | arguments => .error (wrongCount 5 arguments.length)

def ofMapping : List Json → Except Fault Fault
  | [object, first, last, reason] => do
    let object ← textArgument 1 object
    let first ← indexArgument first
    let last ← indexArgument last
    let reason ← textArgument 4 reason
    return .raised Kind.mapping [.str (unhandled "can't translate" object first last reason)]
  | arguments => .error (wrongCount 4 arguments.length)

/-! ### Faults of parsing and of the system -/

def ofParse : List Json → Except Fault Fault
  | [] => .error (ofUse "ParseError.__init__() missing 1 required positional argument: 'message'")
  | [message] => .ok (atLine message .null)
  | [message, line] => .ok (atLine message line)
  | arguments => .error (ofUse
      ("ParseError.__init__() takes from 2 to 3 positional arguments but " ++
        Text.decimal (arguments.length + 1) ++ " were given"))

def ofFailure : List Json → Except Fault Fault
  | [] => .error (ofUse
      "ParseFailure.__init__() missing 2 required positional arguments: 'context' and 'cause'")
  | [_] => .error (ofUse
      "ParseFailure.__init__() missing 1 required positional argument: 'cause'")
  | [context, cause] =>
    .ok (.raised Kind.failure [.str (context.plain ++ (": " : Text) ++ cause.plain)])
  | arguments => .error (ofUse
      ("ParseFailure.__init__() takes 3 positional arguments but " ++
        Text.decimal (arguments.length + 1) ++ " were given"))

/-- What has been written before a blocking fault is a number that can be a place in a sequence. -/
def writtenArgument (argument : Json) : Except Fault Unit :=
  match argument with
  | .float _ => .error (notInteger argument)
  | argument =>
    match argument.integer? with
    | none => .ok ()
    | some number =>
      if isIndex number then .ok ()
      else .error (.raised Kind.value [.str "cannot fit 'int' into an index-sized integer"])

def ofSystem (kind : Kind) (arguments : List Json) : Except Fault Fault := do
  if raisedKind kind arguments = Kind.blocking then
    match arguments with
    | [_, _, written] | [_, _, written, _] | [_, _, written, _, _] => writtenArgument written
    | _ => pure ()
  return .raised kind arguments

/-- The fault that a label and arguments make, or that of making it from the wrong arguments. -/
def ofArguments (label : Text) (arguments : List Json) : Fault :=
  let kind := Kind.ofLabel label
  let made : Except Fault Fault :=
    if kind = Kind.parse then ofParse arguments
    else if kind = Kind.failure then ofFailure arguments
    else if kind = Kind.encoding then ofEncoding arguments
    else if kind = Kind.decoding then ofDecoding arguments
    else if kind = Kind.mapping then ofMapping arguments
    else if kind.family = .system then ofSystem kind arguments
    else .ok (.raised kind arguments)
  match made with
  | .ok fault | .error fault => fault

end TargetHelp.Fault
