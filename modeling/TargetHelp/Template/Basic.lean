import TargetHelp.Json.Writer

/-!
# Faults of templates

What can be wrong with a template or with the arguments that fill it, with the text of each fault.
`Family` sorts the faults by what is at fault: the template or a value in it, a missing name, a
position, a type, a missing member, or the size of a number or of the text.
-/

set_option autoImplicit false
set_option relaxedAutoImplicit false

namespace TargetHelp.Template

inductive Fault where
  | singleOpen
  | singleClose
  | openInName
  | unclosedField
  | unclosedSpec
  | missingConversion
  | afterConversion
  | unknownConversion (code : CodePoint)
  | nestedTooDeep
  | tooManyDigits
  | emptyAccessor
  | unclosedBracket
  | afterBracket
  | position (index : Nat)
  | missingName (name : Text)
  | missingNumber (number : Nat)
  | listRange
  | textRange
  | listIndex
  | textIndex
  | notSubscriptable (typeName : Text)
  | noMember (typeName name : Text)
  | noTypeMember (typeName name : Text)
  | typeNotSubscriptable (typeName : Text)
  | notGeneric (text : Text)
  | tupleRange
  | tupleIndex
  | commaAndUnderscore
  | separator (mark code : CodePoint)
  | missingPrecision
  | invalidSpec (spec typeName : Text)
  | unknownCode (code : CodePoint) (typeName : Text)
  | unsupportedSpec (typeName : Text)
  | signInText (isSpace : Bool)
  | zeroInText
  | alternateInText
  | alignmentInText
  | precisionInInteger
  | zeroInInteger
  | signInCharacter
  | alternateInCharacter
  | characterRange
  | characterSize
  | integerSize
  | precisionSize
  | textSize
  deriving DecidableEq, Repr

inductive Family where
  | value
  | name
  | position
  | type
  | member
  | overflow
  | memory
  deriving DecidableEq, Repr

/-- A code as a message shows it: by itself if its number lies above the space and below `limit`,
else by its number. -/
def codeText (limit : Nat) (code : CodePoint) : Text :=
  if 0x20 < code.val ∧ code.val < limit then [code]
  else Text.backslash :: CodePoint.ofChar 'x' :: Text.hexadecimal 0 code.val

namespace Fault

def family : Fault → Family
  | missingName _ | missingNumber _ => .name
  | position _ | listRange | textRange | tupleRange => .position
  | listIndex | textIndex | tupleIndex | notSubscriptable _ | typeNotSubscriptable _ | notGeneric _
  | unsupportedSpec _ => .type
  | noMember _ _ | noTypeMember _ _ => .member
  | characterRange | characterSize | integerSize => .overflow
  | textSize => .memory
  | _ => .value

def message : Fault → Text
  | singleOpen => "Single '\x7b' encountered in format string"
  | singleClose => "Single '\x7d' encountered in format string"
  | openInName => "unexpected '\x7b' in field name"
  | unclosedField => "expected '\x7d' before end of string"
  | unclosedSpec => "unmatched '\x7b' in format spec"
  | missingConversion => "end of string while looking for conversion specifier"
  | afterConversion => "expected ':' after conversion specifier"
  | unknownConversion code => "Unknown conversion specifier " ++ codeText 0x7F code
  | nestedTooDeep => "Max string recursion exceeded"
  | tooManyDigits => "Too many decimal digits in format string"
  | emptyAccessor => "Empty attribute in format string"
  | unclosedBracket => "Missing ']' in format string"
  | afterBracket => "Only '.' or '[' may follow ']' in format field specifier"
  | position index =>
    "Replacement index " ++ Text.decimal index ++ " out of range for positional args tuple"
  | missingName name => Text.quoted name
  | missingNumber number => Text.decimal number
  | listRange => "list index out of range"
  | textRange => "string index out of range"
  | listIndex => "list indices must be integers or slices, not str"
  | textIndex => "string indices must be integers, not 'str'"
  | notSubscriptable typeName => "'" ++ typeName ++ "' object is not subscriptable"
  | noMember typeName name =>
    "'" ++ typeName ++ "' object has no attribute '" ++ name ++ "'"
  | noTypeMember typeName name =>
    if name = "__abstractmethods__" then name
    else "type object '" ++ typeName ++ "' has no attribute '" ++ name ++ "'"
  | typeNotSubscriptable typeName => "type '" ++ typeName ++ "' is not subscriptable"
  | notGeneric text => text ++ (" is not a generic class" : Text)
  | tupleRange => "tuple index out of range"
  | tupleIndex => "tuple indices must be integers or slices, not str"
  | commaAndUnderscore => "Cannot specify both ',' and '_'."
  | separator mark code =>
    "Cannot specify '" ++ mark :: "' with '" ++ codeText 0x80 code ++ "'."
  | missingPrecision => "Format specifier missing precision"
  | invalidSpec spec typeName =>
    "Invalid format specifier '" ++ spec ++ "' for object of type '" ++ typeName ++ "'"
  | unknownCode code typeName =>
    "Unknown format code '" ++ codeText 0x80 code ++ "' for object of type '" ++ typeName ++ "'"
  | unsupportedSpec typeName => "unsupported format string passed to " ++ typeName ++ ".__format__"
  | signInText isSpace =>
    (if isSpace then "Space" else "Sign") ++ " not allowed in string format specifier"
  | zeroInText => "Negative zero coercion (z) not allowed in string format specifier"
  | alternateInText => "Alternate form (#) not allowed in string format specifier"
  | alignmentInText => "'=' alignment not allowed in string format specifier"
  | precisionInInteger => "Precision not allowed in integer format specifier"
  | zeroInInteger => "Negative zero coercion (z) not allowed in integer format specifier"
  | signInCharacter => "Sign not allowed with integer format specifier 'c'"
  | alternateInCharacter => "Alternate form (#) not allowed with integer format specifier 'c'"
  | characterRange => "%c arg not in range(0x110000)"
  | characterSize => "Python int too large to convert to C long"
  | integerSize => "int too large to convert to float"
  | precisionSize => "precision too big"
  | textSize => []

end Fault

/-- The largest number a template may hold. -/
def maxNumber : Nat := Nat.pow 2 63 - 1

/-- The value of the decimal digits at the start of a text, if there are any, and what follows
them. -/
def leadingDigits : (value? : Option Nat) → Text → Option Nat × Text
  | value?, [] => (value?, [])
  | value?, c :: t =>
    match Text.decimalValue? c with
    | some d => leadingDigits (some (value?.getD 0 * 10 + d)) t
    | none => (value?, c :: t)

/-- The number at the start of a text, which must not be too large, and what follows it. -/
def leadingNumber (t : Text) : Except Fault (Option Nat × Text) :=
  match leadingDigits none t with
  | (some value, rest) =>
    if maxNumber < value then .error .tooManyDigits else .ok (some value, rest)
  | (none, rest) => .ok (none, rest)

end TargetHelp.Template
