import TargetHelp.Text.Decimal
import TargetHelp.Text.Printable

/-!
# Quoted texts

A quoted text stands between two apostrophes, or between two quotation marks if it holds an
apostrophe and no quotation mark. The closing mark and the backslash are escaped by a backslash,
tab and line ends by their letters, and what is not printable by its number, so a quoted text
is always one printable line.
-/

set_option autoImplicit false
set_option relaxedAutoImplicit false

namespace TargetHelp.Text

def apostrophe : CodePoint := '\x27'

def quotationMark : CodePoint := '\x22'

def backslash : CodePoint := '\x5c'

/-- The escape by number: two, four or eight hexadecimal digits, as few as hold it. -/
def numericEscape (c : CodePoint) : Text :=
  if c.val < 0x100 then backslash :: CodePoint.ofChar 'x' :: hexadecimal 2 c.val
  else if c.val < 0x10000 then backslash :: CodePoint.ofChar 'u' :: hexadecimal 4 c.val
  else backslash :: CodePoint.ofChar 'U' :: hexadecimal 8 c.val

/-- How a code point is written between two marks `quote`. -/
def quotePoint (quote c : CodePoint) : Text :=
  if c = quote ∨ c = backslash then [backslash, c]
  else if c = '\n' then [backslash, CodePoint.ofChar 'n']
  else if c = '\r' then [backslash, CodePoint.ofChar 'r']
  else if c = '\t' then [backslash, CodePoint.ofChar 't']
  else if isPrintable c then [c]
  else numericEscape c

def quoteMark (t : Text) : CodePoint :=
  if t.contains apostrophe && !t.contains quotationMark then quotationMark else apostrophe

def quoted (t : Text) : Text :=
  quoteMark t :: t.flatMap (quotePoint (quoteMark t)) ++ [quoteMark t]

/-- `t` with everything beyond ASCII escaped by number. -/
def asciiOnly (t : Text) : Text :=
  t.flatMap fun c => if c.val < 0x80 then [c] else numericEscape c

/-- `t` with its surrogates escaped by number, as the error stream shows them. -/
def escapeSurrogates (t : Text) : Text :=
  t.flatMap fun c => if c.IsSurrogate then numericEscape c else [c]

end TargetHelp.Text
