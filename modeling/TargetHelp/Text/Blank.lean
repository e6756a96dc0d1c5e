import TargetHelp.Text.Basic

/-!
# Blank code points

The white space of the character database together with the four ASCII information separators.
A text is blank if it holds nothing else; `strip` takes blanks off both ends.
-/

set_option autoImplicit false
set_option relaxedAutoImplicit false

namespace TargetHelp.Text

def isBlankPoint (c : CodePoint) : Bool :=
  let n := c.val
  (0x09 ≤ n && n ≤ 0x0D) || (0x1C ≤ n && n ≤ 0x20) || n == 0x85 || n == 0xA0 || n == 0x1680 ||
    (0x2000 ≤ n && n ≤ 0x200A) || n == 0x2028 || n == 0x2029 || n == 0x202F || n == 0x205F ||
    n == 0x3000

def isBlank (t : Text) : Bool := t.all isBlankPoint

/-- `t` without the code points satisfying `p` at its two ends. -/
def trim (p : CodePoint → Bool) (t : Text) : Text :=
  ((t.dropWhile p).reverse.dropWhile p).reverse

def strip (t : Text) : Text := trim isBlankPoint t

theorem isBlank_append (s t : Text) : isBlank (s ++ t) = (isBlank s && isBlank t) :=
  List.all_append

end TargetHelp.Text
