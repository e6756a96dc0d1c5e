import TargetHelp.Text.Basic

/-!
# Layout of texts

First lines and indentation. A line here ends at a line feed and nowhere else.
-/

set_option autoImplicit false
set_option relaxedAutoImplicit false

namespace TargetHelp.Text

/-- `t` up to its first line feed. -/
def firstLine (t : Text) : Text := (splitFirst lineFeed t).1

def indentation : Text := [space, space]

/-- `t` with two spaces in front of each of its lines. -/
def indent (t : Text) : Text :=
  replaceEach lineFeed (lineFeed :: indentation) (indentation ++ t)

end TargetHelp.Text
