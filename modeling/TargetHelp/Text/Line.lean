import TargetHelp.Text.Basic

/-!
# Lines

Lines end at the line feed alone and keep it; only the last line may lack one. Under universal
line ends a carriage return, with or without a line feed after it, is first read as one line
feed.
-/

set_option autoImplicit false
set_option relaxedAutoImplicit false

namespace TargetHelp.Text

/-- The lines of a text, each with the line feed that ends it. -/
def lines : Text → List Text
  | [] => []
  | c :: t =>
    if c = lineFeed then [c] :: lines t
    else
      match lines t with
      | [] => [[c]]
      | line :: rest => (c :: line) :: rest

/-- Line ends read as one line feed each; `afterReturn` says whether the last code point was a
carriage return, whose line feed is already written. -/
def universalLineEndsFrom (afterReturn : Bool) : Text → Text
  | [] => []
  | c :: t =>
    if c = carriageReturn then lineFeed :: universalLineEndsFrom true t
    else if afterReturn = true ∧ c = lineFeed then universalLineEndsFrom false t
    else c :: universalLineEndsFrom false t

def universalLineEnds (t : Text) : Text := universalLineEndsFrom false t

/-- The lines put together are the text. -/
theorem flatten_lines (t : Text) : (lines t).flatten = t := by
  induction t with
  | nil => rfl
  | cons c t ih =>
    simp only [lines]
    split
    · simp [ih]
    · split
      · next h => rw [h] at ih; simpa using ih
      · next line rest h => rw [h] at ih; simpa using ih

end TargetHelp.Text
