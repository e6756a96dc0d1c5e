/-!
# Searching among sorted values

How many values at the front of a sequence have a property that none behind them has, found by few
tests. A test may end in a fault, and the order of the tests is fixed, so that the first fault is
determined. A sequence that is searched from its back is given in reverse; halving then rounds the
other way.
-/

set_option autoImplicit false
set_option relaxedAutoImplicit false

namespace TargetHelp.Sorting

variable {α ε : Type}

/-- The middle of so many values, counted from the side that is searched. -/
def middle (isReversed : Bool) (size : Nat) : Nat :=
  if isReversed then (size - 1) / 2 else size / 2

theorem middle_lt {isReversed : Bool} {size : Nat} (h : 0 < size) :
    middle isReversed size < size := by
  unfold middle
  split <;> omega

/-- The count if it lies between two bounds, found by halving. -/
def halve (isReversed : Bool) (test : α → Except ε Bool) (values : Array α) (low high : Nat) :
    Except ε Nat := do
  if h : low < high then
    let place := low + middle isReversed (high - low)
    have : place < high := by
      have := @middle_lt isReversed _ (Nat.sub_pos_of_lt h)
      omega
    match values[place]? with
    | none => return low
    | some a =>
      if ← test a then halve isReversed test values (place + 1) high
      else halve isReversed test values low place
  else return low
termination_by high - low

/-- Steps that double lead from a value that has the property to one that has not. -/
def stride (isReversed : Bool) (test : α → Except ε Bool) (values : Array α) (last next : Nat) :
    Except ε Nat := do
  match h : values[next]? with
  | none => halve isReversed test values (last + 1) values.size
  | some a =>
    have : next < values.size := (Array.getElem?_eq_some_iff.1 h).1
    if ← test a then stride isReversed test values next (2 * next + 1)
    else halve isReversed test values (last + 1) next
termination_by values.size - next

/-- The count, which is taken to be small. -/
def countNear (isReversed : Bool) (test : α → Except ε Bool) (values : List α) : Except ε Nat := do
  match values with
  | [] => return 0
  | a :: _ => if ← test a then stride isReversed test values.toArray 0 1 else return 0

end TargetHelp.Sorting
