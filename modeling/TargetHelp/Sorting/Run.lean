import TargetHelp.Sorting.Search

/-!
# Runs

A run is a stretch of values that is in order, or that was in the reverse of a strict order and has
been turned around. A run that is too short is made longer by the values behind it, each of which is
put into its place by halving.
-/

set_option autoImplicit false
set_option relaxedAutoImplicit false

namespace TargetHelp.Sorting

variable {α ε : Type} (before : α → α → Except ε Bool)

/-- Whether a value may stand before another one that is found behind it. -/
def staysBefore (b a : α) : Except ε Bool := do return !(← before b a)

/-- What continues a run that rises from `last`, and what follows it. -/
def rising (last : α) : List α → Except ε (List α × List α)
  | [] => .ok ([], [])
  | a :: rest => do
    if ← before a last then return ([], a :: rest)
    else
      let (run, rest) ← rising a rest
      return (a :: run, rest)

/-- A run that falls to `last`, turned around behind `turned`, and what follows it. -/
def falling (turned : List α) (last : α) : List α → Except ε (List α × List α)
  | [] => .ok (turned, [])
  | a :: rest => do
    if ← before a last then falling (a :: turned) a rest else return (turned, a :: rest)

/-- The run at the front of values, and what follows it. -/
def firstRun : List α → Except ε (List α × List α)
  | [] => .ok ([], [])
  | [a] => .ok ([a], [])
  | a :: b :: rest => do
    if ← before b a then falling before [b, a] b rest
    else
      let (run, rest) ← rising before b rest
      return (a :: b :: run, rest)

/-- A run with one more value, which stands behind its equals. -/
def insertSorted (run : List α) (a : α) : Except ε (List α) := do
  let place ← halve false (staysBefore before a) run.toArray 0 run.length
  return run.take place ++ a :: run.drop place

/-- The run at the front of values, which is made so long at least while there are values, and what
follows it. -/
def runOf (least : Nat) (values : List α) : Except ε (List α × List α) := do
  let (run, rest) ← firstRun before values
  let missing := least - run.length
  return (← (rest.take missing).foldlM (insertSorted before) run, rest.drop missing)

end TargetHelp.Sorting
