import TargetHelp.Sorting.Merge

/-!
# Sorting by an order that may fail

A sort whose comparisons may end in a fault, as those of unlike values do. The comparisons are made
in a fixed order, so that the first fault is determined. Values are taken as runs from the left.
Between two neighbouring runs there is a depth, that of the halving of all the values which is the
first to come between the middles of the two; what lies between deeper places is merged before what
lies between less deep ones.
-/

set_option autoImplicit false
set_option relaxedAutoImplicit false

namespace TargetHelp.Sorting

variable {α ε : Type}

/-- So many values are a run by themselves or are put into one. -/
def shortest : Nat := 64

/-- The least length of a run among so many values: a number below `shortest` by which they are
divided about as often as a power of two. -/
def leastRun (size : Nat) : Nat :=
  let rec divided (fuel size rest : Nat) : Nat :=
    match fuel with
    | 0 => size + rest
    | fuel + 1 =>
      if size < shortest then size + rest else divided fuel (size / 2) (max rest (size % 2))
  divided size size 0

/-- The number of halvings of `size` that it takes to come between two places, counted in halves. -/
def depthOf (size left right : Nat) : Nat :=
  let rec halvings (fuel left right count : Nat) : Nat :=
    match fuel with
    | 0 => count
    | fuel + 1 =>
      if size ≤ left then halvings fuel (2 * (left - size)) (2 * (right - size)) (count + 1)
      else if size ≤ right then count
      else halvings fuel (2 * left) (2 * right) (count + 1)
  halvings (size + 1) left right 1

/-- A run that waits to be merged: where it begins, and the depth of the place behind it. -/
structure Pending (α : Type) where
  start : Nat
  values : List α
  depth : Nat := 0

/-- The runs that wait, the last first, and the patience for merging them. -/
structure Waiting (α : Type) where
  runs : List (Pending α) := []
  patience : Nat := longStretch

variable (before : α → α → Except ε Bool)

/-- The run that two neighbours become. -/
def joined (patience : Nat) (left right : Pending α) : Except ε (Pending α × Nat) := do
  let (values, patience) ← mergeRuns before patience left.values right.values
  return ({ left with values }, patience)

/-- Merges the last runs while the place between them is deeper than the one behind them. -/
def settle (patience depth : Nat) (last : Pending α) :
    List (Pending α) → Except ε (Waiting α)
  | [] => return { runs := [{ last with depth }], patience }
  | left :: others => do
    if depth < left.depth then
      let (run, patience) ← joined before patience left last
      settle patience depth run others
    else return { runs := { last with depth } :: left :: others, patience }

/-- One more run behind those that wait. -/
def Waiting.add (size : Nat) (run : Pending α) (w : Waiting α) : Except ε (Waiting α) := do
  match w.runs with
  | [] => return { w with runs := [run] }
  | last :: others =>
    let left := 2 * last.start + last.values.length
    let depth := depthOf size left (left + last.values.length + run.values.length)
    let w ← settle before w.patience depth last others
    return { w with runs := run :: w.runs }

/-- Merges all the runs that wait, from the right unless the left neighbours are shorter. -/
def merged (patience : Nat) : List (Pending α) → Except ε (List α)
  | [] => .ok []
  | [run] => .ok run.values
  | last :: middle :: [] => do
    return (← joined before patience middle last).1.values
  | last :: middle :: left :: others => do
    if left.values.length < last.values.length then
      let (run, patience) ← joined before patience left middle
      merged patience (last :: run :: others)
    else
      let (run, patience) ← joined before patience middle last
      merged patience (run :: left :: others)
termination_by runs => runs.length

/-- All the runs of values from a place on, added to those that wait. Every run has a value at
least. -/
def addRuns (size least : Nat) (fuel start : Nat) (values : List α) (w : Waiting α) :
    Except ε (Waiting α) := do
  match fuel, values with
  | fuel + 1, _ :: _ =>
    let (run, rest) ← runOf before least values
    let w ← w.add before size { start, values := run }
    addRuns size least fuel (start + run.length) rest w
  | _, _ => return w

/-- The values in order; those of equal rank keep theirs. -/
def sortedBy (values : List α) : Except ε (List α) := do
  let size := values.length
  let w ← addRuns before size (leastRun size) size 0 values {}
  merged before w.patience w.runs

end TargetHelp.Sorting
