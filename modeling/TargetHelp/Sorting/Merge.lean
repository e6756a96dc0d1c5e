import TargetHelp.Sorting.Run

/-!
# Merging runs

Two neighbouring runs become one. What is in its place already at both ends is left there. The rest
is merged from the side on which the shorter run stands: that run is kept aside and the other one is
moved next to it. Values are compared one by one until one run has given several in a row; then
whole stretches are searched for and moved together, for as long as they are long.
-/

set_option autoImplicit false
set_option relaxedAutoImplicit false

namespace TargetHelp.Sorting

variable {α ε : Type}

/-- How long a stretch is for which a search pays. -/
def longStretch : Nat := 7

/-- Two runs that are being merged, as they are seen from the side where the merge begins. -/
structure Merging (α : Type) where
  /-- What has been merged, the last first. -/
  merged : List α
  /-- What is left of the run that is kept aside. -/
  kept : List α
  /-- What is left of the other run. -/
  moved : List α
  /-- How many values in a row one run has to give before stretches are searched for. -/
  patience : Nat

namespace Merging

/-- Whether the order of what is left is known. The last value that is kept aside is the last of
all. -/
def isDone (m : Merging α) : Bool := m.moved.isEmpty || decide (m.kept.length ≤ 1)

def takeKept (count : Nat) (m : Merging α) : Merging α :=
  { m with merged := (m.kept.take count).reverse ++ m.merged, kept := m.kept.drop count }

def takeMoved (count : Nat) (m : Merging α) : Merging α :=
  { m with merged := (m.moved.take count).reverse ++ m.merged, moved := m.moved.drop count }

/-- The merged values, the last first. -/
def values (m : Merging α) : List α := (m.moved ++ m.kept).reverse ++ m.merged

end Merging

/-- Which run is to give next: the one that gave before, with how often it did, or a stretch of
each. A first stretch follows single values. -/
inductive Pace where
  | single (ofMoved : Bool) (count : Nat)
  | stretches (isFirst : Bool)

section

variable (isReversed : Bool) (before : α → α → Except ε Bool)

/-- Whether a value of the moved run comes before one that is kept aside. -/
def goesFirst (moved kept : α) : Except ε Bool :=
  if isReversed then before kept moved else before moved kept

/-- The stretch of the kept run that comes next, with one value of the other run behind it. -/
def keptStretch (m : Merging α) : Except ε (Nat × Merging α) := do
  match m.moved with
  | [] => return (0, m)
  | a :: _ =>
    let count ← countNear isReversed
      (fun k => do return !(← goesFirst isReversed before a k)) m.kept
    let m := m.takeKept count
    return (count, if m.isDone then m else m.takeMoved 1)

/-- The stretch of the moved run that comes next, with one value that was kept aside behind it. -/
def movedStretch (m : Merging α) : Except ε (Nat × Merging α) := do
  match m.kept with
  | [] => return (0, m)
  | k :: _ =>
    let count ← countNear isReversed (fun a => goesFirst isReversed before a k) m.moved
    let m := m.takeMoved count
    return (count, if m.isDone then m else m.takeKept 1)

/-- A stretch of each run, that of the left one first, and whether one of them was long. -/
def stretches (m : Merging α) : Except ε (Bool × Merging α) := do
  let (first, second) :=
    if isReversed then (movedStretch isReversed before, keptStretch isReversed before)
    else (keptStretch isReversed before, movedStretch isReversed before)
  let (count, m) ← first m
  if m.isDone then return (false, m)
  else
    let (other, m) ← second m
    return (decide (longStretch ≤ count) || decide (longStretch ≤ other), m)

/-- Merges what is left. Every round takes a value at least. -/
def mergeRest (fuel : Nat) (pace : Pace) (m : Merging α) : Except ε (Merging α) := do
  match fuel, m.moved, m.kept with
  | fuel + 1, a :: _, k :: _ :: _ =>
    match pace with
    | .single ofMoved count =>
      let isMoved ← goesFirst isReversed before a k
      let count := if isMoved = ofMoved then count + 1 else 1
      let pace : Pace := if m.patience ≤ count then .stretches true else .single isMoved count
      mergeRest fuel pace (if isMoved then m.takeMoved 1 else m.takeKept 1)
    | .stretches isFirst =>
      let patience := if isFirst then m.patience else max 1 (m.patience - 1)
      let (isLong, m) ← stretches isReversed before { m with patience }
      if m.isDone then return m
      else if isLong then mergeRest fuel (.stretches false) m
      else mergeRest fuel (.single false 0) { m with patience := m.patience + 1 }
  | _, _, _ => return m

end

variable (before : α → α → Except ε Bool)

/-- Merges two runs, of which the left one ends behind the beginning of the right one. -/
def mergeOverlap (patience : Nat) (left right : List α) : Except ε (List α × Nat) := do
  let fuel := left.length + right.length
  if left.length ≤ right.length then
    let m : Merging α := { merged := [], kept := left, moved := right, patience }
    let m ← mergeRest false before fuel (.single false 0) (m.takeMoved 1)
    return (m.values.reverse, m.patience)
  else
    let m : Merging α :=
      { merged := [], kept := right.reverse, moved := left.reverse, patience }
    let m ← mergeRest true before fuel (.single false 0) (m.takeMoved 1)
    return (m.values, m.patience)

/-- Two neighbouring runs as one, and the patience that is left for further ones. -/
def mergeRuns (patience : Nat) (left right : List α) : Except ε (List α × Nat) := do
  let placed ←
    match right with
    | [] => pure left.length
    | b :: _ => countNear false (staysBefore before b) left
  match (left.drop placed).getLast? with
  | none => return (left ++ right, patience)
  | some a =>
    let behind ← countNear true (fun b => staysBefore before b a) right.reverse
    let count := right.length - behind
    if count = 0 then return (left ++ right, patience)
    else
      let (merged, patience) ←
        mergeOverlap before patience (left.drop placed) (right.take count)
      return (left.take placed ++ merged ++ right.drop count, patience)

end TargetHelp.Sorting
