import TargetHelp.Json.Use

/-!
# Managers

A manager decides which diagnostics are shown. A message has a level and a channel; it is shown if
its level is at most the threshold of the channel, which is the overall verbosity unless the
channel has its own. A threshold of `wall` or below shows nothing. Thresholds are levels, but a
manager can be given anything else for them, which then need not compare with a level.
-/

set_option autoImplicit false
set_option relaxedAutoImplicit false

namespace TargetHelp

namespace Level

def wall : Int := -4
def error : Int := -3
def warning : Int := -2
def minimal : Int := -1
def summary : Int := 1
def detail : Int := 2
def debug : Int := 3

end Level

/-- What a threshold is set to: a level, another value, or something of a type that is no value. -/
inductive Threshold where
  | level (n : Int)
  | other (value : Json)
  | stranger (typeName : Text)

namespace Threshold

instance : Coe Int Threshold := ⟨level⟩

def ofJson : Json → Threshold
  | .int n => level n
  | value => other value

/-- The value that a threshold is set to, if it is one. -/
def value? : Threshold → Option Json
  | level n => some (.int n)
  | other value => some value
  | stranger _ => none

/-- The type of what a threshold is set to. -/
def typeName : Threshold → Text
  | level n => (Json.int n).typeName
  | other value => value.typeName
  | stranger typeName => typeName

/-- The fault of a comparison with something that is no value. -/
def notComparable (sign typeName : Text) : Fault := .unordered sign typeName (Json.int 0).typeName

/-- Whether a threshold lets nothing through. -/
def isWall : Threshold → Except Fault Bool
  | level n => .ok (decide (n ≤ Level.wall))
  | other value => value.isAtMost Level.wall
  | stranger typeName => .error (notComparable "<=" typeName)

/-- Whether a threshold lets messages of a level through. -/
def passes : Threshold → (level : Int) → Except Fault Bool
  | level n, m => .ok (decide (Level.wall < n) && decide (m ≤ n))
  | other value, m => do
    if ← isWall (other value) then return false else return !(← (Json.int m).isAbove value)
  | stranger typeName, _ => isWall (stranger typeName)

/-- Whether a threshold lets messages through whose level is any value. -/
def passesAny (threshold : Threshold) (level : Json) : Except Fault Bool := do
  if ← threshold.isWall then return false
  else return !(← level.isAbove (threshold.value?.getD .null))

/-- Whether a threshold lies below a level. -/
def isBelow : Threshold → (level : Int) → Except Fault Bool
  | level n, m => .ok (decide (n < m))
  | other value, m => value.isBelow (.int m)
  | stranger typeName, _ => .error (notComparable "<" typeName)

/-- Whether a threshold lies above the wall. -/
def isAboveWall : Threshold → Except Fault Bool
  | stranger typeName => .error (notComparable ">" typeName)
  | threshold => (threshold.value?.getD .null).isAbove (.int Level.wall)

/-- Whether messages of level zero are let through. -/
def isActive (threshold : Threshold) : Except Fault Bool := do
  if ← threshold.isAboveWall then return !(← threshold.isBelow 0) else return false

theorem passes_level (n m : Int) :
    passes (level n) m = .ok (decide (Level.wall < n) && decide (m ≤ n)) := rfl

end Threshold

/-- Where diagnostics go: to a sink of their own or to the error stream. -/
inductive Destination where
  | sink
  | errors
  deriving DecidableEq, Repr

structure Manager where
  verbosity : Threshold := .level 0
  /-- The thresholds of single channels, by their names; others can be set for what is no name. -/
  overrides : Json.Table Threshold := []
  destination : Destination := .errors
  /-- The identifiers of the hints shown so far. -/
  shown : List Json := []

namespace Manager

def threshold (manager : Manager) (channel : Text) : Threshold :=
  (manager.overrides.get? (.str channel)).getD manager.verbosity

/-- The threshold of what a value names. -/
def thresholdOf (manager : Manager) (channel : Json) : Except Fault Threshold := do
  channel.checkKey
  return (manager.overrides.get? channel).getD manager.verbosity

/-- A manager with the thresholds of a table of any values. -/
def ofTable (verbosity : Json) (table : Json.Table Json) (destination : Destination) : Manager where
  verbosity := .ofJson verbosity
  overrides := table.map fun (key, value) => (key, .ofJson value)
  destination

/-- A channel is named by a text. -/
theorem thresholdOf_str (manager : Manager) (channel : Text) :
    manager.thresholdOf (.str channel) = .ok (manager.threshold channel) := rfl

def shows (manager : Manager) (level : Int) (channel : Text) : Except Fault Bool :=
  (manager.threshold channel).passes level

end Manager

end TargetHelp
