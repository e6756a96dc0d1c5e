import TargetHelp.Text.Decimal
import TargetHelp.Text.Quoted

/-!
# Channel specifications

A channel is a category of diagnostic messages. A specification `NAME` or `NAME:LEVEL` sets its
threshold; blanks around the name do not count, and a level that is absent or empty is zero.
-/

set_option autoImplicit false
set_option relaxedAutoImplicit false

namespace TargetHelp.Channel

structure Spec where
  name : Text
  level : Int
  deriving DecidableEq, Repr

inductive SpecError where
  | emptyName (spec : Text)
  | invalidLevel (level name : Text)
  deriving DecidableEq, Repr

def SpecError.message : SpecError → Text
  | .emptyName spec => "empty channel name in " ++ Text.quoted spec
  | .invalidLevel level name =>
    "invalid level " ++ Text.quoted level ++ " for channel " ++ Text.quoted name

/-- The level that follows a name; none is zero. -/
def Spec.readLevel (name : Text) : Option Text → Except SpecError Int
  | none => .ok 0
  | some [] => .ok 0
  | some level =>
    match Text.readInteger? level with
    | some n => .ok n
    | none => .error (.invalidLevel level name)

def Spec.parse (spec : Text) : Except SpecError Spec := do
  let (front, level?) := Text.splitFirst ':' spec
  let name := Text.strip front
  if name.isEmpty then .error (.emptyName spec)
  else return ⟨name, ← readLevel name level?⟩

end TargetHelp.Channel
