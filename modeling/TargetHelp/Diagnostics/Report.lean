import TargetHelp.Channel.Table
import TargetHelp.Diagnostics.Manager
import TargetHelp.Diagnostics.Stream
import TargetHelp.Hint

/-!
# Sessions

A session holds the manager in charge, the registered hints, the channel tables and the streams that
are written to. Steps run in `SessionM`: one that ends in a fault keeps what it wrote before, and
the fault changes nothing else. Another manager can be put in charge; whoever holds on to the old
one goes on with it, so a session keeps the managers that it had.
-/

set_option autoImplicit false
set_option relaxedAutoImplicit false

namespace TargetHelp

structure Session where
  manager : Manager := {}
  /-- The managers that were in charge before, in the order in which they came. -/
  retired : List Manager := []
  hints : Hint.Registry := Hint.ofProgram
  channels : Channel.Table := .generic
  sink : Stream := ⟨.everything, []⟩
  errors : Stream := ⟨.everything, []⟩
  output : Stream := ⟨.everything, []⟩

/-- Steps on a session that may end in a fault. -/
abbrev SessionM := ExceptT Fault (StateM Session)

namespace Session

def attempt {α : Type} : Except Fault α → SessionM α
  | .ok a => pure a
  | .error fault => throw fault

def writeSink (t : Text) : SessionM Unit := do
  let sink ← attempt ((← get).sink.write t)
  modify fun session => { session with sink }

def writeErrors (t : Text) : SessionM Unit := do
  let errors ← attempt ((← get).errors.write t)
  modify fun session => { session with errors }

def writeOutput (t : Text) : SessionM Unit := do
  let output ← attempt ((← get).output.write t)
  modify fun session => { session with output }

/-- A line printed in one of the places for diagnostics. The text and its line feed are one write,
so a place that refuses the one has not taken the other. -/
def printLineTo (destination : Destination) (t : Text) : SessionM Unit :=
  match destination with
  | .sink => writeSink (t ++ [Text.lineFeed])
  | .errors => writeErrors (t ++ [Text.lineFeed])

/-- A line printed where the diagnostics of the manager in charge go. -/
def printLine (t : Text) : SessionM Unit := do
  printLineTo (← get).manager.destination t

/-- Prints a text where the diagnostics of a manager go, if that shows its level on its channel. -/
def reportBy (manager : Manager) (level : Int) (channel : Text) (t : Text) : SessionM Unit := do
  if ← attempt (manager.shows level channel) then printLineTo manager.destination t

/-- Prints a text if the manager in charge shows its level on its channel. -/
def report (level : Int) (channel : Text) (t : Text) : SessionM Unit := do
  reportBy (← get).manager level channel t

/-! ### Managers -/

/-- The session with another manager in charge. -/
def withManager (session : Session) (manager : Manager) : Session :=
  { session with manager, retired := session.retired ++ [session.manager] }

/-- Puts a manager in charge in the place of the one that is. -/
def install (manager : Manager) : SessionM Unit := modify fun session => session.withManager manager

/-- The manager that was put in charge behind so many others, as it is now. -/
def managerAt (session : Session) (place : Nat) : Manager :=
  session.retired[place]?.getD session.manager

end Session

end TargetHelp
