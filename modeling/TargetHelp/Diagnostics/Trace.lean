import TargetHelp.Diagnostics.Session

/-!
# Tracing

A traced call is announced with its arguments and followed by what it returned or what it raised;
a call that returns nothing has no line behind it. Tracing shows values briefly and is on only when
the channel `trace` has a threshold of `Level.debug` or more.
-/

set_option autoImplicit false
set_option relaxedAutoImplicit false

namespace TargetHelp

/-- The longest text that a value is shown by. -/
def maxBrief : Nat := 50

/-- A text cut to `maxBrief` code points, the last three of which say that it was cut. -/
def Text.brief (t : Text) : Text :=
  if maxBrief < t.length then t.take (maxBrief - 3) ++ "..." else t

/-- How many code points an address takes, for which a mark stands. -/
def addressWidth : Nat := 14

/-- What is before a mark in a text, and what is behind it if it is there. -/
def Text.splitAtMark (mark : Text) : Text → Text × Option Text
  | [] => ([], none)
  | c :: rest =>
    if Text.startsWith mark (c :: rest) then ([], some ((c :: rest).drop mark.length))
    else
      let (front, back?) := splitAtMark mark rest
      (c :: front, back?)

/-- A text cut to `maxBrief` code points, in which the mark of an address has the width of one. Of
an address that is cut the mark is left, or the beginning that all addresses share. -/
def Text.briefWithAddress (t : Text) : Text :=
  match splitAtMark Catalogue.address t with
  | (_, none) => t.brief
  | (front, some back) =>
    let room := maxBrief - 3
    if front.length + addressWidth + back.length ≤ maxBrief then t
    else if room ≤ front.length + 2 then (front ++ "0x").take room ++ "..."
    else
      front ++ Catalogue.address ++ back.take (room - (front.length + addressWidth)) ++ "..."

/-- How a list of many items is shown. -/
def Text.briefCount (count : Nat) : Text := "[..." ++ decimal count ++ " items...]"

/-- A value on one short line. -/
def Json.brief (value : Json) : Text :=
  match value with
  | .arr items => if 3 < items.length then Text.briefCount items.length else value.display.brief
  | _ => value.display.brief

/-- A call as a trace shows it: the function, and its arguments already made brief. -/
structure Call where
  function : Text
  arguments : List Text := []
  named : Fields Text := []

namespace Call

def argumentsText (call : Call) : Text :=
  Text.join ", " (call.arguments ++ call.named.map fun (name, value) => name ++ "=" ++ value)

def entry (call : Call) : Text :=
  "[TRACE] >> " ++ call.function ++ "(" ++ call.argumentsText ++ ")"

def raised (call : Call) (fault : Fault) : Text :=
  "[TRACE] !! " ++ call.function ++ " raised: " ++ fault.kind.label ++ ": " ++ fault.message

def returned (call : Call) (value : Text) : Text :=
  "[TRACE] << " ++ call.function ++ " returned: " ++ value

end Call

namespace Session

/-- A line of a trace, told by the manager that was in charge when the call came, as it is now. -/
def traceBy (place : Nat) (t : Text) : SessionM Unit := do
  reportBy ((← get).managerAt place) Level.debug "trace" t

/-- Runs a step between the lines of its trace; `shown?` is how its value is shown, if it is. Both
lines go through the manager in charge at the beginning, even if the step puts another in its
place; if the step changes its settings, those count behind the step. -/
def traced {α : Type} (call : Call) (shown? : α → Option Text) (step : SessionM α) :
    SessionM α := do
  let session ← get
  if ← attempt ((session.manager.threshold "trace").isBelow Level.debug) then step
  else
    let place := session.retired.length
    traceBy place call.entry
    let value ← tryCatch step fun fault => do
      if !fault.isInterrupt then traceBy place (call.raised fault)
      throw fault
    match shown? value with
    | some t => traceBy place (call.returned t)
    | none => pure ()
    return value

end Session

end TargetHelp
