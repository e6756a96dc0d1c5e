import TargetHelp.Diagnostics.Report
import TargetHelp.Template.Fill

/-!
# Diagnostics

What a session can be asked to say: messages that are filled from templates if they are shown at
all, hints, which are shown once, warnings and errors. `start` puts a new manager in charge, whose
thresholds are given by specifications of channels.
-/

set_option autoImplicit false
set_option relaxedAutoImplicit false

namespace TargetHelp

namespace Session

/-- Prints a template filled with arguments. -/
def printMessage (message : Text) (arguments : Fields Json) : SessionM Unit := do
  printLine (← attempt ((Template.message arguments message).mapError .template))

/-- Prints a message if the manager shows its level on its channel; one that is not shown is not
even filled. -/
def emit (level : Int) (channel message : Text) (arguments : Fields Json) : SessionM Unit := do
  if ← attempt ((← get).manager.shows level channel) then printMessage message arguments

/-- The template that a message is when there are arguments for it. -/
def templateOf (message : Json) (arguments : Fields Json) : Except Fault Text :=
  match message with
  | .str template => .ok template
  | message =>
    if arguments.isEmpty then .ok message.plain else .error (.noMember message.typeName "format")

/-- The hint that a call may show: registered, of the context, and neither shown before nor below
the threshold of hints. -/
def dueHint? (session : Session) (id context : Json) : Except Fault (Option Hint) := do
  id.checkKey
  if session.manager.shown.any (Json.same id) then return none
  else
    match session.hints.find? id with
    | none => return none
    | some hint =>
      context.checkKey
      if !hint.contexts.any (Json.same context) then return none
      else if ← (session.manager.threshold "hint").passesAny hint.minLevel then return some hint
      else return none

/-- Shows a hint if it is due. It counts as shown only once it has been printed. -/
def hintIn (id context : Json) (arguments : Fields Json) : SessionM Unit := do
  match ← attempt (dueHint? (← get) id context) with
  | none => pure ()
  | some hint =>
    printMessage (← attempt (templateOf hint.message arguments)) arguments
    modify fun session =>
      { session with manager := { session.manager with shown := session.manager.shown ++ [id] } }

def hint (id context : Text) (arguments : Fields Json) : SessionM Unit :=
  hintIn (.str id) (.str context) arguments

def warning (message : Text) : SessionM Unit := report Level.warning "general" message

def error (message : Text) : SessionM Unit := report Level.error "error" message

def printWarning (message : Text) : SessionM Unit := warning ("  [WARN] " ++ message)

/-- Reports an error; if the diagnostics fail, on the error stream. -/
def printError (message : Text) : SessionM Unit :=
  let line : Text := "  ERROR: " ++ message
  tryCatch (error line) fun fault =>
    if fault.isReportable then writeErrors (line ++ [Text.lineFeed]) else throw fault

/-! ### Steps by named arguments -/

/-- Refuses arguments under names that a step has for itself. -/
def checkNames (step : Text) (reserved : List Text) (arguments : Fields Json) : Except Fault Unit :=
  match arguments.keys.find? reserved.contains with
  | some name => .error (.reservedName step name)
  | none => .ok ()

def thresholdOf (channel : Json) : SessionM Threshold := do
  attempt ((← get).manager.thresholdOf channel)

/-- The argument that names a channel. -/
def channelKey : Text := "channel"

/-- `emit` with its channel among the arguments, from which it does not reach the template, and a
level and a message that are given as any values. -/
def emitNamed (level message : Json) (arguments : Fields Json) : SessionM Unit := do
  attempt (checkNames "OutputManager.emit" ["self", "level", "message"] arguments)
  let threshold ← thresholdOf ((Fields.get? channelKey arguments).getD (.str "general"))
  if ← attempt (threshold.passesAny level) then
    let arguments := Fields.erase channelKey arguments
    printMessage (← attempt (templateOf message arguments)) arguments

/-- The argument that names a context. -/
def contextKey : Text := "context"

/-- `hint` with its context among the arguments unless it has been given before them. -/
def hintNamed (id : Json) (context? : Option Json) (arguments : Fields Json) : SessionM Unit := do
  let reserved : List Text := ["self", "hint_id"]
  match context? with
  | some context =>
    attempt (checkNames "OutputManager.hint" (reserved ++ [contextKey]) arguments)
    hintIn id context arguments
  | none =>
    attempt (checkNames "OutputManager.hint" reserved arguments)
    let context := (Fields.get? contextKey arguments).getD (.str "result")
    hintIn id context (Fields.erase contextKey arguments)

/-! ### Managers and tables -/

/-- The thresholds that specifications set: opt-in channels are silent, and of several levels for
one channel the last counts. -/
def overridesOf (optIn : List Json) (specs : List Text) :
    Except Channel.SpecError (Json.Table Int) :=
  let silent : Json.Table Int :=
    optIn.foldl (fun overrides name => Json.Table.set name Level.minimal overrides) []
  specs.foldlM (fun overrides spec => do
    let spec ← Channel.Spec.parse spec
    return Json.Table.set (.str spec.name) spec.level overrides) silent

/-- A manager for the specifications of channels. -/
def managerOf (channels : Channel.Table) (verbosity : Threshold) (specs : List Text)
    (destination : Destination) : Except Fault Manager := do
  let overrides ← (overridesOf channels.optIn specs).mapError .channel
  return {
    verbosity
    overrides := overrides.map fun (name, level) => (name, .level level)
    destination }

/-- Puts a new manager in charge; a malformed specification leaves the old one there. -/
def start (verbosity : Int) (specs : List Text) (destination : Destination) : SessionM Unit := do
  install (← attempt (managerOf (← get).channels verbosity specs destination))

/-- `start` with any verbosity, and with specifications that are given as any values. A
specification that is no text is refused when those before it have been read. -/
def startGiven (verbosity : Threshold) (channels : Json) (destination : Destination) :
    SessionM Unit := do
  let given ← attempt (if channels.isGiven then channels.parts else .ok [])
  let specs := (given.takeWhile fun spec => spec.text?.isSome).filterMap Json.text?
  let manager ← attempt (managerOf (← get).channels verbosity specs destination)
  match given[specs.length]? with
  | some other => throw (.noMember other.typeName "partition")
  | none => install manager

def useChannels (channels : Channel.Table) : SessionM Unit :=
  modify fun session => { session with channels }

def channelListing : SessionM Text := do attempt (← get).channels.listing

def register (hints : List Hint) : SessionM Unit := do
  let (registered, fault?) := (← get).hints.registerAll hints
  modify fun session => { session with hints := registered }
  match fault? with
  | some fault => throw fault
  | none => pure ()

def clearHints : SessionM Unit := modify fun session => { session with hints := [] }

end Session

end TargetHelp
