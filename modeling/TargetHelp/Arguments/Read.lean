import TargetHelp.Arguments.Token

/-!
# Reading a command line

The tokens are used up from left to right. A flag takes its value from its own argument or from a
word behind it, and short flags without values may share one argument. The first word fills the
grammar's place for a word or, where there are commands, names one that takes all that follows; what
nothing takes is left over, in its order.
-/

set_option autoImplicit false
set_option relaxedAutoImplicit false

namespace TargetHelp.Arguments

/-- What has been read so far. -/
structure Read where
  values : Fields Json
  leftOver : List Text := []
  /-- Whether the place for a word has been filled. -/
  isFilled : Bool := false

namespace Read

def set (r : Read) (key : Text) (value : Json) : Read :=
  { r with values := Fields.set key value r.values }

def value (r : Read) (key : Text) : Json := (Fields.get? key r.values).getD .null

def leave (r : Read) (t : Text) : Read := { r with leftOver := r.leftOver ++ [t] }

/-- One more occurrence of a counting flag. -/
def increment (r : Read) (key : Text) : Read :=
  match r.value key with
  | .int n => r.set key (.int (n + 1))
  | _ => r.set key (.int 1)

/-- One more value of a collecting flag. -/
def collect (r : Read) (key : Text) (value : Json) : Read :=
  match r.value key with
  | .arr items => r.set key (.arr (items ++ [value]))
  | _ => r.set key (.arr [value])

end Read

/-! ### Flags -/

/-- A flag with the value that it takes. -/
structure Use where
  flag : Flag
  value : Option Text

/-- Whether a flag may take a value. -/
def Action.takesValue : Action → Bool
  | .collect _ | .store _ => true
  | _ => false

/-- The flags that one argument holds, the first of them with `value` written behind it: flags
without values share the argument, each named by one code point of the value of the one before. The
last flag stands apart if its value is still to come. -/
def shared (g : Grammar) (flag : Flag) (isLong : Bool) :
    Text → Except Exit (List Use × Option Flag)
  | [] =>
    if flag.action.takesValue then .ok ([⟨flag, some []⟩], none)
    else .error (g.fail (.ignoredValue flag []))
  | c :: rest =>
    if flag.action.takesValue then .ok ([⟨flag, some (c :: rest)⟩], none)
    else if isLong then .error (g.fail (.ignoredValue flag (c :: rest)))
    else
      match g.find? [dash, c] with
      | none => .error (g.fail (.ignoredValue flag (c :: rest)))
      | some next =>
        if rest.isEmpty then .ok ([⟨flag, none⟩], some next)
        else
          match shared g next false rest with
          | .error exit => .error exit
          | .ok (uses, last) => .ok (⟨flag, none⟩ :: uses, last)

/-- A flag whose value is not in its own argument: the word behind it, if it may take one, and
whether it does. -/
def takeNext (g : Grammar) (flag : Flag) (next? : Option Token) : Except Exit (Use × Bool) :=
  match flag.action, next? with
  | .collect _, some ⟨t, .word⟩ | .store _, some ⟨t, .word⟩ => .ok (⟨flag, some t⟩, true)
  | .store _, _ => .error (g.fail (.missingValue flag))
  | _, _ => .ok (⟨flag, none⟩, false)

/-- All that an argument with a flag uses, and whether the word behind it is taken. -/
def usesOf (g : Grammar) (flag : Flag) (name : Text) (value : Option Text) (next? : Option Token) :
    Except Exit (List Use × Bool) := do
  match value with
  | none =>
    let (use, isTaken) ← takeNext g flag next?
    return ([use], isTaken)
  | some value =>
    match ← shared g flag (Text.startsWith separator name) value with
    | (uses, none) => return (uses, false)
    | (uses, some last) =>
      let (use, isTaken) ← takeNext g last next?
      return (uses ++ [use], isTaken)

/-- What a flag does with its value. The separator is no value: a collecting flag notes null in its
place, and a storing one an empty list. -/
def Use.apply (g : Grammar) (r : Read) (use : Use) : Except Exit Read :=
  let value : Json :=
    match use.value with
    | some t => .str t
    | none => .null
  match use.flag.action with
  | .count key => .ok (r.increment key)
  | .collect key => .ok (r.collect key (if use.value = some separator then .null else value))
  | .store key => .ok (r.set key (if use.value = some separator then .arr [] else value))
  | .showHelp => .error (.help g.help)
  | .showVersion => .error .version

/-! ### Words -/

/-- A word or the separator where the grammar has a place for one word: the word fills it, and a
separator next to it is dropped. -/
def fill (r : Read) (key : Text) (token : Token) (next? : Option Token) : Read × Bool :=
  let r := { r with isFilled := true }
  match token.form, next? with
  | .separator, some next => (r.set key (.str next.text), true)
  | .separator, none => (r, false)
  | _, some ⟨_, .separator⟩ => (r.set key (.str token.text), true)
  | _, _ => (r.set key (.str token.text), false)

/-- One token, given the one behind it; the answer says whether that one is used up as well. -/
def step (g : Grammar) (r : Read) (token : Token) (next? : Option Token) :
    Except Exit (Read × Bool) := do
  match token.form with
  | .flag flag name value =>
    let (uses, isTaken) ← usesOf g flag name value next?
    return (← uses.foldlM (Use.apply g) r, isTaken)
  | .unknown => return (r.leave token.text, false)
  | .word | .separator =>
    match g.word with
    | some key => if r.isFilled then return (r.leave token.text, false) else
        return fill r key token next?
    | none => return (r.leave token.text, false)

/-! ### Commands -/

/-- A command and how it reads the arguments behind it. -/
abbrev Command := Text × (List Text → Except Exit Read)

def commandKey : Text := "command"

/-- The word that should name a command, if there is one at a token. -/
def commandWord? (commands : List Command) (token : Token) (next? : Option Token) : Option Text :=
  if commands.isEmpty then none
  else
    match token.form, next? with
    | .word, _ | .separator, some _ => some token.text
    | _, _ => none

def readCommand (g : Grammar) (commands : List Command) (r : Read) (name : Text)
    (arguments : List Text) : Except Exit Read := do
  match Fields.get? name commands with
  | none => throw (g.fail (.unknownCommand name (Fields.keys commands)))
  | some read =>
    let inner ← read arguments
    let named := r.set commandKey (.str name)
    let values := inner.values.foldl (fun values (key, value) => Fields.set key value values)
      named.values
    return { named with values, leftOver := r.leftOver ++ inner.leftOver }

/-! ### Command lines -/

def readTokens (g : Grammar) (commands : List Command) :
    Read → (isTaken : Bool) → List Token → Except Exit Read
  | r, _, [] => .ok r
  | r, true, _ :: rest => readTokens g commands r false rest
  | r, false, token :: rest =>
    match commandWord? commands token rest.head? with
    | some name => readCommand g commands r name (rest.map Token.text)
    | none =>
      match step g r token rest.head? with
      | .error exit => .error exit
      | .ok (r, isTaken) => readTokens g commands r isTaken rest

/-- Reads what the grammar knows and leaves the rest over. -/
def readKnown (g : Grammar) (commands : List Command) (arguments : List Text) : Except Exit Read :=
  match tokens g arguments with
  | .error exit => .error exit
  | .ok tokens => readTokens g commands ⟨g.defaults, [], false⟩ false tokens

/-- Reads a command line of which nothing may be left over. -/
def readAll (g : Grammar) (commands : List Command) (arguments : List Text) :
    Except Exit (Fields Json) :=
  match readKnown g commands arguments with
  | .error exit => .error exit
  | .ok r =>
    if r.leftOver.isEmpty then .ok r.values else .error (g.fail (.unrecognized r.leftOver))

end TargetHelp.Arguments
