import TargetHelp.Proofs.Render.Collect

/-!
# Steps of a session

What can be done to a session, as data, and what each step can do to it. A diagnostic first settles
whether it says anything, or why it cannot, without touching the session; then it prints one line,
or none, and a hint that has been printed is marked as shown. A write that is refused leaves no
trace.
-/

set_option autoImplicit false
set_option relaxedAutoImplicit false

namespace TargetHelp

theorem Hint.Registry.same_of_find? {registry : Registry} {id : Json} {hint : Hint}
    (h : registry.find? id = some hint) : Json.same hint.id id = true := by
  unfold find? at h
  have hsame := List.find?_some h
  exact hsame

/-- Every text is taken and written in one way, whatever has been written before. -/
def Stream.WritesAs (stream : Stream) (form : Text → Text) : Prop :=
  ∀ (writes : List Text) (t : Text), Stream.accept stream.policy writes t = .ok (form t)

namespace Manager

/-- Whether a hint counts as shown. -/
def hasShown (manager : Manager) (id : Json) : Bool := manager.shown.any (Json.same id)

end Manager

namespace Session

/-- The stream that diagnostics go to. -/
def diagnostics (s : Session) : Stream := s.stream s.manager.destination

theorem Ready.diagnostics {d : Destination} {registry : Hint.Registry} {s : Session}
    (h : s.Ready d registry) : s.diagnostics = s.stream d := by
  unfold Session.diagnostics
  rw [h.destination]

/-- The session with one more text written in one of the places for diagnostics. -/
def withWriteTo (s : Session) (destination : Destination) (u : Text) : Session :=
  match destination with
  | .sink => { s with sink := { s.sink with writes := s.sink.writes ++ [u] } }
  | .errors => { s with errors := { s.errors with writes := s.errors.writes ++ [u] } }

/-- The session with one more text written where its diagnostics go. -/
def withWrite (s : Session) (u : Text) : Session := s.withWriteTo s.manager.destination u

/-- The session with one more hint marked as shown. -/
def withShown (s : Session) (id : Json) : Session :=
  { s with manager := { s.manager with shown := s.manager.shown ++ [id] } }

/-- What has been written between two states of a session where diagnostics go in the first. -/
def said (s s' : Session) : List Text :=
  (s'.stream s.manager.destination).writes.drop s.diagnostics.writes.length

section Writes

variable (s : Session) (u : Text) (id : Json)

@[simp]
theorem manager_withWrite : (s.withWrite u).manager = s.manager := by
  unfold withWrite
  cases s.manager.destination <;> rfl

@[simp]
theorem hints_withWrite : (s.withWrite u).hints = s.hints := by
  unfold withWrite
  cases s.manager.destination <;> rfl

@[simp]
theorem output_withWrite : (s.withWrite u).output = s.output := by
  unfold withWrite
  cases s.manager.destination <;> rfl

@[simp]
theorem diagnostics_withWrite :
    (s.withWrite u).diagnostics = ⟨s.diagnostics.policy, s.diagnostics.writes ++ [u]⟩ := by
  unfold diagnostics
  rw [manager_withWrite]
  unfold withWrite
  cases s.manager.destination <;> rfl

@[simp]
theorem destination_withShown :
    (s.withShown id).manager.destination = s.manager.destination := rfl

@[simp]
theorem shown_withShown : (s.withShown id).manager.shown = s.manager.shown ++ [id] := rfl

@[simp]
theorem diagnostics_withShown : (s.withShown id).diagnostics = s.diagnostics := by
  unfold diagnostics stream withShown
  cases s.manager.destination <;> rfl

theorem said_self : said s s = [] := List.drop_length

/-- What is said while the diagnostics keep their place is what is written there. -/
theorem said_eq {s s' : Session} {us : List Text}
    (hplace : s'.manager.destination = s.manager.destination)
    (hwrites : s'.diagnostics.writes = s.diagnostics.writes ++ us) : said s s' = us := by
  unfold said
  rw [← hplace]
  change s'.diagnostics.writes.drop _ = us
  rw [hwrites, List.drop_left]

end Writes

/-! ### Lines -/

/-- A line is either written or refused. -/
theorem printLineTo_cases (destination : Destination) (t : Text) (s : Session) :
    (∃ u, Stream.accept (s.stream destination).policy (s.stream destination).writes
        (t ++ [Text.lineFeed]) = .ok u ∧
      outcome (printLineTo destination t) s = (.ok (), s.withWriteTo destination u)) ∨
    ∃ f, Stream.accept (s.stream destination).policy (s.stream destination).writes
        (t ++ [Text.lineFeed]) = .error f ∧
      outcome (printLineTo destination t) s = (.error f, s) := by
  cases destination with
  | sink =>
    change (∃ u, Stream.accept s.sink.policy s.sink.writes _ = .ok u ∧ _) ∨
      ∃ f, Stream.accept s.sink.policy s.sink.writes _ = .error f ∧ _
    have hwrite : outcome (printLineTo .sink t) s = outcome
        (attempt (s.sink.write (t ++ [Text.lineFeed])) >>= fun sink =>
          modify fun session => { session with sink }) s := rfl
    rw [hwrite, outcome_bind, outcome_attempt, Stream.write]
    cases Stream.accept s.sink.policy s.sink.writes (t ++ [Text.lineFeed]) with
    | ok u => exact Or.inl ⟨u, rfl, rfl⟩
    | error f => exact Or.inr ⟨f, rfl, rfl⟩
  | errors =>
    change (∃ u, Stream.accept s.errors.policy s.errors.writes _ = .ok u ∧ _) ∨
      ∃ f, Stream.accept s.errors.policy s.errors.writes _ = .error f ∧ _
    have hwrite : outcome (printLineTo .errors t) s = outcome
        (attempt (s.errors.write (t ++ [Text.lineFeed])) >>= fun errors =>
          modify fun session => { session with errors }) s := rfl
    rw [hwrite, outcome_bind, outcome_attempt, Stream.write]
    cases Stream.accept s.errors.policy s.errors.writes (t ++ [Text.lineFeed]) with
    | ok u => exact Or.inl ⟨u, rfl, rfl⟩
    | error f => exact Or.inr ⟨f, rfl, rfl⟩

theorem printLine_cases (t : Text) (s : Session) :
    (∃ u, Stream.accept s.diagnostics.policy s.diagnostics.writes (t ++ [Text.lineFeed]) = .ok u ∧
      outcome (printLine t) s = (.ok (), s.withWrite u)) ∨
    ∃ f, Stream.accept s.diagnostics.policy s.diagnostics.writes (t ++ [Text.lineFeed]) = .error f ∧
      outcome (printLine t) s = (.error f, s) :=
  printLineTo_cases s.manager.destination t s

theorem outcome_printLineTo_of_writesAs {s : Session} {destination : Destination}
    {form : Text → Text} (h : (s.stream destination).WritesAs form) (t : Text) :
    outcome (printLineTo destination t) s =
      (.ok (), s.withWriteTo destination (form (t ++ [Text.lineFeed]))) := by
  have haccept := h (s.stream destination).writes (t ++ [Text.lineFeed])
  obtain ⟨u, hu, hprint⟩ | ⟨f, hf, -⟩ := printLineTo_cases destination t s
  · obtain rfl : form (t ++ [Text.lineFeed]) = u := Except.ok.inj (haccept.symm.trans hu)
    exact hprint
  · cases haccept.symm.trans hf

theorem outcome_printLine_of_writesAs {s : Session} {form : Text → Text}
    (h : s.diagnostics.WritesAs form) (t : Text) :
    outcome (printLine t) s = (.ok (), s.withWrite (form (t ++ [Text.lineFeed]))) :=
  outcome_printLineTo_of_writesAs h t

/-- A message filled with its arguments. -/
def fill (message : Json) (arguments : Fields Json) : Except Fault Text := do
  (Template.message arguments (← templateOf message arguments)).mapError .template

/-- The line that `emit` prints, if it prints any. -/
def emitLine? (s : Session) (level message : Json) (arguments : Fields Json) :
    Except Fault (Option Text) := do
  checkNames "OutputManager.emit" ["self", "level", "message"] arguments
  let threshold ← s.manager.thresholdOf
    ((Fields.get? channelKey arguments).getD (.str "general"))
  if ← threshold.passesAny level then
    return some (← fill message (Fields.erase channelKey arguments))
  else return none

/-- The line that `hint` prints, if it prints any. -/
def hintLine? (s : Session) (id context : Json) (arguments : Fields Json) :
    Except Fault (Option Text) := do
  match ← s.dueHint? id context with
  | some hint => return some (← fill hint.message arguments)
  | none => return none

/-- A hint is due if it is registered, does not count as shown, belongs to the context, and its
level passes the threshold of hints. -/
theorem dueHint?_eq_some_iff {s : Session} {id context : Json} {hint : Hint} :
    s.dueHint? id context = .ok (some hint) ↔
      id.checkKey = .ok () ∧ s.manager.hasShown id = false ∧ s.hints.find? id = some hint ∧
      (context.checkKey = .ok () ∧ hint.contexts.any (Json.same context) = true) ∧
      (s.manager.threshold "hint").passesAny hint.minLevel = .ok true := by
  unfold dueHint?
  constructor
  · intro h
    obtain ⟨⟨⟩, hkey, h⟩ := bind_eq_ok_iff.mp h
    split at h
    · cases h
    · rename_i hshown
      split at h
      · cases h
      · rename_i found hfind
        obtain ⟨⟨⟩, hcontext, h⟩ := bind_eq_ok_iff.mp h
        split at h
        · cases h
        · rename_i hbelongs
          obtain ⟨passes, hpasses, h⟩ := bind_eq_ok_iff.mp h
          cases passes with
          | false => cases h
          | true =>
            cases h
            exact ⟨hkey, Bool.eq_false_iff.mpr hshown, hfind, ⟨hcontext, by simpa using hbelongs⟩,
              hpasses⟩
  · rintro ⟨hkey, hshown, hfind, ⟨hcontext, hbelongs⟩, hpasses⟩
    unfold Manager.hasShown at hshown
    refine bind_eq_ok_iff.mpr ⟨(), hkey, ?_⟩
    simp only [hshown, hfind, hbelongs]
    exact bind_eq_ok_iff.mpr ⟨(), hcontext, bind_eq_ok_iff.mpr ⟨true, hpasses, rfl⟩⟩

theorem hintLine?_eq_some_iff {s : Session} {id context : Json} {arguments : Fields Json}
    {t : Text} :
    s.hintLine? id context arguments = .ok (some t) ↔
      ∃ hint, s.dueHint? id context = .ok (some hint) ∧ fill hint.message arguments = .ok t := by
  unfold hintLine?
  constructor
  · intro h
    obtain ⟨due?, hdue, h⟩ := bind_eq_ok_iff.mp h
    cases due? with
    | none => cases h
    | some hint =>
      obtain ⟨t', hfill, h⟩ := bind_eq_ok_iff.mp h
      cases h
      exact ⟨hint, hdue, hfill⟩
  · rintro ⟨hint, hdue, hfill⟩
    exact bind_eq_ok_iff.mpr ⟨some hint, hdue, bind_eq_ok_iff.mpr ⟨t, hfill, rfl⟩⟩

theorem emitLine?_eq_some_iff {s : Session} {level message : Json} {arguments : Fields Json}
    {t : Text} :
    s.emitLine? level message arguments = .ok (some t) ↔
      checkNames "OutputManager.emit" ["self", "level", "message"] arguments = .ok () ∧
      (∃ threshold, s.manager.thresholdOf
          ((Fields.get? channelKey arguments).getD (.str "general")) = .ok threshold ∧
        threshold.passesAny level = .ok true) ∧
      fill message (Fields.erase channelKey arguments) = .ok t := by
  unfold emitLine?
  constructor
  · intro h
    obtain ⟨⟨⟩, hnames, h⟩ := bind_eq_ok_iff.mp h
    obtain ⟨threshold, hthreshold, h⟩ := bind_eq_ok_iff.mp h
    obtain ⟨passes, hpasses, h⟩ := bind_eq_ok_iff.mp h
    cases passes with
    | false => cases h
    | true =>
      obtain ⟨t', hfill, h⟩ := bind_eq_ok_iff.mp h
      cases h
      exact ⟨hnames, ⟨threshold, hthreshold, hpasses⟩, hfill⟩
  · rintro ⟨hnames, ⟨threshold, hthreshold, hpasses⟩, hfill⟩
    refine bind_eq_ok_iff.mpr ⟨(), hnames, bind_eq_ok_iff.mpr ⟨threshold, hthreshold, ?_⟩⟩
    exact bind_eq_ok_iff.mpr ⟨true, hpasses, bind_eq_ok_iff.mpr ⟨t, hfill, rfl⟩⟩

/-- A message with a level that takes its arguments is a line if the threshold of its channel lets
it through. -/
theorem emitLine?_of_fill {s : Session} {level n : Int} {message : Json} {arguments : Fields Json}
    {t : Text}
    (hnames : checkNames "OutputManager.emit" ["self", "level", "message"] arguments = .ok ())
    (hthreshold : s.manager.thresholdOf
      ((Fields.get? channelKey arguments).getD (.str "general")) = .ok (.level n))
    (hfill : fill message (Fields.erase channelKey arguments) = .ok t) :
    s.emitLine? (.int level) message arguments =
      .ok (if Level.wall < n ∧ level ≤ n then some t else none) := by
  unfold emitLine?
  rw [hnames, hthreshold, hfill]
  change ((Threshold.level n).passesAny (.int level) >>= fun passes =>
    if passes = true then .ok (some t) else .ok none) = _
  rw [Threshold.passesAny_int, ← Bool.decide_and]
  by_cases hshown : Level.wall < n ∧ level ≤ n
  · rw [if_pos hshown, decide_eq_true hshown]
    rfl
  · rw [if_neg hshown, decide_eq_false hshown]
    rfl

/-- Prints a line if there is one. -/
def printLine? : Option Text → SessionM Unit
  | some t => printLine t
  | none => pure ()

/-- Prints the line of a hint if there is one, and marks the hint as shown. -/
def showLine? (id : Json) : Option Text → SessionM Unit
  | some t => do
    printLine t
    modify fun s => s.withShown id
  | none => pure ()

theorem outcome_thresholdOf (channel : Json) (s : Session) :
    outcome (thresholdOf channel) s = (s.manager.thresholdOf channel, s) := by
  unfold thresholdOf
  rw [outcome_bind, outcome_get]
  dsimp only
  rw [outcome_attempt]

theorem outcome_printMessage (message : Json) (arguments : Fields Json) (s : Session) :
    outcome (do printMessage (← attempt (templateOf message arguments)) arguments) s =
      outcome (attempt (fill message arguments) >>= printLine) s := by
  unfold fill printMessage
  cases templateOf message arguments with
  | error f => rfl
  | ok template => rfl

/-- `emit` settles on a line, or on a fault, and prints the line. -/
theorem outcome_emitNamed (level message : Json) (arguments : Fields Json) (s : Session) :
    outcome (emitNamed level message arguments) s =
      outcome (attempt (s.emitLine? level message arguments) >>= printLine?) s := by
  unfold emitNamed emitLine?
  cases checkNames "OutputManager.emit" ["self", "level", "message"] arguments with
  | error f => rfl
  | ok _ =>
    change outcome (thresholdOf _ >>= _) s = _
    rw [outcome_bind, outcome_thresholdOf]
    change _ = outcome (attempt (s.manager.thresholdOf _ >>= _) >>= _) s
    cases s.manager.thresholdOf ((Fields.get? channelKey arguments).getD (.str "general")) with
    | error f => rfl
    | ok threshold =>
      change outcome (attempt (threshold.passesAny level) >>= _) s =
        outcome (attempt (threshold.passesAny level >>= _) >>= _) s
      cases threshold.passesAny level with
      | error f => rfl
      | ok passes =>
        cases passes with
        | false => rfl
        | true =>
          have hprint := outcome_printMessage message (Fields.erase channelKey arguments) s
          refine hprint.trans ?_
          change _ = outcome (attempt (fill _ _ >>= _) >>= _) s
          cases fill message (Fields.erase channelKey arguments) with
          | error f => rfl
          | ok t => rfl

/-- `hint` settles on a line, or on a fault, prints the line, and only then counts as shown. -/
theorem outcome_hintIn (id context : Json) (arguments : Fields Json) (s : Session) :
    outcome (hintIn id context arguments) s =
      outcome (attempt (s.hintLine? id context arguments) >>= showLine? id) s := by
  unfold hintIn hintLine?
  rw [outcome_bind, outcome_get]
  dsimp only
  cases s.dueHint? id context with
  | error f => rfl
  | ok due? =>
    cases due? with
    | none => rfl
    | some hint =>
      have hprint := outcome_printMessage hint.message arguments s
      change outcome (attempt _ >>= fun template => printMessage template arguments >>= _) s =
        outcome (attempt (fill _ _ >>= _) >>= _) s
      rw [← bind_assoc, outcome_bind, hprint, ← outcome_bind, bind_assoc]
      cases fill hint.message arguments with
      | error f => rfl
      | ok t => rfl

theorem outcome_showLine?_of_writesAs {s : Session} {form : Text → Text}
    (h : s.diagnostics.WritesAs form) (id : Json) (t : Text) :
    outcome (attempt (.ok (some t)) >>= showLine? id) s =
      (.ok (), (s.withWrite (form (t ++ [Text.lineFeed]))).withShown id) := by
  change outcome (printLine t >>= fun _ => modify fun s => s.withShown id) s = _
  rw [outcome_bind, outcome_printLine_of_writesAs h]
  rfl

/-! ### Steps -/

/-- What can be done to a session. -/
inductive Step where
  | install (manager : Manager)
  /-- A manager for a verbosity and some specifications of channels is put in charge. -/
  | start (verbosity : Threshold) (specs : Json) (destination : Destination)
  | register (hints : List Hint)
  | clearHints
  | useChannels (channels : Channel.Table)
  | listChannels
  /-- From now on a place of diagnostics answers to writes in another way, or refuses them. -/
  | answer (destination : Destination) (policy : Policy)
  | emit (level message : Json) (arguments : Fields Json)
  | hint (id context : Json) (arguments : Fields Json)
  | warning (message : Text)
  | error (message : Text)
  | printWarning (message : Text)
  | printError (message : Text)
  /-- A function is called with a trace around it; the trace shows what it returns if there is a
  text for it. The function can do to the session whatever it likes. -/
  | traced (call : Call) (function : SessionM (Option Text))
  | render (view : View) (source : Source) (parser? : Option Parser) (includePath : Json)

/-- The session with another answer to writes at a place of diagnostics. -/
def withPolicy (s : Session) (policy : Policy) : Destination → Session
  | .sink => { s with sink := { s.sink with policy } }
  | .errors => { s with errors := { s.errors with policy } }

/-- The settings of the manager in charge: all that it holds but the hints it has shown. -/
def settings (s : Session) : Manager := { s.manager with shown := [] }

namespace Step

def act : Step → SessionM Unit
  | install manager => Session.install manager
  | start verbosity specs destination => startGiven verbosity specs destination
  | register hints => Session.register hints
  | clearHints => Session.clearHints
  | useChannels channels => Session.useChannels channels
  | listChannels => discard channelListing
  | answer destination policy => modify fun s => s.withPolicy policy destination
  | emit level message arguments => emitNamed level message arguments
  | hint id context arguments => hintIn id context arguments
  | warning message => Session.warning message
  | error message => Session.error message
  | printWarning message => Session.printWarning message
  | printError message => Session.printError message
  | traced call function => discard (Session.traced call id function)
  | render view source parser? includePath =>
      discard (Session.render view source parser? includePath)

/-- The session behind a step, which goes on if the step raises. -/
def next (step : Step) (s : Session) : Session := (outcome step.act s).2

/-- The session behind some steps. -/
def run (steps : List Step) (s : Session) : Session := steps.foldl (fun s step => step.next s) s

/-- What a step calls that is not the session's own, a traced function or a parser, is of a
kind. -/
def Calls (kind : (α : Type) → SessionM α → Prop) : Step → Prop
  | traced _ function => kind _ function
  | render _ source parser? includePath =>
      kind _ ((parser?.getD .nodeStream).read source includePath)
  | _ => True

/-- Whether a step puts another manager in charge by itself. -/
def installs : Step → Bool
  | install _ => true
  | start _ _ _ => true
  | _ => false

/-- Whether a step may say something and changes neither the manager in charge nor what hints,
channels and places there are, as far as it calls nothing that does. -/
def speaks : Step → Bool
  | emit _ _ _ => true
  | hint _ _ _ => true
  | warning _ => true
  | error _ => true
  | printWarning _ => true
  | printError _ => true
  | traced _ _ => true
  | render _ _ _ _ => true
  | _ => false

/-- The hint that a step may show. -/
def hintId? : Step → Option Json
  | hint id _ _ => some id
  | _ => none

/-- Neither a step nor what it calls changes the settings of the manager in charge. -/
structure KeepsSettings (step : Step) : Prop where
  installs : step.installs = false
  calls : step.Calls fun _ => Keeps Session.settings

theorem run_append (before after : List Step) (s : Session) :
    run (before ++ after) s = run after (run before s) := List.foldl_append

end Step

/-! ### What steps keep -/

section Kept

variable {γ : Type} {view : Session → γ}

theorem keeps_discard {α : Type} {m : SessionM α} (hm : Keeps view m) : Keeps view (discard m) := by
  change Keeps view (m >>= fun _ => pure ())
  exact hm.bind fun _ => Keeps.pure ()

theorem keeps_printMessage (hview : HidesDiagnostics view) (message : Text)
    (arguments : Fields Json) : Keeps view (printMessage message arguments) :=
  (Keeps.attempt _).bind fun _ => keeps_printLine hview _

theorem keeps_emitNamed (hview : HidesDiagnostics view) (level message : Json)
    (arguments : Fields Json) : Keeps view (emitNamed level message arguments) := by
  refine (Keeps.attempt _).bind fun _ => ?_
  refine Keeps.bind (Keeps.get.bind fun _ => Keeps.attempt _) fun threshold => ?_
  refine (Keeps.attempt _).bind fun passes => Keeps.ite ?_ (Keeps.pure _)
  exact (Keeps.attempt _).bind fun _ => keeps_printMessage hview _ _

/-- A hint marks itself as shown, and changes nothing else. -/
theorem keeps_hintIn (hview : HidesDiagnostics view)
    (hshown : ∀ (s : Session) (id : Json), view (s.withShown id) = view s) (id context : Json)
    (arguments : Fields Json) : Keeps view (hintIn id context arguments) := by
  refine Keeps.get.bind fun s => (Keeps.attempt _).bind fun due? => ?_
  cases due? with
  | none => exact Keeps.pure ()
  | some hint =>
    refine (Keeps.attempt _).bind fun template => (keeps_printMessage hview _ _).bind fun _ => ?_
    exact fun s => hshown s id

theorem keeps_printError (hview : HidesDiagnostics view) (message : Text) :
    Keeps view (printError message) :=
  (keeps_report hview _ _ _).tryCatch fun f =>
    Keeps.ite (keeps_writeErrors hview _) (Keeps.throw f)

theorem keeps_writeOutput
    (houtput : ∀ (s : Session) (output : Stream), view { s with output } = view s) (t : Text) :
    Keeps view (writeOutput t) :=
  Keeps.get.bind fun _ => (Keeps.attempt _).bind fun output s => houtput s output

theorem keeps_writeView (hview : HidesDiagnostics view)
    (houtput : ∀ (s : Session) (output : Stream), view { s with output } = view s)
    (shown : View) (pieces : List Text) : Keeps view (writeView shown pieces) :=
  Keeps.bind (Keeps.forM fun t => keeps_writeOutput houtput t) fun _ =>
    (keeps_report hview _ _ _).bind fun _ => Keeps.pure _

theorem keeps_register (hregistry : ∀ (s : Session) (hints : Hint.Registry),
    view { s with hints } = view s) (hints : List Hint) : Keeps view (register hints) := by
  refine Keeps.get.bind fun s => ?_
  rcases Hint.Registry.registerAll s.hints hints with ⟨registered, fault?⟩
  refine Keeps.bind (fun s => hregistry s registered) fun _ => ?_
  cases fault? with
  | none => exact Keeps.pure _
  | some f => exact Keeps.throw f

/-- A step that speaks and shows no hint keeps what is neither output nor diagnostics, if what it
calls does. -/
theorem Step.keeps_of_speaks (hview : HidesDiagnostics view)
    (houtput : ∀ (s : Session) (output : Stream), view { s with output } = view s) {step : Step}
    (hspeaks : step.speaks = true) (hhint : step.hintId? = none)
    (hcalls : step.Calls fun _ => Keeps view) : Keeps view step.act := by
  cases step with
  | emit level message arguments => exact keeps_emitNamed hview level message arguments
  | hint id context arguments => cases hhint
  | warning message => exact keeps_report hview _ _ _
  | error message => exact keeps_report hview _ _ _
  | printWarning message => exact keeps_report hview _ _ _
  | printError message => exact keeps_printError hview message
  | traced call function => exact keeps_discard (keeps_traced hview call id hcalls)
  | render shown source parser? includePath =>
    refine keeps_discard ((keeps_collect hview hcalls _).bind fun comments => ?_)
    exact keeps_writeView hview houtput _ _
  | _ => cases hspeaks

/-- A step that puts no manager in charge and shows no hint keeps whatever a view shows of the
manager in charge alone, if what it calls does. -/
theorem Step.keeps_of_manager {shows : Manager → γ} {step : Step}
    (hinstalls : step.installs = false)
    (hhint : step.hintId? = none) (hcalls : step.Calls fun _ => Keeps fun s => shows s.manager) :
    Keeps (fun s => shows s.manager) step.act := by
  cases hspeaks : step.speaks with
  | true =>
    exact step.keeps_of_speaks ⟨fun _ _ => rfl, fun _ _ => rfl⟩ (fun _ _ => rfl) hspeaks hhint
      hcalls
  | false =>
    cases step with
    | install manager => cases hinstalls
    | start verbosity specs destination => cases hinstalls
    | register hints => exact keeps_register (fun _ _ => rfl) hints
    | clearHints => exact fun _ => rfl
    | useChannels channels => exact fun _ => rfl
    | listChannels => exact keeps_discard (Keeps.get.bind fun _ => Keeps.attempt _)
    | answer destination policy => exact fun _ => by cases destination <;> rfl
    | _ => cases hspeaks

end Kept

/-- Only hints change the manager in charge. -/
theorem Step.keeps_manager {step : Step} (hinstalls : step.installs = false)
    (hhint : step.hintId? = none) (hcalls : step.Calls fun _ => Keeps Session.manager) :
    Keeps Session.manager step.act :=
  @Step.keeps_of_manager _ id step hinstalls hhint hcalls

/-- A hint changes nothing of the settings either. -/
theorem Step.keeps_settings {step : Step} (h : step.KeepsSettings) :
    Keeps Session.settings step.act := by
  cases hid : step.hintId? with
  | none =>
    exact @Step.keeps_of_manager _ (fun manager => { manager with shown := [] }) step h.installs hid
      h.calls
  | some id =>
    cases step with
    | hint id context arguments =>
      exact keeps_hintIn ⟨fun _ _ => rfl, fun _ _ => rfl⟩ (fun _ _ => rfl) id context arguments
    | _ => cases hid

theorem Step.run_keeps_settings {steps : List Step} (h : ∀ step ∈ steps, step.KeepsSettings)
    (s : Session) : (run steps s).settings = s.settings := by
  induction steps generalizing s with
  | nil => rfl
  | cons step steps ih =>
    obtain ⟨hstep, hrest⟩ := List.forall_mem_cons.mp h
    exact (ih hrest (step.next s)).trans (Step.keeps_settings hstep s)

/-- The threshold of a channel is one of the settings. -/
theorem threshold_of_settings {s s' : Session} (h : s'.settings = s.settings) (channel : Text) :
    s'.manager.threshold channel = s.manager.threshold channel := by
  have hsame := congrArg (fun manager : Manager => manager.threshold channel) h
  exact hsame

end Session

end TargetHelp
