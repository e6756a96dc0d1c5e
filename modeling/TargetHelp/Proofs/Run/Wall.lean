import TargetHelp.Proofs.Run.Invocation

/-!
# Behind the wall

At a verbosity of `Level.wall` or less every threshold is at the wall but that of traces, which are
silent unless they are asked for and have levels above what is left to them. So no step of a command
says anything of its own: each leaves the error stream as it was, and the manager too, which is why
the next step says nothing either. Only the call of the parser is not the program's own: what that
writes is there, and the wall stands behind it as long as the parser leaves such a manager in
charge. A parser that puts another one in charge lifts the wall.
-/

set_option autoImplicit false
set_option relaxedAutoImplicit false

namespace TargetHelp

open Session

/-! ### Managers -/

/-- No threshold is above the wall but that of traces, which is left at the level of silence. -/
structure Manager.Walled (manager : Manager) : Prop where
  trace : ∃ n ≤ Level.minimal, manager.threshold "trace" = .level n
  others : ∀ channel : Text, channel ≠ "trace" →
    ∃ n ≤ Level.wall, manager.threshold channel = .level n

/-- Nothing is shown but what is traced at the level of silence or below it. -/
theorem Manager.Walled.shows {manager : Manager} (h : manager.Walled) {level : Int}
    {channel : Text} (hlevel : channel = "trace" → Level.minimal < level) :
    manager.shows level channel = .ok false := by
  by_cases htrace : channel = "trace"
  · obtain ⟨n, hn, hthreshold⟩ := h.trace
    have hbelow : ¬ level ≤ n := by
      have hlevel := hlevel htrace
      omega
    rw [Manager.shows, htrace, hthreshold, Threshold.passes_level, decide_eq_false hbelow,
      Bool.and_false]
  · obtain ⟨n, hn, hthreshold⟩ := h.others channel htrace
    have hwall : ¬ Level.wall < n := by omega
    rw [Manager.shows, hthreshold, Threshold.passes_level, decide_eq_false hwall, Bool.false_and]

/-- Behind the wall nothing is shown beyond the default. -/
theorem Manager.Walled.hushed {manager : Manager} (h : manager.Walled) : manager.Hushed := by
  intro channel
  by_cases htrace : channel = "trace"
  · obtain ⟨n, hn, hthreshold⟩ := h.trace
    exact ⟨n, htrace ▸ hthreshold, hn.trans (by decide)⟩
  · obtain ⟨n, hn, hthreshold⟩ := h.others channel htrace
    exact ⟨n, hthreshold, hn.trans (by decide)⟩

/-- A verbosity at the wall and no specification of a channel put such a manager in charge. -/
theorem Manager.exists_walled {verbosity : Int} (h : verbosity ≤ Level.wall) :
    ∃ manager, managerOf .help verbosity [] .errors = .ok manager ∧ manager.Walled := by
  let manager : Manager := {
    verbosity := .level verbosity
    overrides := [(.str "trace", .level Level.minimal)] }
  refine ⟨manager, rfl, ⟨Level.minimal, Int.le_refl _, rfl⟩, fun channel hchannel => ?_⟩
  refine ⟨verbosity, h, ?_⟩
  have hother : Json.same (.str "trace") (.str channel) = false := by
    rw [Json.same_str]
    exact beq_false_of_ne hchannel.symm
  change ((List.find? (fun entry : Json × Threshold => Json.same entry.1 (.str channel))
    [(.str "trace", .level Level.minimal)]).map Prod.snd).getD (.level verbosity) = _
  rw [List.find?_singleton, hother]
  rfl

/-! ### Parsers -/

/-- Behind the wall, calls of the parser leave such a manager in charge. -/
def Parser.StaysWalled (parser : Parser) : Prop :=
  ∀ source includePath (s : Session), s.manager.Walled →
    (outcome (parser.read source includePath) s).2.manager.Walled

/-- Behind the wall, calls of the parser write nothing to the error stream. -/
def Parser.IsQuiet (parser : Parser) : Prop :=
  ∀ source includePath (s : Session), s.manager.Walled →
    (outcome (parser.read source includePath) s).2.errors = s.errors

/-- A parser that does nothing but read leaves the manager as it is. -/
theorem Parser.Reads.staysWalled {parser : Parser}
    {read : Source → (directory : Json) → Reading} (h : parser.Reads read) :
    parser.StaysWalled := by
  intro source includePath s hs
  rw [h.read_eq, keeps_finish hidesDiagnostics_manager _ s]
  exact hs

/-- What reads node streams is quiet. -/
theorem Parser.Reads.isQuiet {parser : Parser} (h : parser.Reads Node.readStream) :
    parser.IsQuiet := by
  intro source includePath s hs
  have hreports : ∀ r ∈ (Node.readStream source includePath).reports,
      Related SameHushed (report r.level r.channel r.text) (pure ()) := by
    intro r hr
    obtain ⟨count, rfl⟩ := Node.eq_readingReport hr
    exact hidesDetails_sameHushed.report _ _ _ (by decide : 0 < Level.debug)
  rw [h.read_eq, outcome_of_hushed (Related.finish hreports) hs.hushed, outcome_attempt]

/-! ### Steps -/

namespace Session

variable {α β : Type} {allowed : Parser → Prop}

/-- Nothing has been written to the error stream but by calls of parsers behind the wall. -/
inductive WrittenBy (allowed : Parser → Prop) : List Text → Prop
  | nothing : WrittenBy allowed []
  | call {parser : Parser} (hparser : allowed parser) (source : Source) (includePath : Json)
      {s : Session} (hs : s.manager.Walled) (hbefore : WrittenBy allowed s.errors.writes) :
      WrittenBy allowed (outcome (parser.read source includePath) s).2.errors.writes

/-- Calls of quiet parsers write nothing. -/
theorem WrittenBy.eq_nil {writes : List Text} (h : WrittenBy allowed writes)
    (hquiet : ∀ parser, allowed parser → parser.IsQuiet) : writes = [] := by
  induction h with
  | nothing => rfl
  | call hparser source includePath hs _ ih => rw [hquiet _ hparser source includePath _ hs, ih]

/-- The manager lets nothing through, and only parsers have written to the error stream. -/
structure Behind (allowed : Parser → Prop) (s : Session) : Prop where
  walled : s.manager.Walled
  written : WrittenBy allowed s.errors.writes

/-- One session behind the wall, taken twice. -/
def Silent (allowed : Parser → Prop) (s t : Session) : Prop := s = t ∧ s.Behind allowed

theorem Behind.silent {s : Session} (h : s.Behind allowed) : Silent allowed s s := ⟨rfl, h⟩

/-- A step that leaves sessions behind the wall is related to itself. -/
theorem Silent.of_behind {m : SessionM α}
    (h : ∀ s, s.Behind allowed → (outcome m s).2.Behind allowed) :
    Related (Silent allowed) m m := by
  rintro s _ ⟨rfl, hs⟩
  exact ⟨rfl, rfl, h s hs⟩

/-- A step that does nothing behind the wall leaves its session there. -/
theorem Silent.of_outcome {m : SessionM Unit}
    (h : ∀ s, s.Behind allowed → outcome m s = (.ok (), s)) : Related (Silent allowed) m m :=
  Silent.of_behind fun s hs => by
    rw [h s hs]
    exact hs

theorem Behind.report {s : Session} (h : s.Behind allowed) {level : Int} {channel : Text}
    (hlevel : channel = "trace" → Level.minimal < level) (t : Text) :
    outcome (report level channel t) s = (.ok (), s) :=
  outcome_report (h.walled.shows hlevel) t

theorem Behind.printError {s : Session} (h : s.Behind allowed) (message : Text) :
    outcome (printError message) s = (.ok (), s) :=
  outcome_printError_of_ok (h.report (fun htrace => absurd htrace (by decide)) _)

/-- No hint is due behind the wall. -/
theorem Behind.dueHint? {s : Session} (h : s.Behind allowed) (id context : Text) :
    s.dueHint? (.str id) (.str context) = .ok none := by
  obtain ⟨n, hn, hthreshold⟩ := h.walled.others "hint" (by decide)
  have hwall : (Threshold.level n).isWall = .ok true := congrArg _ (decide_eq_true hn)
  unfold Session.dueHint?
  change (if (_ : Bool) = true then _ else _) = _
  by_cases hshown : s.manager.shown.any (Json.same (.str id)) = true
  · rw [if_pos hshown]
    rfl
  · rw [if_neg hshown]
    cases hfind : s.hints.find? (.str id) with
    | none => rfl
    | some hint =>
      change (if (_ : Bool) = true then _ else (Threshold.passesAny _ _ >>= _)) = _
      split
      · rfl
      · rw [hthreshold, Threshold.passesAny, hwall]
        rfl

theorem Behind.hint {s : Session} (h : s.Behind allowed) (id context : Text)
    (arguments : Fields Json) : outcome (hint id context arguments) s = (.ok (), s) := by
  unfold Session.hint hintIn
  rw [outcome_bind, outcome_get]
  dsimp only
  rw [outcome_bind, outcome_attempt, h.dueHint?]
  rfl

theorem silent_report {level : Int} {channel : Text}
    (hlevel : channel = "trace" → Level.minimal < level) (t : Text) :
    Related (Silent allowed) (report level channel t) (report level channel t) :=
  Silent.of_outcome fun _ hs => hs.report hlevel t

theorem silent_writeOutput (t : Text) :
    Related (Silent allowed) (writeOutput t) (writeOutput t) := by
  have hkeeps : Keeps (fun s => (s.manager, s.errors)) (writeOutput t) :=
    Keeps.get.bind fun _ => (Keeps.attempt _).bind fun _ _ => rfl
  refine Silent.of_behind fun s hs => ?_
  obtain ⟨hmanager, herrors⟩ := Prod.mk.inj (hkeeps s)
  exact ⟨hmanager ▸ hs.walled, herrors ▸ hs.written⟩

/-- What closes the error stream writes nothing to it. -/
theorem silent_closeErrors :
    Related (Silent allowed) World.closeErrors World.closeErrors :=
  Silent.of_behind fun _ hs => ⟨hs.walled, hs.written⟩

section Render

variable {parser : Parser} (hparser : allowed parser) (hwalled : parser.StaysWalled)
include hparser hwalled

theorem silent_read (source : Source) (includePath : Json) :
    Related (Silent allowed) (parser.read source includePath) (parser.read source includePath) :=
  Silent.of_behind fun s hs => ⟨hwalled source includePath s hs.walled,
    .call hparser source includePath hs.walled hs.written⟩

/-- Traces are not asked for, so the call of a parser is not traced. -/
theorem silent_collect (named : Fields Text) (source : Source) (includePath : Json) :
    Related (Silent allowed) (collect named parser source includePath)
      (collect named parser source includePath) := by
  have huntraced : Related (Silent allowed) (collectUntraced parser source includePath)
      (collectUntraced parser source includePath) := by
    refine Related.bind ((silent_read hparser hwalled source includePath).tryCatch
      fun f => Related.throw _) fun _ => ?_
    exact (silent_report (fun htrace => absurd htrace (by decide)) _).bind fun _ => Related.pure _
  refine Silent.of_behind fun s hs => ?_
  obtain ⟨n, hn, hthreshold⟩ := hs.walled.trace
  have hoff : (s.manager.threshold "trace").isBelow Level.debug = .ok true := by
    rw [hthreshold]
    exact congrArg Except.ok (decide_eq_true (Int.lt_of_le_of_lt hn (by decide)))
  unfold collect
  rw [outcome_traced_of_isBelow hoff]
  exact (huntraced hs.silent).2.2

theorem silent_render (view : View) (source : Source) (includePath : Json) :
    Related (Silent allowed) (render view source (some parser) includePath)
      (render view source (some parser) includePath) := by
  refine (silent_collect hparser hwalled _ source includePath).bind fun comments => ?_
  refine (Related.forM silent_writeOutput).bind fun _ => ?_
  exact (silent_report (fun htrace => absurd htrace (by decide)) _).bind fun _ => Related.pure _

end Render

/-- Commands stay behind the wall if their parsers do. -/
theorem bears_silent (h : ∀ parser, allowed parser → parser.StaysWalled) :
    Bears (Silent allowed) allowed where
  report := fun _ _ t hchannel => silent_report (fun htrace => absurd htrace hchannel) t
  printError := fun message => Silent.of_outcome fun _ hs => hs.printError message
  programHint := fun id context => Silent.of_outcome fun _ hs => hs.hint id context []
  noMatchHint := fun _ context =>
    Silent.of_outcome fun _ hs => hs.hint "describe.no_match" context _
  writeOutput := silent_writeOutput
  render := fun view source parser includePath hparser =>
    silent_render hparser (h parser hparser) view source includePath

end Session

/-! ### What commands come to -/

namespace Session

variable {α β : Type} {p : α → Prop}

/-- All values that a step can come to have a property. -/
def Yields (p : α → Prop) (m : SessionM α) : Prop := ∀ s a, (outcome m s).1 = .ok a → p a

theorem Yields.pure {a : α} (h : p a) : Yields p (pure a) :=
  fun _ _ heq => Except.ok.inj heq ▸ h

/-- What stands last decides what a step comes to. -/
theorem Yields.bind {m : SessionM β} {next : β → SessionM α} (h : ∀ b, Yields p (next b)) :
    Yields p (m >>= next) := by
  intro s a heq
  rw [outcome_bind] at heq
  rcases hm : outcome m s with ⟨r, s'⟩
  rw [hm] at heq
  cases r with
  | ok b => exact h b s' a heq
  | error f => cases heq

end Session

namespace World

open Arguments

variable {world : World}

theorem yields_list (values : Fields Json) :
    Yields (fun code => code = 0 ∨ code = 1) (world.list values) := by
  refine Yields.bind fun count? => ?_
  cases count? with
  | none => exact Yields.pure (Or.inr rfl)
  | some count => exact Yields.bind fun _ => Yields.pure (Or.inl rfl)

theorem yields_describe (values : Fields Json) :
    Yields (fun code => code = 0 ∨ code = 1) (world.describe values) := by
  unfold describe
  split
  all_goals
    refine Yields.bind fun count? => ?_
    cases count? with
    | none => exact Yields.pure (Or.inr rfl)
    | some count =>
      dsimp only
      split
      · exact Yields.bind fun _ => Yields.pure (Or.inl rfl)
      · exact Yields.pure (Or.inl rfl)

/-- A command ends in the code of success or in that of an error. -/
theorem yields_command (values : Fields Json) :
    Yields (fun code => code = 0 ∨ code = 1) (world.command values) := by
  unfold command
  split
  · split
    · exact yields_list values
    · exact yields_describe values
  · exact Yields.bind fun _ => Yields.pure (Or.inl rfl)

/-! ### Runs -/

/-- A run with some values for its command may load this parser: its settings, resolved behind the
wall, lead to it. -/
def Loads (world : World) (values : Fields Json) (parser : Parser) : Prop :=
  ∃ (s : Session) (settings : Fields Json), s.manager.Walled ∧
    (outcome (Settings.resolve world.system values Settings.programKeys none) s).1 =
      .ok settings ∧
    world.loadParser (parserSettingOf settings) = .ok parser

/-- A command says nothing of its own behind the wall. -/
theorem behind_command {values : Fields Json}
    (h : ∀ parser, world.Loads values parser → parser.StaysWalled) {s : Session}
    (hs : s.Behind (world.Loads values)) :
    (outcome (world.command values) s).2.Behind (world.Loads values) := by
  have hallowed : Allows (Silent (world.Loads values)) (world.Loads values) world values :=
    fun s' _ settings hst hsettings => ⟨fun _ => silent_closeErrors,
      fun _ hload => ⟨s', settings, hst.2.walled, hsettings, hload⟩⟩
  have hsame : SameRequest values values := fun _ _ => rfl
  exact ((bears_silent h).command hsame hallowed hs.silent).2.2

/-- Unless it ends with the code of an interrupt, what its user might interrupt ends in a code of
its own or in a fault, and says nothing more. -/
theorem behind_interruptible {allowed : Parser → Prop} {step : SessionM Nat} {s : Session}
    (hbehind : (outcome step s).2.Behind allowed)
    (hnot : (outcome (interruptible step) s).1.toOption ≠ some 130) :
    (∀ code, (outcome (interruptible step) s).1 = .ok code → (outcome step s).1 = .ok code) ∧
      WrittenBy allowed (outcome (interruptible step) s).2.errors.writes := by
  unfold interruptible at hnot ⊢
  rw [outcome_tryCatch] at hnot ⊢
  rcases hstep : outcome step s with ⟨r, s'⟩
  rw [hstep] at hbehind hnot
  cases r with
  | ok code => exact ⟨fun _ hcode => hcode, hbehind.written⟩
  | error f =>
    dsimp only at hnot ⊢
    by_cases huser : f.isUserInterrupt = true
    · -- Then there is no such code only if the error stream does not take the line for the user.
      rw [if_pos huser, writeErrors, outcome_bind, outcome_bind, outcome_get] at hnot ⊢
      dsimp only at hnot ⊢
      rw [outcome_bind, outcome_attempt] at hnot ⊢
      cases hwrite : s'.errors.write "\nInterrupted.\n" with
      | ok errors =>
        rw [hwrite] at hnot
        exact absurd rfl hnot
      | error g => exact ⟨fun _ hcode => (nomatch hcode), hbehind.written⟩
    · rw [if_neg huser]
      exact ⟨fun _ hcode => (nomatch hcode), hbehind.written⟩

/-- Without files of settings a command loads the parser that it names. -/
theorem Loads.loadParser_eq {values : Fields Json} {parser : Parser} (h : world.Loads values parser)
    (habsent : Settings.Absent world.system ((Fields.get? "config" values).getD .null)) :
    world.loadParser ((Fields.get? "parser" values).getD .null) = .ok parser := by
  obtain ⟨s, settings, hwalled, hsettings, hload⟩ := h
  obtain ⟨hresolved, -⟩ :=
    habsent.related_resolve hidesDetails_sameHushed Settings.programKeys ⟨rfl, hwalled.hushed⟩
  obtain rfl := Except.ok.inj (hsettings.symm.trans hresolved)
  exact hload

end World

end TargetHelp
