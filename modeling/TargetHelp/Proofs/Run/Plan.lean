import TargetHelp.Proofs.Run.Invocation
import TargetHelp.Proofs.Session.HintsOnce
import TargetHelp.Proofs.Session.Verbosity

/-!
# What a command comes to

Without what is told on the way, a command is short: a parser is loaded, a source is read, and the
comments become a view, or an error is reported. What is left of the command is its plan. The
command comes to what its plan comes to, with the same writes to the output, and on the error
stream it says all that the plan says.
-/

set_option autoImplicit false
set_option relaxedAutoImplicit false

namespace TargetHelp

open Session

namespace Session

variable {α β : Type}

/-- What stands behind a step that ends in a fault is not come to. -/
theorem Related.stopped {R : Session → Session → Prop} {m : SessionM α} {f : Fault}
    (h : Related R m (MonadExcept.throw f)) (next : α → SessionM β) :
    Related R (m >>= next) (MonadExcept.throw f) := by
  intro s t hst
  obtain ⟨hvalue, hafter⟩ := h hst
  rw [outcome_bind]
  rcases hm : outcome m s with ⟨r, s'⟩
  rw [hm] at hvalue hafter
  obtain rfl : r = .error f := hvalue
  exact ⟨rfl, hafter⟩

theorem Related.and {R R' : Session → Session → Prop} {m n : SessionM α} (h : Related R m n)
    (h' : Related R' m n) : Related (fun s t => R s t ∧ R' s t) m n :=
  fun _ _ hst => ⟨(h hst.1).1, (h hst.1).2, (h' hst.2).2⟩

/-- The first session has said on the error stream all that the second one has said, surrogates
escaped, and perhaps more. -/
def Echoes (loud quiet : Session) : Prop :=
  Alike .errors Hint.ofProgram loud quiet ∧
    Louder Text.escapeSurrogates Hint.ofProgram [] [] quiet loud

/-- What is there in the quieter session is there in the louder one. -/
theorem Echoes.writes {loud quiet : Session} (h : Echoes loud quiet) {u : Text}
    (hu : u ∈ quiet.errors.writes) : u ∈ loud.errors.writes := by
  obtain ⟨ts, ts', hquiet, hloud, hsub⟩ := h.2.said
  rw [h.1.right.diagnostics, List.nil_append] at hquiet
  rw [h.1.left.diagnostics, List.nil_append] at hloud
  change u ∈ (loud.stream .errors).writes
  rw [hloud]
  exact hsub.subset (hquiet ▸ hu)

theorem echoes_report (level : Int) (channel t : Text) :
    Related Echoes (report level channel t) (pure ()) :=
  Related.and (agree_report level channel t) fun _ _ h => louder_report_loud h level channel t

theorem hidesDetails_echoes : HidesDetails Echoes where
  level := fun _ _ h => h.1.left.levels.threshold "trace"
  report := fun level channel t _ => echoes_report level channel t

theorem echoes_writeOutput (t : Text) : Related Echoes (writeOutput t) (writeOutput t) :=
  Related.and (agree_writeOutput t) (related_writeOutput t).flip

theorem echoes_hint {id context : Text} {arguments : Fields Json}
    (h : Agree .errors Hint.ofProgram (hint id context arguments) (pure ())) :
    Related Echoes (hint id context arguments) (hint id context arguments) := by
  intro loud quiet hecho
  obtain ⟨hvalue, hafter⟩ := Agree.of_skipped h hecho.1
  exact ⟨hvalue, hafter, louder_hintIn hecho.2 (.str id) (.str context) arguments⟩

theorem echoes_printError (message : Text) :
    Related Echoes (printError message) (printError message) := by
  intro loud quiet h
  rw [h.1.left.outcome_printError, h.1.right.outcome_printError]
  exact Related.and (Agree.of_skipped (agree_report _ _ _)) (related_report _ _ _).flip h

end Session

namespace World

open Arguments

variable {world : World}

/-! ### The plan -/

/-- The source at a path. -/
def sourceAt (world : World) (path : Json) : Except Fault Source :=
  if isInput path then .ok (Source.ofBytes (streamDisplay (.str "<stdin>")) world.input)
  else (world.system.opened path).map (Source.ofOpened (streamDisplay path))

/-- The comments that are read at a path, or the fault that keeps them away. -/
def commentsAt (world : World) (read : Source → (directory : Json) → Reading)
    (path includePath : Json) : Except Fault (List Comment) := do
  (read (← world.sourceAt path) includePath).comments

variable {read : Source → (directory : Json) → Reading}

theorem commentsAt_of_ok {path : Json} {source : Source} (h : world.sourceAt path = .ok source)
    (read : Source → (directory : Json) → Reading) (includePath : Json) :
    world.commentsAt read path includePath = (read source includePath).comments := by
  unfold commentsAt
  rw [h]
  rfl

theorem commentsAt_of_error {path : Json} {fault : Fault} (h : world.sourceAt path = .error fault)
    (read : Source → (directory : Json) → Reading) (includePath : Json) :
    world.commentsAt read path includePath = .error fault := by
  unfold commentsAt
  rw [h]
  rfl

/-- A source is made of some bytes, unless what has been opened cannot be read. -/
theorem exists_ofOpened_of_sourceAt {path : Json} {source : Source}
    (h : world.sourceAt path = .ok source) :
    ∃ display content, Source.ofOpened display content = source := by
  unfold sourceAt at h
  split at h
  · exact ⟨_, .ok world.input, Except.ok.inj h⟩
  · cases hopened : world.system.opened path with
    | ok content =>
      rw [hopened] at h
      exact ⟨_, content, Except.ok.inj h⟩
    | error fault =>
      rw [hopened] at h
      cases h

/-- What a rendering with settings comes to, without what is told on the way. -/
def planned (world : World) (view : View) (read : Source → (directory : Json) → Reading)
    (path includePath parserSetting : Json) : SessionM (Option Nat) :=
  match world.loadParser parserSetting with
  | .error (.load error) => do
    printError error.message
    return none
  | .error fault => throw fault
  | .ok _ =>
    tryCatch (do return some (← showView view (world.commentsAt read path includePath)))
      (reportFault path parserSetting)

section Planned

variable {view : View} {path includePath parserSetting : Json}

theorem planned_of_load_error {error : Parser.LoadError}
    (h : world.loadParser parserSetting = .error (.load error)) :
    world.planned view read path includePath parserSetting = (do
      printError error.message
      return none) := by
  unfold planned
  rw [h]

theorem planned_of_error {fault : Fault} (h : world.loadParser parserSetting = .error fault)
    (hnot : ∀ error, fault ≠ .load error) :
    world.planned view read path includePath parserSetting = throw fault := by
  unfold planned
  rw [h]
  split
  · rename_i error heq
    exact absurd (Except.error.inj heq) (hnot error)
  · rename_i heq
    rw [Except.error.inj heq]
  · rename_i heq
    cases heq

theorem planned_of_ok {parser : Parser} (h : world.loadParser parserSetting = .ok parser) :
    world.planned view read path includePath parserSetting =
      tryCatch (do return some (← showView view (world.commentsAt read path includePath)))
        (reportFault path parserSetting) := by
  unfold planned
  rw [h]

end Planned

/-- Opening a source comes to the source if the warning before a terminal is read makes no
difference. -/
theorem related_openSource {R : Session → Session → Prop}
    (hwarning : Related R (printWarning "Reading node stream from stdin (Ctrl-D to finish)")
      (pure ())) (path : Json) :
    Related R (world.openSource path) (attempt (world.sourceAt path)) := by
  unfold openSource sourceAt
  by_cases hinput : isInput path = true
  · rw [if_pos hinput, if_pos hinput]
    split
    · exact hwarning.skip (Related.pure _)
    · exact Related.pure _
  · rw [if_neg hinput, if_neg hinput]
    cases world.system.opened path with
    | ok content => exact Related.pure _
    | error f => exact Related.throw f

/-- A source that is opened and rendered comes to the view of the comments at its path. -/
theorem echoes_rendering (view : View) {parser : Parser} (hreads : parser.Reads read)
    (path includePath : Json) :
    Related Echoes
      (do
        let source ← world.openSource path
        return some (← rendering view source parser includePath))
      (do return some (← showView view (world.commentsAt read path includePath))) := by
  have hopen : Related Echoes (world.openSource path) (attempt (world.sourceAt path)) :=
    related_openSource (echoes_report _ _ _) path
  unfold commentsAt
  cases hsource : world.sourceAt path with
  | error f =>
    rw [hsource] at hopen
    exact hopen.stopped _
  | ok source =>
    rw [hsource] at hopen
    refine hopen.after (Related.bind ?_ fun _ => Related.pure _)
    have hread : Related Echoes (parser.read source includePath)
        (attempt (read source includePath).result) := by
      rw [hreads.read_eq]
      exact Related.finish fun _ _ => echoes_report _ _ _
    have hkeeps : Keeps retired (parser.read source includePath) := (hreads.comesTo _ _).retired
    exact @HidesDetails.render Echoes source includePath _ hidesDetails_echoes (some parser) hkeeps
      hread echoes_writeOutput view

theorem echoes_reportFault (path parserSetting : Json) (fault : Fault) :
    Related Echoes (reportFault path parserSetting fault)
      (reportFault path parserSetting fault) := by
  unfold reportFault
  split
  · refine (echoes_printError _).bind fun _ => ?_
    split
    · exact (echoes_hint (agree_programHint _ _)).bind fun _ => Related.pure _
    · exact Related.pure _
  · split
    · exact (echoes_printError _).bind fun _ => Related.pure _
    · exact Related.throw _

theorem echoes_renderWith {values settings : Fields Json}
    (hsettings : Related Echoes (Settings.resolve world.system values Settings.programKeys none)
      (pure settings)) (hopen : ¬ world.ClosesErrors (pathOf settings))
    (hreads : ∀ parser, world.loadParser (parserSettingOf settings) = .ok parser →
      parser.Reads read) (view : View) :
    Related Echoes (world.renderWith values (rendering view))
      (world.planned view read (pathOf settings) (includePathOf settings)
        (parserSettingOf settings)) := by
  refine hsettings.after ?_
  dsimp only
  split
  · rename_i error hload
    replace hload : world.loadParser (parserSettingOf settings) = .error (.load error) := hload
    rw [planned_of_load_error hload]
    exact (echoes_printError _).bind fun _ => Related.pure _
  · rename_i fault hnot hload
    replace hload : world.loadParser (parserSettingOf settings) = .error fault := hload
    rw [planned_of_error hload fun error heq => hnot error heq]
    exact Related.throw _
  · rename_i parser hload
    replace hload : world.loadParser (parserSettingOf settings) = .ok parser := hload
    rw [planned_of_ok hload, opening_of_settings hopen]
    exact (echoes_report _ _ _).skip
      ((echoes_rendering view (hreads parser hload) _ _).tryCatch fun f =>
        echoes_reportFault _ _ f)

/-! ### Reports -/

/-- A session after an error has been reported: nothing more is on the output, and the report is on
the error stream if errors are shown. -/
structure Reports (s s' : Session) : Prop where
  output : s'.output = s.output
  said : s.manager.shows Level.error "error" = .ok true → ∃ message : Text,
    (("  ERROR: " : Text) ++ message ++ [Text.lineFeed]).escapeSurrogates ∈ s'.errors.writes

/-- A fault that is reported where it ends a rendering. -/
def IsReported (fault : Fault) : Prop :=
  (∃ context cause, fault = .failure context cause) ∨ fault.isSystem = true

theorem not_isReported {f : Fault} (hfailure : ∀ context cause, f ≠ .failure context cause)
    (hsystem : f.isSystem = false) : ¬ IsReported f := by
  rintro (⟨context, cause, heq⟩ | htrue)
  · exact hfailure context cause heq
  · cases hsystem.symm.trans htrue

section Reports

variable {s : Session} (hs : s.Ready .errors Hint.ofProgram) (hpolicy : s.errors.policy = .escaping)
include hs hpolicy

theorem exists_printError (message : Text) :
    ∃ s', outcome (printError message) s = (.ok (), s') ∧ s'.Ready .errors Hint.ofProgram ∧
      Reports s s' := by
  have hwrites : s.diagnostics.WritesAs Text.escapeSurrogates := by
    intro writes t
    rw [hs.diagnostics]
    change Stream.accept s.errors.policy writes t = _
    rw [hpolicy]
    rfl
  obtain ⟨s', hreport, hready, houtput⟩ : ∃ s',
      outcome (report Level.error "error" ("  ERROR: " ++ message)) s = (.ok (), s') ∧
      s'.Ready .errors Hint.ofProgram ∧ s'.output = s.output := by
    obtain ⟨hvalue, hafter⟩ := agree_report Level.error "error" ("  ERROR: " ++ message) hs.alike
    exact ⟨(outcome (report Level.error "error" ("  ERROR: " ++ message)) s).2,
      Prod.ext hvalue rfl, hafter.left, hafter.output⟩
  refine ⟨s', (hs.outcome_printError message).trans hreport, hready, houtput, fun hshows => ?_⟩
  rw [outcome_report hshows, if_pos rfl, outcome_printLine_of_writesAs hwrites] at hreport
  obtain rfl := (Prod.mk.inj hreport).2
  refine ⟨message, ?_⟩
  unfold withWrite
  rw [hs.destination]
  exact List.mem_append_right _ (List.mem_singleton_self _)

theorem exists_reportFault (path parserSetting : Json) {fault : Fault} (h : IsReported fault) :
    ∃ s', outcome (reportFault path parserSetting fault) s = (.ok none, s') ∧ Reports s s' := by
  unfold reportFault
  split
  · rename_i context cause
    obtain ⟨s', hprint, hready, hreports⟩ :=
      exists_printError hs hpolicy (Fault.failure context cause).message
    rw [outcome_bind, hprint]
    dsimp only
    split
    · -- The hint behind the report takes nothing off the error stream.
      have hhint := agree_programHint (d := .errors) "parse.node_stream" "error" hready.alike
      rw [outcome_bind, ← Prod.mk.eta (p := outcome (hint _ _ _) s'), hhint.1]
      refine ⟨_, rfl, hhint.2.output.trans hreports.output, fun hshows => ?_⟩
      obtain ⟨message, hmem⟩ := hreports.said hshows
      refine ⟨message, ?_⟩
      obtain ⟨-, -, -, u, hcall⟩ | ⟨r, hcall⟩ :=
        outcome_hintIn_cases (.str "parse.node_stream") (.str "error") [] s'
      · change _ ∈ (outcome (hintIn _ _ _) s').2.errors.writes
        rw [hcall]
        unfold withShown withWrite
        rw [hready.destination]
        exact List.mem_append_left _ hmem
      · change _ ∈ (outcome (hintIn _ _ _) s').2.errors.writes
        rw [hcall]
        exact hmem
    · exact ⟨s', rfl, hreports⟩
  · rename_i hnot
    have hsystem : fault.isSystem = true :=
      h.resolve_left fun ⟨context, cause, heq⟩ => hnot context cause heq
    obtain ⟨s', hprint, -, hreports⟩ := exists_printError hs hpolicy (unreadable path fault)
    rw [if_pos hsystem, outcome_bind, hprint]
    exact ⟨s', rfl, hreports⟩

end Reports

theorem reportFault_of_not_reported (path parserSetting : Json) {fault : Fault}
    (h : ¬ IsReported fault) : reportFault path parserSetting fault = throw fault := by
  unfold reportFault
  split
  · rename_i context cause
    exact absurd (Or.inl ⟨context, cause, rfl⟩) h
  · exact if_neg fun hsystem => h (Or.inr hsystem)

/-! ### Outcomes of the plan -/

section Outcomes

variable {s : Session} {view : View} {path includePath parserSetting : Json} {parser : Parser}

theorem exists_planned_of_load_error (hs : s.Ready .errors Hint.ofProgram)
    (hpolicy : s.errors.policy = .escaping) {error : Parser.LoadError}
    (hload : world.loadParser parserSetting = .error (.load error)) :
    ∃ s', outcome (world.planned view read path includePath parserSetting) s = (.ok none, s') ∧
      Reports s s' := by
  obtain ⟨s', hprint, -, hreports⟩ := exists_printError hs hpolicy error.message
  rw [planned_of_load_error hload, outcome_bind, hprint]
  exact ⟨s', rfl, hreports⟩

theorem outcome_planned_of_error {fault : Fault}
    (hload : world.loadParser parserSetting = .error fault) (hnot : ∀ error, fault ≠ .load error)
    (s : Session) :
    outcome (world.planned view read path includePath parserSetting) s = (.error fault, s) := by
  rw [planned_of_error hload hnot]
  rfl

theorem outcome_planned_of_shown (hload : world.loadParser parserSetting = .ok parser)
    {s' : Session} {count : Nat}
    (hshow : outcome (showView view (world.commentsAt read path includePath)) s =
      (.ok count, s')) :
    outcome (world.planned view read path includePath parserSetting) s =
      (.ok (some count), s') := by
  rw [planned_of_ok hload, outcome_tryCatch, outcome_bind, hshow]
  rfl

theorem outcome_planned_of_fault (hload : world.loadParser parserSetting = .ok parser)
    {s' : Session} {fault : Fault}
    (hshow : outcome (showView view (world.commentsAt read path includePath)) s =
      (.error fault, s')) :
    outcome (world.planned view read path includePath parserSetting) s =
      outcome (reportFault path parserSetting fault) s' := by
  rw [planned_of_ok hload, outcome_tryCatch, outcome_bind, hshow]

/-- A fault that keeps the comments away is left to what reports faults. -/
theorem outcome_planned_of_comments (hload : world.loadParser parserSetting = .ok parser)
    {fault : Fault} (hcomments : world.commentsAt read path includePath = .error fault)
    (view : View) (s : Session) :
    outcome (world.planned view read path includePath parserSetting) s =
      outcome (reportFault path parserSetting fault) s := by
  refine outcome_planned_of_fault hload ?_
  rw [hcomments]
  rfl

end Outcomes

/-! ### Outcomes of runs -/

section Runs

variable {argv : List Text} {values settings : Fields Json} {manager : Manager} {request : Request}

theorem agree_closing (request : Request) (count : Nat) :
    Agree .errors Hint.ofProgram (request.closing count) (pure ()) := by
  cases request with
  | list => exact agree_programHint _ _
  | describeAll =>
    change Agree _ _ (if count = 0 then _ else _) _
    by_cases hcount : count = 0
    · rw [if_pos hcount]
      exact agree_programHint _ _
    · rw [if_neg hcount]
      exact Agree.pure _
  | describe target =>
    change Agree _ _ (if count = 0 then _ else _) _
    by_cases hcount : count = 0
    · rw [if_pos hcount]
      exact agree_noMatchHint _ _
    · rw [if_neg hcount]
      exact Agree.pure _

theorem echoes_begun (h : Obeyed argv values manager) : Echoes (begun manager) (begun manager) := by
  obtain ⟨hlevels, -, hshown⟩ := h.hasLevels
  obtain ⟨n, hn⟩ := hlevels.verbosity
  have hdiagnostics : (begun manager).diagnostics = ⟨.escaping, []⟩ := h.ready_begun.diagnostics
  have hwrites : (begun manager).diagnostics.WritesAs Text.escapeSurrogates := by
    rw [hdiagnostics]
    exact fun _ _ => rfl
  refine ⟨h.ready_begun.alike, {
    manager := ⟨rfl, rfl, hlevels, n, n, hn, hn, le_rfl⟩
    quiet_writes := hwrites
    loud_writes := hwrites
    output := rfl
    quiet_hints := rfl
    loud_hints := rfl
    said := ⟨[], [], by rw [hdiagnostics]; rfl, by rw [hdiagnostics]; rfl, .slnil⟩
    shown := .refl _
    hidden := ?_ }⟩
  change ∀ id ∈ manager.shown, _
  rw [hshown]
  exact List.forall_mem_nil _

/-- The exit code of a command that has rendered some entries or reported an error. -/
def codeOf : Option Nat → Nat
  | none => 1
  | some _ => 0

/-- A run comes to what its plan comes to, with the same writes to the output, and says all that
the plan says up to the hint at the end. -/
theorem outcome_run_of_planned (hargv : Obeyed argv values manager)
    (hrequest : requestOf? values = some request)
    (hsettings : Related Echoes (Settings.resolve world.system values Settings.programKeys none)
      (pure settings))
    (hopen : ¬ world.ClosesErrors (pathOf settings))
    (hreads : ∀ parser, world.loadParser (parserSettingOf settings) = .ok parser →
      parser.Reads read)
    {r : Except Fault (Option Nat)} {s' : Session}
    (hplan : outcome (world.planned request.view read (pathOf settings) (includePathOf settings)
      (parserSettingOf settings)) (begun manager) = (r, s'))
    (hinterrupt : ∀ fault, r = .error fault → fault.isInterrupt = false) :
    let run := outcome (world.run argv) World.session
    run.1 = r.map codeOf ∧ run.2.output = s'.output ∧
      (r = .ok none → ∀ u ∈ s'.errors.writes, u ∈ run.2.errors.writes) := by
  intro run
  have hrun : run = outcome (interruptible (world.command values)) (begun manager) :=
    hargv.outcome_run world
  obtain ⟨hvalue, hafter⟩ :=
    echoes_renderWith hsettings hopen hreads request.view (echoes_begun hargv)
  rcases hrender : outcome (world.renderWith values (rendering request.view)) (begun manager) with
    ⟨r', begun'⟩
  rw [hplan, hrender] at hvalue hafter
  obtain rfl : r' = r := hvalue
  rw [hrun]
  unfold interruptible
  rw [outcome_tryCatch, command_of_request hrequest, outcome_bind, hrender]
  cases r' with
  | error fault =>
    have hnot : ¬ fault.isUserInterrupt = true := by
      rw [Fault.isUserInterrupt_eq_false (hinterrupt fault rfl)]
      exact Bool.false_ne_true
    dsimp only
    rw [if_neg hnot]
    exact ⟨rfl, hafter.1.output, fun h => nomatch h⟩
  | ok count? =>
    cases count? with
    | none => exact ⟨rfl, hafter.1.output, fun _ u hu => hafter.writes hu⟩
    | some count =>
      obtain ⟨hclosing, hlast⟩ := agree_closing request count hafter.1.left.alike
      have hconclude : outcome (request.conclude (some count)) begun' =
          (.ok 0, (outcome (request.closing count) begun').2) := by
        unfold Request.conclude
        rw [outcome_bind, ← Prod.mk.eta (p := outcome (request.closing count) begun'), hclosing]
        rfl
      dsimp only
      rw [hconclude]
      exact ⟨rfl, hlast.output.trans hafter.1.output, fun h => nomatch h⟩

end Runs

end World

end TargetHelp
