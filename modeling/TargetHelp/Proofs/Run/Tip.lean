import TargetHelp.Proofs.Run.Plan
import TargetHelp.Proofs.Session.ErrorReports

/-!
# The tip on node streams

A run whose reading fails says so, and behind that the tip on node streams if no parser was asked
for. What it says before that is warnings and what the parser reports, so the error stream has the
tip for no other reason. A setting that is there but empty counts as asking for a parser here,
although the built-in one is loaded for it just as if there were none.
-/

set_option autoImplicit false
set_option relaxedAutoImplicit false

namespace TargetHelp

/-! ### What is said by default -/

namespace Session

open World

variable {α : Type} {kind : Text → Prop}

/-- The line that is written for a text. -/
def lineOf (t : Text) : Text := (t ++ [Text.lineFeed]).escapeSurrogates

/-- A run without flags of diagnostics that has said some lines so far and shown nothing. -/
def saying (said : List Text) : Session := { begun defaultManager with errors := ⟨.escaping, said⟩ }

/-- Such a run that has said lines of one kind only. -/
def SaysOnly (kind : Text → Prop) (s : Session) : Prop :=
  ∃ said, (∀ line ∈ said, kind line) ∧ s = saying said

/-- Two runs that have said lines of one kind only. -/
def BothSayOnly (kind : Text → Prop) (s t : Session) : Prop := s.SaysOnly kind ∧ t.SaysOnly kind

theorem saysOnly_begun : (begun defaultManager).SaysOnly kind := ⟨[], List.forall_mem_nil _, rfl⟩

theorem hushed_saying (said : List Text) : (saying said).manager.Hushed := hushed_defaultManager

theorem outcome_printLine_saying (said : List Text) (t : Text) :
    outcome (printLine t) (saying said) = (.ok (), saying (said ++ [lineOf t])) :=
  outcome_printLine_of_writesAs (fun _ _ => rfl) t

/-- A step that keeps runs to a kind of lines, whatever it stands for, does so for itself. -/
theorem Related.saysOnly {m n : SessionM α} (h : Related (BothSayOnly kind) m n) :
    Related (BothSayOnly kind) m m := by
  intro s t hst
  obtain ⟨hvalue, hafter, -⟩ := h ⟨hst.1, hst.1⟩
  obtain ⟨hvalue', hafter', -⟩ := h ⟨hst.2, hst.1⟩
  exact ⟨hvalue.trans hvalue'.symm, hafter, hafter'⟩

/-- A report keeps to a kind of lines if its own line is of that kind or is not told by default. -/
theorem saysOnly_report {level : Int} {t : Text} (h : level ≤ 0 → kind (lineOf t))
    (channel : Text) : Related (BothSayOnly kind) (report level channel t) (pure ()) := by
  rintro _ u ⟨⟨said, hsaid, rfl⟩, hu⟩
  by_cases hlevel : 0 < level
  · rw [outcome_report_of_hushed (hushed_saying said) hlevel]
    exact ⟨rfl, ⟨said, hsaid, rfl⟩, hu⟩
  · have hlevels : (saying said).manager.HasLevels := ready_begun_default.levels
    obtain ⟨shown, hshows⟩ := hlevels.exists_shows level channel
    rw [outcome_report hshows]
    cases shown with
    | false => exact ⟨rfl, ⟨said, hsaid, rfl⟩, hu⟩
    | true =>
      have hline : ∀ line ∈ [lineOf t], kind line :=
        List.forall_mem_singleton.mpr (h (not_lt.mp hlevel))
      rw [if_pos rfl, outcome_printLine_saying]
      exact ⟨rfl, ⟨said ++ [lineOf t], List.forall_mem_append.mpr ⟨hsaid, hline⟩, rfl⟩, hu⟩

theorem hidesDetails_bothSayOnly : HidesDetails (BothSayOnly kind) where
  level := by
    rintro _ _ ⟨⟨said, -, rfl⟩, -⟩
    exact ⟨Level.minimal, rfl⟩
  report := fun level channel t hlevel =>
    saysOnly_report (fun hle => absurd hlevel (not_lt.mpr hle)) channel

section Warnings

variable (hwarning : ∀ t, Text.startsWith "  [WARN] " t = true → kind (lineOf t))
include hwarning

theorem saysOnly_warning {t : Text} (h : Text.startsWith "  [WARN] " t = true) :
    Related (BothSayOnly kind) (warning t) (pure ()) :=
  saysOnly_report (fun _ => hwarning t h) _

/-- All that is said about settings is warnings. -/
theorem saysOnly_resolve (system : Files.System) (values : Fields Json) (keys : List Text) :
    Related (BothSayOnly kind) (Settings.resolve system values keys none)
      (Settings.resolve system values keys none) := by
  have hwarns : Warns (BothSayOnly kind) := fun _ h => (saysOnly_warning hwarning h).saysOnly
  unfold Settings.resolve
  refine (Settings.related_loadProject hwarns system none).bind fun ⟨project, path?⟩ => ?_
  refine (Settings.related_loadGlobal hwarns system _).bind fun global => ?_
  have hdetails : HidesDetails (BothSayOnly kind) := hidesDetails_bothSayOnly
  have hkeys := Settings.related_resolveKeys hdetails values project global keys []
  cases path? with
  | none => exact hkeys.saysOnly
  | some path => exact ((hdetails.report _ _ _ (by decide)).skip hkeys).saysOnly

end Warnings

end Session

/-! ### The tip -/

open Session

/-- The tip on node streams. -/
def nodeStreamTip : Text := Hint.nodeStream.message.plain

/-- The line of the tip. -/
def tipLine : Text := nodeStreamTip ++ [Text.lineFeed]

theorem lineOf_nodeStreamTip : lineOf nodeStreamTip = tipLine :=
  Text.Plain.escapeSurrogates (by decide +kernel)

/-- A text that is written as the line of the tip is the tip. -/
theorem eq_of_lineOf_eq_tipLine {t : Text} (h : lineOf t = tipLine) : t = nodeStreamTip :=
  List.append_cancel_right (Text.eq_of_escapeSurrogates_eq h (by decide +kernel))

/-- What starts like something else is not written as the line of the tip. -/
theorem lineOf_ne_tipLine {start t : Text} (h : Text.startsWith start t = true)
    (hstart : Text.startsWith start nodeStreamTip = false) : lineOf t ≠ tipLine := by
  intro htip
  rw [eq_of_lineOf_eq_tipLine htip, hstart] at h
  cases h

/-- The tip is among what is said up to a failure only if it is said behind it. -/
theorem tipLine_mem_iff {said : List Text} (h : tipLine ∉ said) (message : Text) (tips : Bool) :
    tipLine ∈ said ++ lineOf ("  ERROR: " ++ message) :: (if tips then [tipLine] else []) ↔
      tips = true := by
  have hne : tipLine ≠ lineOf ("  ERROR: " ++ message) :=
    (lineOf_ne_tipLine (rfl : Text.startsWith "  ERROR: " _ = true) (by decide)).symm
  cases tips with
  | false => simp [h, hne]
  | true => simp

/-! ### Failing -/

namespace World

open Arguments

variable {world : World} {parser : Parser} {read : Source → (directory : Json) → Reading}
  {path includePath : Json}

/-- A line that may be said before a reading fails: that of a warning, or of what the parser reports
by default. -/
inductive Preliminary (world : World) (read : Source → (directory : Json) → Reading)
    (path includePath : Json) : Text → Prop
  | warning {t : Text} (h : Text.startsWith "  [WARN] " t = true) :
      Preliminary world read path includePath (lineOf t)
  | report {source : Source} {r : Report} (hsource : world.sourceAt path = .ok source)
      (hr : r ∈ (read source includePath).reports) (hlevel : r.level ≤ 0) :
      Preliminary world read path includePath (lineOf r.text)

/-- What the parser reports by default of a source at a path is not the tip. -/
def ReadsTipless (world : World) (read : Source → (directory : Json) → Reading)
    (path includePath : Json) : Prop :=
  ∀ source, world.sourceAt path = .ok source →
    ∀ r ∈ (read source includePath).reports, r.level ≤ 0 → r.text ≠ nodeStreamTip

/-- What reads node streams reports nothing by default. -/
theorem readsTipless_readStream : world.ReadsTipless Node.readStream path includePath := by
  intro source _ r hr hle
  obtain ⟨count, rfl⟩ := Node.eq_readingReport hr
  have hdebug : Level.debug ≤ 0 := hle
  exact absurd hdebug (by decide)

theorem ReadsTipless.ne_tipLine (h : world.ReadsTipless read path includePath) {line : Text}
    (hline : world.Preliminary read path includePath line) : line ≠ tipLine := by
  cases hline with
  | warning hstart => exact lineOf_ne_tipLine hstart (by decide)
  | report hsource hr hlevel =>
    exact fun htip => h _ hsource _ hr hlevel (eq_of_lineOf_eq_tipLine htip)

/-- A rendering comes to the fault that keeps the comments away and only says preliminary lines. -/
theorem saysOnly_rendering {fault : Fault} (hreads : parser.Reads read)
    (hcomments : world.commentsAt read path includePath = .error fault) (view : View) :
    Related (BothSayOnly (world.Preliminary read path includePath))
      (do
        let source ← world.openSource path
        return some (← rendering view source parser includePath))
      (throw fault) := by
  have hopen : Related (BothSayOnly (world.Preliminary read path includePath))
      (world.openSource path) (attempt (world.sourceAt path)) :=
    related_openSource (saysOnly_warning (fun _ => .warning) rfl) path
  cases hsource : world.sourceAt path with
  | error f =>
    obtain rfl : f = fault :=
      Except.error.inj ((commentsAt_of_error hsource read includePath).symm.trans hcomments)
    rw [hsource] at hopen
    exact hopen.stopped _
  | ok source =>
    have hdetails : HidesDetails (BothSayOnly (world.Preliminary read path includePath)) :=
      hidesDetails_bothSayOnly
    have hread : Related (BothSayOnly (world.Preliminary read path includePath))
        (parser.read source includePath) (attempt (read source includePath).result) := by
      rw [hreads.read_eq]
      exact Related.finish fun r hr =>
        saysOnly_report (fun hlevel => .report hsource hr hlevel) r.channel
    have hcollect := hdetails.collect (hreads.comesTo _ _).retired hread
      (renderingArguments (some parser) includePath)
    change Related _ _ (attempt (read source includePath).comments) at hcollect
    rw [← commentsAt_of_ok hsource, hcomments] at hcollect
    rw [hsource] at hopen
    exact hopen.after ((hcollect.stopped _).stopped _)

/-- A failure is reported, and behind the report the tip is said if no parser was asked for. -/
theorem outcome_reportFault_failure (path setting : Json) (context : Text) (cause : Fault)
    (said : List Text) :
    ∃ s', outcome (reportFault path setting (.failure context cause)) (saying said) =
        (.ok none, s') ∧ s'.output.writes = [] ∧
      s'.errors.writes = said ++ lineOf ("  ERROR: " ++ (Fault.failure context cause).message) ::
        if Settings.isNull setting then [tipLine] else [] := by
  let line : Text := lineOf ("  ERROR: " ++ (Fault.failure context cause).message)
  have hprint : outcome (printError (Fault.failure context cause).message) (saying said) =
      (.ok (), saying (said ++ [line])) := by
    refine outcome_printError_of_ok ?_
    rw [outcome_error_of_passes rfl, outcome_printLine_saying]
  unfold reportFault
  dsimp only
  rw [outcome_bind, hprint]
  dsimp only
  cases Settings.isNull setting with
  | false => exact ⟨_, rfl, rfl, rfl⟩
  | true =>
    have hline : (saying (said ++ [line])).hintLine? (.str "parse.node_stream") (.str "error") [] =
        .ok (some nodeStreamTip) := rfl
    have hhint : outcome (hint "parse.node_stream" "error" []) (saying (said ++ [line])) =
        (.ok (), (saying (said ++ [line] ++ [tipLine])).withShown (.str "parse.node_stream")) := by
      unfold hint
      rw [outcome_hintIn, hline]
      change outcome (printLine nodeStreamTip >>= _) _ = _
      rw [outcome_bind, outcome_printLine_saying, lineOf_nodeStreamTip]
      rfl
    rw [if_pos rfl, outcome_bind, hhint]
    exact ⟨_, rfl, rfl, List.append_assoc said [line] [tipLine]⟩

section Failing

variable {values settings : Fields Json} {request : Request} {context : Text} {cause : Fault}
  (hrequest : requestOf? values = some request)
  (hsettings : (outcome (Settings.resolve world.system values Settings.programKeys none)
    (begun defaultManager)).1 = .ok settings)
  (hparser : world.loadParser (parserSettingOf settings) = .ok parser) (hreads : parser.Reads read)
  (hopen : ¬ world.ClosesErrors (pathOf settings))
  (hfailure : world.commentsAt read (pathOf settings) (includePathOf settings) =
    .error (.failure context cause))

include hsettings hparser hreads hopen hfailure in
/-- Up to its report, a failing rendering only says preliminary lines. -/
theorem exists_renderWith_failure (view : View) :
    ∃ said, (∀ line ∈ said,
        world.Preliminary read (pathOf settings) (includePathOf settings) line) ∧
      outcome (world.renderWith values (rendering view)) (begun defaultManager) =
        outcome (reportFault (pathOf settings) (parserSettingOf settings) (.failure context cause))
          (saying said) := by
  have hresolving : Related
      (BothSayOnly (world.Preliminary read (pathOf settings) (includePathOf settings)))
      (Settings.resolve world.system values Settings.programKeys none) _ :=
    saysOnly_resolve (fun _ => .warning) world.system values Settings.programKeys
  obtain ⟨-, ⟨resolved, hresolved, hafter⟩, -⟩ := hresolving ⟨saysOnly_begun, saysOnly_begun⟩
  have hresolve : outcome (Settings.resolve world.system values Settings.programKeys none)
      (begun defaultManager) = (.ok settings, saying resolved) := Prod.ext hsettings hafter
  have hstart : (saying resolved).SaysOnly
      (world.Preliminary read (pathOf settings) (includePathOf settings)) :=
    ⟨resolved, hresolved, rfl⟩
  obtain ⟨hvalue, ⟨said, hsaid, hend⟩, -⟩ :=
    saysOnly_rendering hreads hfailure view ⟨hstart, hstart⟩
  have hfault : outcome (do
        let source ← world.openSource (pathOf settings)
        return some (← rendering view source parser (includePathOf settings)))
      (saying resolved) = (.error (.failure context cause), saying said) := Prod.ext hvalue hend
  refine ⟨said, hsaid, ?_⟩
  unfold parserSettingOf at hparser
  unfold renderWith
  rw [outcome_bind, hresolve]
  dsimp only
  rw [hparser]
  dsimp only
  rw [outcome_bind, outcome_report_of_hushed (hushed_saying resolved) (by decide)]
  dsimp only
  rw [outcome_tryCatch, opening_of_settings hopen, hfault]
  rfl

include hrequest hsettings hparser hreads hopen hfailure

/-- A run that is obeyed by default and whose reading fails ends in the code of an error. It says
preliminary lines and the failure, with the tip behind it if no parser was asked for. -/
theorem exists_run_failure {argv : List Text} (hargv : Obeyed argv values defaultManager) :
    let run := outcome (world.run argv) World.session
    run.1 = .ok 1 ∧ run.2.output.writes = [] ∧ ∃ said,
      (∀ line ∈ said, world.Preliminary read (pathOf settings) (includePathOf settings) line) ∧
      run.2.errors.writes =
        said ++ lineOf ("  ERROR: " ++ (Fault.failure context cause).message) ::
          if Settings.isNull (parserSettingOf settings) then [tipLine] else [] := by
  intro run
  obtain ⟨said, hsaid, hrender⟩ :=
    exists_renderWith_failure hsettings hparser hreads hopen hfailure request.view
  obtain ⟨s', hreport, houtput, herrors⟩ :=
    outcome_reportFault_failure (pathOf settings) (parserSettingOf settings) context cause said
  have hrun : run = (.ok 1, s') := by
    refine (hargv.outcome_run world).trans ?_
    unfold interruptible
    rw [outcome_tryCatch, command_of_request hrequest, outcome_bind, hrender, hreport]
    rfl
  rw [hrun]
  exact ⟨rfl, houtput, said, hsaid, herrors⟩

/-- If the parser does not say the tip, a failing run says it just if no parser was asked for. -/
theorem tipLine_mem_run_iff {argv : List Text} (hargv : Obeyed argv values defaultManager)
    (htipless : world.ReadsTipless read (pathOf settings) (includePathOf settings)) :
    tipLine ∈ (outcome (world.run argv) World.session).2.errors.writes ↔
      parserSettingOf settings = .null := by
  obtain ⟨-, -, said, hsaid, herrors⟩ :=
    exists_run_failure hrequest hsettings hparser hreads hopen hfailure hargv
  have hnot : tipLine ∉ said := fun hmem => htipless.ne_tipLine (hsaid tipLine hmem) rfl
  rw [herrors, tipLine_mem_iff hnot]
  exact Settings.isNull_eq_true_iff

end Failing

/-! ### Whom the tip is for -/

/-- As many flags for more as for less and none for channels leave a run as it is by default. -/
theorem obeyed_default {argv : List Text} {global : Read} {command : Fields Json}
    (hglobal : readGlobal argv = .ok global)
    (hequal : countOf (global.value "verbose") = countOf (global.value "quiet"))
    (hshow : global.value "show" = .null) (hleft : global.leftOver.isEmpty = false)
    (hcommand : readMain global.leftOver = .ok command) :
    Obeyed argv (merge command global.values) defaultManager := by
  have hspecs : channelSpecs? (global.value "show") = some [] := by
    rw [hshow]
    rfl
  have hverbosity : verbosityOf global = 0 := by
    change countOf (global.value "verbose") - countOf (global.value "quiet") = 0
    omega
  have hmanager : managerOf .help (verbosityOf global) [] .errors = .ok defaultManager := by
    rw [hverbosity]
    exact managerOf_default
  exact .intro hglobal hspecs hmanager hleft hcommand

/-- The setting that notes the built-in parser. -/
def builtInName : Json := .str "built-in node stream"

/-- What is noted of a parser that has been loaded names the built-in one if and only if that stands
in for a setting. -/
theorem parserNote_eq_iff {settings : Fields Json}
    (hparser : world.loadParser (parserSettingOf settings) = .ok parser) :
    parserNote (settingOr settings "parser" builtInName) = parserNote builtInName ↔
      (parserSettingOf settings).isGiven = false := by
  change parserNote (if (parserSettingOf settings).isGiven then parserSettingOf settings
    else builtInName) = _ ↔ _
  unfold loadParser at hparser
  cases hgiven : (parserSettingOf settings).isGiven with
  | false => exact iff_of_true rfl rfl
  | true =>
    rw [hgiven, if_pos rfl] at hparser
    rw [if_pos rfl]
    refine iff_of_false (fun hnote => ?_) Bool.noConfusion
    have hplain : (parserSettingOf settings).plain = builtInName.plain :=
      List.append_cancel_left hnote
    split at hparser
    · rename_i spec hspec
      obtain rfl : spec = "built-in node stream" := by
        rw [hspec] at hplain
        exact hplain
      cases hparser
    · cases hparser

/-- Where the reading of a parser that does nothing but read fails in a run with as many flags for
more as for less and none for channels, and the source is not the descriptor of the error stream,
the run ends in the code of an error and has shown nothing. What it says last is the failure, and
behind it the tip on node streams if and only if no layer of the settings has a value for the
parser; before that it only says warnings and what the parser itself reports. The built-in parser is
loaded, and noted as such, where there is no such value or an empty one; so the tip goes with that
unless the value is there but empty. -/
theorem run_tip (world : World) {argv : List Text} {global : Read}
    {command settings : Fields Json} {request : Request} {parser : Parser} {context : Text}
    {cause : Fault} (hglobal : readGlobal argv = .ok global)
    (hequal : countOf (global.value "verbose") = countOf (global.value "quiet"))
    (hshow : global.value "show" = .null) (hleft : global.leftOver.isEmpty = false)
    (hcommand : readMain global.leftOver = .ok command)
    (hrequest : requestOf? (merge command global.values) = some request)
    (hsettings : (outcome (Settings.resolve world.system (merge command global.values)
      Settings.programKeys none) (begun defaultManager)).1 = .ok settings)
    (hparser : world.loadParser (parserSettingOf settings) = .ok parser)
    {read : Source → (directory : Json) → Reading} (hreads : parser.Reads read)
    (hopen : ¬ world.ClosesErrors (pathOf settings))
    (hfailure : world.commentsAt read (pathOf settings) (includePathOf settings) =
      .error (.failure context cause)) :
    let run := outcome (world.run argv) World.session
    let setting := parserSettingOf settings
    let failure := lineOf ("  ERROR: " ++ (Fault.failure context cause).message)
    let note := parserNote (settingOr settings "parser" builtInName)
    run.1 = .ok 1 ∧ run.2.output.writes = [] ∧
      (∃ said,
        (∀ line ∈ said, world.Preliminary read (pathOf settings) (includePathOf settings) line) ∧
        run.2.errors.writes =
          said ++ failure :: if Settings.isNull setting then [tipLine] else []) ∧
      (setting.isGiven = false →
        (world.catalogue.load Parser.defaultSpec).map world.catalogue.parserOf = .ok parser) ∧
      (note = parserNote builtInName ↔ setting.isGiven = false) ∧
      (world.ReadsTipless read (pathOf settings) (includePathOf settings) →
        (tipLine ∈ run.2.errors.writes ↔ setting = .null) ∧
        ((tipLine ∈ run.2.errors.writes ↔ note = parserNote builtInName) ↔
          setting = .null ∨ setting.isGiven = true)) := by
  intro run setting failure note
  have hargv := obeyed_default hglobal hequal hshow hleft hcommand
  obtain ⟨hcode, houtput, hsaid⟩ :=
    exists_run_failure hrequest hsettings hparser hreads hopen hfailure hargv
  have hnote : note = parserNote builtInName ↔ setting.isGiven = false := parserNote_eq_iff hparser
  have hfallback : setting.isGiven = false →
      (world.catalogue.load Parser.defaultSpec).map world.catalogue.parserOf = .ok parser :=
    fun hnot => (loadParser_of_not_given hnot world).symm.trans hparser
  refine ⟨hcode, houtput, hsaid, hfallback, hnote, fun htipless => ?_⟩
  have htip : tipLine ∈ run.2.errors.writes ↔ setting = .null :=
    tipLine_mem_run_iff hrequest hsettings hparser hreads hopen hfailure hargv htipless
  refine ⟨htip, ?_⟩
  rw [htip, hnote]
  cases hgiven : setting.isGiven with
  | false => simp
  | true =>
    have hnull : setting ≠ .null := fun hnull => by
      rw [hnull] at hgiven
      cases hgiven
    simp [hnull]

/-- A text that is no node stream on the standard input, and the parsers of the program. -/
def noStreamWorld : World := Program.offering
  ⟨⟨.directory [], [], [], []⟩, (Utf8.encode "x\n").toOption.getD [], false, .builtIn⟩

/-- The built-in parser fails there. -/
theorem exists_failure_noStreamWorld {setting : Json} (h : IsBuiltIn setting) :
    ∃ parser cause, noStreamWorld.loadParser setting = .ok parser ∧
      parser.Reads Node.readStream ∧
      noStreamWorld.commentsAt Node.readStream inputName defaultIncludePath =
        .error (.failure "parsing" cause) := by
  have hoffers : noStreamWorld.catalogue.OffersNodeStream :=
    Catalogue.offersNodeStream_program _
  obtain ⟨parser, hload, hreads⟩ := h.exists_parser hoffers
  have hascii : Text.Ascii "x\n" :=
    List.forall_mem_cons.mpr ⟨by decide, List.forall_mem_singleton.mpr (by decide)⟩
  have hsource : noStreamWorld.sourceAt inputName = .ok _ :=
    congrArg Except.ok (Source.ofBytes_of_ascii hascii rfl (streamDisplay (.str "<stdin>")))
  refine ⟨parser, .parse "invalid JSON: Expecting value" (some 1), hload, hreads, ?_⟩
  rw [commentsAt_of_ok hsource]
  rfl

/-- Without a parser among the settings, the tip is said there. -/
theorem run_tip_default :
    let run := outcome (noStreamWorld.run ["list"]) World.session
    run.1 = .ok 1 ∧ tipLine ∈ run.2.errors.writes := by
  let global : Read := globalRead 0 0 [] .null ["list"]
  let command : Fields Json := (readMain global.leftOver).toOption.getD []
  let values : Fields Json := merge command global.values
  let settings : Fields Json := Settings.ofArguments values [] Settings.programKeys
  have hglobal : readGlobal ["list"] = .ok global := rfl
  have hcommand : readMain global.leftOver = .ok command := rfl
  have hrequest : requestOf? values = some .list := rfl
  have hsettings : (outcome (Settings.resolve noStreamWorld.system values Settings.programKeys
      none) (begun defaultManager)).1 = .ok settings := rfl
  have hbuiltIn : IsBuiltIn .null := Or.inl rfl
  have hopen : ¬ noStreamWorld.ClosesErrors inputName := not_closesErrors_str noStreamWorld "-"
  obtain ⟨parser, cause, hload, hreads, hfailure⟩ := exists_failure_noStreamWorld hbuiltIn
  obtain ⟨hcode, -, -, -, -, htip⟩ := run_tip noStreamWorld hglobal rfl rfl rfl hcommand hrequest
    hsettings hload hreads hopen hfailure
  exact ⟨hcode, (htip readsTipless_readStream).1.mpr rfl⟩

/-- An empty specification stands for no parser where parsers are loaded and noted, and for a parser
where the tip is due. -/
theorem run_tip_empty :
    let argv : List Text := ["list", "--parser", []]
    let global : Read := globalRead 0 0 [] .null argv
    (readGlobal argv = .ok global ∧ ∃ command settings, readMain argv = .ok command ∧
      (outcome (Settings.resolve noStreamWorld.system (merge command global.values)
        Settings.programKeys none) (begun defaultManager)).1 = .ok settings ∧
      parserSettingOf settings = .str [] ∧
      noStreamWorld.loadParser (parserSettingOf settings) = noStreamWorld.loadParser .null ∧
      parserNote (settingOr settings "parser" builtInName) = parserNote builtInName) ∧
    (outcome (noStreamWorld.run argv) World.session).1 = .ok 1 ∧
      tipLine ∉ (outcome (noStreamWorld.run argv) World.session).2.errors.writes := by
  intro argv global
  let command : Fields Json := (readMain argv).toOption.getD []
  let values : Fields Json := merge command global.values
  let settings : Fields Json := Settings.ofArguments values [] Settings.programKeys
  have hglobal : readGlobal argv = .ok global := rfl
  have hcommand : readMain argv = .ok command := rfl
  have hrequest : requestOf? values = some .list := rfl
  have hsettings : (outcome (Settings.resolve noStreamWorld.system values Settings.programKeys
      none) (begun defaultManager)).1 = .ok settings := rfl
  have hempty : parserSettingOf settings = .str [] := rfl
  have hnull : Json.isGiven .null = false := rfl
  have hnot : (parserSettingOf settings).isGiven = false := rfl
  have hsame : noStreamWorld.loadParser (parserSettingOf settings) =
      noStreamWorld.loadParser .null :=
    (loadParser_of_not_given hnot _).trans (loadParser_of_not_given hnull _).symm
  have hopen : ¬ noStreamWorld.ClosesErrors inputName := not_closesErrors_str noStreamWorld "-"
  obtain ⟨parser, cause, hload, hreads, hfailure⟩ := exists_failure_noStreamWorld (Or.inl hnot)
  refine ⟨⟨hglobal, command, settings, hcommand, hsettings, hempty, hsame,
    (parserNote_eq_iff hload).mpr hnot⟩, ?_⟩
  have hargv := obeyed_default hglobal rfl rfl rfl hcommand
  obtain ⟨hcode, -⟩ := exists_run_failure hrequest hsettings hload hreads hopen hfailure hargv
  have htip := tipLine_mem_run_iff hrequest hsettings hload hreads hopen hfailure hargv
    readsTipless_readStream
  refine ⟨hcode, fun hmem => ?_⟩
  cases hempty.symm.trans (htip.mp hmem)

end World

end TargetHelp
