import TargetHelp.Proofs.Run.Plan

/-!
# How runs end

A command line that is obeyed leaves a run few ways to end. A view is written as a whole and the run
ends well; or an error is reported and nothing is written; or a fault breaks it off, which leaves
the output empty too, unless it is that of a piece of the view that the output does not take.
-/

set_option autoImplicit false
set_option relaxedAutoImplicit false

namespace TargetHelp.World

open Arguments Session

/-- A run that has reported an error and shown nothing. Whether the report is to be seen is up to
the manager. -/
structure ReportsError (manager : Manager) (run : Except Fault Nat × Session) : Prop where
  value : run.1 = .ok 1
  output : run.2.output.text = []
  said : manager.shows Level.error "error" = .ok true → ∃ message : Text,
    (("  ERROR: " : Text) ++ message ++ [Text.lineFeed]).escapeSurrogates ∈ run.2.errors.writes

/-- A run that shows all of some texts and ends well. -/
structure ShowsAll (texts : List Text) (run : Except Fault Nat × Session) : Prop where
  value : run.1 = .ok 0
  output : run.2.output.text = [Text.lineFeed] ++ texts.flatten ++ [Text.lineFeed]

/-- A run that is broken off by a fault behind some writes to the output. -/
structure BreaksOff (fault : Fault) (writes : List Text) (run : Except Fault Nat × Session) :
    Prop where
  value : run.1 = .error fault
  output : run.2.output.text = writes.flatten

section

variable {world : World} {argv : List Text} {values settings : Fields Json} {manager : Manager}
  {request : Request} {parser : Parser} {read : Source → (directory : Json) → Reading}
  {fault : Fault}
  (hargv : Obeyed argv values manager) (hrequest : requestOf? values = some request)
  (hsettings : Related Echoes (Settings.resolve world.system values Settings.programKeys none)
    (pure settings))
  (hopen : ¬ world.ClosesErrors (pathOf settings))
  (hreads : ∀ parser, world.loadParser (parserSettingOf settings) = .ok parser →
    parser.Reads read)
include hargv hrequest hsettings hopen hreads

theorem reportsError_of_reports {s : Session}
    (hplan : outcome (world.planned request.view read (pathOf settings) (includePathOf settings)
      (parserSettingOf settings)) (begun manager) = (.ok none, s))
    (hreports : Reports (begun manager) s) :
    ReportsError manager (outcome (world.run argv) World.session) := by
  obtain ⟨hvalue, houtput, hwrites⟩ :=
    outcome_run_of_planned hargv hrequest hsettings hopen hreads hplan fun _ h => nomatch h
  refine ⟨hvalue, by rw [houtput, hreports.output]; rfl, fun hshows => ?_⟩
  obtain ⟨message, hmem⟩ := hreports.said hshows
  exact ⟨message, hwrites rfl _ hmem⟩

theorem breaksOff_of_planned {s : Session} {writes : List Text}
    (hplan : outcome (world.planned request.view read (pathOf settings) (includePathOf settings)
      (parserSettingOf settings)) (begun manager) = (.error fault, s))
    (hwrites : s.output.writes = writes) (hinterrupt : fault.isInterrupt = false) :
    BreaksOff fault writes (outcome (world.run argv) World.session) := by
  obtain ⟨hvalue, houtput, -⟩ := outcome_run_of_planned hargv hrequest hsettings hopen hreads hplan
    fun f hf => Except.error.inj hf ▸ hinterrupt
  exact ⟨hvalue, by rw [houtput, Stream.text, hwrites]⟩

/-- A parser that cannot be loaded is reported. -/
theorem run_of_load_error {error : Parser.LoadError}
    (hload : world.loadParser (parserSettingOf settings) = .error (.load error)) :
    ReportsError manager (outcome (world.run argv) World.session) := by
  obtain ⟨s, hplan, hreports⟩ :=
    exists_planned_of_load_error hargv.ready_begun rfl hload
  exact reportsError_of_reports hargv hrequest hsettings hopen hreads hplan hreports

/-- Other faults of the setting for the parser break a run off. -/
theorem run_of_load_fault
    (hload : world.loadParser (parserSettingOf settings) = .error fault)
    (hnot : ∀ error, fault ≠ .load error) (hinterrupt : fault.isInterrupt = false) :
    BreaksOff fault [] (outcome (world.run argv) World.session) :=
  breaksOff_of_planned hargv hrequest hsettings hopen hreads
    (outcome_planned_of_error hload hnot _) rfl hinterrupt

section Loaded

variable (hload : world.loadParser (parserSettingOf settings) = .ok parser)
include hload

/-- A fault that keeps the comments away is reported if it may be. -/
theorem run_of_reported
    (hcomments : world.commentsAt read (pathOf settings) (includePathOf settings) =
      .error fault)
    (hfault : IsReported fault) :
    ReportsError manager (outcome (world.run argv) World.session) := by
  obtain ⟨s, hreport, hreports⟩ := exists_reportFault hargv.ready_begun rfl (pathOf settings)
    (parserSettingOf settings) hfault
  exact reportsError_of_reports hargv hrequest hsettings hopen hreads
    ((outcome_planned_of_comments hload hcomments _ _).trans hreport) hreports

/-- Other faults that keep the comments away break a run off. -/
theorem run_of_not_reported
    (hcomments : world.commentsAt read (pathOf settings) (includePathOf settings) =
      .error fault)
    (hfault : ¬ IsReported fault) (hinterrupt : fault.isInterrupt = false) :
    BreaksOff fault [] (outcome (world.run argv) World.session) := by
  have hplan := outcome_planned_of_comments hload hcomments request.view (begun manager)
  rw [reportFault_of_not_reported _ _ hfault] at hplan
  exact breaksOff_of_planned hargv hrequest hsettings hopen hreads hplan rfl hinterrupt

variable {comments : List Comment}
  (hcomments : world.commentsAt read (pathOf settings) (includePathOf settings) =
    .ok comments)
include hcomments

/-- A view of plain pieces is shown as a whole. -/
theorem run_of_plain (hplain : ∀ t ∈ request.view.pieces comments, t.Plain) :
    ShowsAll (request.view.pieces comments) (outcome (world.run argv) World.session) := by
  have hshow := outcome_showView_of_plain (s := begun manager) rfl hplain
  rw [← hcomments] at hshow
  obtain ⟨hvalue, houtput, -⟩ := outcome_run_of_planned hargv hrequest hsettings hopen hreads
    (outcome_planned_of_shown hload hshow) fun _ h => nomatch h
  refine ⟨hvalue, ?_⟩
  rw [houtput, Stream.text, View.frame]
  simp only [List.nil_append, List.flatten_append, List.flatten_singleton]

/-- A view with a piece that is not plain breaks a run off in front of the first one. -/
theorem run_of_not_plain {before after : List Text} {t : Text}
    (hpieces : request.view.pieces comments = before ++ t :: after)
    (hbefore : ∀ u ∈ before, u.Plain) (ht : ¬ t.Plain) :
    ∃ error, Utf8.encode t = .error error ∧
      BreaksOff (.encoding error) ([Text.lineFeed] :: before)
        (outcome (world.run argv) World.session) := by
  obtain ⟨error, herror, hshow⟩ :=
    outcome_showView_of_not_plain (s := begun manager) rfl hpieces hbefore ht
  have hnot : ¬ IsReported (.encoding error) := not_isReported (fun _ _ h => nomatch h) rfl
  rw [← hcomments] at hshow
  have hplan := outcome_planned_of_fault hload hshow
  rw [reportFault_of_not_reported _ _ hnot] at hplan
  exact ⟨error, herror, breaksOff_of_planned hargv hrequest hsettings hopen hreads hplan rfl rfl⟩

end Loaded

end

end TargetHelp.World
