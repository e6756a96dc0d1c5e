import TargetHelp.Proofs.Arguments.Request
import TargetHelp.Proofs.Run.Agreement
import TargetHelp.Proofs.Run.Supply
import TargetHelp.Proofs.Session.Thresholds
import TargetHelp.Program

/-!
# What is told makes no difference to what is done

Whatever the flags of diagnostics are, they put a manager of levels in charge and leave the request
behind them as it is. The commands agree up to diagnostics, so a run comes to the same end with any
of these flags and writes the same to the output.
-/

set_option autoImplicit false
set_option relaxedAutoImplicit false

namespace TargetHelp

open Session

namespace Session

/-- A manager for some specifications of channels has levels for thresholds. -/
theorem hasLevels_of_managerOf {channels : Channel.Table} {verbosity : Int} {specs : List Text}
    {destination : Destination} {manager : Manager}
    (h : managerOf channels (.level verbosity) specs destination = .ok manager) :
    manager.HasLevels ∧ manager.destination = destination ∧ manager.shown = [] := by
  obtain ⟨overrides, -, rfl⟩ := managerOf_eq_ok h
  refine ⟨⟨⟨verbosity, rfl⟩, fun entry hentry => ?_⟩, rfl, rfl⟩
  obtain ⟨override, -, rfl⟩ := List.mem_map.mp hentry
  exact ⟨override.2, rfl⟩

end Session

/-- A command line that is read to its end as a command with some values. -/
inductive Arguments.Commands (argv : List Text) : (values : Fields Json) → Prop
  | intro {global : Read} {command : Fields Json} (hglobal : readGlobal argv = .ok global)
      (hmain : readMain global.leftOver = .ok command) :
      Commands argv (World.merge command global.values)

namespace World

open Arguments

theorem channelSpecs?_globalRead (verbose quiet : Int) (specs : List Text) (config : Json)
    (leftOver : List Text) :
    channelSpecs? ((globalRead verbose quiet (specs.map .str) config leftOver).value "show") =
      some specs := by
  have htexts : (specs.map Json.str).mapM Json.text? = some specs := by
    induction specs with
    | nil => rfl
    | cons spec specs ih =>
      rw [List.map_cons, List.mapM_cons, ih]
      rfl
  cases specs with
  | nil => rfl
  | cons spec specs => exact htexts

/-- A new session with a manager in charge. -/
def begun (manager : Manager) : Session :=
  { World.session with channels := .help }.withManager manager

/-- A run comes to its command line with the manager for its global flags in charge. -/
theorem outcome_runGlobal_of_specs (world : World) (s : Session) {global : Read}
    {specs : List Text} {manager : Manager}
    (hspecs : channelSpecs? (global.value "show") = some specs)
    (hmanager : managerOf .help (verbosityOf global) specs .errors = .ok manager) :
    outcome (world.runGlobal global) s =
      outcome (world.runCommand global.values global.leftOver)
        ({ s with channels := .help }.withManager manager) := by
  have hstart : outcome (do
      start (verbosityOf global) specs .errors
      return true) { s with channels := .help } =
        (.ok true, { s with channels := .help }.withManager manager) := by
    rw [outcome_bind, outcome_start hmanager]
    rfl
  unfold runGlobal
  rw [hspecs, outcome_bind]
  change outcome (tryCatch _ _ >>= _) { s with channels := .help } = _
  rw [outcome_bind, outcome_tryCatch, hstart]
  rfl

theorem outcome_runGlobal (world : World) (s : Session) {verbose quiet : Int} {specs : List Text}
    {config : Json} {leftOver : List Text} {manager : Manager}
    (hmanager : managerOf .help
      (verbosityOf (globalRead verbose quiet (specs.map .str) config leftOver)) specs .errors =
        .ok manager) :
    outcome (world.runGlobal (globalRead verbose quiet (specs.map .str) config leftOver)) s =
      outcome (world.runCommand
        (globalRead verbose quiet (specs.map .str) config leftOver).values leftOver)
        ({ s with channels := .help }.withManager manager) :=
  outcome_runGlobal_of_specs world s (channelSpecs?_globalRead _ _ _ _ _) hmanager

/-- With well-formed specifications a run comes to its command line, with a manager of levels. -/
theorem exists_runCommand (world : World) {s : Session} (hhints : s.hints = Hint.ofProgram)
    (herrors : s.errors.TakesAll) {verbose quiet : Int} {specs : List Text} {config : Json}
    {leftOver : List Text} (hspecs : WellFormed specs) :
    ∃ begun : Session, begun.Ready .errors Hint.ofProgram ∧ begun.output = s.output ∧
      outcome (world.runGlobal (globalRead verbose quiet (specs.map .str) config leftOver)) s =
        outcome (world.runCommand
          (globalRead verbose quiet (specs.map .str) config leftOver).values leftOver) begun := by
  obtain ⟨manager, hmanager⟩ := exists_managerOf .help
    (verbosityOf (globalRead verbose quiet (specs.map .str) config leftOver)) hspecs .errors
  obtain ⟨hlevels, hdestination, -⟩ := hasLevels_of_managerOf hmanager
  let begun : Session := { s with channels := .help }.withManager manager
  have hready : begun.Ready .errors Hint.ofProgram := ⟨hdestination, herrors, hlevels, hhints⟩
  exact ⟨begun, hready, rfl, outcome_runGlobal world s hmanager⟩

/-- A run with some arguments comes to its command with these settings, wherever its diagnostics
can be written. -/
def SettlesOn (world : World) (argv : List Text) (settings : Fields Json) : Prop :=
  ∃ values s, Commands argv values ∧ s.Ready .errors Hint.ofProgram ∧
    (outcome (Settings.resolve world.system values Settings.programKeys none) s).1 = .ok settings

/-- The program's channels can be listed. -/
theorem exists_listing_help : ∃ t, Channel.Table.help.listing = .ok t := by
  have hlines : ∀ names : List Text, ∃ lines, names.mapM Channel.Table.help.line = .ok lines := by
    intro names
    induction names with
    | nil => exact ⟨[], rfl⟩
    | cons name names ih =>
      obtain ⟨lines, hlines⟩ := ih
      rw [List.mapM_cons, hlines]
      exact ⟨_, rfl⟩
  obtain ⟨lines, hlines⟩ := hlines (Text.sortedDistinct Channel.Table.help.names)
  unfold Channel.Table.listing
  rw [hlines]
  exact ⟨_, rfl⟩

/-- A world whose one parser, `m:p`, makes a reply. -/
def replying (reply : Reply) (system : Files.System) : World where
  system := system
  input := []
  isTerminal := false
  catalogue := {
    types := [{ name := "function", members := [("__call__", .value .null)] }]
    modules := [{ name := "m", members := .ok [("p", .function {
      home := "m"
      name := "p"
      parameters := .ofText "source,include_path"
      reply })] }] }

end World

end TargetHelp
