import TargetHelp.Proofs.Arguments.Values
import TargetHelp.Proofs.Run.Pipeline

/-!
# Command lines that are obeyed

However a command line is written, it is obeyed if its global flags can be read, the channels among
them too, and then a command with all that it needs. The run then is the command on a new session,
under the manager that the flags ask for.
-/

set_option autoImplicit false
set_option relaxedAutoImplicit false

namespace TargetHelp

open Session

namespace Arguments

/-- A command line is obeyed with some values, under a manager. -/
inductive Obeyed (argv : List Text) : (values : Fields Json) → Manager → Prop
  | intro {global : Read} {specs : List Text} {manager : Manager} {command : Fields Json}
      (hglobal : readGlobal argv = .ok global)
      (hspecs : World.channelSpecs? (global.value "show") = some specs)
      (hmanager : managerOf .help (World.verbosityOf global) specs .errors = .ok manager)
      (hleft : global.leftOver.isEmpty = false) (hmain : readMain global.leftOver = .ok command) :
      Obeyed argv (World.merge command global.values) manager

end Arguments

/-- Values that are written stay so with global ones among them. -/
theorem Arguments.Writes.merge {key : Text} {values global : Fields Json}
    (h : Arguments.Writes key values) (hglobal : Arguments.Writes key global) :
    Arguments.Writes key (World.merge values global) := by
  change Arguments.Writes key
    (global.foldl (fun merged entry => World.mergeEntry merged entry.1 entry.2) values)
  induction global generalizing values with
  | nil => exact h
  | cons entry global ih =>
    obtain ⟨hentry, hrest⟩ := hglobal.of_cons
    refine ih ?_ hrest
    dsimp only
    unfold World.mergeEntry
    split
    · exact h.set hentry
    · exact h.set hentry
    · exact h

namespace Arguments.Obeyed

open World

variable {argv : List Text} {values : Fields Json} {manager : Manager}

theorem hasLevels (h : Obeyed argv values manager) :
    manager.HasLevels ∧ manager.destination = .errors ∧ manager.shown = [] := by
  cases h with
  | intro _ _ hmanager => exact hasLevels_of_managerOf hmanager

theorem ready_begun (h : Obeyed argv values manager) :
    (begun manager).Ready .errors Hint.ofProgram :=
  ⟨h.hasLevels.2.1, Stream.takesAll_escaping [], h.hasLevels.1, rfl⟩

/-- A command line that is obeyed comes to its command. -/
theorem outcome_run (h : Obeyed argv values manager) (world : World) :
    outcome (world.run argv) World.session =
      outcome (interruptible (world.command values)) (begun manager) := by
  cases h with
  | @intro global specs _ command hglobal hspecs hmanager hleft hmain =>
    unfold World.run
    rw [hglobal]
    refine (outcome_runGlobal_of_specs world World.session hspecs hmanager).trans ?_
    unfold runCommand
    rw [hleft, if_neg Bool.false_ne_true, hmain]
    rfl

/-- The path of the input is no number, as it comes from the command line. -/
theorem isWritten_file (h : Obeyed argv values manager) :
    IsWritten ((Fields.get? "file" values).getD .null) := by
  cases h with
  | intro hglobal _ _ _ hmain =>
    exact ((writes_file_readMain hmain).merge (writes_file_readGlobal hglobal)).isWritten

/-- So without files of settings, reading the input leaves the error stream open. -/
theorem not_closesErrors (h : Obeyed argv values manager) (world : World) :
    ¬ world.ClosesErrors (pathOf values) := by
  rintro ⟨hdescriptor, -⟩
  unfold pathOf settingOr at hdescriptor
  have hwritten := h.isWritten_file
  generalize (Fields.get? "file" values).getD .null = path at hdescriptor hwritten
  dsimp only at hdescriptor
  split at hdescriptor
  · cases hwritten <;> cases hdescriptor
  · cases hdescriptor

/-- A request is obeyed wherever sound global flags are mixed into it. -/
theorem exists_of_interleaving {flags : List GlobalFlag} {request : Request}
    {before after : List SourceOption} (hflags : ∀ flag ∈ flags, flag.IsSound)
    (hrequest : request.IsSound) (hbefore : ∀ option ∈ before, IsWord option.path)
    (hafter : ∀ option ∈ after, IsWord option.path)
    (hargv : Interleaving (flags.map GlobalFlag.written) (request.arguments before after) argv) :
    let values := request.allValues (before ++ after) (flags.countP GlobalFlag.isVerbose)
      (flags.countP GlobalFlag.isQuiet) ((GlobalFlag.specs flags).map .str)
      (((GlobalFlag.lastPath? flags).map GlobalFlag.stored).getD .null)
      (request.arguments before after)
    requestOf? values = some request ∧ ∃ manager, Obeyed argv values manager := by
  intro values
  obtain ⟨hspecs, hreading⟩ :=
    GlobalFlag.reading_of_isSound hflags (request.arguments before after)
  have hglobal := GlobalFlag.readGlobal_interleaving
    (request.isLeftOver_arguments hrequest hbefore hafter) hargv
  rw [hreading] at hglobal
  refine ⟨request.requestOf?_allValues _ _ _ _ _ _, ?_⟩
  obtain ⟨manager, hmanager⟩ := exists_managerOf .help (verbosityOf (globalRead
    (flags.countP GlobalFlag.isVerbose) (flags.countP GlobalFlag.isQuiet)
    ((GlobalFlag.specs flags).map .str)
    (((GlobalFlag.lastPath? flags).map GlobalFlag.stored).getD .null)
    (request.arguments before after))) hspecs .errors
  exact ⟨manager, .intro hglobal (channelSpecs?_globalRead _ _ _ _ _) hmanager rfl
    (request.readMain_arguments hrequest hbefore hafter)⟩

end Arguments.Obeyed

end TargetHelp
