import TargetHelp.Proofs.Arguments.GlobalFlags
import TargetHelp.Proofs.Render.Collect
import TargetHelp.Proofs.Settings.Loading
import TargetHelp.Run

/-!
# Commands agree up to diagnostics

What a command keeps, it keeps step by step: a relation of sessions that bears what the program
tells and writes on the way (`Session.Bears`) is kept by the command as a whole, and arguments that
differ in the flags of diagnostics alone make no difference to it.

So every step of the program agrees with itself from sessions that differ in their diagnostics
alone. For this no report, warning or hint of the program may fail where it is shown, so all its
hints must take their arguments; the parser must agree with itself too, and the error stream must
not be closed on the way, as it is if its own descriptor is read.
-/

set_option autoImplicit false
set_option relaxedAutoImplicit false

namespace TargetHelp

open Session

variable {d : Destination} {registry : Hint.Registry}

/-! ### Arguments -/

namespace Arguments

/-- The keys of the flags of diagnostics. -/
def diagnosticKeys : List Text := ["verbose", "quiet", "show"]

/-- The same values but for the flags of diagnostics. -/
def SameRequest (a b : Fields Json) : Prop :=
  ∀ key ∉ diagnosticKeys, Fields.get? key a = Fields.get? key b

end Arguments

namespace World

open Arguments

/-- One global value put among those of a command, unless it has one of its own. -/
def mergeEntry (merged : Fields Json) (key : Text) (value : Json) : Fields Json :=
  match Fields.get? key merged with
  | none | some .null => Fields.set key value merged
  | some _ => merged

theorem get?_mergeEntry_of_ne {key other : Text} (h : other ≠ key) (merged : Fields Json)
    (value : Json) :
    Fields.get? other (mergeEntry merged key value) = Fields.get? other merged := by
  unfold mergeEntry
  split
  · exact Fields.get?_set_of_ne h value merged
  · exact Fields.get?_set_of_ne h value merged
  · rfl

theorem get?_mergeEntry_self {a b : Fields Json} {key : Text}
    (h : Fields.get? key a = Fields.get? key b) (value : Json) :
    Fields.get? key (mergeEntry a key value) = Fields.get? key (mergeEntry b key value) := by
  unfold mergeEntry
  rw [h]
  split
  · rw [Fields.get?_set_self, Fields.get?_set_self]
  · rw [Fields.get?_set_self, Fields.get?_set_self]
  · exact h

theorem sameRequest_mergeEntry {a b : Fields Json} (h : SameRequest a b) {key : Text}
    {value value' : Json} (hvalue : key ∈ diagnosticKeys ∨ value = value') :
    SameRequest (mergeEntry a key value) (mergeEntry b key value') := by
  intro other hother
  by_cases heq : other = key
  · subst heq
    rcases hvalue with hdiagnostic | rfl
    · exact absurd hdiagnostic hother
    · exact get?_mergeEntry_self (h other hother) value
  · rw [get?_mergeEntry_of_ne heq, get?_mergeEntry_of_ne heq]
    exact h other hother

/-- The flags of diagnostics do not reach the other values of a command. -/
theorem sameRequest_merge (arguments : Fields Json) (verbose quiet verbose' quiet' : Int)
    (channels channels' : List Json) (config : Json) (leftOver leftOver' : List Text) :
    SameRequest (merge arguments (globalRead verbose quiet channels config leftOver).values)
      (merge arguments (globalRead verbose' quiet' channels' config leftOver').values) := by
  change SameRequest (mergeEntry (mergeEntry (mergeEntry (mergeEntry arguments _ _) _ _) _ _) _ _)
    (mergeEntry (mergeEntry (mergeEntry (mergeEntry arguments _ _) _ _) _ _) _ _)
  refine sameRequest_mergeEntry ?_ (Or.inr rfl)
  refine sameRequest_mergeEntry ?_ (Or.inl (by decide))
  refine sameRequest_mergeEntry ?_ (Or.inl (by decide))
  refine sameRequest_mergeEntry (fun _ _ => rfl) (Or.inl (by decide))

end World

/-! ### What commands keep -/

namespace World

/-- The path that settings lead to. -/
def pathOf (settings : Fields Json) : Json := settingOr settings "file" inputName

/-- The directory for includes that settings lead to. -/
def includePathOf (settings : Fields Json) : Json :=
  settingOr settings "include_dir" defaultIncludePath

/-- The setting for the parser, null if there is none. -/
def parserSettingOf (settings : Fields Json) : Json := (Fields.get? "parser" settings).getD .null

/-- Reading from a path ends with the error stream closed: the path is its descriptor, which is
open. -/
def ClosesErrors (world : World) (path : Json) : Prop :=
  Files.descriptor? path = some errorDescriptor ∧
    ∃ content, world.system.opened path = .ok content

/-- A path that is a text closes nothing. -/
theorem not_closesErrors_str (world : World) (path : Text) : ¬ world.ClosesErrors (.str path) :=
  fun h => nomatch h.1

/-- What has been opened is rendered just as it is if the error stream stays open. -/
theorem opening_eq {world : World} {path : Json} (h : ¬ world.ClosesErrors path) {α : Type}
    (step : Source → SessionM α) :
    (do
      let source ← world.openSource path
      closing path (step source)) = world.openSource path >>= step := by
  by_cases hdescriptor : Files.descriptor? path = some errorDescriptor
  · -- The descriptor is not open, so nothing is rendered.
    have hinput : ¬ isInput path = true := by
      cases path <;> first | exact Bool.false_ne_true | cases hdescriptor
    unfold openSource
    rw [if_neg hinput]
    cases hopened : world.system.opened path with
    | error f => rfl
    | ok content => exact absurd ⟨hdescriptor, content, hopened⟩ h
  · have hclosing (source : Source) : closing path (step source) = step source :=
      if_neg hdescriptor
    simp only [hclosing]

/-- What settings lead to is opened and rendered just as it is if the error stream stays open. -/
theorem opening_of_settings {world : World} {settings : Fields Json}
    (h : ¬ world.ClosesErrors (pathOf settings)) (view : View) (parser : Parser) :
    (do
      let source ← world.openSource (settingOr settings "file" inputName)
      closing (settingOr settings "file" inputName) do
        return some (← rendering view source parser
          (settingOr settings "include_dir" defaultIncludePath))) =
      (do
        let source ← world.openSource (pathOf settings)
        return some (← rendering view source parser (includePathOf settings))) :=
  opening_eq h _

end World

namespace Session

/-- A relation of sessions bears what commands do: sessions stay related whatever the program tells,
writes to the output or renders with a parser that is allowed. -/
structure Bears (R : Session → Session → Prop) (allowed : Parser → Prop) : Prop where
  report : ∀ (level : Int) (channel t : Text), channel ≠ "trace" →
    Related R (report level channel t) (report level channel t)
  printError : ∀ message, Related R (printError message) (printError message)
  programHint : ∀ id context, Related R (hint id context []) (hint id context [])
  noMatchHint : ∀ target context,
    Related R (hint "describe.no_match" context [("target", .str target)])
      (hint "describe.no_match" context [("target", .str target)])
  writeOutput : ∀ t, Related R (writeOutput t) (writeOutput t)
  render : ∀ view source parser includePath, allowed parser →
    Related R (render view source (some parser) includePath)
      (render view source (some parser) includePath)

/-- From related sessions, a run with some values loads no parser that is not allowed, and closes
the error stream only if the sessions stay related then. -/
def Allows (R : Session → Session → Prop) (allowed : Parser → Prop) (world : World)
    (values : Fields Json) : Prop :=
  ∀ s t settings, R s t →
    (outcome (Settings.resolve world.system values Settings.programKeys none) s).1 =
      .ok settings →
    (world.ClosesErrors (World.pathOf settings) →
      Related R World.closeErrors World.closeErrors) ∧
    ∀ parser, world.loadParser (World.parserSettingOf settings) = .ok parser → allowed parser

namespace Bears

open Arguments Settings

variable {R : Session → Session → Prop} {allowed : Parser → Prop} (hR : Bears R allowed)
include hR

/-! ### Settings -/

theorem resolveKeys {a b : Fields Json} (h : SameRequest a b) (project global : Fields Json)
    {keys : List Text} (hkeys : ∀ key ∈ keys, underscored key ∉ diagnosticKeys)
    (resolved : Fields Json) :
    Related R (resolveKeys a project global resolved keys)
      (resolveKeys b project global resolved keys) := by
  induction keys generalizing resolved with
  | nil => exact Related.pure _
  | cons key keys ih =>
    have hrest := ih fun other hm => hkeys other (List.mem_cons_of_mem key hm)
    have hvalue : value? a project global (underscored key) =
        value? b project global (underscored key) := by
      unfold value?
      rw [h _ (hkeys key List.mem_cons_self)]
    unfold Settings.resolveKeys
    dsimp only
    rw [hvalue]
    cases value? b project global (underscored key) with
    | none => exact hrest _
    | some found => exact (hR.report _ _ _ (by decide)).bind fun _ => hrest _

theorem resolve (system : Files.System) {a b : Fields Json} (h : SameRequest a b)
    {keys : List Text} (hkeys : ∀ key ∈ keys, underscored key ∉ diagnosticKeys)
    (start : Option Text) :
    Related R (resolve system a keys start) (resolve system b keys start) := by
  have hconfig : Fields.get? "config" a = Fields.get? "config" b := h "config" (by decide)
  unfold Settings.resolve
  rw [hconfig]
  have hwarns : Warns R := Reports.warns hR.report
  refine (related_loadProject hwarns system start).bind fun ⟨project, path?⟩ => ?_
  refine (related_load hwarns system _).bind fun global => ?_
  cases path? with
  | none => exact hR.resolveKeys h project global hkeys []
  | some path =>
    exact (hR.report _ _ _ (by decide)).bind fun _ => hR.resolveKeys h project global hkeys []

/-! ### Renderings -/

theorem openSource (world : World) (path : Json) :
    Related R (world.openSource path) (world.openSource path) := by
  unfold World.openSource
  split
  · split
    · exact (hR.report _ _ _ (by decide)).bind fun _ => Related.pure _
    · exact Related.pure _
  · exact (Related.attempt _).bind fun _ => Related.pure _

omit hR in
/-- What is read from is closed in related sessions alike. -/
theorem closing {path : Json} (hcloses : Related R World.closeErrors World.closeErrors) {α : Type}
    {step : SessionM α} (h : Related R step step) :
    Related R (World.closing path step) (World.closing path step) := by
  unfold World.closing
  split
  · refine Related.bind (h.tryCatch fun f => ?_) fun _ => ?_
    · exact hcloses.bind fun _ => Related.throw f
    · exact hcloses.bind fun _ => Related.pure _
  · exact h

theorem reportFault (path parserSetting : Json) (fault : Fault) :
    Related R (World.reportFault path parserSetting fault)
      (World.reportFault path parserSetting fault) := by
  unfold World.reportFault
  split
  · refine (hR.printError _).bind fun _ => ?_
    split
    · exact (hR.programHint _ _).bind fun _ => Related.pure _
    · exact Related.pure _
  · split
    · exact (hR.printError _).bind fun _ => Related.pure _
    · exact Related.throw _

variable {world : World} {a b : Fields Json} (h : SameRequest a b)
  (hallowed : Allows R allowed world a)
include h hallowed

theorem renderWith (view : View) :
    Related R (world.renderWith a (World.rendering view))
      (world.renderWith b (World.rendering view)) := by
  have hkeys : ∀ key ∈ programKeys, underscored key ∉ diagnosticKeys := by decide
  refine (hR.resolve world.system h hkeys none).bind_of_ok fun s t settings hst hsettings => ?_
  dsimp only
  split
  · exact (hR.printError _).bind fun _ => Related.pure _
  · exact Related.throw _
  · rename_i parser hload
    obtain ⟨hcloses, hloads⟩ := hallowed s t settings hst hsettings
    have hparser : allowed parser := hloads parser hload
    refine (hR.report _ _ _ (by decide)).bind fun _ => ?_
    refine Related.tryCatch ?_ fun fault => hR.reportFault _ _ fault
    have hrender (source : Source) (includePath : Json) :
        Related R (do return some (← World.rendering view source parser includePath))
          (do return some (← World.rendering view source parser includePath)) :=
      (hR.render view source parser includePath hparser).bind fun _ => Related.pure _
    by_cases hpath : world.ClosesErrors (World.pathOf settings)
    · exact (hR.openSource world _).bind fun source =>
        Bears.closing (hcloses hpath) (hrender source _)
    · rw [World.opening_of_settings hpath]
      exact (hR.openSource world _).bind fun source => hrender source _

/-! ### Commands -/

theorem list : Related R (world.list a) (world.list b) := by
  refine (hR.renderWith h hallowed .short).bind fun count? => ?_
  cases count? with
  | none => exact Related.pure _
  | some count => exact (hR.programHint _ _).bind fun _ => Related.pure _

theorem describe : Related R (world.describe a) (world.describe b) := by
  have htarget : Fields.get? targetKey a = Fields.get? targetKey b := h targetKey (by decide)
  unfold World.describe
  rw [htarget]
  split
  · refine (hR.renderWith h hallowed (.target _)).bind fun count? => ?_
    cases count? with
    | none => exact Related.pure _
    | some count =>
      dsimp only
      split
      · exact (hR.noMatchHint _ _).bind fun _ => Related.pure _
      · exact Related.pure _
  · refine (hR.renderWith h hallowed .long).bind fun count? => ?_
    cases count? with
    | none => exact Related.pure _
    | some count =>
      dsimp only
      split
      · exact (hR.programHint _ _).bind fun _ => Related.pure _
      · exact Related.pure _

theorem command : Related R (world.command a) (world.command b) := by
  have hcommand : Fields.get? commandKey a = Fields.get? commandKey b := h commandKey (by decide)
  unfold World.command
  rw [hcommand]
  split
  · split
    · exact hR.list h hallowed
    · exact hR.describe h hallowed
  · exact (hR.writeOutput _).bind fun _ => Related.pure _

end Bears

end Session

/-! ### Hints -/

namespace Hint

/-- The program's hints can be shown as they are. -/
theorem fits_of_mem {hint : Hint} (h : hint ∈ ofProgram) : hint.Fits [] := by
  unfold ofProgram at h
  simp only [List.mem_cons, List.not_mem_nil, or_false] at h
  rcases h with rfl | rfl | rfl | rfl
  · exact ⟨⟨1, rfl⟩, _, _, rfl, rfl⟩
  · exact ⟨⟨0, rfl⟩, _, _, rfl, rfl⟩
  · exact ⟨⟨0, rfl⟩, _, _, rfl, rfl⟩
  · exact ⟨⟨0, rfl⟩, _, _, rfl, rfl⟩

/-- The hint about a target without comments names any target. -/
theorem fits_noMatch (target : Text) : noMatch.Fits [("target", .str target)] :=
  ⟨⟨0, rfl⟩, _, "  Note: No help found for target '" ++ target ++ "' (names are case-sensitive).",
    rfl, rfl⟩

end Hint

theorem Session.agree_programHint (id context : Text) :
    Agree d Hint.ofProgram (hint id context []) (pure ()) :=
  agree_hint fun _ h => Hint.fits_of_mem (List.mem_of_find?_eq_some h)

theorem Session.agree_noMatchHint (target context : Text) :
    Agree d Hint.ofProgram (hint "describe.no_match" context [("target", .str target)])
      (pure ()) := by
  refine agree_hint fun found h => ?_
  obtain rfl : Hint.noMatch = found := Option.some.inj h
  exact Hint.fits_noMatch target

/-- A parser that minds no manager: from sessions that differ in their diagnostics alone it comes to
the same and leaves such sessions, and it puts no manager in charge. -/
structure Parser.IsSteady (parser : Parser) : Prop where
  retired : ∀ source includePath, Keeps Session.retired (parser.read source includePath)
  agree : ∀ source includePath, Agree .errors Hint.ofProgram (parser.read source includePath)
    (parser.read source includePath)

namespace Parser.Reads

variable {parser : Parser} {read : Source → (directory : Json) → Reading} (h : parser.Reads read)
include h

theorem read_eq (source : Source) (includePath : Json) :
    parser.read source includePath = finish (read source includePath) :=
  congrFun (congrFun h source) includePath

theorem comesTo (source : Source) (includePath : Json) :
    ComesTo (parser.read source includePath) (read source includePath).result := by
  rw [h.read_eq]
  exact comesTo_finish _

/-- A parser that does nothing but read is steady. -/
theorem isSteady : parser.IsSteady where
  retired := fun source includePath => (h.comesTo source includePath).retired
  agree := fun source includePath =>
    have hagree := (h.comesTo source includePath).agree .errors Hint.ofProgram
    hagree.trans hagree.symm

end Parser.Reads

/-- A rendering with a steady parser agrees with itself. -/
theorem Parser.IsSteady.agree_render {parser : Parser} (h : parser.IsSteady) (view : View)
    (source : Source) (includePath : Json) :
    Agree .errors Hint.ofProgram (render view source (some parser) includePath)
      (render view source (some parser) includePath) := by
  have hreport (level : Int) (channel t : Text) :
      Agree .errors Hint.ofProgram (report level channel t) (report level channel t) :=
    Agree.of_skipped (agree_report level channel t)
  have huntraced : Agree .errors Hint.ofProgram (collectUntraced parser source includePath)
      (collectUntraced parser source includePath) := by
    refine Agree.bind ((h.agree source includePath).tryCatch fun f => Agree.throw _) fun _ => ?_
    exact (hreport _ _ _).bind fun _ => Agree.pure _
  have htraced : Agree .errors Hint.ofProgram
      (collect (renderingArguments (some parser) includePath) parser source includePath)
      (collectUntraced parser source includePath) :=
    hidesDetails_alike.traced _ _
      (keeps_collectUntraced hidesDiagnostics_retired (h.retired source includePath)) huntraced
  refine (htraced.trans htraced.symm).bind fun comments => ?_
  exact (Related.forM agree_writeOutput).bind fun _ => (hreport _ _ _).bind fun _ => Agree.pure _

theorem Session.bears_alike : Bears (Alike .errors Hint.ofProgram) Parser.IsSteady where
  report := reports_alike
  printError := fun _ => Agree.of_skipped (agree_printError _)
  programHint := fun _ _ => Agree.of_skipped (agree_programHint _ _)
  noMatchHint := fun _ _ => Agree.of_skipped (agree_noMatchHint _ _)
  writeOutput := agree_writeOutput
  render := fun view source _ includePath hparser => hparser.agree_render view source includePath

/-! ### Command lines -/

namespace World

open Arguments

variable (world : World)

theorem agree_interruptible {m n : SessionM Nat} (h : Agree .errors registry m n) :
    Agree .errors registry (interruptible m) (interruptible n) := by
  refine h.tryCatch fun f => ?_
  split
  · exact (Agree.of_skipped (agree_writeErrors _)).bind fun _ => Agree.pure _
  · exact Agree.throw _

theorem agree_exit (e : Exit) : Agree .errors registry (exit e) (exit e) := by
  have herrors : Agree .errors registry
      (do if !e.errors.isEmpty then writeErrors e.errors
          throw (.exit e.code) : SessionM Nat)
      (do if !e.errors.isEmpty then writeErrors e.errors
          throw (.exit e.code) : SessionM Nat) := by
    split
    · exact (Agree.of_skipped (agree_writeErrors _)).bind fun _ => Agree.throw _
    · exact Agree.throw _
  unfold exit
  by_cases houtput : (!e.output.isEmpty) = true
  · simp only [if_pos houtput]
    exact (agree_writeOutput _).bind fun _ => herrors
  · simp only [if_neg houtput]
    exact herrors

/-- A command line is obeyed alike with all flags of diagnostics, if the command loads a steady
parser and leaves the error stream open. -/
theorem agree_runCommand (verbose quiet verbose' quiet' : Int) (channels channels' : List Json)
    (config : Json) (leftOver : List Text)
    (hallowed : ∀ command, readMain leftOver = .ok command →
      Allows (Alike .errors Hint.ofProgram) Parser.IsSteady world
        (merge command (globalRead verbose quiet channels config leftOver).values)) :
    Agree .errors Hint.ofProgram
      (world.runCommand (globalRead verbose quiet channels config leftOver).values leftOver)
      (world.runCommand (globalRead verbose' quiet' channels' config leftOver).values
        leftOver) := by
  unfold runCommand
  split
  · exact (agree_writeOutput _).bind fun _ => Agree.pure _
  · cases hmain : readMain leftOver with
    | error e => exact agree_exit e
    | ok command =>
      exact agree_interruptible
        (bears_alike.command (sameRequest_merge _ _ _ _ _ _ _ _ _ _) (hallowed command hmain))

end World

end TargetHelp
