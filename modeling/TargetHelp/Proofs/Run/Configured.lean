import TargetHelp.Proofs.Run.WholeView

/-!
# Runs with files of settings

Files of settings may give their keys values of any type. A parser that is not found and a source
that cannot be opened are reported, but not every value gets that far: a parser is named by a text,
and a source by a text or an integer that may be a descriptor. Any other value breaks the run off
before anything is written, and so does what the code of a module or a look-up raises, unless it
says that there is no such module or member.
-/

set_option autoImplicit false
set_option relaxedAutoImplicit false

namespace TargetHelp

open Session

/-! ### Settings for parsers -/

namespace Catalogue

/-- A specification names no module relative to another, and none with more parts in its name than
the stack has room for. -/
def Fits (catalogue : Catalogue) (written : Text) : Prop :=
  ∀ spec : Parser.Spec, spec.IsWritten written →
    ¬ spec.IsRelative ∧ catalogue.HasRoom spec.moduleName

variable {catalogue : Catalogue} {written : Text}

/-- A parser that is found, or said not to be found. -/
def Answers (catalogue : Catalogue) (written : Text) : Prop :=
  (∃ thing, catalogue.load written = .ok thing) ∨
    ∃ error, catalogue.load written = .error (.load error)

/-- Where code raises nothing of its own, it is the specification alone that decides whether there
is an answer. -/
theorem IsTame.answers_iff (h : catalogue.IsTame) :
    catalogue.Answers written ↔ catalogue.Fits written := by
  obtain ⟨-, hfound, hrelative, hdeep⟩ := load_callable_or_refused catalogue written
  have hnone {fault : Fault} (hload : catalogue.load written = .error fault)
      (hother : ∀ error, fault ≠ .load error) : ¬ catalogue.Answers written := by
    rintro (⟨thing, hthing⟩ | ⟨error, herror⟩)
    · cases hload.symm.trans hthing
    · exact hother error (Except.error.inj (hload.symm.trans herror))
  constructor
  · intro hanswers spec hspec
    by_contra hnot
    by_cases hleading : spec.IsRelative
    · exact hnone (hrelative spec hspec hleading) (fun _ hload => nomatch hload) hanswers
    · have hroom : ¬ catalogue.HasRoom spec.moduleName := fun hroom => hnot ⟨hleading, hroom⟩
      exact hnone (hdeep spec hspec hleading hroom) (fun _ hload => nomatch hload) hanswers
  · intro hfits
    exact (hfound h hfits).imp_left fun ⟨thing, hthing, _⟩ => ⟨thing, hthing⟩

end Catalogue

namespace World

open Arguments

variable {world : World} {setting path : Json}

/-- A setting for the parser that names one, to be found or not: none at all, which stands for the
built-in one, or a text. -/
inductive IsParserSetting (world : World) : Json → Prop
  | default {setting : Json} (h : setting.isGiven = false)
      (hfits : world.catalogue.Fits Parser.defaultSpec) : IsParserSetting world setting
  | named {written : Text} (h : (Json.str written).isGiven = true)
      (hfits : world.catalogue.Fits written) : IsParserSetting world (.str written)

/-- The parser of a setting is found, or said not to be found. -/
def Answers (world : World) (setting : Json) : Prop :=
  (∃ parser, world.loadParser setting = .ok parser) ∨
    ∃ error, world.loadParser setting = .error (.load error)

/-- Any other setting for the parser ends in a fault that is not reported. -/
theorem exists_loadParser_of_not_answers (h : ¬ world.Answers setting) :
    ∃ f, world.loadParser setting = .error f ∧ ∀ error, f ≠ .load error := by
  cases hload : world.loadParser setting with
  | ok parser => exact absurd (Or.inl ⟨parser, hload⟩) h
  | error f => exact ⟨f, rfl, fun error hf => h (Or.inr ⟨error, hf ▸ hload⟩)⟩

/-- Where the code of modules and look-ups raises nothing of its own, the settings with an answer
are those that name a parser. -/
theorem answers_iff (htame : world.catalogue.IsTame) :
    world.Answers setting ↔ world.IsParserSetting setting := by
  have hload (written : Text) :
      ((∃ parser, (world.catalogue.load written).map world.catalogue.parserOf = .ok parser) ∨
        ∃ error, (world.catalogue.load written).map world.catalogue.parserOf =
          .error (.load error)) ↔ world.catalogue.Fits written := by
    rw [← htame.answers_iff]
    unfold Catalogue.Answers
    cases world.catalogue.load written with
    | ok thing => exact iff_of_true (Or.inl ⟨_, rfl⟩) (Or.inl ⟨thing, rfl⟩)
    | error f =>
      constructor
      · rintro (⟨parser, hparser⟩ | ⟨error, herror⟩)
        · cases hparser
        · exact Or.inr ⟨error, congrArg Except.error (Except.error.inj herror)⟩
      · rintro (⟨thing, hthing⟩ | ⟨error, herror⟩)
        · cases hthing
        · exact Or.inr ⟨error, congrArg Except.error (Except.error.inj herror)⟩
  unfold Answers World.loadParser
  by_cases hgiven : setting.isGiven = true
  · rw [if_pos hgiven]
    cases setting with
    | str written =>
      refine (hload written).trans ⟨.named hgiven, fun hsetting => ?_⟩
      cases hsetting with
      | default hnot => exact absurd hgiven (Bool.eq_false_iff.mp hnot)
      | named _ hfits => exact hfits
    | _ =>
      refine iff_of_false ?_ fun hsetting => ?_
      · rintro (⟨parser, hparser⟩ | ⟨error, herror⟩)
        · cases hparser
        · cases herror
      · cases hsetting with
        | default hnot => exact absurd hgiven (Bool.eq_false_iff.mp hnot)
  · have hnot : setting.isGiven = false := Bool.eq_false_iff.mpr hgiven
    rw [if_neg hgiven]
    refine (hload Parser.defaultSpec).trans ⟨.default hnot, fun hsetting => ?_⟩
    cases hsetting with
    | default _ hfits => exact hfits
    | named hnamed _ => exact absurd hnamed hgiven

/-- Nor is anything an interrupt then that comes of the setting. -/
theorem isInterrupt_of_isTame (htame : world.catalogue.IsTame) {f : Fault}
    (hf : world.loadParser setting = .error f) : f.isInterrupt = false := by
  have hload {written : Text}
      (h : (world.catalogue.load written).map world.catalogue.parserOf = .error f) :
      f.isInterrupt = false := by
    cases hthing : world.catalogue.load written with
    | ok thing =>
      rw [hthing] at h
      cases h
    | error raised =>
      rw [hthing] at h
      obtain rfl : raised = f := Except.error.inj h
      obtain ⟨-, -, hrelative, hdeep⟩ :=
        Catalogue.load_callable_or_refused world.catalogue written
      obtain ⟨error, rfl⟩ | ⟨spec, hspec, hescapes⟩ := Catalogue.exists_load_of_error hthing
      · rfl
      · by_cases hleading : spec.IsRelative
        · rw [← Except.error.inj ((hrelative spec hspec hleading).symm.trans hthing)]
          rfl
        · have hroom : ¬ world.catalogue.HasRoom spec.moduleName :=
            (hescapes.resolve_left hleading).resolve_right fun hwild => hwild htame
          rw [← Except.error.inj ((hdeep spec hspec hleading hroom).symm.trans hthing)]
          rfl
  unfold World.loadParser at hf
  split at hf
  · split at hf
    · exact hload hf
    · cases hf
      rfl
  · exact hload hf

/-! ### Settings for sources -/

/-- A setting that names a source, to be opened or not: a text that can be a path, or an integer or
truth value that can be a descriptor. -/
inductive IsSourceSetting : Json → Prop
  | path {path : Text} (h : Files.pathFault? path = none) : IsSourceSetting (.str path)
  | descriptor {n : Int} (hlow : 0 ≤ n) (hhigh : n < 0x80000000) : IsSourceSetting (.int n)
  | flag (b : Bool) : IsSourceSetting (.bool b)

theorem isSystem_file (problem : Files.Problem) (path? : Option Text) :
    (Fault.file problem path?).isSystem = true := by
  cases problem <;> rfl

/-- A number that can be a descriptor is one that is open, or is reported not to be. -/
theorem openDescriptor_cases (system : Files.System) {n : Int} (hlow : 0 ≤ n)
    (hhigh : n < 0x80000000) :
    (∃ content, system.openDescriptor n = .ok content) ∨
      system.openDescriptor n = .error (.file .badDescriptor none) := by
  unfold Files.System.openDescriptor
  rw [if_neg (by omega), if_neg (by omega)]
  cases system.descriptors.find? fun entry => entry.1 = n with
  | some entry => exact Or.inl ⟨entry.2, rfl⟩
  | none => exact Or.inr rfl

/-- A source that is named is opened or reported. -/
theorem IsSourceSetting.sourceAt (h : IsSourceSetting path) (world : World) :
    (∃ source, world.sourceAt path = .ok source) ∨
      ∃ f, world.sourceAt path = .error f ∧ f.isSystem = true := by
  have hopened : (∃ content, world.system.opened path = .ok content) ∨
      ∃ problem path?, world.system.opened path = .error (.file problem path?) := by
    cases h with
    | @path name hname =>
      change (∃ content, (world.system.openPath name).map Except.ok = .ok content) ∨
        ∃ problem path?, (world.system.openPath name).map Except.ok =
          .error (.file problem path?)
      unfold Files.System.openPath
      rw [hname]
      cases world.system.read name with
      | ok bytes => exact Or.inl ⟨.ok bytes, rfl⟩
      | error problem => exact Or.inr ⟨problem, some name, rfl⟩
    | descriptor hlow hhigh =>
      exact (openDescriptor_cases world.system hlow hhigh).imp_right fun hbad => ⟨_, _, hbad⟩
    | flag b =>
      have hbounds : 0 ≤ (if b then 1 else 0 : Int) ∧ (if b then 1 else 0 : Int) < 0x80000000 := by
        cases b <;> decide
      exact (openDescriptor_cases world.system hbounds.1 hbounds.2).imp_right
        fun hbad => ⟨_, _, hbad⟩
  unfold World.sourceAt
  split
  · exact Or.inl ⟨_, rfl⟩
  · obtain ⟨content, hcontent⟩ | ⟨problem, path?, hproblem⟩ := hopened
    · rw [hcontent]
      exact Or.inl ⟨_, rfl⟩
    · rw [hproblem]
      exact Or.inr ⟨_, rfl, isSystem_file problem path?⟩

/-- Any other setting for the source ends in a fault that is not reported. -/
theorem exists_sourceAt_of_not_isSourceSetting (h : ¬ IsSourceSetting path) (world : World) :
    ∃ f, world.sourceAt path = .error f ∧ ¬ IsReported f ∧ f.isInterrupt = false := by
  have hopened : ∃ f, world.system.opened path = .error f ∧ ¬ IsReported f ∧
      f.isInterrupt = false := by
    have htype (typeName : Text) :
        ¬ IsReported (.notPath typeName) ∧ (Fault.notPath typeName).isInterrupt = false :=
      ⟨not_isReported (fun _ _ hfailure => nomatch hfailure) rfl, rfl⟩
    cases path with
    | str name =>
      cases hname : Files.pathFault? name with
      | none => exact absurd (.path hname) h
      | some fault =>
        refine ⟨.ofPath fault, ?_, ?_⟩
        · change (world.system.openPath name).map Except.ok = _
          unfold Files.System.openPath
          rw [hname]
          rfl
        · cases fault <;> exact ⟨not_isReported (fun _ _ hfailure => nomatch hfailure) rfl, rfl⟩
    | int n =>
      change ∃ f, world.system.openDescriptor n = _ ∧ _
      unfold Files.System.openDescriptor
      by_cases hrange : n < -0x80000000 ∨ 0x80000000 ≤ n
      · rw [if_pos hrange]
        exact ⟨_, rfl, htype "int"⟩
      · by_cases hnegative : n < 0
        · rw [if_neg hrange, if_pos hnegative]
          exact ⟨_, rfl, not_isReported (fun _ _ hfailure => nomatch hfailure) rfl, rfl⟩
        · exact absurd (.descriptor (by omega) (by omega)) h
    | bool b => exact absurd (.flag b) h
    | _ => exact ⟨_, rfl, htype _⟩
  obtain ⟨f, hf, hrest⟩ := hopened
  have hinput : ¬ isInput path = true := by
    intro hinput
    unfold isInput at hinput
    split at hinput
    · obtain rfl := of_decide_eq_true hinput
      exact h (.path (by decide))
    · cases hinput
  refine ⟨f, ?_, hrest⟩
  unfold World.sourceAt
  rw [if_neg hinput, hf]
  rfl

/-! ### Readings -/

/-- A reading whose faults are reported: that of the built-in parser, or one that ends in nothing
but exceptions. -/
def IsReportable (read : Source → (directory : Json) → Reading) : Prop :=
  read = Node.readStream ∨ ∀ source includePath f,
    (read source includePath).fault = some f → f.IsException

variable {read : Source → (directory : Json) → Reading}

theorem IsReportable.isException (h : IsReportable read) {source : Source}
    (hsource : world.sourceAt path = .ok source) {includePath : Json} {f : Fault}
    (hf : (read source includePath).fault = some f) : f.IsException := by
  rcases h with rfl | hraises
  · obtain ⟨display, content, rfl⟩ := exists_ofOpened_of_sourceAt hsource
    cases content with
    | ok bytes => exact Node.isException_of_fault hf
    | error problem =>
      -- Nothing can be read of what is open for something else.
      rw [Node.fault_readStream] at hf
      obtain rfl : Fault.file problem none = f := Option.some.inj hf
      exact ⟨by cases problem <;> rfl, fun _ hmisuse => nomatch hmisuse⟩
  · exact hraises _ _ _ hf

/-- Settings with which a run gets as far as to report what is wrong with them: there is an answer
for the parser, which may be that it is missing, or else they also name a source. -/
def Usable (world : World) (settings : Fields Json) : Prop :=
  world.Answers (parserSettingOf settings) ∧
    ((∃ error, world.loadParser (parserSettingOf settings) = .error (.load error)) ∨
      IsSourceSetting (pathOf settings))

/-! ### Runs -/

section

variable {argv : List Text} {values settings : Fields Json} {manager : Manager} {request : Request}
  (hargv : Obeyed argv values manager) (hrequest : requestOf? values = some request)
  (hsettings : Related Echoes (Settings.resolve world.system values Settings.programKeys none)
    (pure settings))
  (hopen : ¬ world.ClosesErrors (pathOf settings))
  (hreads : ∀ parser, world.loadParser (parserSettingOf settings) = .ok parser →
    parser.Reads read)
include hargv hrequest hsettings hopen hreads

/-- A reading that is finished is shown. -/
theorem run_of_finished {parser : Parser} {source : Source}
    (hload : world.loadParser (parserSettingOf settings) = .ok parser)
    (hsource : world.sourceAt (pathOf settings) = .ok source) {reading : Reading}
    (hreading : read source (includePathOf settings) = reading)
    (hfault : reading.fault = none) (hplain : ∀ n ∈ reading.nodes, ∀ t ∈ n.texts, t.Plain) :
    ∃ comments : List Comment, Comment.Documents reading.nodes comments ∧
      ShowsAll (request.shown reading.nodes comments)
        (outcome (world.run argv) World.session) := by
  have hdocuments := Node.documents_documented reading.nodes
  have hcomments := commentsAt_of_ok hsource read (includePathOf settings)
  rw [hreading, Reading.comments_of_none hfault] at hcomments
  refine ⟨_, hdocuments, ?_⟩
  rw [← request.pieces_view hdocuments]
  exact run_of_plain hargv hrequest hsettings hopen hreads hload hcomments
    (View.plain_pieces (Node.plain_documented hplain) _)

/-- Where settings can be used and no reading is finished, an error is reported. -/
theorem run_of_not_finished (husable : world.Usable settings) (hreportable : IsReportable read)
    (hnot : ∀ parser source, world.loadParser (parserSettingOf settings) = .ok parser →
      world.sourceAt (pathOf settings) = .ok source →
      (read source (includePathOf settings)).fault ≠ none) :
    ReportsError manager (outcome (world.run argv) World.session) := by
  obtain ⟨⟨parser, hload⟩ | ⟨error, hload⟩, hsource⟩ := husable
  · have hpath : IsSourceSetting (pathOf settings) :=
      hsource.resolve_left fun ⟨error, herror⟩ => nomatch hload.symm.trans herror
    rcases hpath.sourceAt world with ⟨source, hsource⟩ | ⟨f, hf, hsystem⟩
    · obtain ⟨f, hf⟩ := Option.ne_none_iff_exists'.mp (hnot parser source hload hsource)
      have hcomments := commentsAt_of_ok hsource read (includePathOf settings)
      rw [Reading.comments_of_some hf,
        (hreportable.isException hsource hf).ofParsing] at hcomments
      exact run_of_reported hargv hrequest hsettings hopen hreads hload hcomments
        (Or.inl ⟨_, _, rfl⟩)
    · exact run_of_reported hargv hrequest hsettings hopen hreads hload
        (commentsAt_of_error hf _ _) (Or.inr hsystem)
  · exact run_of_load_error hargv hrequest hsettings hopen hreads hload

/-- Settings that cannot be used break a run off, unless the fault is an interrupt. -/
theorem run_of_not_usable (hnot : ¬ world.Usable settings)
    (hinterrupt : ∀ f, world.loadParser (parserSettingOf settings) = .error f →
      f.isInterrupt = false) :
    ∃ f, BreaksOff f [] (outcome (world.run argv) World.session) := by
  by_cases hanswers : world.Answers (parserSettingOf settings)
  · rcases hanswers with ⟨parser, hload⟩ | hload
    · have hpath : ¬ IsSourceSetting (pathOf settings) :=
        fun hpath => hnot ⟨Or.inl ⟨parser, hload⟩, Or.inr hpath⟩
      obtain ⟨f, hf, hreported, hnotInterrupt⟩ :=
        exists_sourceAt_of_not_isSourceSetting hpath world
      exact ⟨f, run_of_not_reported hargv hrequest hsettings hopen hreads hload
        (commentsAt_of_error hf _ _) hreported hnotInterrupt⟩
    · -- A parser that is missing is reported before the path is looked at.
      exact absurd ⟨Or.inr hload, Or.inl hload⟩ hnot
  · obtain ⟨f, hload, hother⟩ := exists_loadParser_of_not_answers hanswers
    exact ⟨f, run_of_load_fault hargv hrequest hsettings hopen hreads hload hother
      (hinterrupt f hload)⟩

end

end World

end TargetHelp
