import TargetHelp.Proofs.Arguments.Request
import TargetHelp.Proofs.Render.Documented
import TargetHelp.Proofs.Render.Hushed
import TargetHelp.Proofs.Render.Plain
import TargetHelp.Proofs.Run.Silence
import TargetHelp.Proofs.Run.Supply
import TargetHelp.Proofs.Session.Step

/-!
# From nodes to views

A dump of nodes that a run is supplied with goes through all of the program: flags, command,
settings, source, parser, view and hint. What is written to the output is the view that the request
asks for, as it follows from the nodes alone; by default a note is written to the error stream where
there is nothing to show, and nothing at all elsewhere.
-/

set_option autoImplicit false
set_option relaxedAutoImplicit false

namespace TargetHelp

open Session

/-! ### Requests -/

namespace Arguments

/-- A flag asks for no list of channels, and for no channel in a way that cannot be read. -/
def GlobalFlag.IsSound (flag : GlobalFlag) : Prop :=
  ∀ spec ∈ flag.spec?, spec ≠ separator ∧ ∃ parsed, Channel.Spec.parse spec = .ok parsed

/-- Sound flags put well-formed specifications into a reading. -/
theorem GlobalFlag.reading_of_isSound {flags : List GlobalFlag}
    (h : ∀ flag ∈ flags, flag.IsSound) (rest : List Text) :
    WellFormed (specs flags) ∧
      reading flags rest = globalRead (flags.countP isVerbose) (flags.countP isQuiet)
        ((specs flags).map .str) (((lastPath? flags).map stored).getD .null) rest := by
  have hspecs : ∀ spec ∈ specs flags, spec ≠ separator ∧
      ∃ parsed, Channel.Spec.parse spec = .ok parsed := by
    intro spec hspec
    obtain ⟨flag, hflag, hspec⟩ := List.mem_filterMap.mp hspec
    exact h flag hflag spec hspec
  have hnoted : (specs flags).map noted = (specs flags).map .str :=
    List.map_congr_left fun spec hspec => if_neg (hspecs spec hspec).1
  unfold reading
  rw [hnoted]
  exact ⟨fun spec hspec => (hspecs spec hspec).2, rfl⟩

/-- The request that the values of a command make. -/
def requestOf? (values : Fields Json) : Option Request :=
  match Fields.get? commandKey values with
  | some (.str name) =>
    if name = listCommand then some .list
    else
      match Fields.get? targetKey values with
      | some (.str target) => some (.describe target)
      | _ => some .describeAll
  | _ => none

namespace Request

/-- The view that a request asks for. -/
def view : Request → View
  | list => .short
  | describeAll => .long
  | describe target => .target target

/-- What a request shows of some nodes, `comments` being those that name a target, ordered by it. A
single target has its comments in the order of the nodes; the empty one has none. -/
def shown (nodes : List Node) (comments : List Comment) : Request → List Text
  | list => comments.map (Comment.summaryLine (Comment.targetWidth comments))
  | describeAll => comments.map Comment.block
  | describe target =>
    if target.isEmpty then []
    else (Comment.ofTarget target (Node.comments nodes)).map Comment.description

/-- What is noted where a request has nothing to show. -/
def note : Request → Text
  | describe target =>
    "  Note: No help found for target '" ++ target ++ "' (names are case-sensitive)."
  | _ =>
    "  Note: No target comments found. Comments must be attached to a target by the parser to " ++
      "appear here."

/-- The hint behind a view of so many pieces. -/
def closing : Request → Nat → SessionM Unit
  | list, count => hint (if count = 0 then "list.empty" else "list.describe") "result" []
  | describeAll, count => if count = 0 then hint "list.empty" "result" [] else pure ()
  | describe target, count =>
    if count = 0 then hint "describe.no_match" "result" [("target", .str target)] else pure ()

/-- How a request ends behind a rendering: with its hint, unless an error has been reported. -/
def conclude (request : Request) : Option Nat → SessionM Nat
  | none => return 1
  | some count => do
    request.closing count
    return 0

/-- The view of the comments in order shows what the nodes themselves give. -/
theorem pieces_view (request : Request) {nodes : List Node} {comments : List Comment}
    (h : Comment.Documents nodes comments) :
    request.view.pieces comments = request.shown nodes comments := by
  cases request with
  | list => rfl
  | describeAll => rfl
  | describe target =>
    change (Comment.ofTarget target comments).map Comment.description = if _ then _ else _
    cases target with
    | nil =>
      rw [h.ofTarget_nil]
      rfl
    | cons c target =>
      rw [h.ofTarget (c :: target) (List.cons_ne_nil c target)]
      rfl

/-- A plain target is noted as it is. -/
theorem plain_note {request : Request} (h : ∀ target ∈ request.target?, target.Plain) :
    (request.note ++ [Text.lineFeed]).Plain := by
  have hend : Text.Plain [Text.lineFeed] := by decide
  refine Text.Plain.append ?_ hend
  cases request with
  | list => decide
  | describeAll => decide
  | describe target =>
    have hfront : Text.Plain "  Note: No help found for target '" := by decide
    have hback : Text.Plain "' (names are case-sensitive)." := by decide
    exact (hfront.append (h target rfl)).append hback

/-! ### Values -/

section Values

variable (request : Request) (options : List SourceOption) (verbose quiet : Int)
  (channels : List Json) (config : Json) (leftOver : List Text)

/-- All values of a request with some global flags. -/
def allValues : Fields Json :=
  World.merge (request.values options) (globalRead verbose quiet channels config leftOver).values

theorem config_allValues :
    (Fields.get? "config" (request.allValues options verbose quiet channels config leftOver)).getD
      .null = config := by
  cases request <;> rfl

theorem file_allValues :
    (Fields.get? "file" (request.allValues options verbose quiet channels config leftOver)).getD
      .null = ((SourceOption.lastFile? options).map .str).getD .null := by
  cases request <;> cases h : SourceOption.lastFile? options <;>
    simp only [allValues, values, SourceOption.reading, h] <;> rfl

theorem parser_allValues :
    (Fields.get? "parser" (request.allValues options verbose quiet channels config leftOver)).getD
      .null = .null := by
  cases request <;> rfl

theorem requestOf?_allValues :
    requestOf? (request.allValues options verbose quiet channels config leftOver) =
      some request := by
  cases request <;> rfl

end Values

end Request

end Arguments

namespace World

open Arguments

/-- A command renders the view of its request and closes with its hint. -/
theorem command_of_request {world : World} {values : Fields Json} {request : Request}
    (h : requestOf? values = some request) :
    world.command values =
      (world.renderWith values (rendering request.view) >>= request.conclude) := by
  have hconclude {m : SessionM (Option Nat)} {next : Option Nat → SessionM Nat}
      (hnone : next none = request.conclude none)
      (hzero : next (some 0) = request.conclude (some 0))
      (hsucc : ∀ count, next (some (count + 1)) = request.conclude (some (count + 1))) :
      (m >>= next) = (m >>= request.conclude) := by
    refine bind_congr fun count? => ?_
    match count? with
    | none => exact hnone
    | some 0 => exact hzero
    | some (count + 1) => exact hsucc count
  unfold requestOf? at h
  unfold command
  cases hname : Fields.get? commandKey values with
  | none =>
    rw [hname] at h
    cases h
  | some value =>
    rw [hname] at h
    cases value with
    | str name =>
      dsimp only at h ⊢
      by_cases hlist : name = listCommand
      · rw [if_pos hlist] at h ⊢
        obtain rfl := Option.some.inj h
        exact hconclude rfl rfl fun _ => rfl
      · rw [if_neg hlist] at h ⊢
        unfold describe
        cases htarget : Fields.get? targetKey values with
        | none =>
          rw [htarget] at h
          obtain rfl := Option.some.inj h
          exact hconclude rfl rfl fun _ => rfl
        | some value =>
          rw [htarget] at h
          cases value <;> obtain rfl := Option.some.inj h <;>
            exact hconclude rfl rfl fun _ => rfl
    | _ => cases h

end World

/-! ### Rendering what is supplied -/

namespace World

open Arguments GlobalFlag

variable {world : World} {nodes : List Node} {bytes : Bytes} {path? : Option Text} {s : Session}

/-- Where nothing beyond the default is shown, rendering the bytes of a dump writes the view of the
nodes that have been dumped and does nothing else. -/
theorem outcome_rendering (hnodes : ∀ n ∈ nodes, ∀ t ∈ n.texts, t.Plain)
    (hbytes : Utf8.encode (Node.dump nodes) = .ok bytes) {parser : Parser}
    (hreads : parser.Reads Node.readStream) (hs : s.manager.Hushed) {writes : List Text}
    (houtput : s.output = ⟨.strict, writes⟩) (view : View) (display : Text) (includePath : Json) :
    outcome (rendering view (Source.ofBytes display bytes) parser includePath) s =
      (.ok (view.pieces (Node.documented nodes)).length,
        { s with output := ⟨.strict, writes ++ view.ofNodes nodes⟩ }) := by
  have hreading : parser.read (Source.ofBytes display bytes) includePath =
      finish { nodes, reports := [Node.readingReport nodes.length includePath] } := by
    rw [hreads.read_eq, Node.readStream_bytes hnodes hbytes display includePath]
  have hwritten : s.output.writeAll (View.frame (view.pieces (Node.documented nodes))) =
      .ok ⟨.strict, writes ++ view.ofNodes nodes⟩ := by
    rw [houtput]
    exact Stream.writeAll_strict
      (View.plain_frame (View.plain_pieces (Node.plain_documented hnodes) view)) writes
  have hkeeps : Keeps retired (parser.read (Source.ofBytes display bytes) includePath) :=
    (hreads.comesTo _ _).retired
  have hresult : Related SameHushed (parser.read (Source.ofBytes display bytes) includePath)
      (attempt (.ok nodes)) := by
    rw [hreading]
    refine Related.finish (List.forall_mem_singleton.mpr ?_)
    exact hidesDetails_sameHushed.report _ _ _ (by decide : 0 < Level.debug)
  exact @outcome_render_of_hushed s (some parser) _ includePath _ hs _ hkeeps hresult rfl _ _
    hwritten

/-- A path that is a text, if there is one at all, is none of the error stream. -/
theorem not_closesErrors_of_file {settings : Fields Json}
    (h : (Fields.get? "file" settings).getD .null = (path?.map .str).getD .null) :
    ¬ world.ClosesErrors (pathOf settings) := by
  unfold pathOf settingOr
  rw [h]
  dsimp only
  split
  · cases path? with
    | none => exact fun hcloses => nomatch hcloses.1
    | some path => exact not_closesErrors_str world path
  · exact not_closesErrors_str world "-"

/-- Rendering with settings finds the parser and the bytes of the dump, and renders them. -/
theorem outcome_renderWith (hnodes : ∀ n ∈ nodes, ∀ t ∈ n.texts, t.Plain)
    (hbytes : Utf8.encode (Node.dump nodes) = .ok bytes)
    (hoffers : world.catalogue.OffersNodeStream) (hsupplies : world.Supplies bytes path?)
    {arguments : Fields Json}
    (habsent : Settings.Absent world.system ((Fields.get? "config" arguments).getD .null))
    (hfile : (Fields.get? "file" arguments).getD .null = (path?.map .str).getD .null)
    (hparser : (Fields.get? "parser" arguments).getD .null = .null) (hs : s.manager.Hushed)
    {writes : List Text} (houtput : s.output = ⟨.strict, writes⟩) (view : View) :
    outcome (world.renderWith arguments (rendering view)) s =
      (.ok (some (view.pieces (Node.documented nodes)).length),
        { s with output := ⟨.strict, writes ++ view.ofNodes nodes⟩ }) := by
  let settings := Settings.ofArguments arguments [] Settings.programKeys
  have hresolve : outcome (Settings.resolve world.system arguments Settings.programKeys none) s =
      (.ok settings, s) :=
    outcome_of_hushed (habsent.related_resolve hidesDetails_sameHushed _) hs
  have hsettings : (Fields.get? "file" settings).getD .null = (path?.map .str).getD .null := hfile
  have hnull : (Fields.get? "parser" settings).getD .null = .null := hparser
  obtain ⟨display, hsource⟩ := hsupplies.openSource hsettings
  have hbuiltIn : IsBuiltIn .null := Or.inl rfl
  obtain ⟨parser, hload, hreads⟩ := hbuiltIn.exists_parser hoffers
  unfold renderWith
  rw [outcome_bind, hresolve]
  dsimp only
  rw [hnull, hload]
  dsimp only
  rw [outcome_bind, outcome_report_of_hushed hs (by decide)]
  dsimp only
  rw [outcome_tryCatch, opening_of_settings (not_closesErrors_of_file hsettings)]
  unfold pathOf
  rw [hsource, pure_bind, outcome_bind, outcome_rendering hnodes hbytes hreads hs houtput]
  rfl

/-! ### Without flags of diagnostics -/

/-- The manager of a run without flags of diagnostics. -/
def defaultManager : Manager where
  overrides := [(.str "trace", .level Level.minimal)]

theorem managerOf_default : managerOf .help (.level 0) [] .errors = .ok defaultManager := rfl

theorem hushed_defaultManager : defaultManager.Hushed := by
  intro channel
  unfold Manager.threshold Json.Table.get? defaultManager
  dsimp only
  rw [List.find?_singleton]
  split
  · exact ⟨Level.minimal, rfl, by decide⟩
  · exact ⟨0, rfl, Int.le_refl 0⟩

/-- Behind a view that shows something nothing is said, and else the note of the request. -/
theorem outcome_closing (hmanager : s.manager = defaultManager) (hhints : s.hints = Hint.ofProgram)
    (hpolicy : s.errors.policy = .escaping) (request : Request) (count : Nat) :
    ∃ s', outcome (request.closing count) s = (.ok (), s') ∧ s'.output = s.output ∧
      s'.errors.writes = s.errors.writes ++
        if count = 0 then [(request.note ++ [Text.lineFeed]).escapeSurrogates] else [] := by
  obtain ⟨manager, retired, hints, channels, sink, ⟨policy, writes⟩, output⟩ := s
  obtain rfl : manager = defaultManager := hmanager
  obtain rfl : hints = Hint.ofProgram := hhints
  obtain rfl : policy = .escaping := hpolicy
  let s : Session :=
    ⟨defaultManager, retired, Hint.ofProgram, channels, sink, ⟨.escaping, writes⟩, output⟩
  have hwrites : s.diagnostics.WritesAs Text.escapeSurrogates := fun _ _ => rfl
  cases count with
  | zero =>
    have hnoted {id : Text} {arguments : Fields Json}
        (hline : s.hintLine? (.str id) (.str "result") arguments = .ok (some request.note)) :
        outcome (hint id "result" arguments) s = (.ok (), (s.withWrite
          (request.note ++ [Text.lineFeed]).escapeSurrogates).withShown (.str id)) := by
      unfold hint
      rw [outcome_hintIn, hline, outcome_showLine?_of_writesAs hwrites]
    cases request with
    | list => exact ⟨_, hnoted rfl, rfl, rfl⟩
    | describeAll => exact ⟨_, hnoted rfl, rfl, rfl⟩
    | describe target => exact ⟨_, hnoted rfl, rfl, rfl⟩
  | succ count =>
    have hnothing : (⟨.escaping, writes⟩ : Stream).writes = writes ++ [] :=
      (List.append_nil _).symm
    cases request with
    | list =>
      have hline : s.hintLine? (.str "list.describe") (.str "result") [] = .ok none := rfl
      have hsilent : outcome (hint "list.describe" "result" []) s = (.ok (), s) := by
        unfold hint
        rw [outcome_hintIn, hline]
        rfl
      exact ⟨_, hsilent, rfl, hnothing⟩
    | describeAll => exact ⟨s, rfl, rfl, hnothing⟩
    | describe target => exact ⟨s, rfl, rfl, hnothing⟩

section Supplied

variable {flags : List GlobalFlag} {request : Request} {before after : List SourceOption}

/-- With no files of settings and no parser named, the built-in parser reads what a text names. -/
theorem allows_of_absent (hoffers : world.catalogue.OffersNodeStream) {values : Fields Json}
    (habsent : Settings.Absent world.system ((Fields.get? "config" values).getD .null))
    (hfile : (Fields.get? "file" values).getD .null = (path?.map .str).getD .null)
    (hparser : (Fields.get? "parser" values).getD .null = .null) :
    Allows (Alike .errors Hint.ofProgram) Parser.IsSteady world values := by
  intro s t settings hst hresolve
  have hvalue := (habsent.related_resolve hidesDetails_alike Settings.programKeys hst).1
  obtain rfl := Except.ok.inj (hvalue.symm.trans hresolve)
  refine ⟨fun hcloses => absurd hcloses (not_closesErrors_of_file hfile), fun parser hload => ?_⟩
  have hnull : parserSettingOf (Settings.ofArguments values [] Settings.programKeys) = .null :=
    hparser
  have hbuiltIn : IsBuiltIn .null := Or.inl rfl
  obtain ⟨builtIn, hfound, hreads⟩ := hbuiltIn.exists_parser hoffers
  rw [hnull, hfound] at hload
  exact Except.ok.inj hload ▸ hreads.isSteady

/-- Without flags of diagnostics a request shows what the nodes give, and notes if that is
nothing. -/
theorem outcome_runCommand (hnodes : ∀ n ∈ nodes, ∀ t ∈ n.texts, t.Plain)
    (hbytes : Utf8.encode (Node.dump nodes) = .ok bytes)
    (hoffers : world.catalogue.OffersNodeStream) {config : Json}
    (habsent : Settings.Absent world.system config) (hrequest : request.IsSound)
    (hbefore : ∀ option ∈ before, IsWord option.path)
    (hafter : ∀ option ∈ after, IsWord option.path)
    (hsupplies : world.Supplies bytes (SourceOption.lastFile? (before ++ after)))
    (verbose quiet : Int) (channels : List Json) (leftOver : List Text) :
    let pieces := request.view.pieces (Node.documented nodes)
    ∃ s', outcome (world.runCommand (globalRead verbose quiet channels config leftOver).values
        (request.arguments before after)) (begun defaultManager) = (.ok 0, s') ∧
      s'.output.writes = View.frame pieces ∧
      s'.errors.writes =
        if pieces.length = 0 then [(request.note ++ [Text.lineFeed]).escapeSurrogates] else [] := by
  intro pieces
  let arguments := request.allValues (before ++ after) verbose quiet channels config leftOver
  have hsettings :
      Settings.Absent world.system ((Fields.get? "config" arguments).getD .null) := by
    rw [request.config_allValues (before ++ after) verbose quiet channels config leftOver]
    exact habsent
  have hhushed : (begun defaultManager).manager.Hushed := hushed_defaultManager
  have hrender := outcome_renderWith hnodes hbytes hoffers hsupplies hsettings
    (request.file_allValues (before ++ after) verbose quiet channels config leftOver)
    (request.parser_allValues (before ++ after) verbose quiet channels config leftOver)
    hhushed rfl request.view
  obtain ⟨s', hclosing, houtput, herrors⟩ := outcome_closing
    (s := { begun defaultManager with output := ⟨.strict, [] ++ request.view.ofNodes nodes⟩ })
    rfl rfl rfl request pieces.length
  have hcommand : outcome (world.command arguments) (begun defaultManager) = (.ok 0, s') := by
    rw [command_of_request (request.requestOf?_allValues _ _ _ _ _ _), outcome_bind, hrender]
    dsimp only [Request.conclude]
    rw [outcome_bind, hclosing]
    rfl
  have hread := request.readMain_arguments hrequest hbefore hafter
  have hremaining : (request.arguments before after).isEmpty = false := rfl
  refine ⟨s', ?_, by rw [houtput]; rfl, herrors⟩
  unfold runCommand
  rw [hremaining, if_neg Bool.false_ne_true, hread]
  change outcome (tryCatch (world.command arguments) _) (begun defaultManager) = _
  rw [outcome_tryCatch, hcommand]

theorem ready_begun_default : (begun defaultManager).Ready .errors Hint.ofProgram where
  destination := rfl
  takesAll := Stream.takesAll_escaping []
  levels := ⟨⟨0, rfl⟩, List.forall_mem_singleton.mpr ⟨Level.minimal, rfl⟩⟩
  hints := rfl

/-- Flags bring a run to the same end as the default session, with the same output, and to that of
the default session itself if there are as many for more as for less and none for channels. -/
theorem outcome_runGlobal_default (world : World) {verbose quiet : Int} {specs : List Text}
    {config : Json} {leftOver : List Text} (hspecs : WellFormed specs)
    (hallowed : ∀ command, readMain leftOver = .ok command →
      Allows (Alike .errors Hint.ofProgram) Parser.IsSteady world (merge command
        (globalRead verbose quiet (specs.map .str) config leftOver).values)) :
    let global := globalRead verbose quiet (specs.map .str) config leftOver
    let run := outcome (world.runGlobal global) World.session
    let default := outcome (world.runCommand global.values leftOver) (begun defaultManager)
    run.1 = default.1 ∧ run.2.output = default.2.output ∧
      (verbose = quiet → specs = [] → run = default) := by
  intro global run default
  have herrors : Stream.TakesAll World.session.errors := Stream.takesAll_escaping []
  obtain ⟨started, hstarted, hsame, hstarts⟩ := exists_runCommand world rfl herrors hspecs
  have hrun : run = outcome (world.runCommand global.values leftOver) started := hstarts
  have halike : Alike .errors Hint.ofProgram started (begun defaultManager) :=
    ⟨hstarted, ready_begun_default, hsame⟩
  obtain ⟨hvalue, hend⟩ := agree_runCommand world verbose quiet verbose quiet (specs.map .str)
    (specs.map .str) config leftOver hallowed halike
  refine ⟨by rw [hrun]; exact hvalue, by rw [hrun]; exact hend.output, fun hequal hnone => ?_⟩
  have hverbosity : verbosityOf global = 0 := by
    change verbose - quiet = 0
    omega
  refine outcome_runGlobal world World.session ?_
  rw [hverbosity, hnone]
  exact managerOf_default

/-- A run that is supplied with a dump of nodes, whose texts may be any without surrogates, ends
well and writes between two line feeds what its request shows of them. The request may be mixed with
sound global flags, and the path of its input may be given anywhere in it; there are no files of
settings. By default, that is with as many flags for more as for less and none for channels, the
error stream has the note of the request if nothing is shown, with surrogates of the target escaped,
and else nothing. -/
theorem run_request (hnodes : ∀ n ∈ nodes, ∀ t ∈ n.texts, t.Plain)
    (hbytes : Utf8.encode (Node.dump nodes) = .ok bytes)
    (hoffers : world.catalogue.OffersNodeStream) (hflags : ∀ flag ∈ flags, flag.IsSound)
    (habsent : Settings.Absent world.system (((lastPath? flags).map stored).getD .null))
    (hrequest : request.IsSound) (hbefore : ∀ option ∈ before, IsWord option.path)
    (hafter : ∀ option ∈ after, IsWord option.path)
    (hsupplies : world.Supplies bytes (SourceOption.lastFile? (before ++ after)))
    {argv : List Text}
    (hargv : Interleaving (flags.map written) (request.arguments before after) argv) :
    let run := outcome (world.run argv) World.session
    ∃ comments : List Comment, Comment.Documents nodes comments ∧
      let shown := request.shown nodes comments
      let noted := request.note ++ [Text.lineFeed]
      run.1 = .ok 0 ∧
      run.2.output.text = [Text.lineFeed] ++ shown.flatten ++ [Text.lineFeed] ∧
      (flags.countP isVerbose = flags.countP isQuiet → specs flags = [] →
        run.2.errors.text = if shown.isEmpty then noted.escapeSurrogates else []) ∧
      ((∀ target ∈ request.target?, target.Plain) → noted.escapeSurrogates = noted) := by
  intro run
  obtain ⟨hspecs, hreading⟩ := reading_of_isSound hflags (request.arguments before after)
  have hread := readGlobal_interleaving
    (request.isLeftOver_arguments hrequest hbefore hafter) hargv
  have hrun : run = outcome (world.runGlobal (reading flags (request.arguments before after)))
      World.session := by
    change outcome (world.run argv) World.session = _
    unfold World.run
    rw [hread]
  have hallowed : ∀ command, readMain (request.arguments before after) = .ok command →
      Allows (Alike .errors Hint.ofProgram) Parser.IsSteady world
        (merge command (reading flags (request.arguments before after)).values) := by
    intro command hcommand
    have hmain := request.readMain_arguments hrequest hbefore hafter
    obtain rfl := Except.ok.inj (hmain.symm.trans hcommand)
    rw [hreading]
    refine allows_of_absent hoffers ?_ (request.file_allValues (before ++ after) _ _ _ _ _)
      (request.parser_allValues (before ++ after) _ _ _ _ _)
    have hconfig := request.config_allValues (before ++ after) (flags.countP isVerbose)
      (flags.countP isQuiet) ((specs flags).map .str) (((lastPath? flags).map stored).getD .null)
      (request.arguments before after)
    unfold Request.allValues at hconfig
    rw [hconfig]
    exact habsent
  rw [hreading] at hallowed
  obtain ⟨hvalue, houtput, hdefault⟩ := outcome_runGlobal_default world hspecs hallowed
  obtain ⟨s', hcommand, hshown, hnoted⟩ := outcome_runCommand hnodes hbytes hoffers habsent
    hrequest hbefore hafter hsupplies (flags.countP isVerbose) (flags.countP isQuiet)
    ((specs flags).map .str) (request.arguments before after)
  rw [hcommand, ← hreading, ← hrun] at hvalue houtput hdefault
  rw [request.pieces_view (Node.documents_documented nodes)] at hshown hnoted
  refine ⟨Node.documented nodes, Node.documents_documented nodes, hvalue, ?_, ?_, ?_⟩
  · rw [houtput, Stream.text, hshown, View.frame]
    simp only [List.flatten_append, List.flatten_singleton]
  · intro hequal hnone
    rw [hdefault (congrArg Nat.cast hequal) hnone, Stream.text, hnoted]
    cases request.shown nodes (Node.documented nodes) with
    | nil => exact List.flatten_singleton
    | cons t ts => rfl
  · exact fun htarget => (Request.plain_note htarget).escapeSurrogates

end Supplied

/-- Targets with braces, of which one has a comment, in a file whose path is given behind a flag for
more. -/
theorem run_request_braces :
    let nodes : List Node := [.comment ⟨"\x7bx\x7d", "one\ntwo"⟩, .target "\x7by\x7d"]
    ∃ bytes, Utf8.encode (Node.dump nodes) = .ok bytes ∧
      let world : World := ⟨⟨.directory [("nodes", .file bytes)], [], [], []⟩, [], true, .builtIn⟩
      let run (target : Text) :=
        outcome (world.run ["describe", "-f", "-v", "nodes", target, "--quiet"]) World.session
      ((run "\x7bx\x7d").1 = .ok 0 ∧ (run "\x7bx\x7d").2.output.text = "\n  one\n  two\n\n" ∧
        (run "\x7bx\x7d").2.errors.text = []) ∧
      (run "\x7by\x7d").1 = .ok 0 ∧ (run "\x7by\x7d").2.output.text = "\n\n" ∧
        (run "\x7by\x7d").2.errors.text =
          "  Note: No help found for target '\x7by\x7d' (names are case-sensitive).\n" := by
  intro nodes
  obtain ⟨bytes, hbytes, -, -⟩ := Utf8.encode_of_ascii (Node.ascii_dump nodes)
  refine ⟨bytes, hbytes, ?_⟩
  intro world run
  have hnodes : ∀ n ∈ nodes, ∀ t ∈ n.texts, t.Plain := by decide
  let flags : List GlobalFlag := [verbose false, quiet true]
  have hflags : ∀ flag ∈ flags, flag.IsSound := by
    simp only [flags, List.forall_mem_cons]
    exact ⟨fun _ h => (nomatch h), fun _ h => (nomatch h), List.forall_mem_nil _⟩
  have hequal : flags.countP isVerbose = flags.countP isQuiet := by decide
  have hoffers : world.catalogue.OffersNodeStream := Catalogue.offersNodeStream_builtIn
  have habsent : Settings.Absent world.system (((lastPath? flags).map stored).getD .null) :=
    ⟨List.forall_mem_singleton.mpr rfl, _, rfl⟩
  let before : List SourceOption := [.file false "nodes"]
  have hbefore : ∀ option ∈ before, IsWord option.path :=
    List.forall_mem_singleton.mpr (Or.inl (by decide : ("nodes" : Text).head? ≠ some dash))
  have hsupplies : world.Supplies bytes (SourceOption.lastFile? (before ++ [])) :=
    .file (by decide) rfl
  have hrun (target : Text) (htarget : target.head? ≠ some dash) :
      ∃ comments : List Comment, Comment.Documents nodes comments ∧
        (run target).1 = .ok 0 ∧
        (run target).2.output.text =
          [Text.lineFeed] ++ ((Request.describe target).shown nodes comments).flatten ++
            [Text.lineFeed] ∧
        (run target).2.errors.text =
          if ((Request.describe target).shown nodes comments).isEmpty then
            ((Request.describe target).note ++ [Text.lineFeed]).escapeSurrogates else [] := by
    have hrequest : (Request.describe target).IsSound := by
      rintro _ ⟨⟩
      exact htarget
    have hargv : Interleaving (flags.map written) ((Request.describe target).arguments before [])
        ["describe", "-f", "-v", "nodes", target, "--quiet"] :=
      .right (.right (.left (.right (.right (.left .nil)))))
    have hafter : ∀ option ∈ ([] : List SourceOption), IsWord option.path :=
      List.forall_mem_nil _
    obtain ⟨comments, hdocuments, hvalue, houtput, herrors, -⟩ := run_request hnodes hbytes
      hoffers hflags habsent hrequest hbefore hafter hsupplies hargv
    exact ⟨comments, hdocuments, hvalue, houtput, herrors hequal rfl⟩
  have hfound (comments : List Comment) :
      (Request.describe "\x7bx\x7d").shown nodes comments = [("  one\n  two\n" : Text)] := by
    change List.map Comment.description (Comment.ofTarget _ (Node.comments nodes)) = _
    decide
  have hmissing (comments : List Comment) :
      (Request.describe "\x7by\x7d").shown nodes comments = [] := by
    change List.map Comment.description (Comment.ofTarget _ (Node.comments nodes)) = _
    decide
  obtain ⟨comments, -, hvalue, houtput, herrors⟩ := hrun "\x7bx\x7d" (by decide)
  obtain ⟨comments', -, hvalue', houtput', herrors'⟩ := hrun "\x7by\x7d" (by decide)
  rw [hfound] at houtput herrors
  rw [hmissing] at houtput' herrors'
  exact ⟨⟨hvalue, houtput.trans (by decide), herrors⟩, hvalue', houtput'.trans (by decide),
    herrors'.trans (by decide)⟩

/-- What has no target is not described under the empty one; a file in the place of the directory of
global settings ends a run; and surrogates of a target are not written to the error stream as they
are. -/
theorem run_request_limits :
    let loose : List Node := [.comment ⟨[], "loose"⟩]
    let world (root : List (Text × Files.Entry)) (nodes : List Node) : World :=
      ⟨⟨.directory root, [], [], []⟩, (Utf8.encode (Node.dump nodes)).toOption.getD [], false,
        .builtIn⟩
    let run (root : List (Text × Files.Entry)) (nodes : List Node) (argv : List Text) :=
      outcome ((world root nodes).run argv) World.session
    ((run [] loose ["describe", []]).2.output.text = "\n\n" ∧
      (run [] loose ["describe", []]).2.output.text ≠ [Text.lineFeed] ++
        ((Comment.ofTarget [] (Node.comments loose)).map Comment.description).flatten ++
          [Text.lineFeed]) ∧
    ((world [(".mmhelp", .file [])] []).system.isFile "/.mmhelp/config.json" = .ok false ∧
      (run [(".mmhelp", .file [])] [] ["list"]).1.toOption = none) ∧
    (run [] [] ["describe", [0xDC80]]).2.errors.text ≠
      (Request.describe [0xDC80]).note ++ [Text.lineFeed] := by
  decide +kernel

end World

end TargetHelp
