import TargetHelp.Proofs.Node.FirstBadLine
import TargetHelp.Proofs.Run.Ending
import TargetHelp.Proofs.Text.Chunks

/-!
# A run writes a whole view, for any bytes

The bytes that a run reads may be anything. They hold nodes if they are UTF-8 without bad lines, and
if they do not an error is reported before anything is written. The view of the nodes is then
written piece by piece to an output that takes no surrogates, and an escape in a record can name
one: the pieces before the first such one are written, and that is where the run breaks off.
-/

set_option autoImplicit false
set_option relaxedAutoImplicit false

namespace TargetHelp

open Session

/-! ### Bytes with and without nodes -/

namespace Node

/-- Bytes hold some nodes if they are UTF-8 and the nodes are those of its lines, none of which is
bad. -/
def IsContent (bytes : Bytes) (nodes : List Node) : Prop :=
  ∃ t, Utf8.decode bytes = .ok t ∧
    (∀ line ∈ Text.lines (Text.universalLineEnds t), ¬ IsBad line) ∧
    nodes = decodings (Text.lines (Text.universalLineEnds t))

/-- The faults of lines are reported. -/
theorem IsFaultOf.isException {number : Nat} {line : Text} {f : Fault}
    (h : IsFaultOf number line f) : f.IsException := by
  by_cases hdigits : ∃ digits, Json.read line = .error (.tooManyDigits digits)
  · obtain ⟨digits, hread⟩ := hdigits
    obtain ⟨rfl, -⟩ := h.2 digits hread
    exact ⟨rfl, fun _ hmisuse => nomatch hmisuse⟩
  · obtain ⟨message, rfl⟩ := h.1 fun digits hread => hdigits ⟨digits, hread⟩
    exact ⟨rfl, fun _ hmisuse => nomatch hmisuse⟩

/-- Bytes that hold nodes are read as these. -/
theorem IsContent.result {bytes : Bytes} {nodes : List Node} (h : IsContent bytes nodes)
    (display : Text) (includePath : Json) :
    (readStream (Source.ofBytes display bytes) includePath).result = .ok nodes := by
  obtain ⟨t, hdecode, hgood, rfl⟩ := h
  rw [Source.ofBytes_of_decode hdecode]
  unfold readStream
  dsimp only
  rw [ofLines_of_not_isBad hgood]
  rfl

/-- What ends a reading of bytes early is reported. -/
theorem isException_of_fault {display : Text} {bytes : Bytes} {includePath : Json} {f : Fault}
    (h : (readStream (Source.ofBytes display bytes) includePath).fault = some f) :
    f.IsException := by
  rw [fault_readStream] at h
  rcases ofLines_cases 1 (Source.ofBytes display bytes).lines with
    ⟨-, hlines⟩ | ⟨before, line, after, g, -, -, -, hg, hlines⟩
  · -- All lines that could be decoded are good, so it is the bytes that ended the source.
    rw [hlines, Option.none_or] at h
    obtain ⟨error, rfl⟩ := Source.exists_decoding_of_fault h
    exact ⟨rfl, fun _ hmisuse => nomatch hmisuse⟩
  · rw [hlines] at h
    obtain rfl : g = f := Option.some.inj h
    exact hg.isException

/-- Bytes that are read to the end hold nodes. -/
theorem exists_isContent {display : Text} {bytes : Bytes} {includePath : Json}
    (h : (readStream (Source.ofBytes display bytes) includePath).fault = none) :
    ∃ nodes, IsContent bytes nodes := by
  by_cases hdecode : ∃ t, Utf8.decode bytes = .ok t
  · obtain ⟨t, hdecode⟩ := hdecode
    rw [Source.ofBytes_of_decode hdecode, fault_readStream, Option.or_none] at h
    exact ⟨_, t, hdecode, not_isBad_of_ofLines h, rfl⟩
  · obtain ⟨error, hfault⟩ := Source.fault_ofBytes (fun t ht => hdecode ⟨t, ht⟩) display
    rw [fault_readStream, hfault] at h
    cases (Option.or_eq_none_iff.mp h).2

end Node

/-! ### Runs -/

namespace World

open Arguments

variable {world : World}

/-- Some bytes are to be read at a path. -/
def Holds (world : World) (path : Json) (bytes : Bytes) : Prop :=
  if isInput path then world.input = bytes else world.system.open path = .ok bytes

theorem Holds.exists_sourceAt {path : Json} {bytes : Bytes} (h : world.Holds path bytes) :
    ∃ display, world.sourceAt path = .ok (Source.ofBytes display bytes) := by
  unfold Holds at h
  unfold sourceAt
  split at h
  · rename_i hinput
    rw [if_pos hinput, h]
    exact ⟨_, rfl⟩
  · rename_i hinput
    rw [if_neg hinput, Files.opened_of_open h]
    exact ⟨_, rfl⟩

/-- The comments that the built-in parser finds in some bytes, or the failure that is reported. -/
theorem commentsAt_of_holds {path : Json} {bytes : Bytes} (h : world.Holds path bytes)
    (includePath : Json) :
    ((∀ nodes, ¬ Node.IsContent bytes nodes) →
      ∃ f, world.commentsAt Node.readStream path includePath = .error (.failure "parsing" f)) ∧
    ∀ nodes, Node.IsContent bytes nodes →
      world.commentsAt Node.readStream path includePath = .ok (Node.documented nodes) := by
  obtain ⟨display, hsource⟩ := h.exists_sourceAt
  rw [commentsAt_of_ok hsource]
  refine ⟨fun hnot => ?_, fun nodes hnodes => ?_⟩
  · cases hfault : (Node.readStream (Source.ofBytes display bytes) includePath).fault with
    | none =>
      obtain ⟨nodes, hnodes⟩ := Node.exists_isContent hfault
      exact absurd hnodes (hnot nodes)
    | some f =>
      have hf := Node.isException_of_fault hfault
      exact ⟨f, by rw [Reading.comments_of_some hfault, hf.ofParsing]⟩
  · exact Reading.comments_of_result (hnodes.result display includePath)

/-- Whatever bytes a run reads with the built-in parser and no files of settings, it writes nothing
if they do not hold nodes, and reports an error. If they do, it shows all that its request shows of
them as long as this can be encoded, as it can if the texts of the nodes are plain; but the first
piece with a surrogate breaks it off behind what has been written. -/
theorem run_whole_view {argv : List Text} {values : Fields Json} {manager : Manager}
    {request : Request} (hargv : Obeyed argv values manager)
    (hrequest : requestOf? values = some request)
    (hparser : IsBuiltIn (parserSettingOf values)) (hoffers : world.catalogue.OffersNodeStream)
    (habsent : Settings.Absent world.system ((Fields.get? "config" values).getD .null))
    {bytes : Bytes} (hholds : world.Holds (pathOf values) bytes) :
    let run := outcome (world.run argv) World.session
    ((∀ nodes, ¬ Node.IsContent bytes nodes) → ReportsError manager run) ∧
    ∀ nodes, Node.IsContent bytes nodes → ∃ comments : List Comment,
      Comment.Documents nodes comments ∧
      let shown := request.shown nodes comments
      ((∀ n ∈ nodes, ∀ t ∈ n.texts, t.Plain) → ∀ t ∈ shown, t.Plain) ∧
      ((∀ t ∈ shown, t.Plain) → ShowsAll shown run) ∧
      ∀ before t after, shown = before ++ t :: after → (∀ u ∈ before, u.Plain) → ¬ t.Plain →
        ∃ error, Utf8.encode t = .error error ∧
          BreaksOff (.encoding error) ([Text.lineFeed] :: before) run := by
  intro run
  have hsettings : Related Echoes
      (Settings.resolve world.system values Settings.programKeys none)
      (pure (Settings.ofArguments values [] Settings.programKeys)) :=
    habsent.related_resolve hidesDetails_echoes _
  have hopen : ¬ world.ClosesErrors (pathOf values) := hargv.not_closesErrors world
  obtain ⟨parser, hload, hreads⟩ := hparser.exists_parser hoffers
  have hbuiltIn : ∀ other, world.loadParser (parserSettingOf values) = .ok other →
      other.Reads Node.readStream := by
    intro other hother
    obtain rfl := Except.ok.inj (hload.symm.trans hother)
    exact hreads
  obtain ⟨hnone, hsome⟩ := commentsAt_of_holds hholds
    (includePathOf (Settings.ofArguments values [] Settings.programKeys))
  refine ⟨fun hnot => ?_, fun nodes hnodes => ?_⟩
  · obtain ⟨f, hcomments⟩ := hnone hnot
    exact run_of_reported hargv hrequest hsettings hopen hbuiltIn hload hcomments
      (Or.inl ⟨_, _, rfl⟩)
  · have hdocuments := Node.documents_documented nodes
    have hcomments := hsome nodes hnodes
    refine ⟨Node.documented nodes, hdocuments, ?_⟩
    rw [← request.pieces_view hdocuments]
    refine ⟨fun hplain => View.plain_pieces (Node.plain_documented hplain) _, fun hplain => ?_,
      fun before t after hpieces hbefore ht => ?_⟩
    · exact run_of_plain hargv hrequest hsettings hopen hbuiltIn hload hcomments hplain
    · exact run_of_not_plain hargv hrequest hsettings hopen hbuiltIn hload hcomments hpieces
        hbefore ht

/-- Bytes of two records, the second one with an escape that names a surrogate, and some that are
not UTF-8: the description of a target breaks off in the former case behind the first record, and
does not begin in the latter. -/
theorem run_whole_view_broken_off :
    let record (value : Text) : Text :=
      "\x7b\x22kind\x22: \x22comment\x22, \x22target\x22: \x22a\x22, \x22value\x22: \x22" ++
        value ++ "\x22\x7d\n"
    let bytes := (Utf8.encode (record "one" ++ record "\\ud800")).toOption.getD []
    let world (bytes : Bytes) : World :=
      ⟨⟨.directory [("nodes", .file bytes)], [], [], []⟩, [], false, .builtIn⟩
    let run (bytes : Bytes) :=
      outcome ((world bytes).run ["describe", "-f", "nodes", "a", "-v"]) World.session
    (∃ error, BreaksOff (.encoding error) ["\n", "  one\n"] (run bytes)) ∧
      ∃ manager, ReportsError manager (run (bytes ++ [0xFF])) := by
  intro record bytes world run
  let nodes : List Node := [.comment ⟨"a", "one"⟩, .comment ⟨"a", [0xD800]⟩]
  have hnodes : Node.IsContent bytes nodes :=
    ⟨record "one" ++ record "\\ud800", by decide +kernel, by decide +kernel, by decide +kernel⟩
  have hmalformed : ∀ nodes, ¬ Node.IsContent (bytes ++ [0xFF]) nodes := by
    rintro nodes ⟨t, hdecode, -⟩
    have hnone : (Utf8.decode (bytes ++ [0xFF])).toOption = none := by decide +kernel
    rw [hdecode] at hnone
    cases hnone
  have hflags : ∀ flag ∈ [GlobalFlag.verbose false], flag.IsSound :=
    List.forall_mem_singleton.mpr fun _ h => nomatch h
  have hword : ∀ option ∈ [SourceOption.file false "nodes"], IsWord option.path :=
    List.forall_mem_singleton.mpr (Or.inl (by decide))
  have hdescribe : (Request.describe "a").IsSound := by
    rintro _ ⟨⟩
    decide
  have hmixed : Interleaving ([GlobalFlag.verbose false].map GlobalFlag.written)
      ((Request.describe "a").arguments [.file false "nodes"] [])
      ["describe", "-f", "nodes", "a", "-v"] := .right (.right (.right (.right (.left .nil))))
  obtain ⟨hrequest, manager, hargv⟩ :=
    Obeyed.exists_of_interleaving hflags hdescribe hword (List.forall_mem_nil _) hmixed
  have hoffers (bytes : Bytes) : (world bytes).catalogue.OffersNodeStream :=
    Catalogue.offersNodeStream_builtIn
  have habsent (bytes : Bytes) : Settings.Absent (world bytes).system .null :=
    ⟨List.forall_mem_singleton.mpr rfl, _, rfl⟩
  have hholds (bytes : Bytes) : (world bytes).Holds (.str "nodes") bytes := rfl
  have hview (bytes : Bytes) := run_whole_view hargv hrequest (Or.inl rfl) (hoffers bytes)
    (habsent bytes) (hholds bytes)
  refine ⟨?_, manager, (hview _).1 hmalformed⟩
  obtain ⟨comments, -, -, -, hbroken⟩ := (hview _).2 nodes hnodes
  have hshown : (Request.describe "a").shown nodes comments =
      [("  one\n" : Text)] ++ (Text.indentation ++ [0xD800, Text.lineFeed]) :: [] := by
    change List.map Comment.description (Comment.ofTarget _ (Node.comments nodes)) = _
    decide
  obtain ⟨error, -, hrun⟩ := hbroken _ _ _ hshown (by decide) (by decide)
  exact ⟨error, hrun⟩

/-- So a run with the built-in parser may neither show a view as a whole nor report an error on an
empty output: the only comment that the standard input holds here is a surrogate. -/
theorem run_neither_all_nor_nothing :
    let record : Text := "\x7b\x22kind\x22: \x22comment\x22, \x22target\x22: \x22a\x22, " ++
      "\x22value\x22: \x22\\ud800\x22\x7d\n"
    let world : World := ⟨⟨.directory [], [], [], []⟩, (Utf8.encode record).toOption.getD [], false,
      .builtIn⟩
    let run := outcome (world.run ["list"]) World.session
    (∀ code, run.1 ≠ .ok code) ∧ run.2.output.text = "\n" := by
  intro record world run
  let node : Node := .comment ⟨"a", [0xD800]⟩
  have hcontent : Node.IsContent world.input [node] :=
    ⟨record, by decide +kernel, by decide +kernel, by decide +kernel⟩
  have hlist : Request.list.IsSound := fun _ h => nomatch h
  have hmixed : Interleaving (([] : List GlobalFlag).map GlobalFlag.written)
      (Request.list.arguments [] []) ["list"] := .right .nil
  obtain ⟨hrequest, manager, hargv⟩ := Obeyed.exists_of_interleaving (List.forall_mem_nil _) hlist
    (List.forall_mem_nil _) (List.forall_mem_nil _) hmixed
  have hoffers : world.catalogue.OffersNodeStream := Catalogue.offersNodeStream_builtIn
  have hbuiltIn : IsBuiltIn .null := Or.inl rfl
  obtain ⟨parser, hload, hreads⟩ := hbuiltIn.exists_parser hoffers
  have hother : ∀ other, world.loadParser .null = .ok other → other.Reads Node.readStream := by
    intro other hfound
    obtain rfl := Except.ok.inj (hload.symm.trans hfound)
    exact hreads
  have habsent : Settings.Absent world.system .null := ⟨List.forall_mem_singleton.mpr rfl, _, rfl⟩
  have hholds : world.Holds inputName world.input := rfl
  have hpieces : View.short.pieces (Node.documented [node]) =
      [] ++ (("  a   " : Text) ++ [0xD800, Text.lineFeed]) :: [] := by decide +kernel
  obtain ⟨error, -, hrun⟩ := run_of_not_plain hargv hrequest
    (habsent.related_resolve hidesDetails_echoes _) (not_closesErrors_str world "-") hother hload
    ((commentsAt_of_holds hholds defaultIncludePath).2 _ hcontent) hpieces
    (List.forall_mem_nil _) (by decide)
  obtain ⟨hvalue, hwritten⟩ : BreaksOff (.encoding error) [[Text.lineFeed]] run := hrun
  refine ⟨fun code hcode => ?_, hwritten⟩
  cases hcode.symm.trans hvalue

end World

end TargetHelp
