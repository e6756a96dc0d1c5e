import TargetHelp.Proofs.Node.Codec
import TargetHelp.Proofs.Parser.Loading
import TargetHelp.Proofs.Settings.Precedence
import TargetHelp.Proofs.Text.Ascii
import TargetHelp.Run

/-!
# What a run is supplied with

Where there are no files of settings, the settings are what the command line gives. The path among
them leads to the bytes of the standard input or of a file, and the built-in parser reads from the
bytes of a dump the nodes that were dumped.
-/

set_option autoImplicit false
set_option relaxedAutoImplicit false

namespace TargetHelp

open Session

/-! ### Sources and parsers -/

namespace Catalogue

variable {catalogue : Catalogue}

/-- A specification leads to what is found under its path in its module. -/
theorem load_eq_ok {written : Text} {spec : Parser.Spec}
    (hspec : Parser.Spec.parse written = .ok spec)
    (habsolute : Text.startsWith "." spec.moduleName = false) {m : Module}
    (hmodule : catalogue.importModule spec.moduleName = .ok m) {thing : Thing}
    (hfollow : catalogue.follow (.module m.name) (Text.splitAll '.' spec.path) = .ok thing)
    (hcallable : catalogue.isCallable thing = true) : catalogue.load written = .ok thing := by
  rw [load_of_follow_ok hspec habsolute hmodule hfollow]
  exact if_pos hcallable

/-- A module has what it holds, unless all modules have it. -/
theorem member_module {home name : Text} {thing : Thing}
    (htype : catalogue.lookUp (catalogue.typeKey (.module home)) name = none)
    (hown : catalogue.ownMember? (.module home) name = some thing) :
    catalogue.member (.module home) name = .ok thing := by
  change catalogue.instanceMember (.module home) name = _
  unfold instanceMember
  rw [htype, hown]

/-- The specification of the built-in parser leads to what reads node streams. -/
def OffersNodeStream (catalogue : Catalogue) : Prop :=
  ∃ thing, catalogue.load Parser.defaultSpec = .ok thing ∧
    catalogue.call thing = .reads Node.readStream

/-- A catalogue whose module of node streams holds the built-in parser offers it. -/
theorem offersNodeStream_of_member {m : Module}
    (hmodule : catalogue.importModule "mmhelp.nodestream" = .ok m)
    (hrefusal : catalogue.refusal? (.module m.name) "parse_recursive" = none)
    (hmember : catalogue.member (.module m.name) "parse_recursive" =
      .ok (.function Parser.nodeStreamFunction))
    (hcallable : catalogue.isCallable (.function Parser.nodeStreamFunction) = true) :
    catalogue.OffersNodeStream := by
  have hspec : Parser.Spec.parse Parser.defaultSpec =
      .ok ⟨"mmhelp.nodestream", "parse_recursive"⟩ := by decide
  have hnames : Text.splitAll '.' "parse_recursive" = [("parse_recursive" : Text)] := by decide
  have hlead : catalogue.lead (.module m.name) "parse_recursive" =
      .ok (.function Parser.nodeStreamFunction) := by
    unfold lead
    rw [hrefusal, hmember]
    rfl
  refine ⟨.function Parser.nodeStreamFunction, ?_, rfl⟩
  refine load_eq_ok hspec (by decide) hmodule ?_ hcallable
  change catalogue.follow _ (Text.splitAll '.' "parse_recursive") = _
  unfold follow
  rw [hnames, List.foldlM_cons, hlead]
  rfl

/-- A type that is listed is the same with other types behind it. -/
theorem typeOf_followedBy {first : Catalogue} {key : Text}
    (h : (first.types.any fun t => t.key = key) = true) (rest : Catalogue) :
    (first.followedBy rest).typeOf key = first.typeOf key := by
  obtain ⟨t, ht, hkey⟩ := List.any_eq_true.mp h
  unfold typeOf followedBy
  dsimp only
  rw [List.find?_append]
  cases hfind : first.types.find? fun t => t.key = key with
  | none => exact absurd hkey (List.find?_eq_none.mp hfind t ht)
  | some found => rfl

/-- What is looked up in a type whose lineage is listed is the same with other types behind it. -/
theorem lookUp_followedBy {first : Catalogue} {key : Text}
    (h : ((key :: (first.typeOf key).above).all fun k =>
      first.types.any fun t => t.key = k) = true) (rest : Catalogue) (name : Text) :
    (first.followedBy rest).lookUp key name = first.lookUp key name := by
  have hlisted := List.all_eq_true.mp h
  have hlineage : (first.followedBy rest).lineage key = first.lineage key := by
    unfold lineage
    rw [typeOf_followedBy (hlisted key List.mem_cons_self)]
    refine congrArg _ (List.map_congr_left fun k hk => ?_)
    exact typeOf_followedBy (hlisted k (List.mem_cons_of_mem key hk)) rest
  unfold lookUp
  rw [hlineage]

/-- Whatever there is besides, the built-in modules offer the built-in parser. -/
theorem offersNodeStream_followedBy (rest : Catalogue) :
    (builtIn.followedBy rest).OffersNodeStream := by
  have hmodule : (builtIn.followedBy rest).importModule "mmhelp.nodestream" = .ok {
      name := "mmhelp.nodestream"
      isPackage := false || (rest.module? "mmhelp.nodestream").any Module.isPackage
      members := .ok (([("parse_recursive", .function Parser.nodeStreamFunction)] : Fields Thing) ++
        rest.held "mmhelp.nodestream") } := rfl
  have htype : (builtIn.followedBy rest).lookUp "module" "parse_recursive" = none := by
    rw [lookUp_followedBy (by decide +kernel)]
    exact Option.isNone_iff_eq_none.mp (by decide +kernel)
  have hcallable : ((builtIn.followedBy rest).lookUp "function" "__call__").isSome = true := by
    rw [lookUp_followedBy (by decide +kernel)]
    decide +kernel
  exact offersNodeStream_of_member hmodule rfl (member_module htype rfl) hcallable

/-- So the program offers it in every world. -/
theorem offersNodeStream_program (world : World) :
    (Program.catalogue world).OffersNodeStream := offersNodeStream_followedBy _

theorem offersNodeStream_builtIn : builtIn.OffersNodeStream := by
  have htype : builtIn.lookUp "module" "parse_recursive" = none :=
    Option.isNone_iff_eq_none.mp (by decide +kernel)
  exact offersNodeStream_of_member (m := {
    name := "mmhelp.nodestream"
    members := .ok [("parse_recursive", .function Parser.nodeStreamFunction)] }) rfl rfl
    (member_module htype rfl) (by decide +kernel)

end Catalogue

/-- What can be read can be opened. -/
theorem Files.opened_of_open {system : Files.System} {value : Json} {bytes : Bytes}
    (h : system.open value = .ok bytes) : system.opened value = .ok (.ok bytes) := by
  unfold Files.System.opened
  cases hdescriptor : Files.descriptor? value with
  | none =>
    dsimp only
    rw [h]
    rfl
  | some descriptor =>
    have hread : (system.openDescriptor descriptor >>= fun content =>
        content.mapError fun problem => Fault.file problem none) = .ok bytes := by
      unfold Files.System.open at h
      split at h
      · cases hdescriptor
      · rw [hdescriptor] at h
        exact h
    obtain ⟨content, hcontent, hread⟩ := bind_eq_ok_iff.mp hread
    cases content with
    | ok found =>
      obtain rfl := Except.ok.inj hread
      exact hcontent
    | error problem => cases hread

namespace World

variable {world : World}

/-- A run finds some bytes at the path that it may have been given: on the standard input, which is
no terminal, or in a file. -/
inductive Supplies (world : World) (bytes : Bytes) : Option Text → Prop
  | input {path? : Option Text} (hpath : ∀ path ∈ path?, path = [] ∨ path = "-")
      (hterminal : world.isTerminal = false) (hinput : world.input = bytes) :
      Supplies world bytes path?
  | file {path : Text} (hpath : path ≠ "-") (hopen : world.system.open (.str path) = .ok bytes) :
      Supplies world bytes (some path)

/-- Nothing can be read at the empty path. -/
theorem open_nil_ne_ok (system : Files.System) (bytes : Bytes) :
    system.open (.str []) ≠ .ok bytes :=
  fun h => nomatch h

theorem Supplies.openSource {bytes : Bytes} {path? : Option Text}
    (h : world.Supplies bytes path?) {settings : Fields Json}
    (hsettings : (Fields.get? "file" settings).getD .null = (path?.map .str).getD .null) :
    ∃ display, world.openSource (settingOr settings "file" inputName) =
      pure (Source.ofBytes display bytes) := by
  unfold settingOr
  rw [hsettings]
  cases h with
  | input hpath hterminal hinput =>
    refine ⟨streamDisplay (.str "<stdin>"), ?_⟩
    have hname : (if ((path?.map Json.str).getD .null).isGiven then
        (path?.map Json.str).getD .null else inputName) = inputName := by
      cases path? with
      | none => rfl
      | some path =>
        rcases hpath path rfl with rfl | rfl
        · rfl
        · rfl
    dsimp only
    rw [hname, World.openSource, hterminal, hinput]
    rfl
  | @file path hpath hopen =>
    have hgiven : (Json.str path).isGiven = true := by
      cases path with
      | nil => exact absurd hopen (open_nil_ne_ok _ _)
      | cons c path => rfl
    have hinput : isInput (.str path) = false := decide_eq_false hpath
    refine ⟨streamDisplay (.str path), ?_⟩
    dsimp only [Option.map_some, Option.getD_some]
    rw [if_pos hgiven, World.openSource, hinput, Files.opened_of_open hopen]
    rfl

/-- The parser of a setting that is not given is the one with the specification of the built-in
parser. -/
theorem loadParser_of_not_given {setting : Json} (h : setting.isGiven = false) (world : World) :
    world.loadParser setting =
      (world.catalogue.load Parser.defaultSpec).map world.catalogue.parserOf := by
  unfold loadParser
  rw [h, if_neg Bool.false_ne_true]

/-- A setting that leads to the built-in parser: none at all, or its own specification. -/
def IsBuiltIn (setting : Json) : Prop :=
  setting.isGiven = false ∨ setting = .str Parser.defaultSpec

theorem IsBuiltIn.exists_parser {setting : Json} (h : IsBuiltIn setting) {world : World}
    (hoffers : world.catalogue.OffersNodeStream) :
    ∃ parser, world.loadParser setting = .ok parser ∧ parser.Reads Node.readStream := by
  obtain ⟨thing, hload, hcall⟩ := hoffers
  have hdefault : (world.catalogue.load Parser.defaultSpec).map world.catalogue.parserOf =
      .ok (world.catalogue.parserOf thing) := by
    rw [hload]
    rfl
  refine ⟨world.catalogue.parserOf thing, ?_, hcall⟩
  rcases h with hnot | rfl
  · rw [loadParser_of_not_given hnot, hdefault]
  · exact hdefault

end World

/-! ### Dumps -/

namespace Node

theorem ascii_dump (nodes : List Node) : (dump nodes).Ascii := by
  intro c hc
  rw [dump_eq] at hc
  obtain ⟨line, hline, hc⟩ := List.mem_flatten.mp hc
  obtain ⟨b, hb, rfl⟩ := List.mem_map.mp hline
  obtain ⟨n, -, rfl⟩ := List.mem_map.mp hb
  rcases List.mem_append.mp hc with hc | hc
  · exact Nat.lt_of_le_of_lt ((printableAscii_body n) c hc).2 (by decide)
  · obtain rfl := List.mem_singleton.mp hc
    decide

/-- The bytes of a dump are read as the nodes that were dumped. -/
theorem readStream_bytes {nodes : List Node} (h : ∀ n ∈ nodes, ∀ t ∈ n.texts, t.Plain)
    {bytes : Bytes} (hbytes : Utf8.encode (dump nodes) = .ok bytes) (display : Text)
    (includePath : Json) :
    readStream (Source.ofBytes display bytes) includePath =
      { nodes, reports := [readingReport nodes.length includePath] } := by
  rw [Source.ofBytes_of_ascii (ascii_dump nodes) hbytes, universalLineEnds_dump]
  exact readStream_of_lines (fun n hn t ht => (h n hn t ht).unpaired) rfl rfl includePath

end Node

end TargetHelp
