import TargetHelp.Arguments.Program
import TargetHelp.Channel.Spec
import TargetHelp.Proofs.Text.Pieces

/-!
# Global flags among other arguments

An argument may act on what has been read so far by itself, whatever stands around it. The global
flags that carry their values do, and so does every argument that is none of the program's global
flags. A command line of such arguments is read one argument after the other.
-/

set_option autoImplicit false
set_option relaxedAutoImplicit false

namespace TargetHelp

namespace Arguments

/-- An argument acts on what has been read so far and neither needs nor takes the one behind it. -/
structure ActsAs (t : Text) (act : Read → Read) : Prop where
  ne_separator : t ≠ separator
  step : ∃ form, formOf globalGrammar t = .ok form ∧
    ∀ r next?, Arguments.step globalGrammar r ⟨t, form⟩ next? = .ok (act r, false)

/-- Arguments that act by themselves are read one after the other. -/
theorem readGlobal_of_actsAs {items : List (Text × (Read → Read))}
    (h : ∀ item ∈ items, ActsAs item.1 item.2) :
    readGlobal (items.map Prod.fst) =
      .ok (items.foldl (fun r item => item.2 r) ⟨globalDefaults, [], false⟩) := by
  have htokens : ∃ ts, tokens globalGrammar (items.map Prod.fst) = .ok ts ∧
      ∀ r, readTokens globalGrammar [] r false ts =
        .ok (items.foldl (fun r item => item.2 r) r) := by
    induction items with
    | nil => exact ⟨[], rfl, fun _ => rfl⟩
    | cons item items ih =>
      obtain ⟨t, act⟩ := item
      obtain ⟨hne, form, hform, hstep⟩ := h (t, act) List.mem_cons_self
      obtain ⟨ts, hts, hread⟩ := ih fun other hm => h other (List.mem_cons_of_mem _ hm)
      refine ⟨⟨t, form⟩ :: ts, ?_, fun r => ?_⟩
      · change (if t = separator then _ else (formOf globalGrammar t >>= _)) = _
        rw [if_neg hne, hform]
        change (tokens globalGrammar (items.map Prod.fst) >>= _) = _
        rw [hts]
        rfl
      · have hword : commandWord? [] ⟨t, form⟩ ts.head? = none := rfl
        rw [readTokens, hword]
        dsimp only
        rw [hstep r ts.head?]
        exact hread (act r)
  obtain ⟨ts, hts, hread⟩ := htokens
  unfold readGlobal readKnown
  rw [hts]
  exact hread _

/-! ### Single arguments -/

theorem actsAs_verbose : ActsAs "-v" fun r => r.increment "verbose" :=
  ⟨by decide, .flag verboseFlag "-v" none, rfl, fun _ _ => rfl⟩

theorem actsAs_quiet : ActsAs "-Q" fun r => r.increment "quiet" :=
  ⟨by decide, .flag quietFlag "-Q" none, rfl, fun _ _ => rfl⟩

/-- A flag that takes its value from its own argument does with it what it does. -/
theorem shared_of_takesValue {g : Grammar} {flag : Flag} (h : flag.action.takesValue = true)
    (isLong : Bool) (value : Text) :
    shared g flag isLong value = .ok ([⟨flag, some value⟩], none) := by
  cases value with
  | nil => rw [shared, if_pos h]
  | cons c value => rw [shared, if_pos h]

/-- No flag has an equals sign in its name, so what is behind the first one is its value. -/
theorem named?_valued {flag : Flag} {name : Text} (hfind : globalGrammar.find? name = some flag)
    (hname : CodePoint.ofChar '=' ∉ name) (value : Text) :
    named? globalGrammar (name ++ CodePoint.ofChar '=' :: value) =
      some (.flag flag name (some value)) := by
  have hequals : CodePoint.ofChar '=' ∈ name ++ CodePoint.ofChar '=' :: value :=
    List.mem_append_right _ List.mem_cons_self
  have hnames : ∀ n ∈ Fields.keys globalGrammar.names, CodePoint.ofChar '=' ∉ n := by decide
  have hwhole : globalGrammar.find? (name ++ CodePoint.ofChar '=' :: value) = none :=
    (Fields.get?_eq_none_iff _ _).mpr fun hm => hnames _ hm hequals
  unfold named?
  rw [hwhole]
  dsimp only
  rw [Text.splitFirst_append hname]
  dsimp only
  rw [hfind]
  rfl

/-- A long flag with its value behind an equals sign acts by itself. -/
theorem actsAs_valued {flag : Flag} (word : Text) {value : Text} {act : Read → Read}
    (hfind : globalGrammar.find? (separator ++ word) = some flag)
    (hword : CodePoint.ofChar '=' ∉ separator ++ word) (htakes : flag.action.takesValue = true)
    (hact : ∀ r, Use.apply globalGrammar r ⟨flag, some value⟩ = .ok (act r)) :
    ActsAs (separator ++ word ++ CodePoint.ofChar '=' :: value) act := by
  have hlong : 2 < (separator ++ word ++ CodePoint.ofChar '=' :: value).length := by
    have hseparator : separator.length = 2 := rfl
    simp only [List.length_append, List.length_cons]
    omega
  have hflag : ¬ ((separator ++ word ++ CodePoint.ofChar '=' :: value).head? ≠ some dash ∨
      separator ++ word ++ CodePoint.ofChar '=' :: value = [dash]) := by
    rintro (hhead | hdash)
    · exact hhead rfl
    · rw [hdash] at hlong
      exact absurd hlong (by decide)
  refine ⟨fun heq => ?_, .flag flag (separator ++ word) (some value), ?_, fun r next? => ?_⟩
  · rw [heq] at hlong
    exact absurd hlong (by decide)
  · unfold formOf
    rw [if_neg hflag, named?_valued hfind hword]
  · unfold Arguments.step usesOf
    dsimp only
    rw [shared_of_takesValue htakes]
    change ([Use.mk flag (some value)].foldlM (Use.apply globalGrammar) r >>= _) = _
    rw [List.foldlM_cons, hact r]
    rfl

theorem actsAs_show (spec : Text) :
    ActsAs ("--show=" ++ spec) fun r =>
      r.collect "show" (if some spec = some separator then .null else .str spec) :=
  actsAs_valued "show" rfl (by decide) rfl fun _ => rfl

theorem actsAs_config (path : Text) :
    ActsAs ("--config=" ++ path) fun r =>
      r.set "config" (if some path = some separator then .arr [] else .str path) :=
  actsAs_valued "config" rfl (by decide) rfl fun _ => rfl

/-- A word is left over. -/
theorem actsAs_word {t : Text} (h : t.head? ≠ some dash ∨ t = [dash]) :
    ActsAs t fun r => r.leave t := by
  refine ⟨?_, .word, if_pos h, fun _ _ => rfl⟩
  rintro rfl
  rcases h with h | h
  · exact h rfl
  · exact absurd h (by decide)

/-- The flags that say where input comes from. -/
def sourceNames : List Text := ["-f", "--file", "-I", "--include-dir", "--parser"]

/-- A flag that is not global is left over. -/
theorem actsAs_source {t : Text} (h : t ∈ sourceNames) : ActsAs t fun r => r.leave t := by
  have hunknown : ∀ u ∈ sourceNames, u ≠ separator ∧ formOf globalGrammar u = .ok .unknown := by
    unfold sourceNames
    simp only [List.forall_mem_cons]
    exact ⟨⟨by decide, rfl⟩, ⟨by decide, rfl⟩, ⟨by decide, rfl⟩, ⟨by decide, rfl⟩,
      ⟨by decide, rfl⟩, List.forall_mem_nil _⟩
  obtain ⟨hne, hform⟩ := hunknown t h
  exact ⟨hne, .unknown, hform, fun _ _ => rfl⟩

/-! ### What has been read -/

/-- A reading of global flags: how often the counting ones were given, the values that `--show`
has noted, the path of the settings, and what is left over. -/
def globalRead (verbose quiet : Int) (channels : List Json) (config : Json)
    (leftOver : List Text) : Read where
  values := [("verbose", .int verbose), ("quiet", .int quiet),
    ("show", if channels.isEmpty then .null else .arr channels), ("config", config)]
  leftOver

section Read

variable (verbose quiet : Int) (channels : List Json) (config : Json) (leftOver : List Text)

theorem increment_verbose :
    (globalRead verbose quiet channels config leftOver).increment "verbose" =
      globalRead (verbose + 1) quiet channels config leftOver := rfl

theorem increment_quiet :
    (globalRead verbose quiet channels config leftOver).increment "quiet" =
      globalRead verbose (quiet + 1) channels config leftOver := rfl

theorem collect_show (value : Json) :
    (globalRead verbose quiet channels config leftOver).collect "show" value =
      globalRead verbose quiet (channels ++ [value]) config leftOver := by
  cases channels <;> rfl

theorem set_config (value : Json) :
    (globalRead verbose quiet channels config leftOver).set "config" value =
      globalRead verbose quiet channels value leftOver := rfl

theorem leave_globalRead (t : Text) :
    (globalRead verbose quiet channels config leftOver).leave t =
      globalRead verbose quiet channels config (leftOver ++ [t]) := rfl

end Read

/-! ### Flags of diagnostics -/

/-- A flag that says how much is told: more of all, less of all, or how much on a channel. What
`--show=--` asks for is no channel. -/
inductive IsDiagnosticFlag : Text → Prop
  | verbose : IsDiagnosticFlag "-v"
  | quiet : IsDiagnosticFlag "-Q"
  | channel {spec : Text} {parsed : Channel.Spec} (hparse : Channel.Spec.parse spec = .ok parsed)
      (hspec : spec ≠ separator) : IsDiagnosticFlag ("--show=" ++ spec)

/-- An argument that says what is to be done: a word, a flag that says where input comes from, or
the path of the settings. -/
inductive IsRequest : Text → Prop
  | word {t : Text} (h : t.head? ≠ some dash ∨ t = [dash]) : IsRequest t
  | source {t : Text} (h : t ∈ sourceNames) : IsRequest t
  | config (path : Text) : IsRequest ("--config=" ++ path)

/-- Specifications of channels that are well-formed. -/
def WellFormed (specs : List Text) : Prop :=
  ∀ spec ∈ specs, ∃ parsed, Channel.Spec.parse spec = .ok parsed

theorem WellFormed.append {specs : List Text} (h : WellFormed specs) {spec : Text}
    {parsed : Channel.Spec} (hparse : Channel.Spec.parse spec = .ok parsed) :
    WellFormed (specs ++ [spec]) := by
  intro other hother
  rcases List.mem_append.mp hother with hm | hm
  · exact h other hm
  · rw [List.mem_singleton.mp hm]
    exact ⟨parsed, hparse⟩

/-- What a flag of diagnostics changes in a reading. -/
theorem IsDiagnosticFlag.actsAs {t : Text} (h : IsDiagnosticFlag t) :
    ∃ act, ActsAs t act ∧ ∀ verbose quiet specs config leftOver, WellFormed specs →
      ∃ verbose' quiet' specs', WellFormed specs' ∧
        act (globalRead verbose quiet (specs.map .str) config leftOver) =
          globalRead verbose' quiet' (specs'.map .str) config leftOver := by
  cases h with
  | verbose =>
    refine ⟨_, actsAs_verbose, fun v q specs c l hspecs => ?_⟩
    exact ⟨v + 1, q, specs, hspecs, increment_verbose v q _ c l⟩
  | quiet =>
    refine ⟨_, actsAs_quiet, fun v q specs c l hspecs => ?_⟩
    exact ⟨v, q + 1, specs, hspecs, increment_quiet v q _ c l⟩
  | @channel spec parsed hparse hspec =>
    refine ⟨_, actsAs_show spec, fun v q specs c l hspecs => ?_⟩
    have hvalue : ¬ some spec = some separator := fun heq => hspec (Option.some.inj heq)
    refine ⟨v, q, specs ++ [spec], hspecs.append hparse, ?_⟩
    rw [if_neg hvalue, collect_show, List.map_append]
    rfl

/-- A request changes the path of the settings or what is left over, whatever else has been read. -/
theorem IsRequest.actsAs {t : Text} (h : IsRequest t) :
    ∃ act, ActsAs t act ∧ ∀ config leftOver, ∃ config' leftOver', ∀ verbose quiet channels,
      act (globalRead verbose quiet channels config leftOver) =
        globalRead verbose quiet channels config' leftOver' := by
  cases h with
  | word hword =>
    refine ⟨_, actsAs_word hword, fun c l => ⟨c, l ++ [t], fun v q channels => ?_⟩⟩
    exact leave_globalRead v q channels c l t
  | source hsource =>
    refine ⟨_, actsAs_source hsource, fun c l => ⟨c, l ++ [t], fun v q channels => ?_⟩⟩
    exact leave_globalRead v q channels c l t
  | config path =>
    exact ⟨_, actsAs_config path, fun c l => ⟨_, l, fun v q channels =>
      set_config v q channels c l _⟩⟩

theorem exists_items_of_diagnostics {ts : List Text} (h : ∀ t ∈ ts, IsDiagnosticFlag t) :
    ∃ items : List (Text × (Read → Read)), items.map Prod.fst = ts ∧
      (∀ item ∈ items, ActsAs item.1 item.2) ∧
      ∀ verbose quiet specs config leftOver, WellFormed specs →
        ∃ verbose' quiet' specs', WellFormed specs' ∧
          items.foldl (fun r item => item.2 r)
            (globalRead verbose quiet (specs.map .str) config leftOver) =
              globalRead verbose' quiet' (specs'.map .str) config leftOver := by
  induction ts with
  | nil => exact ⟨[], rfl, List.forall_mem_nil _, fun v q specs c l hs => ⟨v, q, specs, hs, rfl⟩⟩
  | cons t ts ih =>
    obtain ⟨act, hact, heffect⟩ := (h t List.mem_cons_self).actsAs
    obtain ⟨items, hitems, hacts, heffects⟩ := ih fun u hu => h u (List.mem_cons_of_mem t hu)
    refine ⟨(t, act) :: items, by rw [List.map_cons, hitems],
      List.forall_mem_cons.mpr ⟨hact, hacts⟩, fun v q specs c l hs => ?_⟩
    obtain ⟨v', q', specs', hs', hread⟩ := heffect v q specs c l hs
    rw [List.foldl_cons]
    dsimp only
    rw [hread]
    exact heffects v' q' specs' c l hs'

theorem exists_items_of_requests {ts : List Text} (h : ∀ t ∈ ts, IsRequest t) :
    ∃ items : List (Text × (Read → Read)), items.map Prod.fst = ts ∧
      (∀ item ∈ items, ActsAs item.1 item.2) ∧
      ∀ config leftOver, ∃ config' leftOver', ∀ verbose quiet channels,
        items.foldl (fun r item => item.2 r) (globalRead verbose quiet channels config leftOver) =
          globalRead verbose quiet channels config' leftOver' := by
  induction ts with
  | nil => exact ⟨[], rfl, List.forall_mem_nil _, fun c l => ⟨c, l, fun _ _ _ => rfl⟩⟩
  | cons t ts ih =>
    obtain ⟨act, hact, heffect⟩ := (h t List.mem_cons_self).actsAs
    obtain ⟨items, hitems, hacts, heffects⟩ := ih fun u hu => h u (List.mem_cons_of_mem t hu)
    refine ⟨(t, act) :: items, by rw [List.map_cons, hitems],
      List.forall_mem_cons.mpr ⟨hact, hacts⟩, fun c l => ?_⟩
    obtain ⟨c', l', hread⟩ := heffect c l
    obtain ⟨c'', l'', hreads⟩ := heffects c' l'
    refine ⟨c'', l'', fun v q channels => ?_⟩
    rw [List.foldl_cons]
    dsimp only
    rw [hread]
    exact hreads v q channels

/-- Flags of diagnostics in front of a request leave the request as it is. -/
theorem readGlobal_diagnostics {rest : List Text} (hrest : ∀ t ∈ rest, IsRequest t) :
    ∃ config leftOver, ∀ flags : List Text, (∀ t ∈ flags, IsDiagnosticFlag t) →
      ∃ verbose quiet specs, WellFormed specs ∧
        readGlobal (flags ++ rest) =
          .ok (globalRead verbose quiet (specs.map .str) config leftOver) := by
  obtain ⟨requests, hrequests, hactsRest, heffectRest⟩ := exists_items_of_requests hrest
  obtain ⟨config, leftOver, hreadRest⟩ := heffectRest .null []
  refine ⟨config, leftOver, fun flags hflags => ?_⟩
  obtain ⟨items, hitems, hacts, heffect⟩ := exists_items_of_diagnostics hflags
  obtain ⟨verbose, quiet, specs, hspecs, hread⟩ := heffect 0 0 [] .null [] (List.forall_mem_nil _)
  refine ⟨verbose, quiet, specs, hspecs, ?_⟩
  have hall : ∀ item ∈ items ++ requests, ActsAs item.1 item.2 :=
    List.forall_mem_append.mpr ⟨hacts, hactsRest⟩
  rw [← hitems, ← hrequests, ← List.map_append, readGlobal_of_actsAs hall, List.foldl_append]
  change Except.ok (requests.foldl _ (items.foldl _
    (globalRead 0 0 (([] : List Text).map .str) .null []))) = _
  rw [hread, hreadRest]

end Arguments

end TargetHelp
