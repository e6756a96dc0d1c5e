import TargetHelp.Proofs.Channel.Grammar
import TargetHelp.Proofs.Session.Failure
import TargetHelp.Proofs.Session.Tracing

/-!
# What a new manager prints

A manager is made for a verbosity and any number of specifications, or for none of them if one is
malformed. `Channel.Decides` says which level counts for a channel by the place of the
specifications in their list, and that level is the threshold under the new manager, whatever is
done to the session meanwhile: a message on the channel is printed, as it stands, if and only if the
threshold is above the wall and not below the level of the message (`start_thresholds`).
-/

set_option autoImplicit false
set_option relaxedAutoImplicit false

namespace TargetHelp

/-! ### Levels that count -/

namespace Channel

/-- A text specifies some level for a channel. -/
def Names (channel written : Text) : Prop := ∃ level, Spec.IsWritten ⟨channel, level⟩ written

/-- The level that counts for a channel is that of the last specification that names it. If there is
none, a channel that is to be silent stays so, and the overall verbosity counts for any other. -/
inductive Decides (optIn : List Json) (verbosity : Int) (specs : List Text) (channel : Text) :
    Int → Prop
  | specified {before after : List Text} {written : Text} {level : Int}
      (hspecs : specs = before ++ written :: after)
      (hwritten : Spec.IsWritten ⟨channel, level⟩ written)
      (hlast : ∀ later ∈ after, ¬ Names channel later) : Decides optIn verbosity specs channel level
  | silent (hnone : ∀ written ∈ specs, ¬ Names channel written) (h : .str channel ∈ optIn) :
      Decides optIn verbosity specs channel Level.minimal
  | overall (hnone : ∀ written ∈ specs, ¬ Names channel written) (h : .str channel ∉ optIn) :
      Decides optIn verbosity specs channel verbosity

variable {channel : Text} {specs : List Text}

/-- Of the texts that name a channel one is the last. -/
theorem exists_last_names (h : ∃ written ∈ specs, Names channel written) :
    ∃ before written after, specs = before ++ written :: after ∧ Names channel written ∧
      ∀ later ∈ after, ¬ Names channel later := by
  induction specs with
  | nil =>
    obtain ⟨written, hwritten, -⟩ := h
    cases hwritten
  | cons spec specs ih =>
    by_cases hlater : ∃ written ∈ specs, Names channel written
    · obtain ⟨before, written, after, rfl, hwritten, hlast⟩ := ih hlater
      exact ⟨spec :: before, written, after, rfl, hwritten, hlast⟩
    · have hnone : ∀ later ∈ specs, ¬ Names channel later := fun later hlater' hnames =>
        hlater ⟨later, hlater', hnames⟩
      obtain ⟨written, hwritten, hnames⟩ := h
      rcases List.mem_cons.mp hwritten with rfl | hwritten
      · exact ⟨[], written, specs, rfl, hnames, hnone⟩
      · exact absurd hnames (hnone written hwritten)

theorem exists_decides (optIn : List Json) (verbosity : Int) (specs : List Text) (channel : Text) :
    ∃ n, Decides optIn verbosity specs channel n := by
  by_cases hnames : ∃ written ∈ specs, Names channel written
  · obtain ⟨before, written, after, hspecs, ⟨level, hwritten⟩, hlast⟩ := exists_last_names hnames
    exact ⟨level, .specified hspecs hwritten hlast⟩
  · have hnone : ∀ written ∈ specs, ¬ Names channel written := fun written hwritten h =>
      hnames ⟨written, hwritten, h⟩
    by_cases hsilent : .str channel ∈ optIn
    · exact ⟨_, .silent hnone hsilent⟩
    · exact ⟨_, .overall hnone hsilent⟩

theorem not_names {written : Text} {spec : Spec} (h : Spec.parse written = .ok spec)
    (hname : spec.name ≠ channel) : ¬ Names channel written := by
  rintro ⟨level, hwritten⟩
  obtain rfl : spec = ⟨channel, level⟩ := Except.ok.inj (h.symm.trans hwritten.parse)
  exact hname rfl

theorem levelOf?_append (channel : Text) (before after : List Text) :
    levelOf? channel (before ++ after) = (levelOf? channel after).or (levelOf? channel before) := by
  unfold levelOf?
  rw [List.filterMap_append, List.reverse_append, List.find?_append, Option.map_or]

theorem levelOf?_of_not_names (h : ∀ written ∈ specs, ¬ Names channel written) :
    levelOf? channel specs = none := by
  refine levelOf?_eq_none fun written hwritten parsed hparsed hname => ?_
  subst hname
  exact h written hwritten ⟨parsed.level, Spec.parse_eq_ok_iff.mp hparsed⟩

theorem levelOf?_of_last {before after : List Text} {written : Text} {level : Int}
    (hwritten : Spec.IsWritten ⟨channel, level⟩ written)
    (hlast : ∀ later ∈ after, ¬ Names channel later) :
    levelOf? channel (before ++ written :: after) = some level := by
  rw [levelOf?_append, levelOf?_cons hwritten.parse, levelOf?_of_not_names hlast, if_pos rfl]
  rfl

end Channel

namespace Session

open Channel (Names Decides)

variable {s : Session} {verbosity : Int} {specs : List Text} {destination : Destination}

/-- Under a new manager the level that counts for a channel is its threshold. -/
theorem threshold_of_decides {channels : Channel.Table} {manager : Manager}
    (h : managerOf channels verbosity specs destination = .ok manager) {channel : Text} {n : Int}
    (hdecides : Decides channels.optIn verbosity specs channel n) :
    manager.threshold channel = .level n := by
  have hsame : (channels.optIn.any fun name => Json.same name (.str channel)) = true ↔
      .str channel ∈ channels.optIn := by
    simp only [List.any_eq_true, Json.same_str_iff, exists_eq_right]
  rw [threshold_of_managerOf h]
  cases hdecides with
  | specified hspecs hwritten hlast =>
    rw [hspecs, Channel.levelOf?_of_last hwritten hlast]
    rfl
  | silent hnone hsilent =>
    rw [Channel.levelOf?_of_not_names hnone, if_pos (hsame.mpr hsilent)]
    rfl
  | overall hnone hsilent =>
    rw [Channel.levelOf?_of_not_names hnone, if_neg fun hany => hsilent (hsame.mp hany)]
    rfl

/-! ### Specifications that can be read -/

/-- A text is a specification of something. -/
def IsReadable (written : Text) : Prop := ∃ spec : Channel.Spec, spec.IsWritten written

theorem exists_parsed (h : ∀ written ∈ specs, IsReadable written) :
    ∀ written ∈ specs, ∃ parsed, Channel.Spec.parse written = .ok parsed :=
  fun written hwritten => (h written hwritten).imp fun _ hspec => hspec.parse

/-- The first specification that cannot be read says why there is no new manager. -/
theorem managerOf_of_first_malformed (channels : Channel.Table) (verbosity : Threshold)
    (destination : Destination) {before : List Text} (after : List Text) {written : Text}
    {error : Channel.SpecError} (hbefore : ∀ other ∈ before, IsReadable other)
    (hwritten : Channel.Spec.Fails written error) :
    managerOf channels verbosity (before ++ written :: after) destination =
      .error (.channel error) := by
  obtain ⟨overrides, hoverrides⟩ := foldlM_of_parse (exists_parsed hbefore)
    (channels.optIn.foldl (fun overrides name => Json.Table.set name Level.minimal overrides) [])
  unfold managerOf overridesOf
  dsimp only
  rw [List.foldlM_append, hoverrides]
  change (Except.mapError _ (List.foldlM _ _ _) >>= _) = _
  rw [List.foldlM_cons, hwritten.parse]
  rfl

/-- Among specifications that cannot all be read one is the first that cannot. -/
theorem exists_first_malformed (h : ¬ ∀ written ∈ specs, IsReadable written) :
    ∃ before written after error, specs = before ++ written :: after ∧
      (∀ other ∈ before, IsReadable other) ∧ Channel.Spec.Fails written error := by
  induction specs with
  | nil => exact absurd (List.forall_mem_nil _) h
  | cons spec specs ih =>
    obtain hspec | ⟨error, herror⟩ := Channel.Spec.isWritten_or_fails spec
    · have hrest : ¬ ∀ written ∈ specs, IsReadable written := fun hall =>
        h (List.forall_mem_cons.mpr ⟨hspec, hall⟩)
      obtain ⟨before, written, after, error, rfl, hbefore, hwritten⟩ := ih hrest
      exact ⟨spec :: before, written, after, error, rfl,
        List.forall_mem_cons.mpr ⟨hspec, hbefore⟩, hwritten⟩
    · exact ⟨[], spec, specs, error, rfl, List.forall_mem_nil _, herror⟩

theorem outcome_start_of_first_malformed {before after : List Text} {written : Text}
    {error : Channel.SpecError} (hbefore : ∀ other ∈ before, IsReadable other)
    (hwritten : Channel.Spec.Fails written error) :
    outcome (start verbosity (before ++ written :: after) destination) s =
      (.error (.channel error), s) :=
  outcome_start_of_error
    (managerOf_of_first_malformed s.channels verbosity destination after hbefore hwritten)

theorem outcome_start_of_readable (h : ∀ written ∈ specs, IsReadable written) :
    ∃ manager, managerOf s.channels verbosity specs destination = .ok manager ∧
      outcome (start verbosity specs destination) s = (.ok (), s.withManager manager) := by
  obtain ⟨manager, hmanager⟩ :=
    exists_managerOf s.channels verbosity (exists_parsed h) destination
  exact ⟨manager, hmanager, outcome_start hmanager⟩

theorem outcome_start_eq_ok_iff :
    (outcome (start verbosity specs destination) s).1 = .ok () ↔
      ∀ written ∈ specs, IsReadable written := by
  constructor
  · intro hok
    by_contra hnot
    obtain ⟨before, written, after, error, rfl, hbefore, hwritten⟩ := exists_first_malformed hnot
    rw [outcome_start_of_first_malformed hbefore hwritten] at hok
    cases hok
  · intro h
    obtain ⟨manager, -, hstarted⟩ := outcome_start_of_readable h
    exact congrArg Prod.fst hstarted

/-- What is refused is the first specification that cannot be read. -/
theorem outcome_start_eq_error_iff {error : Channel.SpecError} :
    outcome (start verbosity specs destination) s = (.error (.channel error), s) ↔
      ∃ before written after, specs = before ++ written :: after ∧
        (∀ other ∈ before, IsReadable other) ∧ Channel.Spec.Fails written error := by
  constructor
  · intro herror
    have hnot : ¬ ∀ written ∈ specs, IsReadable written := fun h =>
      nomatch (congrArg Prod.fst herror).symm.trans (outcome_start_eq_ok_iff.mpr h)
    obtain ⟨before, written, after, first, rfl, hbefore, hwritten⟩ := exists_first_malformed hnot
    cases (outcome_start_of_first_malformed hbefore hwritten).symm.trans herror
    exact ⟨before, written, after, rfl, hbefore, hwritten⟩
  · rintro ⟨before, written, after, rfl, hbefore, hwritten⟩
    exact outcome_start_of_first_malformed hbefore hwritten

/-! ### Messages without arguments -/

/-- The arguments of a message are its channel alone, which may be left out for the general one. -/
def IsOnly (channel : Text) (arguments : Fields Json) : Prop :=
  arguments = [(channelKey, .str channel)] ∨ arguments = [] ∧ channel = "general"

/-- A message without arguments is no template, and the threshold of its channel decides whether it
is a line. -/
theorem emitLine?_of_isOnly {channel : Text} {arguments : Fields Json}
    (harguments : IsOnly channel arguments) {n : Int}
    (hthreshold : s.manager.threshold channel = .level n) (level : Int) (message : Text) :
    s.emitLine? (.int level) (.str message) arguments =
      .ok (if Level.wall < n ∧ level ≤ n then some message else none) := by
  have hof : s.manager.thresholdOf (.str channel) = .ok (.level n) := by
    rw [Manager.thresholdOf_str, hthreshold]
  obtain rfl | ⟨rfl, rfl⟩ := harguments
  · exact emitLine?_of_fill rfl hof rfl
  · exact emitLine?_of_fill rfl hof rfl

/-- A message without arguments is printed as it stands, or not at all. -/
theorem outcome_emitNamed_of_isOnly {channel : Text} {arguments : Fields Json}
    (harguments : IsOnly channel arguments) {n : Int}
    (hthreshold : s.manager.threshold channel = .level n) (level : Int) {message u : Text}
    (haccept : Stream.accept s.diagnostics.policy s.diagnostics.writes
      (message ++ [Text.lineFeed]) = .ok u) :
    outcome (emitNamed (.int level) (.str message) arguments) s =
      (.ok (), if Level.wall < n ∧ level ≤ n then s.withWrite u else s) := by
  rw [outcome_emitNamed, emitLine?_of_isOnly harguments hthreshold]
  by_cases hshown : Level.wall < n ∧ level ≤ n
  · rw [if_pos hshown, if_pos hshown]
    obtain ⟨v, hv, hprint⟩ | ⟨f, hf, -⟩ := printLine_cases message s
    · obtain rfl : u = v := Except.ok.inj (haccept.symm.trans hv)
      exact hprint
    · cases haccept.symm.trans hf
  · rw [if_neg hshown, if_neg hshown]
    rfl

/-- A session is started with a new manager if and only if every specification can be read, whether
the specifications are given as texts or as values. Else the first that cannot be read is refused as
a bad value, and the session is left as it was. Under the new manager the level that counts for a
channel is its threshold, and so it is for every message on the channel, given without arguments
after any other steps, that the place for diagnostics takes: it is printed as it stands if and only
if the threshold is above the wall and not below the level of the message, and nothing else is
changed. -/
theorem start_thresholds (s : Session) (verbosity : Int) (specs : List Text)
    (destination : Destination) :
    let started := outcome (start verbosity specs destination) s
    outcome (startGiven (.level verbosity) (.arr (specs.map .str)) destination) s = started ∧
    (started.1 = .ok () ↔ ∀ written ∈ specs, IsReadable written) ∧
    ((¬ ∀ written ∈ specs, IsReadable written) →
      ∃ error, started = (.error (.channel error), s) ∧ (Fault.channel error).kind = .value) ∧
    (∀ error, started = (.error (.channel error), s) ↔
      ∃ before written after, specs = before ++ written :: after ∧
        (∀ other ∈ before, IsReadable other) ∧ Channel.Spec.Fails written error) ∧
    ((∀ written ∈ specs, IsReadable written) →
      ∃ manager, started = (.ok (), s.withManager manager) ∧
        ∀ channel, (∃ n, Decides s.channels.optIn verbosity specs channel n) ∧
          ∀ n, Decides s.channels.optIn verbosity specs channel n →
            manager.threshold channel = .level n ∧
            ∀ steps : List Step, (∀ step ∈ steps, step.KeepsSettings) →
              ∀ (level : Int) (message u : Text) (arguments : Fields Json),
              IsOnly channel arguments →
              let now := Step.run steps started.2
              Stream.accept now.diagnostics.policy now.diagnostics.writes
                  (message ++ [Text.lineFeed]) = .ok u →
                outcome (emitNamed (.int level) (.str message) arguments) now =
                  (.ok (), if Level.wall < n ∧ level ≤ n then now.withWrite u else now)) := by
  intro started
  refine ⟨outcome_startGiven_texts _ specs destination s, outcome_start_eq_ok_iff, fun h => ?_,
    fun error => outcome_start_eq_error_iff, fun h => ?_⟩
  · obtain ⟨before, written, after, error, hfirst⟩ := exists_first_malformed h
    exact ⟨error, outcome_start_eq_error_iff.mpr ⟨before, written, after, hfirst⟩, rfl⟩
  · obtain ⟨manager, hmanager, hstarted⟩ := outcome_start_of_readable h
    refine ⟨manager, hstarted, fun channel => ⟨Channel.exists_decides _ _ _ _, fun n hn => ?_⟩⟩
    have hthreshold := threshold_of_decides hmanager hn
    refine ⟨hthreshold, fun steps hsteps level message u arguments harguments => ?_⟩
    have hbegun : started.2 = s.withManager manager := congrArg Prod.snd hstarted
    have hkept : (Step.run steps started.2).manager.threshold channel = .level n := by
      rw [threshold_of_settings (Step.run_keeps_settings hsteps started.2), hbegun]
      exact hthreshold
    exact outcome_emitNamed_of_isOnly harguments hkept level

/-- The last of two specifications of a channel counts, blanks around its parts aside, a message
with braces is no template, and a channel that nothing else is said of is silent if it is opt-in; of
two malformed specifications the first is refused. -/
theorem start_thresholds_in_turn :
    let s : Session := { channels := .help }
    let specs : List Text := ["parse:3", "render:-9", " parse\t: 1 "]
    let started := outcome (start 2 specs .sink) s
    let now := Step.run [.useChannels .generic] started.2
    (started.2.manager.threshold "parse" = .level 1 ∧
      started.2.manager.threshold "trace" = .level Level.minimal) ∧
    (outcome (emitNamed (.int 1) (.str "\x7bn\x7d") [(channelKey, .str "parse")]) now =
        (.ok (), now.withWrite "\x7bn\x7d\n") ∧
      outcome (emitNamed (.int 3) (.str "hidden") []) now = (.ok (), now)) ∧
    outcome (start 2 ["parse:3", ":2", "x:y"] .sink) s =
      (.error (.channel (.emptyName ":2")), s) := by
  intro s specs started now
  have hparse : Channel.Spec.parse "parse:3" = .ok ⟨"parse", 3⟩ := by decide
  have hrender : Channel.Spec.parse "render:-9" = .ok ⟨"render", -9⟩ := by decide
  have hpadded : Channel.Spec.parse " parse\t: 1 " = .ok ⟨"parse", 1⟩ := by decide
  have hreadable : ∀ written ∈ specs, IsReadable written :=
    List.forall_mem_cons.mpr ⟨⟨_, Channel.Spec.parse_eq_ok_iff.mp hparse⟩,
      List.forall_mem_cons.mpr ⟨⟨_, Channel.Spec.parse_eq_ok_iff.mp hrender⟩,
        List.forall_mem_singleton.mpr ⟨_, Channel.Spec.parse_eq_ok_iff.mp hpadded⟩⟩⟩
  have hnone {channel : Text} (h : "parse" ≠ channel) (h' : "render" ≠ channel) :
      ∀ written ∈ specs, ¬ Names channel written :=
    List.forall_mem_cons.mpr ⟨Channel.not_names hparse h, List.forall_mem_cons.mpr
      ⟨Channel.not_names hrender h', List.forall_mem_singleton.mpr (Channel.not_names hpadded h)⟩⟩
  have hlast : Decides s.channels.optIn 2 specs "parse" 1 :=
    @Decides.specified _ _ _ _ ["parse:3", "render:-9"] [] " parse\t: 1 " 1 rfl
      (Channel.Spec.parse_eq_ok_iff.mp hpadded) (List.forall_mem_nil _)
  obtain ⟨-, -, -, -, hstarted⟩ := start_thresholds s 2 specs .sink
  obtain ⟨manager, hmanager, hchannels⟩ := hstarted hreadable
  have hbegun : started.2 = s.withManager manager := congrArg Prod.snd hmanager
  have hparses := (hchannels "parse").2 1 hlast
  have htrace := (hchannels "trace").2 Level.minimal (.silent (hnone (by decide) (by decide))
    (List.mem_singleton.mpr rfl))
  have hgeneral := (hchannels "general").2 2 (.overall (hnone (by decide) (by decide)) fun h =>
    nomatch List.mem_singleton.mp h)
  have hnow : now = { s.withManager manager with channels := .generic } := by
    change Step.run [.useChannels .generic] started.2 = _
    rw [hbegun]
    rfl
  have haccept (t : Text) :
      Stream.accept now.diagnostics.policy now.diagnostics.writes t = .ok t := by
    rw [hnow]
    obtain ⟨_, _, destination, _⟩ := manager
    cases destination <;> rfl
  have hkeeps : ∀ step ∈ [Step.useChannels .generic], step.KeepsSettings :=
    List.forall_mem_singleton.mpr ⟨rfl, trivial⟩
  rw [hbegun]
  refine ⟨⟨hparses.1, htrace.1⟩, ⟨?_, ?_⟩, ?_⟩
  · have h := hparses.2 [.useChannels .generic] hkeeps 1 "\x7bn\x7d" _
      [(channelKey, .str "parse")] (.inl rfl) (haccept _)
    rwa [if_pos (by decide)] at h
  · have h := hgeneral.2 [.useChannels .generic] hkeeps 3 "hidden" _ [] (.inr ⟨rfl, rfl⟩)
      (haccept _)
    rwa [if_neg (by decide)] at h
  · obtain ⟨-, -, -, hrefused, -⟩ := start_thresholds s 2 ["parse:3", ":2", "x:y"] .sink
    have hempty : Channel.Spec.parse ":2" = .error (.emptyName ":2") := by decide
    refine (hrefused (.emptyName ":2")).mpr ⟨["parse:3"], ":2", ["x:y"], rfl, ?_, ?_⟩
    · exact List.forall_mem_singleton.mpr ⟨_, Channel.Spec.parse_eq_ok_iff.mp hparse⟩
    · exact Channel.Spec.parse_eq_error_iff.mp hempty

end Session

end TargetHelp
