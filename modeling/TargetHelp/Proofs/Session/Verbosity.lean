import TargetHelp.Proofs.Json.Same
import TargetHelp.Proofs.Session.Step

/-!
# More verbosity never hides a message

Two sessions run through the same steps under managers that differ in their verbosity alone. The
louder one says what the quieter one says, in the same order, and something between it. They part
where a hint is shown by the louder one alone, but such a hint stays below the threshold of the
quieter one for good, so it is never missed there; and where only the louder one fills a template,
which may raise but says nothing then. In a function or a parser that is called such a fault would
keep what comes behind it from being said, so these may only tell what can be told.
-/

set_option autoImplicit false
set_option relaxedAutoImplicit false

namespace TargetHelp

/-! ### Thresholds -/

theorem Amount.below_ofInt_mono {n m : Int} (h : n ≤ m) {x : Amount}
    (hx : (Amount.ofInt m).below x = true) : (Amount.ofInt n).below x = true := by
  cases x with
  | none => cases hx
  | infinite negative => exact hx
  | quotient num den =>
    have hbelow : m * (den : Int) < num * 1 := of_decide_eq_true hx
    have hmul : n * (den : Int) ≤ m * (den : Int) :=
      Int.mul_le_mul_of_nonneg_right h (Int.natCast_nonneg den)
    exact decide_eq_true (hmul.trans_lt hbelow)

/-- What is above a level is above the lower ones. -/
theorem Json.isAbove_int_mono {n m : Int} (h : n ≤ m) {level : Json} {above : Bool}
    (hlevel : level.isAbove (.int n) = .ok above) :
    ∃ higher, level.isAbove (.int m) = .ok higher ∧ (higher = true → above = true) := by
  have hless : ∀ k : Int, Json.less (.int k) level =
      (level.amount?.map fun x => Except.ok ((Amount.ofInt k).below x)).getD
        (.error ⟨(Json.int k).typeName, level.typeName⟩) := by
    intro k
    unfold Json.less
    cases level <;> simp [Json.amount?, Json.integer?]
  unfold Json.isAbove at hlevel ⊢
  rw [hless] at hlevel
  rw [hless]
  cases hamount : level.amount? with
  | none =>
    rw [hamount] at hlevel
    cases hlevel
  | some x =>
    rw [hamount] at hlevel
    cases hlevel
    exact ⟨(Amount.ofInt m).below x, rfl, Amount.below_ofInt_mono h⟩

/-- What passes a threshold passes the higher ones. -/
theorem Threshold.passesAny_mono {n m : Int} (h : n ≤ m) {level : Json}
    (hpasses : (Threshold.level n).passesAny level = .ok true) :
    (Threshold.level m).passesAny level = .ok true := by
  unfold passesAny at hpasses ⊢
  change (if decide (n ≤ Level.wall) = true then _ else _) = _ at hpasses
  change (if decide (m ≤ Level.wall) = true then _ else _) = _
  by_cases hwall : n ≤ Level.wall
  · rw [if_pos (decide_eq_true hwall)] at hpasses
    cases hpasses
  · have hnot : ¬ m ≤ Level.wall := fun hm => hwall (h.trans hm)
    rw [if_neg fun hn => hwall (of_decide_eq_true hn)] at hpasses
    rw [if_neg fun hm => hnot (of_decide_eq_true hm)]
    obtain ⟨above, habove, hpasses⟩ := Session.bind_eq_ok_iff.mp hpasses
    obtain ⟨higher, hhigher, hmono⟩ := Json.isAbove_int_mono h habove
    refine Session.bind_eq_ok_iff.mpr ⟨higher, hhigher, ?_⟩
    cases higher with
    | false => rfl
    | true =>
      rw [hmono rfl] at hpasses
      cases hpasses

theorem Threshold.passes_mono {n m : Int} (h : n ≤ m) {level : Int}
    (hpasses : (Threshold.level n).passes level = .ok true) :
    (Threshold.level m).passes level = .ok true := by
  rw [passes_level, Except.ok.injEq, Bool.and_eq_true, decide_eq_true_eq, decide_eq_true_eq]
    at hpasses ⊢
  exact ⟨hpasses.1.trans_le h, hpasses.2.trans h⟩

namespace Manager

/-- A new manager whose thresholds are levels. -/
def ofLevels (verbosity : Int) (levels : Json.Table Int) (destination : Destination) : Manager where
  verbosity := .level verbosity
  overrides := levels.map fun entry => (entry.1, .level entry.2)
  destination

/-- Managers that differ in their verbosity and in the hints that they have shown. -/
structure Louder (quiet loud : Manager) : Prop where
  destination : loud.destination = quiet.destination
  overrides : loud.overrides = quiet.overrides
  levels : quiet.HasLevels
  verbosity : ∃ n m, quiet.verbosity = .level n ∧ loud.verbosity = .level m ∧ n ≤ m

theorem louder_ofLevels {v v' : Int} (h : v ≤ v') (levels : Json.Table Int)
    (destination : Destination) :
    Louder (ofLevels v levels destination) (ofLevels v' levels destination) := by
  refine ⟨rfl, rfl, ⟨⟨v, rfl⟩, fun entry hentry => ?_⟩, v, v', rfl, rfl, h⟩
  obtain ⟨level, -, rfl⟩ := List.mem_map.mp hentry
  exact ⟨level.2, rfl⟩

variable {quiet loud : Manager}

theorem Louder.loud_levels (h : Louder quiet loud) : loud.HasLevels := by
  obtain ⟨-, m, -, hm, -⟩ := h.verbosity
  exact ⟨⟨m, hm⟩, by rw [h.overrides]; exact h.levels.overrides⟩

/-- On every channel the louder manager has the higher threshold, if not the same. -/
theorem Louder.threshold (h : Louder quiet loud) (channel : Json) :
    ∃ n m, (quiet.overrides.get? channel).getD quiet.verbosity = .level n ∧
      (loud.overrides.get? channel).getD loud.verbosity = .level m ∧ n ≤ m := by
  rw [h.overrides]
  unfold Json.Table.get?
  cases hfind : quiet.overrides.find? fun entry => Json.same entry.1 channel with
  | none => exact h.verbosity
  | some entry =>
    obtain ⟨n, hn⟩ := h.levels.overrides entry (List.mem_of_find?_eq_some hfind)
    exact ⟨n, n, hn, hn, le_rfl⟩

theorem Louder.shows (h : Louder quiet loud) (level : Int) (channel : Text) :
    ∃ shown shown', quiet.shows level channel = .ok shown ∧ loud.shows level channel = .ok shown' ∧
      (shown = true → shown' = true) := by
  obtain ⟨n, m, hn, hm, hle⟩ := h.threshold (.str channel)
  unfold Manager.shows Manager.threshold
  rw [hn, hm]
  refine ⟨_, _, Threshold.passes_level n level, Threshold.passes_level m level, fun hshown => ?_⟩
  have hmono := Threshold.passes_mono hle ((Threshold.passes_level n level).trans
    (congrArg Except.ok hshown))
  exact Except.ok.inj ((Threshold.passes_level m level).symm.trans hmono)

/-- What passes on a channel passes in the louder manager. -/
theorem Louder.passesAny (h : Louder quiet loud) {channel level : Json} {threshold : Threshold}
    (hthreshold : quiet.thresholdOf channel = .ok threshold)
    (hpasses : threshold.passesAny level = .ok true) :
    ∃ higher, loud.thresholdOf channel = .ok higher ∧ higher.passesAny level = .ok true := by
  obtain ⟨n, m, hn, hm, hle⟩ := h.threshold channel
  obtain ⟨⟨⟩, hkey, hthreshold⟩ := Session.bind_eq_ok_iff.mp hthreshold
  obtain rfl : Threshold.level n = threshold := hn.symm.trans (Except.ok.inj hthreshold)
  exact ⟨.level m, Session.bind_eq_ok_iff.mpr ⟨(), hkey, congrArg Except.ok hm⟩,
    Threshold.passesAny_mono hle hpasses⟩

end Manager

namespace Session

variable {α : Type}

/-- A hint that is below the threshold of hints, or is not registered. -/
def Hides (s : Session) (id : Json) : Prop :=
  ∀ hint, s.hints.find? id = some hint →
    (s.manager.threshold "hint").passesAny hint.minLevel ≠ .ok true

/-- A louder session with the same registry of hints: behind `w'` it has said all that the quieter
one has said behind `w`, in the same order, and what it alone has shown the quieter one hides. -/
structure Louder (form : Text → Text) (registry : Hint.Registry) (w w' : List Text)
    (quiet loud : Session) : Prop where
  manager : quiet.manager.Louder loud.manager
  quiet_writes : quiet.diagnostics.WritesAs form
  loud_writes : loud.diagnostics.WritesAs form
  output : loud.output = quiet.output
  quiet_hints : quiet.hints = registry
  loud_hints : loud.hints = registry
  said : ∃ ts ts', quiet.diagnostics.writes = w ++ ts ∧ loud.diagnostics.writes = w' ++ ts' ∧
    ts.Sublist ts'
  shown : quiet.manager.shown.Sublist loud.manager.shown
  hidden : ∀ id ∈ loud.manager.shown,
    id.checkKey = .ok () ∧ (quiet.manager.hasShown id = true ∨ quiet.Hides id)

variable {form : Text → Text} {registry : Hint.Registry} {w w' : List Text}
  {quiet loud : Session}

namespace Louder

theorem hints (h : Louder form registry w w' quiet loud) : loud.hints = quiet.hints :=
  h.loud_hints.trans h.quiet_hints.symm

/-! ### Changes that keep one session louder -/

theorem withWrite_loud (h : Louder form registry w w' quiet loud) (u : Text) :
    Louder form registry w w' quiet (loud.withWrite u) := by
  obtain ⟨ts, ts', hquiet, hloud, hsub⟩ := h.said
  exact {
    manager := by simpa using h.manager
    quiet_writes := h.quiet_writes
    loud_writes := by rw [diagnostics_withWrite]; exact h.loud_writes
    output := by simpa using h.output
    quiet_hints := h.quiet_hints
    loud_hints := by simpa using h.loud_hints
    said := ⟨ts, ts' ++ [u], hquiet, by simp [hloud],
      hsub.trans (List.sublist_append_left ts' [u])⟩
    shown := by simpa using h.shown
    hidden := by simpa using h.hidden }

theorem withWrite (h : Louder form registry w w' quiet loud) (u : Text) :
    Louder form registry w w' (quiet.withWrite u) (loud.withWrite u) := by
  obtain ⟨ts, ts', hquiet, hloud, hsub⟩ := h.said
  exact {
    manager := by simpa using h.manager
    quiet_writes := by rw [diagnostics_withWrite]; exact h.quiet_writes
    loud_writes := by rw [diagnostics_withWrite]; exact h.loud_writes
    output := by simpa using h.output
    quiet_hints := by simpa using h.quiet_hints
    loud_hints := by simpa using h.loud_hints
    said := ⟨ts ++ [u], ts' ++ [u], by simp [hquiet], by simp [hloud], hsub.append (.refl _)⟩
    shown := by simpa using h.shown
    hidden := by simpa [Hides] using h.hidden }

theorem withShown_loud (h : Louder form registry w w' quiet loud) {id : Json}
    (hkey : id.checkKey = .ok ())
    (hhidden : quiet.manager.hasShown id = true ∨ quiet.Hides id) :
    Louder form registry w w' quiet (loud.withShown id) where
  manager := ⟨h.manager.destination, h.manager.overrides, h.manager.levels, h.manager.verbosity⟩
  quiet_writes := h.quiet_writes
  loud_writes := by simpa using h.loud_writes
  output := h.output
  quiet_hints := h.quiet_hints
  loud_hints := h.loud_hints
  said := by simpa using h.said
  shown := h.shown.trans (List.sublist_append_left _ [id])
  hidden := by
    rw [shown_withShown]
    exact List.forall_mem_append.mpr
      ⟨h.hidden, List.forall_mem_singleton.mpr ⟨hkey, hhidden⟩⟩

theorem withShown (h : Louder form registry w w' quiet loud) {id : Json}
    (hkey : id.checkKey = .ok ())
    (hself : Json.same id id = true) :
    Louder form registry w w' (quiet.withShown id) (loud.withShown id) where
  manager := ⟨h.manager.destination, h.manager.overrides,
    ⟨h.manager.levels.verbosity, h.manager.levels.overrides⟩, h.manager.verbosity⟩
  quiet_writes := by simpa using h.quiet_writes
  loud_writes := by simpa using h.loud_writes
  output := h.output
  quiet_hints := h.quiet_hints
  loud_hints := h.loud_hints
  said := by simpa using h.said
  shown := h.shown.append (.refl _)
  hidden := by
    rw [shown_withShown]
    have hgrown (other : Json) (hother : quiet.manager.hasShown other = true) :
        (quiet.withShown id).manager.hasShown other = true := by
      unfold Manager.hasShown at hother ⊢
      rw [shown_withShown, List.any_append, hother, Bool.true_or]
    refine List.forall_mem_append.mpr ⟨fun other hother => ?_, List.forall_mem_singleton.mpr
      ⟨hkey, Or.inl ?_⟩⟩
    · obtain ⟨hotherKey, hshown | hhides⟩ := h.hidden other hother
      · exact ⟨hotherKey, Or.inl (hgrown other hshown)⟩
      · exact ⟨hotherKey, Or.inr hhides⟩
    · unfold Manager.hasShown
      rw [shown_withShown, List.any_append, List.any_cons, hself, Bool.true_or, Bool.or_true]

theorem withOutput (h : Louder form registry w w' quiet loud) (output : Stream) :
    Louder form registry w w' { quiet with output } { loud with output } := by
  have hdiagnostics (s : Session) : ({ s with output } : Session).diagnostics = s.diagnostics := by
    unfold diagnostics stream
    cases s.manager.destination <;> rfl
  exact {
    manager := h.manager
    quiet_writes := by rw [hdiagnostics]; exact h.quiet_writes
    loud_writes := by rw [hdiagnostics]; exact h.loud_writes
    output := rfl
    quiet_hints := h.quiet_hints
    loud_hints := h.loud_hints
    said := by rw [hdiagnostics, hdiagnostics]; exact h.said
    shown := h.shown
    hidden := h.hidden }

end Louder

/-! ### Lines -/

theorem louder_printLine (h : Louder form registry w w' quiet loud) (t : Text) :
    (outcome (printLine t) quiet).1 = .ok () ∧ (outcome (printLine t) loud).1 = .ok () ∧
      Louder form registry w w' (outcome (printLine t) quiet).2
        (outcome (printLine t) loud).2 := by
  rw [outcome_printLine_of_writesAs h.quiet_writes, outcome_printLine_of_writesAs h.loud_writes]
  exact ⟨rfl, rfl, h.withWrite _⟩

theorem louder_printLine_loud (h : Louder form registry w w' quiet loud) (t : Text) :
    (outcome (printLine t) loud).1 = .ok () ∧
      Louder form registry w w' quiet (outcome (printLine t) loud).2 := by
  rw [outcome_printLine_of_writesAs h.loud_writes]
  exact ⟨rfl, h.withWrite_loud _⟩

/-- A report that is shown by the quieter session is shown by the louder one. -/
theorem louder_report (h : Louder form registry w w' quiet loud) (level : Int) (channel t : Text) :
    (outcome (report level channel t) quiet).1 = .ok () ∧
      (outcome (report level channel t) loud).1 = .ok () ∧
      Louder form registry w w' (outcome (report level channel t) quiet).2
        (outcome (report level channel t) loud).2 := by
  obtain ⟨shown, shown', hshown, hshown', hmono⟩ := h.manager.shows level channel
  rw [outcome_report hshown, outcome_report hshown']
  cases shown with
  | true =>
    rw [hmono rfl]
    exact louder_printLine h t
  | false =>
    cases shown' with
    | true =>
      obtain ⟨hvalue, hafter⟩ := louder_printLine_loud h t
      exact ⟨rfl, hvalue, hafter⟩
    | false => exact ⟨rfl, rfl, h⟩

theorem louder_report_loud (h : Louder form registry w w' quiet loud) (level : Int)
    (channel t : Text) :
    (outcome (report level channel t) loud).1 = .ok () ∧
      Louder form registry w w' quiet (outcome (report level channel t) loud).2 := by
  obtain ⟨-, shown', -, hshown', -⟩ := h.manager.shows level channel
  rw [outcome_report hshown']
  cases shown' with
  | true => exact louder_printLine_loud h t
  | false => exact ⟨rfl, h⟩

/-- A step that prints a line if there is one leaves the session alone if there is none. -/
theorem outcome_of_no_line {line? : Except Fault (Option Text)} (h : ∀ t, line? ≠ .ok (some t))
    {act : Option Text → SessionM Unit} (hact : act none = pure ()) (s : Session) :
    (outcome (attempt line? >>= act) s).2 = s := by
  rw [outcome_bind, outcome_attempt]
  match line?, h with
  | .error f, _ => rfl
  | .ok none, _ => exact congrArg (fun m => (outcome m s).2) hact
  | .ok (some t), h => exact absurd rfl (h t)

/-- `emit` prints in the louder session what it prints in the quieter one. -/
theorem louder_emitNamed (h : Louder form registry w w' quiet loud) (level message : Json)
    (arguments : Fields Json) :
    Louder form registry w w' (outcome (emitNamed level message arguments) quiet).2
      (outcome (emitNamed level message arguments) loud).2 := by
  have hline (t : Text) (ht : quiet.emitLine? level message arguments = .ok (some t)) :
      loud.emitLine? level message arguments = .ok (some t) := by
    obtain ⟨hnames, ⟨threshold, hthreshold, hpasses⟩, hfill⟩ := emitLine?_eq_some_iff.mp ht
    exact emitLine?_eq_some_iff.mpr
      ⟨hnames, h.manager.passesAny hthreshold hpasses, hfill⟩
  rw [outcome_emitNamed, outcome_emitNamed]
  by_cases hquiet : ∃ t, quiet.emitLine? level message arguments = .ok (some t)
  · obtain ⟨t, ht⟩ := hquiet
    rw [ht, hline t ht]
    exact (louder_printLine h t).2.2
  · rw [outcome_of_no_line (not_exists.mp hquiet) rfl]
    by_cases hloud : ∃ t, loud.emitLine? level message arguments = .ok (some t)
    · obtain ⟨t, ht⟩ := hloud
      rw [ht]
      exact (louder_printLine_loud h t).2
    · rw [outcome_of_no_line (not_exists.mp hloud) rfl]
      exact h

/-! ### Hints -/

/-- A hint that is due in the quieter session has not been shown by the louder one. -/
theorem louder_dueHint? (h : Louder form registry w w' quiet loud) {id context : Json} {hint : Hint}
    (hdue : quiet.dueHint? id context = .ok (some hint)) :
    loud.dueHint? id context = .ok (some hint) := by
  obtain ⟨hkey, hnot, hfind, hcontext, hpasses⟩ := dueHint?_eq_some_iff.mp hdue
  obtain ⟨higher, hhigher, hpasses'⟩ :=
    h.manager.passesAny (quiet.manager.thresholdOf_str "hint") hpasses
  obtain rfl : loud.manager.threshold "hint" = higher := Except.ok.inj hhigher
  refine dueHint?_eq_some_iff.mpr ⟨hkey, Bool.eq_false_iff.mpr fun hshown => ?_,
    by rw [h.hints]; exact hfind, hcontext, hpasses'⟩
  obtain ⟨other, hother, hsame⟩ := List.any_eq_true.mp hshown
  obtain ⟨hotherKey, hshown | hhides⟩ := h.hidden other hother
  · obtain ⟨last, hlast, hlastSame⟩ := List.any_eq_true.mp hshown
    have hlastKey := (h.hidden last (h.shown.subset hlast)).1
    have hfound : quiet.manager.hasShown id = true := by
      refine List.any_eq_true.mpr ⟨last, hlast, ?_⟩
      rw [← Json.same_congr hlastKey hlastSame]
      exact hsame
    exact Bool.false_ne_true (hnot.symm.trans hfound)
  · have hsameFind : quiet.hints.find? id = quiet.hints.find? other := by
      unfold Hint.Registry.find?
      congr 1
      funext hint
      exact Json.same_congr hotherKey hsame hint.id
    exact hhides hint (hsameFind.symm.trans hfind) hpasses

/-- A hint that the louder session alone shows has been shown by the quieter one or is hidden
there. -/
theorem hides_of_line (h : Louder form registry w w' quiet loud) {id context : Json}
    {arguments : Fields Json} {t : Text}
    (hquiet : ∀ t, quiet.hintLine? id context arguments ≠ .ok (some t))
    (hloud : loud.hintLine? id context arguments = .ok (some t)) :
    quiet.manager.hasShown id = true ∨ quiet.Hides id := by
  obtain ⟨hint, hdue, hfill⟩ := hintLine?_eq_some_iff.mp hloud
  obtain ⟨hkey, -, hfind, hcontext, -⟩ := dueHint?_eq_some_iff.mp hdue
  cases hshown : quiet.manager.hasShown id with
  | true => exact Or.inl rfl
  | false =>
    refine Or.inr fun other hother hpasses => hquiet t ?_
    have hsame : quiet.hints.find? id = some hint := by rw [← h.hints]; exact hfind
    obtain rfl : hint = other := Option.some.inj (hsame.symm.trans hother)
    exact hintLine?_eq_some_iff.mpr
      ⟨hint, dueHint?_eq_some_iff.mpr ⟨hkey, hshown, hsame, hcontext, hpasses⟩, hfill⟩

/-- `hint` shows in the louder session what it shows in the quieter one. -/
theorem louder_hintIn (h : Louder form registry w w' quiet loud) (id context : Json)
    (arguments : Fields Json) :
    Louder form registry w w' (outcome (hintIn id context arguments) quiet).2
      (outcome (hintIn id context arguments) loud).2 := by
  rw [outcome_hintIn, outcome_hintIn]
  by_cases hquiet : ∃ t, quiet.hintLine? id context arguments = .ok (some t)
  · obtain ⟨t, ht⟩ := hquiet
    obtain ⟨hint, hdue, hfill⟩ := hintLine?_eq_some_iff.mp ht
    obtain ⟨hkey, -, hfind, -, -⟩ := dueHint?_eq_some_iff.mp hdue
    have ht' : loud.hintLine? id context arguments = .ok (some t) :=
      hintLine?_eq_some_iff.mpr ⟨hint, louder_dueHint? h hdue, hfill⟩
    rw [ht, ht', outcome_showLine?_of_writesAs h.quiet_writes,
      outcome_showLine?_of_writesAs h.loud_writes]
    exact (h.withWrite _).withShown hkey
      (Json.same_self_of_same hkey (Hint.Registry.same_of_find? hfind))
  · rw [outcome_of_no_line (not_exists.mp hquiet) rfl]
    by_cases hloud : ∃ t, loud.hintLine? id context arguments = .ok (some t)
    · obtain ⟨t, ht⟩ := hloud
      obtain ⟨hint, hdue, -⟩ := hintLine?_eq_some_iff.mp ht
      rw [ht, outcome_showLine?_of_writesAs h.loud_writes]
      exact (h.withWrite_loud _).withShown_loud (dueHint?_eq_some_iff.mp hdue).1
        (hides_of_line h (not_exists.mp hquiet) ht)
    · rw [outcome_of_no_line (not_exists.mp hloud) rfl]
      exact h

/-! ### Related steps -/

theorem related_report (level : Int) (channel t : Text) :
    Related (Louder form registry w w') (report level channel t) (report level channel t) := by
  intro quiet loud h
  obtain ⟨hquiet, hloud, hafter⟩ := louder_report h level channel t
  exact ⟨hquiet.trans hloud.symm, hafter⟩

/-- What the louder session tells beyond the quieter one leaves it louder. -/
theorem hidesDetails_louder :
    HidesDetails fun loud quiet => Louder form registry w w' quiet loud where
  level := by
    intro loud quiet hlouder
    obtain ⟨-, level', -, hlevel', -⟩ := hlouder.manager.threshold (.str "trace")
    exact ⟨level', hlevel'⟩
  report := fun level channel t _ _ _ hlouder => louder_report_loud hlouder level channel t

/-- A call that is traced in the quieter session is traced in the louder one. -/
theorem related_traced_louder (call : Call) (shown? : α → Option Text) {m : SessionM α}
    (hkeeps : Keeps Session.retired m) (h : Related (Louder form registry w w') m m) :
    Related (Louder form registry w w') (traced call shown? m) (traced call shown? m) := by
  intro quiet loud hlouder
  obtain ⟨level, level', hlevel, hlevel', hle⟩ := hlouder.manager.threshold (.str "trace")
  by_cases hoff : level < Level.debug
  · rw [outcome_traced hlevel _ _ hkeeps, if_pos hoff]
    exact (hidesDetails_louder.traced call shown? hkeeps h.flip).flip hlouder
  · have hon : ¬ level' < Level.debug := fun hlt => hoff (hle.trans_lt hlt)
    rw [outcome_traced hlevel _ _ hkeeps, outcome_traced hlevel' _ _ hkeeps, if_neg hoff,
      if_neg hon]
    exact Related.betweenLines (fun t => related_report _ _ t) call shown? h hlouder

theorem related_writeOutput (t : Text) :
    Related (Louder form registry w w') (writeOutput t) (writeOutput t) := by
  intro quiet loud h
  unfold writeOutput
  rw [outcome_bind, outcome_bind, outcome_get, outcome_get]
  dsimp only
  rw [outcome_bind, outcome_bind, outcome_attempt, outcome_attempt, h.output]
  cases quiet.output.write t with
  | error f => exact ⟨rfl, h⟩
  | ok output => exact ⟨rfl, h.withOutput output⟩

/-- An error report that is taken needs no other place. -/
theorem related_printError (message : Text) :
    Related (Louder form registry w w') (printError message) (printError message) := by
  intro quiet loud h
  obtain ⟨hquiet, hloud, hafter⟩ := louder_report h Level.error "error" ("  ERROR: " ++ message)
  rw [outcome_printError_of_ok (Prod.ext hquiet rfl), outcome_printError_of_ok (Prod.ext hloud rfl)]
  exact ⟨rfl, hafter⟩

/-- A message with a level whose arguments fill it does not raise. -/
theorem value_emitNamed {s : Session} (hlevels : s.manager.HasLevels)
    (hwrites : s.diagnostics.WritesAs form) (level : Int) {message : Json}
    {arguments : Fields Json} {t : Text}
    (hnames : checkNames "OutputManager.emit" ["self", "level", "message"] arguments = .ok ())
    (hchannel : ((Fields.get? channelKey arguments).getD (.str "general")).checkKey = .ok ())
    (hfill : fill message (Fields.erase channelKey arguments) = .ok t) :
    (outcome (emitNamed (.int level) message arguments) s).1 = .ok () := by
  obtain ⟨n, hn⟩ := hlevels.thresholdOf hchannel
  rw [outcome_emitNamed, emitLine?_of_fill hnames hn hfill]
  split
  · exact congrArg Prod.fst (outcome_printLine_of_writesAs hwrites t)
  · rfl

/-- A hint whose message takes its arguments does not raise. -/
theorem value_hint {s : Session} (hlevels : s.manager.HasLevels)
    (hwrites : s.diagnostics.WritesAs form) (hhints : s.hints = registry) {id : Text}
    (context : Text) {arguments : Fields Json}
    (hfits : ∀ hint, registry.find? (.str id) = some hint → hint.Fits arguments) :
    (outcome (hint id context arguments) s).1 = .ok () := by
  obtain ⟨due?, hdue, hfits⟩ := exists_dueHint? hlevels hhints context hfits
  unfold hint
  rw [outcome_hintIn]
  unfold hintLine?
  rw [hdue]
  cases due? with
  | none => rfl
  | some hint =>
    obtain ⟨template, t, htemplate, ht⟩ := (hfits hint rfl).message
    have hfill : fill hint.message arguments = .ok t := by
      unfold fill
      rw [htemplate]
      change (Template.message arguments template).mapError _ = _
      rw [ht]
      rfl
    change (outcome (attempt (fill hint.message arguments >>= _) >>= _) s).1 = _
    rw [hfill]
    exact congrArg Prod.fst (outcome_showLine?_of_writesAs hwrites (.str id) t)

/-! ### What may be called -/

/-- What a function or a parser may do that is called: say something that can be said, show hints
whose messages take their arguments, write to the output, raise and handle faults, and call more of
the kind with traces around. -/
inductive Tells (registry : Hint.Registry) : {α : Type} → SessionM α → Prop
  | pure {α : Type} (a : α) : Tells registry (pure a)
  | throw {α : Type} (f : Fault) : Tells registry (throw f : SessionM α)
  | bind {α β : Type} {m : SessionM α} {next : α → SessionM β} (hm : Tells registry m)
      (hnext : ∀ a, Tells registry (next a)) : Tells registry (m >>= next)
  | tryCatch {α : Type} {m : SessionM α} {handle : Fault → SessionM α} (hm : Tells registry m)
      (hhandle : ∀ f, Tells registry (handle f)) : Tells registry (tryCatch m handle)
  | report (level : Int) (channel t : Text) : Tells registry (report level channel t)
  | printError (message : Text) : Tells registry (printError message)
  | emit (level : Int) {message : Json} {arguments : Fields Json} {t : Text}
      (hnames : checkNames "OutputManager.emit" ["self", "level", "message"] arguments = .ok ())
      (hchannel : ((Fields.get? channelKey arguments).getD (.str "general")).checkKey = .ok ())
      (hfill : fill message (Fields.erase channelKey arguments) = .ok t) :
    Tells registry (emitNamed (.int level) message arguments)
  | hint (id context : Text) {arguments : Fields Json}
      (hfits : ∀ hint, registry.find? (.str id) = some hint → hint.Fits arguments) :
    Tells registry (hint id context arguments)
  | writeOutput (t : Text) : Tells registry (writeOutput t)
  | traced {α : Type} (call : Call) (shown? : α → Option Text) {m : SessionM α}
      (hm : Tells registry m) : Tells registry (traced call shown? m)

namespace Tells

/-- Of the session only the streams and the hints that count as shown are changed. -/
theorem keeps {γ : Type} {view : Session → γ} (hview : HidesDiagnostics view)
    (houtput : ∀ (s : Session) (output : Stream), view { s with output } = view s)
    (hshown : ∀ (s : Session) (id : Json), view (s.withShown id) = view s) {m : SessionM α}
    (h : Tells registry m) : Keeps view m := by
  induction h with
  | pure a => exact Keeps.pure a
  | throw f => exact Keeps.throw f
  | bind _ _ hm hnext => exact hm.bind hnext
  | tryCatch _ _ hm hhandle => exact hm.tryCatch hhandle
  | report level channel t => exact keeps_report hview level channel t
  | printError message => exact keeps_printError hview message
  | emit level _ _ _ => exact keeps_emitNamed hview _ _ _
  | hint id context _ => exact keeps_hintIn hview hshown _ _ _
  | writeOutput t => exact keeps_writeOutput houtput t
  | traced call shown? _ hm => exact keeps_traced hview call shown? hm

theorem keeps_retired {m : SessionM α} (h : Tells registry m) : Keeps Session.retired m :=
  h.keeps hidesDiagnostics_retired (fun _ _ => rfl) fun _ _ => rfl

theorem keeps_settings {m : SessionM α} (h : Tells registry m) : Keeps Session.settings m :=
  h.keeps ⟨fun _ _ => rfl, fun _ _ => rfl⟩ (fun _ _ => rfl) fun _ _ => rfl

/-- Comes to the same in both sessions and leaves the louder one louder. -/
theorem related {m : SessionM α} (h : Tells registry m) :
    Related (Louder form registry w w') m m := by
  induction h with
  | pure a => exact Related.pure a
  | throw f => exact Related.throw f
  | bind _ _ hm hnext => exact Related.bind hm hnext
  | tryCatch _ _ hm hhandle => exact Related.tryCatch hm hhandle
  | report level channel t => exact related_report level channel t
  | printError message => exact related_printError message
  | emit level hnames hchannel hfill =>
    intro quiet loud h
    have hquiet := value_emitNamed h.manager.levels h.quiet_writes level hnames hchannel hfill
    have hloud := value_emitNamed h.manager.loud_levels h.loud_writes level hnames hchannel hfill
    exact ⟨hquiet.trans hloud.symm, louder_emitNamed h _ _ _⟩
  | hint id context hfits =>
    intro quiet loud h
    have hquiet := value_hint h.manager.levels h.quiet_writes h.quiet_hints context hfits
    have hloud := value_hint h.manager.loud_levels h.loud_writes h.loud_hints context hfits
    exact ⟨hquiet.trans hloud.symm, louder_hintIn h _ _ _⟩
  | writeOutput t => exact related_writeOutput t
  | traced call shown? hm ih => exact related_traced_louder call shown? hm.keeps_retired ih

theorem forM {ts : List α} {act : α → SessionM PUnit} (h : ∀ t, Tells registry (act t)) :
    Tells registry (ts.forM act) := by
  induction ts with
  | nil => exact Tells.pure PUnit.unit
  | cons t ts ih => exact Tells.bind (h t) fun _ => ih

theorem discard {m : SessionM α} (h : Tells registry m) : Tells registry (discard m) :=
  Tells.bind h fun _ => Tells.pure ()

/-- A rendering only tells if its parser does. -/
theorem render (view : View) {source : Source} {parser? : Option Parser} {includePath : Json}
    (h : Tells registry ((parser?.getD .nodeStream).read source includePath)) :
    Tells registry (render view source parser? includePath) := by
  have huntraced : Tells registry
      (collectUntraced (parser?.getD .nodeStream) source includePath) := by
    refine Tells.bind (Tells.tryCatch h fun f => Tells.throw f.ofParsing) fun nodes => ?_
    exact Tells.bind (Tells.report _ _ _) fun _ => Tells.pure _
  refine Tells.bind (Tells.traced _ _ huntraced) fun comments => ?_
  exact Tells.bind (Tells.forM fun t => Tells.writeOutput t) fun _ =>
    Tells.bind (Tells.report _ _ _) fun _ => Tells.pure _

end Tells

/-! ### Steps and runs -/

/-- A step that speaks leaves the louder session louder, if what it calls only tells. -/
theorem Louder.next (h : Louder form registry w w' quiet loud) {step : Step}
    (hspeaks : step.speaks = true) (hcalls : step.Calls fun _ => Tells registry) :
    Louder form registry w w' (step.next quiet) (step.next loud) := by
  cases step with
  | emit level message arguments => exact louder_emitNamed h level message arguments
  | hint id context arguments => exact louder_hintIn h id context arguments
  | warning message => exact (related_report _ _ _ h).2
  | error message => exact (related_report _ _ _ h).2
  | printWarning message => exact (related_report _ _ _ h).2
  | printError message => exact (related_printError _ h).2
  | traced call function => exact ((Tells.traced call id hcalls).discard.related h).2
  | render view source parser? includePath => exact ((Tells.render view hcalls).discard.related h).2
  | _ => cases hspeaks

theorem Step.installs_of_speaks {step : Step} (h : step.speaks = true) :
    step.installs = false := by
  cases step <;> first | rfl | cases h

theorem Step.keepsSettings_of_speaks {step : Step} (hspeaks : step.speaks = true)
    (hcalls : step.Calls fun _ => Tells registry) : step.KeepsSettings where
  installs := step.installs_of_speaks hspeaks
  calls := by
    cases step with
    | traced call function => exact hcalls.keeps_settings
    | render view source parser? includePath => exact hcalls.keeps_settings
    | _ => exact trivial

/-- What the quieter session says in a step the louder one says too, in the same order. -/
theorem Louder.said_sublist (h : Louder form registry w w' quiet loud) {step : Step}
    (hspeaks : step.speaks = true) (hcalls : step.Calls fun _ => Tells registry) :
    (Session.said quiet (step.next quiet)).Sublist (Session.said loud (step.next loud)) := by
  have hhere : Louder form registry quiet.diagnostics.writes loud.diagnostics.writes quiet loud :=
    { h with said := ⟨[], [], (List.append_nil _).symm, (List.append_nil _).symm, .slnil⟩ }
  obtain ⟨ts, ts', hquiet, hloud, hsub⟩ := (hhere.next hspeaks hcalls).said
  have hplace (s : Session) : (step.next s).manager.destination = s.manager.destination := by
    have hsettings := Step.keeps_settings (step.keepsSettings_of_speaks hspeaks hcalls) s
    have hsame := congrArg Manager.destination hsettings
    exact hsame
  have hsaid : Session.said quiet (step.next quiet) = ts := said_eq (hplace quiet) hquiet
  have hsaid' : Session.said loud (step.next loud) = ts' := said_eq (hplace loud) hloud
  rw [hsaid, hsaid']
  exact hsub

theorem Louder.run (h : Louder form registry w w' quiet loud) {steps : List Step}
    (hsteps : ∀ step ∈ steps, step.speaks = true ∧ step.Calls fun _ => Tells registry) :
    Louder form registry w w' (Step.run steps quiet) (Step.run steps loud) := by
  induction steps generalizing quiet loud with
  | nil => exact h
  | cons step steps ih =>
    obtain ⟨⟨hspeaks, hcalls⟩, hrest⟩ := List.forall_mem_cons.mp hsteps
    exact ih (h.next hspeaks hcalls) hrest

/-- A session under one of two new managers with the same levels for channels is the louder one
under the manager with the higher verbosity. -/
theorem louder_new (s : Session) {v v' : Int} (hv : v ≤ v') (levels : Json.Table Int)
    (destination : Destination) (hwrites : (s.stream destination).WritesAs form) :
    let writes := (s.stream destination).writes
    Louder form s.hints writes writes { s with manager := .ofLevels v levels destination }
      { s with manager := .ofLevels v' levels destination } := by
  have hplace (v : Int) :
      ({ s with manager := .ofLevels v levels destination } : Session).diagnostics =
        s.stream destination := by
    cases destination <;> rfl
  exact {
    manager := Manager.louder_ofLevels hv levels destination
    quiet_writes := by rw [hplace]; exact hwrites
    loud_writes := by rw [hplace]; exact hwrites
    output := rfl
    quiet_hints := rfl
    loud_hints := rfl
    said := ⟨[], [], by rw [hplace, List.append_nil], by rw [hplace, List.append_nil], .slnil⟩
    shown := .slnil
    hidden := List.forall_mem_nil _ }

end Session

end TargetHelp
