import TargetHelp.Proofs.Diagnostics.Related

/-!
# Steps that agree up to diagnostics

Two sessions are alike if they differ in their diagnostics alone and the place of these takes all
that is written to it. Two steps agree if from alike sessions they come to the same value or fault
and leave alike sessions. Everything that only speaks to the user agrees with doing nothing, so a
step agrees with what is left of it without its diagnostics, and two steps with the same rest agree
with one another, whatever their managers show.
-/

set_option autoImplicit false
set_option relaxedAutoImplicit false

namespace TargetHelp

/-- Every text is taken, whatever has been written before. -/
def Stream.TakesAll (stream : Stream) : Prop :=
  ∀ (writes : List Text) (t : Text), ∃ u, Stream.accept stream.policy writes t = .ok u

theorem Stream.takesAll_escaping (writes : List Text) : Stream.TakesAll ⟨.escaping, writes⟩ :=
  fun _ t => ⟨Text.escapeSurrogates t, rfl⟩

theorem Stream.TakesAll.write {stream : Stream} (h : stream.TakesAll) (t : Text) :
    ∃ next, stream.write t = .ok next ∧ next.TakesAll := by
  obtain ⟨u, hu⟩ := h stream.writes t
  refine ⟨{ stream with writes := stream.writes ++ [u] }, ?_, h⟩
  rw [Stream.write, hu]
  rfl

/-- All thresholds of a manager are levels. -/
structure Manager.HasLevels (manager : Manager) : Prop where
  verbosity : ∃ n, manager.verbosity = .level n
  overrides : ∀ entry ∈ manager.overrides, ∃ n, entry.2 = .level n

theorem Manager.HasLevels.get? {manager : Manager} (h : manager.HasLevels) (key : Json) :
    ∃ n, (manager.overrides.get? key).getD manager.verbosity = .level n := by
  unfold Json.Table.get?
  cases hfind : manager.overrides.find? fun entry => Json.same entry.1 key with
  | none => exact h.verbosity
  | some entry => exact h.overrides entry (List.mem_of_find?_eq_some hfind)

theorem Manager.HasLevels.threshold {manager : Manager} (h : manager.HasLevels) (channel : Text) :
    ∃ n, manager.threshold channel = .level n := h.get? (.str channel)

theorem Manager.HasLevels.thresholdOf {manager : Manager} (h : manager.HasLevels) {channel : Json}
    (hkey : channel.checkKey = .ok ()) : ∃ n, manager.thresholdOf channel = .ok (.level n) := by
  obtain ⟨n, hn⟩ := h.get? channel
  unfold Manager.thresholdOf
  rw [hkey, hn]
  exact ⟨n, rfl⟩

/-- Whether a report is shown is always clear then. -/
theorem Manager.HasLevels.exists_shows {manager : Manager} (h : manager.HasLevels) (level : Int)
    (channel : Text) : ∃ shown, manager.shows level channel = .ok shown := by
  obtain ⟨n, hn⟩ := h.threshold channel
  unfold Manager.shows
  rw [hn]
  exact ⟨_, Threshold.passes_level n level⟩

theorem Json.isAbove_int (m n : Int) : (Json.int m).isAbove (.int n) = .ok (decide (n < m)) := by
  have hless : Json.less (.int n) (.int m) = .ok (decide (n < m)) := by
    unfold Json.less
    simp [Json.amount?, Json.integer?, Amount.ofInt, Amount.below]
  rw [Json.isAbove, hless]
  rfl

theorem Threshold.passesAny_int (n m : Int) :
    (Threshold.level n).passesAny (.int m) = .ok (decide (Level.wall < n) && decide (m ≤ n)) := by
  have habove := Json.isAbove_int m n
  unfold Threshold.passesAny
  change (if decide (n ≤ Level.wall) = true then _ else _) = _
  by_cases hwall : n ≤ Level.wall
  · have hnot : ¬ Level.wall < n := by omega
    rw [if_pos (decide_eq_true hwall), decide_eq_false hnot]
    rfl
  · have hlt : Level.wall < n := by omega
    rw [if_neg fun h => hwall (of_decide_eq_true h), decide_eq_true hlt]
    change ((Json.int m).isAbove (.int n) >>= _) = _
    rw [habove]
    change Except.ok (!decide (n < m)) = Except.ok (true && decide (m ≤ n))
    rw [Bool.true_and, ← decide_not]
    simp only [Int.not_lt]

/-- A hint that can be shown with some arguments: its level is a level, and its message takes
them. -/
structure Hint.Fits (hint : Hint) (arguments : Fields Json) : Prop where
  level : ∃ n, hint.minLevel = .int n
  message : ∃ template t, Session.templateOf hint.message arguments = .ok template ∧
    Template.message arguments template = .ok t

namespace Session

variable {α β : Type}

def stream (s : Session) : Destination → Stream
  | .sink => s.sink
  | .errors => s.errors

/-- Diagnostics go to a place that takes them, the thresholds for them are levels, and the hints
are those of a registry. -/
structure Ready (d : Destination) (registry : Hint.Registry) (s : Session) : Prop where
  destination : s.manager.destination = d
  takesAll : (s.stream d).TakesAll
  levels : s.manager.HasLevels
  hints : s.hints = registry

/-- Sessions that differ in their diagnostics alone. -/
structure Alike (d : Destination) (registry : Hint.Registry) (s t : Session) : Prop where
  left : s.Ready d registry
  right : t.Ready d registry
  output : s.output = t.output

/-- Steps that from alike sessions come to the same and leave alike sessions. -/
def Agree (d : Destination) (registry : Hint.Registry) (m n : SessionM α) : Prop :=
  ∀ ⦃s t : Session⦄, Alike d registry s t →
    (outcome m s).1 = (outcome n t).1 ∧ Alike d registry (outcome m s).2 (outcome n t).2

variable {d : Destination} {registry : Hint.Registry}

/-- A new session is ready: its manager has levels and its streams take everything. -/
theorem ready_new : ({} : Session).Ready .errors Hint.ofProgram :=
  ⟨rfl, fun _ t => ⟨t, rfl⟩, ⟨⟨0, rfl⟩, List.forall_mem_nil _⟩, rfl⟩

theorem Ready.alike {s : Session} (h : s.Ready d registry) : Alike d registry s s := ⟨h, h, rfl⟩

theorem Alike.symm {s t : Session} (h : Alike d registry s t) : Alike d registry t s :=
  ⟨h.right, h.left, h.output.symm⟩

theorem Alike.trans {s t u : Session} (h : Alike d registry s t) (h' : Alike d registry t u) :
    Alike d registry s u :=
  ⟨h.left, h'.right, h.output.trans h'.output⟩

namespace Agree

theorem symm {m n : SessionM α} (h : Agree d registry m n) : Agree d registry n m := by
  intro s t hst
  obtain ⟨hvalue, hafter⟩ := h hst.symm
  exact ⟨hvalue.symm, hafter.symm⟩

theorem trans {m n k : SessionM α} (h : Agree d registry m n) (h' : Agree d registry n k) :
    Agree d registry m k := by
  intro s t hst
  obtain ⟨hvalue, hafter⟩ := h hst.left.alike
  obtain ⟨hvalue', hafter'⟩ := h' hst
  exact ⟨hvalue.trans hvalue', hafter.trans hafter'⟩

theorem pure (a : α) : Agree d registry (pure a) (pure a) := Related.pure a

theorem throw (f : Fault) : Agree d registry (throw f : SessionM α) (throw f) := Related.throw f

theorem attempt (r : Except Fault α) : Agree d registry (attempt r) (attempt r) :=
  Related.attempt r

theorem bind {m n : SessionM α} {next next' : α → SessionM β} (h : Agree d registry m n)
    (hnext : ∀ a, Agree d registry (next a) (next' a)) :
    Agree d registry (m >>= next) (n >>= next') :=
  Related.bind h hnext

theorem tryCatch {m n : SessionM α} {handle handle' : Fault → SessionM α}
    (h : Agree d registry m n) (hhandle : ∀ f, Agree d registry (handle f) (handle' f)) :
    Agree d registry (tryCatch m handle) (tryCatch n handle') :=
  Related.tryCatch h hhandle

/-- A step that comes to a value whatever the session and shows nothing on the output. -/
theorem of_silent {m : SessionM α} {a : α}
    (h : ∀ s, s.Ready d registry →
      ∃ s', outcome m s = (.ok a, s') ∧ s'.Ready d registry ∧ s'.output = s.output) :
    Agree d registry m (Pure.pure a) := by
  intro s t hst
  obtain ⟨s', hm, hready, houtput⟩ := h s hst.left
  rw [hm]
  exact ⟨rfl, hready, hst.right, houtput.trans hst.output⟩

/-- What agrees with itself leaves a ready session ready. -/
theorem ready {m : SessionM α} (h : Agree d registry m m) {s s' : Session} {r : Except Fault α}
    (hs : s.Ready d registry) (hm : outcome m s = (r, s')) : s'.Ready d registry := by
  have hafter := (h hs.alike).2
  rw [hm] at hafter
  exact hafter.left

/-- What agrees with doing nothing agrees with itself. -/
theorem of_skipped {m : SessionM Unit} (h : Agree d registry m (Pure.pure ())) :
    Agree d registry m m :=
  h.trans h.symm

/-- What agrees with doing nothing may be left out. -/
theorem skip {m : SessionM Unit} {next n : SessionM α} (h : Agree d registry m (Pure.pure ()))
    (hnext : Agree d registry next n) : Agree d registry (m >>= fun _ => next) n :=
  Related.skip h hnext

end Agree

/-! ### Writing -/

theorem Ready.writeSink {s : Session} (h : s.Ready .sink registry) (t : Text) :
    ∃ s', outcome (writeSink t) s = (.ok (), s') ∧ s'.Ready .sink registry ∧
      s'.output = s.output := by
  obtain ⟨sink, hwrite, htakes⟩ := h.takesAll.write t
  have hwrite : s.sink.write t = .ok sink := hwrite
  refine ⟨{ s with sink }, ?_, ⟨h.destination, htakes, h.levels, h.hints⟩, rfl⟩
  unfold Session.writeSink
  rw [outcome_bind, outcome_get]
  dsimp only
  rw [outcome_bind, outcome_attempt, hwrite]
  rfl

theorem Ready.writeErrors {s : Session} (h : s.Ready .errors registry) (t : Text) :
    ∃ s', outcome (writeErrors t) s = (.ok (), s') ∧ s'.Ready .errors registry ∧
      s'.output = s.output := by
  obtain ⟨errors, hwrite, htakes⟩ := h.takesAll.write t
  have hwrite : s.errors.write t = .ok errors := hwrite
  refine ⟨{ s with errors }, ?_, ⟨h.destination, htakes, h.levels, h.hints⟩, rfl⟩
  unfold Session.writeErrors
  rw [outcome_bind, outcome_get]
  dsimp only
  rw [outcome_bind, outcome_attempt, hwrite]
  rfl

theorem Ready.printLine {s : Session} (h : s.Ready d registry) (t : Text) :
    ∃ s', outcome (printLine t) s = (.ok (), s') ∧ s'.Ready d registry ∧ s'.output = s.output := by
  unfold Session.printLine
  rw [outcome_bind, outcome_get]
  dsimp only
  rw [h.destination]
  cases d with
  | sink => exact h.writeSink _
  | errors => exact h.writeErrors _

theorem agree_writeErrors (t : Text) :
    Agree .errors registry (writeErrors t) (pure ()) :=
  Agree.of_silent fun _ h => h.writeErrors t

theorem agree_writeOutput (t : Text) : Agree d registry (writeOutput t) (writeOutput t) := by
  intro s t' hst
  unfold writeOutput
  rw [outcome_bind, outcome_bind, outcome_get, outcome_get]
  dsimp only
  rw [outcome_bind, outcome_bind, outcome_attempt, outcome_attempt, hst.output]
  cases t'.output.write t with
  | error f => exact ⟨rfl, hst⟩
  | ok output =>
    exact ⟨rfl, ⟨hst.left.destination, by cases d <;> exact hst.left.takesAll, hst.left.levels,
      hst.left.hints⟩, ⟨hst.right.destination, by cases d <;> exact hst.right.takesAll,
      hst.right.levels, hst.right.hints⟩, rfl⟩

/-! ### Diagnostics -/

/-- A ready session stays ready when something is reported. -/
theorem Ready.outcome_report {s : Session} (h : s.Ready d registry) (level : Int)
    (channel t : Text) :
    ∃ s', outcome (report level channel t) s = (.ok (), s') ∧ s'.Ready d registry ∧
      s'.output = s.output := by
  obtain ⟨shown, hshows⟩ := h.levels.exists_shows level channel
  rw [Session.outcome_report hshows]
  split
  · exact h.printLine t
  · exact ⟨s, rfl, h, rfl⟩

theorem agree_report (level : Int) (channel t : Text) :
    Agree d registry (report level channel t) (pure ()) :=
  Agree.of_silent fun _ h => h.outcome_report level channel t

/-- A ready session stays ready when a call is announced. -/
theorem Ready.outcome_announce {s : Session} (h : s.Ready d registry) (call : Call) :
    ∃ before, outcome (announce call) s = (.ok (), before) ∧ before.Ready d registry ∧
      before.output = s.output := by
  obtain ⟨n, hn⟩ := h.levels.threshold "trace"
  rw [Session.outcome_announce hn]
  split
  · exact ⟨s, rfl, h, rfl⟩
  · exact h.outcome_report _ _ _

theorem reports_alike : Reports (Alike d registry) :=
  fun _ _ _ _ => Agree.of_skipped (agree_report _ _ _)

/-- How much is told makes no difference but for the diagnostics. -/
theorem hidesDetails_alike : HidesDetails (Alike d registry) where
  level := fun _ _ hst => hst.left.levels.threshold "trace"
  report := fun _ _ _ _ => agree_report _ _ _

/-- An error report needs no other place while its own takes everything. -/
theorem Ready.outcome_printError {s : Session} (h : s.Ready d registry) (message : Text) :
    outcome (printError message) s = outcome (error ("  ERROR: " ++ message)) s := by
  have hagree : Agree d registry (error ("  ERROR: " ++ message)) (pure ()) := agree_report _ _ _
  have hvalue := (hagree h.alike).1
  rcases hr : outcome (error ("  ERROR: " ++ message)) s with ⟨r, s'⟩
  rw [hr] at hvalue
  obtain rfl : r = .ok () := hvalue
  exact outcome_printError_of_ok hr

theorem agree_printError (message : Text) : Agree d registry (printError message) (pure ()) := by
  intro s t hst
  rw [hst.left.outcome_printError]
  exact agree_report _ _ _ hst

/-! ### Hints -/

theorem Ready.printMessage {s : Session} (h : s.Ready d registry) {message : Text}
    {arguments : Fields Json} {t : Text} (ht : Template.message arguments message = .ok t) :
    ∃ s', outcome (printMessage message arguments) s = (.ok (), s') ∧ s'.Ready d registry ∧
      s'.output = s.output := by
  unfold Session.printMessage
  rw [outcome_bind, outcome_attempt, ht]
  exact h.printLine t

/-- Nothing keeps a manager of levels from telling whether a hint is due. -/
theorem exists_dueHint? {s : Session} (hlevels : s.manager.HasLevels) (hhints : s.hints = registry)
    {id : Text} (context : Text) {arguments : Fields Json}
    (hfits : ∀ hint, registry.find? (.str id) = some hint → hint.Fits arguments) :
    ∃ due?, s.dueHint? (.str id) (.str context) = .ok due? ∧
      ∀ hint, due? = some hint → hint.Fits arguments := by
  have hnone : ∀ hint, (none : Option Hint) = some hint → hint.Fits arguments :=
    fun hint hh => nomatch hh
  unfold dueHint?
  change ∃ due?, (if (_ : Bool) = true then _ else _) = _ ∧ _
  by_cases hshown : s.manager.shown.any (Json.same (.str id)) = true
  · rw [if_pos hshown]
    exact ⟨none, rfl, hnone⟩
  · rw [if_neg hshown]
    cases hfind : s.hints.find? (.str id) with
    | none => exact ⟨none, rfl, hnone⟩
    | some hint =>
      have hhint : hint.Fits arguments := hfits hint (by rw [← hhints]; exact hfind)
      obtain ⟨m, hm⟩ := hhint.level
      obtain ⟨n, hn⟩ := hlevels.threshold "hint"
      change ∃ due?, (if (_ : Bool) = true then _ else (Threshold.passesAny _ _ >>= _)) = _ ∧ _
      split
      · exact ⟨none, rfl, hnone⟩
      · rw [hm, hn, Threshold.passesAny_int]
        change ∃ due?, (if (_ : Bool) = true then _ else _) = _ ∧ _
        split
        · exact ⟨some hint, rfl, fun _ heq => Option.some.inj heq ▸ hhint⟩
        · exact ⟨none, rfl, hnone⟩

/-- A hint whose message takes its arguments only speaks. -/
theorem agree_hint {id context : Text} {arguments : Fields Json}
    (hfits : ∀ hint, registry.find? (.str id) = some hint → hint.Fits arguments) :
    Agree d registry (hint id context arguments) (pure ()) := by
  refine Agree.of_silent fun s h => ?_
  obtain ⟨due?, hdue, hfits⟩ := exists_dueHint? h.levels h.hints context hfits
  unfold hint hintIn
  rw [outcome_bind, outcome_get]
  dsimp only
  rw [outcome_bind, outcome_attempt, hdue]
  cases due? with
  | none => exact ⟨s, rfl, h, rfl⟩
  | some hint =>
    obtain ⟨template, t, htemplate, ht⟩ := (hfits hint rfl).message
    obtain ⟨s', hprint, hready, houtput⟩ := h.printMessage ht
    dsimp only
    rw [outcome_bind, outcome_attempt, htemplate]
    dsimp only
    rw [outcome_bind, hprint]
    refine ⟨_, rfl, ⟨hready.destination, ?_, ⟨hready.levels.verbosity, hready.levels.overrides⟩,
      hready.hints⟩, houtput⟩
    cases d <;> exact hready.takesAll

end Session

end TargetHelp
