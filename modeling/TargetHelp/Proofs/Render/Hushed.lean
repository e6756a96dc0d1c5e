import TargetHelp.Proofs.Render.AllOrNothing

/-!
# Nothing beyond the default

Where no channel has a threshold above zero, what is told beyond the default is not shown. Every
step is then the same as what is left of it without these details, on the very same session: a
rendering writes its view and does nothing else.
-/

set_option autoImplicit false
set_option relaxedAutoImplicit false

namespace TargetHelp

/-- No channel has a threshold above that of a program without flags. -/
def Manager.Hushed (manager : Manager) : Prop :=
  ∀ channel : Text, ∃ n : Int, manager.threshold channel = .level n ∧ n ≤ 0

namespace Session

/-- A session and itself, where nothing beyond the default is shown. -/
structure SameHushed (s t : Session) : Prop where
  same : s = t
  hushed : s.manager.Hushed

variable {α : Type} {s : Session}

/-- Steps related on hushed sessions do the same there. -/
theorem outcome_of_hushed {m n : SessionM α} (h : Related SameHushed m n)
    (hs : s.manager.Hushed) : outcome m s = outcome n s := by
  obtain ⟨hvalue, hafter⟩ := h ⟨rfl, hs⟩
  exact Prod.ext hvalue hafter.same

theorem outcome_report_of_hushed (hs : s.manager.Hushed) {level : Int} (hlevel : 0 < level)
    (channel t : Text) : outcome (report level channel t) s = (.ok (), s) := by
  obtain ⟨n, hn, hle⟩ := hs channel
  have hlow : ¬ level ≤ n := by omega
  have hshows : s.manager.shows level channel = .ok false := by
    rw [Manager.shows, hn, Threshold.passes_level, decide_eq_false hlow, Bool.and_false]
  rw [outcome_report hshows]
  rfl

theorem hidesDetails_sameHushed : HidesDetails SameHushed where
  level := by
    intro s t hst
    obtain ⟨n, hn, -⟩ := hst.hushed "trace"
    exact ⟨n, hn⟩
  report := by
    rintro level channel t hlevel s _ ⟨rfl, hs⟩
    rw [outcome_report_of_hushed hs hlevel]
    exact ⟨rfl, rfl, hs⟩

variable {parser? : Option Parser} {source : Source} {includePath : Json} {comments : List Comment}

/-- Rendering writes the view of the comments, if the output takes it and what the parser has to say
is not shown. -/
theorem outcome_render_of_hushed (hs : s.manager.Hushed) {result : Except Fault (List Node)}
    (hkeeps : Keeps Session.retired ((parser?.getD .nodeStream).read source includePath))
    (hread : Related SameHushed ((parser?.getD .nodeStream).read source includePath)
      (attempt result))
    (hcomments : Node.collected result = .ok comments) {view : View} {output : Stream}
    (houtput : s.output.writeAll (View.frame (view.pieces comments)) = .ok output) :
    outcome (render view source parser? includePath) s =
      (.ok (view.pieces comments).length, { s with output }) := by
  have hcollect := outcome_of_hushed (hidesDetails_sameHushed.collect hkeeps hread
    (renderingArguments parser? includePath)) hs
  rw [hcomments, outcome_attempt] at hcollect
  have hafter : ({ s with output } : Session).manager.Hushed := hs
  unfold render writeView
  rw [outcome_bind, hcollect]
  dsimp only
  rw [outcome_bind, outcome_writeOutputs houtput]
  dsimp only
  rw [outcome_bind, outcome_report_of_hushed hafter (by decide)]
  rfl

end Session

end TargetHelp
