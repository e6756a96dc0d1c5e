import TargetHelp.Proofs.Session.Tracing

/-!
# Error reports

An error report is one line, its message in it as it is. It goes where diagnostics go, and only if
it is refused there to the error stream; so it is neither lost nor written twice. Behind the wall no
line is written in the first place, and nothing is left for the error stream to take.
-/

set_option autoImplicit false
set_option relaxedAutoImplicit false

namespace TargetHelp

/-- Every text is refused with a fault that makes an error report fall back to the error stream. -/
def Stream.Refuses (stream : Stream) : Prop :=
  ∀ (writes : List Text) (t : Text),
    ∃ fault, Stream.accept stream.policy writes t = .error fault ∧ fault.isReportable = true

theorem Threshold.passes_of_isWall {threshold : Threshold} (h : threshold.isWall = .ok true)
    (level : Int) : threshold.passes level = .ok false := by
  cases threshold with
  | level n =>
    have hwall : ¬ Level.wall < n := not_lt.mpr (of_decide_eq_true (Except.ok.inj h))
    rw [passes_level, decide_eq_false hwall, Bool.false_and]
  | other value => exact Session.bind_eq_ok_iff.mpr ⟨true, h, rfl⟩
  | stranger typeName => cases h

namespace Session

/-- The line of an error report. -/
def errorLine (message : Text) : Text := ("  ERROR: " : Text) ++ message ++ [Text.lineFeed]

variable {s : Session}

/-! ### Lines that are refused -/

theorem outcome_printLine_of_refuses (h : s.diagnostics.Refuses) (t : Text) :
    ∃ fault, outcome (printLine t) s = (.error fault, s) ∧ fault.isReportable = true := by
  obtain ⟨fault, hrefused, hreportable⟩ := h s.diagnostics.writes (t ++ [Text.lineFeed])
  obtain ⟨u, hu, -⟩ | ⟨other, hother, hprint⟩ := printLine_cases t s
  · cases hrefused.symm.trans hu
  · obtain rfl : fault = other := Except.error.inj (hrefused.symm.trans hother)
    exact ⟨fault, hprint, hreportable⟩

/-! ### Error reports -/

/-- A report that is refused goes to the error stream. -/
theorem outcome_printError_of_error {message : Text} {fault : Fault} {s' : Session}
    (h : outcome (Session.error ("  ERROR: " ++ message)) s = (.error fault, s'))
    (hreportable : fault.isReportable = true) :
    outcome (printError message) s = outcome (printLineTo .errors ("  ERROR: " ++ message)) s' := by
  unfold printError
  rw [outcome_tryCatch, h]
  dsimp only
  rw [if_pos hreportable]
  rfl

theorem outcome_error_of_passes
    (h : (s.manager.threshold "error").isBelow Level.error = .ok false) (t : Text) :
    outcome (Session.error t) s = outcome (printLine t) s :=
  outcome_report (Threshold.passes_of_isBelow (by decide) h) t

theorem outcome_error_of_wall (h : (s.manager.threshold "error").isWall = .ok true) (t : Text) :
    outcome (Session.error t) s = (.ok (), s) :=
  outcome_report (Threshold.passes_of_isWall h Level.error) t

/-- Unless the threshold of errors is below theirs, all that an error report does is to write its
line, with the message as it is: where diagnostics go if that place takes texts, and on the error
stream if that place refuses them. At the wall it does nothing at all, wherever diagnostics go. In
none of these cases does it raise anything. -/
theorem printError_once (s : Session) (message : Text) (form formErrors : Text → Text) :
    ((s.manager.threshold "error").isBelow Level.error = .ok false →
      (s.diagnostics.WritesAs form → outcome (printError message) s =
        (.ok (), s.withWrite (form (errorLine message)))) ∧
      (s.diagnostics.Refuses → s.errors.WritesAs formErrors → outcome (printError message) s =
        (.ok (), s.withWriteTo .errors (formErrors (errorLine message))))) ∧
    ((s.manager.threshold "error").isWall = .ok true →
      outcome (printError message) s = (.ok (), s)) := by
  refine ⟨fun hthreshold => ⟨fun hdiagnostics => ?_, fun hrefuses herrors => ?_⟩, fun hwall => ?_⟩
  · refine outcome_printError_of_ok ?_
    rw [outcome_error_of_passes hthreshold, outcome_printLine_of_writesAs hdiagnostics]
    rfl
  · obtain ⟨fault, hprint, hreportable⟩ :=
      outcome_printLine_of_refuses hrefuses ("  ERROR: " ++ message)
    rw [outcome_printError_of_error ((outcome_error_of_passes hthreshold _).trans hprint)
      hreportable]
    exact @outcome_printLineTo_of_writesAs s .errors formErrors herrors _
  · exact outcome_printError_of_ok (outcome_error_of_wall hwall _)

/-- A message with braces and a line feed in it, at the lowest threshold that lets errors through: a
sink takes it, a sink that refuses it leaves it to the error stream, and behind the wall not even
that one gets it. -/
theorem printError_once_braces :
    let message : Text := "\x7bn\x7d\n\x7b"
    let manager (n : Int) : Manager :=
      { verbosity := .level 2, overrides := [(.str "error", .level n)], destination := .sink }
    let s (n : Int) (policy : Policy) : Session :=
      { manager := manager n, sink := ⟨policy, ["before\n"]⟩ }
    outcome (printError message) (s (-3) .everything) =
      (.ok (), (s (-3) .everything).withWriteTo .sink "  ERROR: \x7bn\x7d\n\x7b\n") ∧
    outcome (printError message) (s (-3) (.broken .noChannels)) =
      (.ok (), (s (-3) (.broken .noChannels)).withWriteTo .errors
        "  ERROR: \x7bn\x7d\n\x7b\n") ∧
    outcome (printError message) (s (-4) (.broken .noChannels)) =
      (.ok (), s (-4) (.broken .noChannels)) := by
  intro message manager s
  have hrefuses : (s (-3) (.broken .noChannels)).diagnostics.Refuses :=
    fun _ _ => ⟨.noChannels, rfl, by decide⟩
  exact ⟨((printError_once (s (-3) .everything) message id id).1 rfl).1 fun _ _ => rfl,
    ((printError_once (s (-3) (.broken .noChannels)) message id id).1 rfl).2 hrefuses
      fun _ _ => rfl,
    (printError_once (s (-4) (.broken .noChannels)) message id id).2 rfl⟩

end Session

end TargetHelp
