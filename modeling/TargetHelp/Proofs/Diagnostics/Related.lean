import TargetHelp.Proofs.Diagnostics.Outcome

/-!
# Steps that keep sessions related

Two steps are related over a relation of sessions if from related sessions they come to the same
value or fault and leave related sessions. Related steps can be put together in every way that
steps can, and a step that only leaves its session related to others may be left out.
-/

set_option autoImplicit false
set_option relaxedAutoImplicit false

namespace TargetHelp.Session

variable {α β : Type} {R : Session → Session → Prop}

/-- Steps that from related sessions come to the same and leave related sessions. -/
def Related (R : Session → Session → Prop) (m n : SessionM α) : Prop :=
  ∀ ⦃s t : Session⦄, R s t →
    (outcome m s).1 = (outcome n t).1 ∧ R (outcome m s).2 (outcome n t).2

namespace Related

/-- Related steps are related the other way round. -/
theorem flip {m n : SessionM α} (h : Related R m n) : Related (fun s t => R t s) n m := by
  intro s t hst
  obtain ⟨hvalue, hafter⟩ := h hst
  exact ⟨hvalue.symm, hafter⟩

theorem pure (a : α) : Related R (pure a) (pure a) := fun _ _ hst => ⟨rfl, hst⟩

theorem throw (f : Fault) : Related R (throw f : SessionM α) (throw f) :=
  fun _ _ hst => ⟨rfl, hst⟩

theorem attempt (r : Except Fault α) : Related R (attempt r) (attempt r) := by
  intro s t hst
  rw [outcome_attempt, outcome_attempt]
  exact ⟨rfl, hst⟩

/-- What stands behind related steps need only be related for the values that these come to. -/
theorem bind_of_ok {m n : SessionM α} {next next' : α → SessionM β} (h : Related R m n)
    (hnext : ∀ s t a, R s t → (outcome m s).1 = .ok a → Related R (next a) (next' a)) :
    Related R (m >>= next) (n >>= next') := by
  intro s t hst
  obtain ⟨hvalue, hafter⟩ := h hst
  have hnext := hnext s t
  rw [outcome_bind, outcome_bind]
  rcases hm : outcome m s with ⟨r, s'⟩
  rcases hn : outcome n t with ⟨r', t'⟩
  rw [hm, hn] at hvalue hafter
  rw [hm] at hnext
  obtain rfl : r = r' := hvalue
  cases r with
  | ok a => exact hnext a hst rfl hafter
  | error f => exact ⟨rfl, hafter⟩

theorem bind {m n : SessionM α} {next next' : α → SessionM β} (h : Related R m n)
    (hnext : ∀ a, Related R (next a) (next' a)) : Related R (m >>= next) (n >>= next') :=
  h.bind_of_ok fun _ _ a _ _ => hnext a

theorem tryCatch {m n : SessionM α} {handle handle' : Fault → SessionM α} (h : Related R m n)
    (hhandle : ∀ f, Related R (handle f) (handle' f)) :
    Related R (tryCatch m handle) (tryCatch n handle') := by
  intro s t hst
  obtain ⟨hvalue, hafter⟩ := h hst
  rw [outcome_tryCatch, outcome_tryCatch]
  rcases hm : outcome m s with ⟨r, s'⟩
  rcases hn : outcome n t with ⟨r', t'⟩
  rw [hm, hn] at hvalue hafter
  obtain rfl : r = r' := hvalue
  cases r with
  | ok a => exact ⟨rfl, hafter⟩
  | error f => exact hhandle f hafter

theorem forM {ts : List α} {act act' : α → SessionM PUnit} (h : ∀ t, Related R (act t) (act' t)) :
    Related R (ts.forM act) (ts.forM act') := by
  induction ts with
  | nil => exact Related.pure PUnit.unit
  | cons t ts ih => exact (h t).bind fun _ => ih

/-- What stands behind a step that comes to one value goes on with it. -/
theorem after {m : SessionM α} {a : α} {next : α → SessionM β} {n : SessionM β}
    (h : Related R m (Pure.pure a)) (hnext : Related R (next a) n) : Related R (m >>= next) n := by
  intro s t hst
  obtain ⟨hvalue, hafter⟩ := h hst
  rw [outcome_bind]
  rcases hm : outcome m s with ⟨r, s'⟩
  rw [hm] at hvalue hafter
  obtain rfl : r = .ok a := hvalue
  exact hnext hafter

/-- What is related to doing nothing may be left out. -/
theorem skip {m : SessionM Unit} {next n : SessionM α} (h : Related R m (Pure.pure ()))
    (hnext : Related R next n) : Related R (m >>= fun _ => next) n :=
  h.after hnext

/-- What stands behind a step, gives its value on and is related to doing just that may be left
out. -/
theorem followed {m n : SessionM α} {next : α → SessionM α} (h : Related R m n)
    (hnext : ∀ a, Related R (next a) (Pure.pure a)) : Related R (m >>= next) n := by
  have hbind : Related R (m >>= next) (n >>= Pure.pure) := h.bind hnext
  rwa [bind_pure] at hbind

/-- What stands behind a fault, throws it again and is related to doing just that may be left
out. -/
theorem rethrown {m n : SessionM α} {handle : Fault → SessionM α} (h : Related R m n)
    (hhandle : ∀ f, Related R (handle f) (MonadExcept.throw f)) :
    Related R (MonadExcept.tryCatch m handle) n := by
  intro s t hst
  obtain ⟨hvalue, hafter⟩ := h hst
  rw [outcome_tryCatch]
  rcases hm : outcome m s with ⟨r, s'⟩
  rcases hn : outcome n t with ⟨r', t'⟩
  rw [hm, hn] at hvalue hafter
  obtain rfl : r = r' := hvalue
  cases r with
  | ok a => exact ⟨rfl, hafter⟩
  | error f => exact hhandle f hafter

end Related

/-- Sessions stay related whatever is reported beside traces. -/
def Reports (R : Session → Session → Prop) : Prop :=
  ∀ (level : Int) (channel t : Text), channel ≠ "trace" →
    Related R (report level channel t) (report level channel t)

/-- Sessions stay related whatever they are warned of. -/
def Warns (R : Session → Session → Prop) : Prop :=
  ∀ t, Text.startsWith "  [WARN] " t = true → Related R (warning t) (warning t)

theorem Reports.warns {R : Session → Session → Prop} (h : Reports R) : Warns R :=
  fun t _ => h _ _ t (by decide)

/-! ### Traces -/

/-- A line of a trace, told by the manager in charge. -/
def trace (t : Text) : SessionM Unit := report Level.debug "trace" t

/-- A step between the lines of its trace, both told by the manager in charge then. -/
def betweenLines (call : Call) (shown? : α → Option Text) (step : SessionM α) : SessionM α := do
  trace call.entry
  let value ← tryCatch step fun fault => do
    if !fault.isInterrupt then trace (call.raised fault)
    throw fault
  match shown? value with
  | some t => trace (call.returned t)
  | none => pure ()
  return value

/-- The manager in charge is the one behind all that were in charge before. -/
theorem managerAt_retired (s : Session) : s.managerAt s.retired.length = s.manager := by
  unfold managerAt
  rw [List.getElem?_eq_none (Nat.le_refl _), Option.getD_none]

/-- As long as no other manager is put in charge, the one of a trace is in charge. -/
theorem outcome_traceBy {s : Session} {place : Nat} (h : s.retired.length = place) (t : Text) :
    outcome (traceBy place t) s = outcome (trace t) s := by
  subst h
  unfold traceBy
  rw [outcome_bind, outcome_get]
  dsimp only
  rw [managerAt_retired]
  rfl

/-- Below the level of traces a step runs without a trace. -/
theorem outcome_traced_of_isBelow {s : Session}
    (hoff : (s.manager.threshold "trace").isBelow Level.debug = .ok true) (call : Call)
    (shown? : α → Option Text) (step : SessionM α) :
    outcome (traced call shown? step) s = outcome step s := by
  unfold traced
  rw [outcome_bind, outcome_get]
  dsimp only
  rw [outcome_bind, outcome_attempt, hoff]
  rfl

/-- A step that puts no other manager in charge runs between the lines of its trace where calls are
traced. -/
theorem outcome_traced_of_keeps {s : Session}
    (hon : (s.manager.threshold "trace").isBelow Level.debug = .ok false) (call : Call)
    (shown? : α → Option Text) {step : SessionM α} (hkeeps : Keeps Session.retired step) :
    outcome (traced call shown? step) s = outcome (betweenLines call shown? step) s := by
  have hentry : (outcome (trace call.entry) s).2.retired = s.retired :=
    keeps_report hidesDiagnostics_retired _ _ _ s
  unfold traced betweenLines
  rw [outcome_bind, outcome_get]
  dsimp only
  rw [outcome_bind, outcome_attempt, hon]
  change outcome (traceBy s.retired.length call.entry >>= _) s = _
  rw [outcome_bind, outcome_bind, outcome_traceBy rfl]
  rcases hannounced : outcome (trace call.entry) s with ⟨r, before⟩
  rw [hannounced] at hentry
  cases r with
  | error f => rfl
  | ok _ =>
    have hkept : (outcome step before).2.retired = s.retired := (hkeeps before).trans hentry
    dsimp only
    rw [outcome_bind, outcome_bind, outcome_tryCatch, outcome_tryCatch]
    rcases hstep : outcome step before with ⟨r, after⟩
    rw [hstep] at hkept
    -- The line behind the step goes through the manager that the step has left in charge.
    have hclosing (t : Text) := outcome_traceBy (congrArg List.length hkept) t
    cases r with
    | ok a =>
      dsimp only
      cases shown? a with
      | none => rfl
      | some t => exact outcome_bind_congr (hclosing _)
    | error f =>
      dsimp only
      by_cases hinterrupt : (!f.isInterrupt) = true
      · rw [if_pos hinterrupt, if_pos hinterrupt, outcome_bind, outcome_bind, hclosing]
        rcases outcome (trace (call.raised f)) after with ⟨r, last⟩
        cases r <;> rfl
      · rw [if_neg hinterrupt, if_neg hinterrupt]
        rfl

/-- Where the threshold of traces is a level, it tells whether a step that puts no other manager in
charge is traced. -/
theorem outcome_traced {s : Session} {n : Int} (hlevel : s.manager.threshold "trace" = .level n)
    (call : Call) (shown? : α → Option Text) {step : SessionM α}
    (hkeeps : Keeps Session.retired step) :
    outcome (traced call shown? step) s =
      outcome (if n < Level.debug then step else betweenLines call shown? step) s := by
  have hoff : (s.manager.threshold "trace").isBelow Level.debug =
      .ok (decide (n < Level.debug)) := by
    rw [hlevel]
    rfl
  by_cases hbelow : n < Level.debug
  · rw [decide_eq_true hbelow] at hoff
    rw [if_pos hbelow, outcome_traced_of_isBelow hoff]
  · rw [decide_eq_false hbelow] at hoff
    rw [if_neg hbelow, outcome_traced_of_keeps hoff _ _ hkeeps]

/-- Where the threshold of traces is a level, it tells whether a call is announced. -/
theorem outcome_announce {s : Session} {n : Int} (hlevel : s.manager.threshold "trace" = .level n)
    (call : Call) :
    outcome (announce call) s =
      outcome (if n < Level.debug then pure () else trace call.entry) s := by
  unfold announce
  rw [outcome_bind, outcome_get]
  dsimp only
  rw [outcome_bind, outcome_attempt, hlevel]
  by_cases hbelow : n < Level.debug
  · rw [if_pos hbelow]
    exact congrArg (fun b : Bool => outcome (if b then pure () else _) s) (decide_eq_true hbelow)
  · rw [if_neg hbelow, ← outcome_traceBy (Eq.refl s.retired.length)]
    exact congrArg (fun b : Bool => outcome (if b then pure () else _) s) (decide_eq_false hbelow)

/-- Related steps stay related between the lines of their traces. -/
theorem Related.betweenLines (htrace : ∀ t, Related R (trace t) (trace t)) (call : Call)
    (shown? : α → Option Text) {m n : SessionM α} (h : Related R m n) :
    Related R (betweenLines call shown? m) (betweenLines call shown? n) := by
  refine (htrace _).bind fun _ => Related.bind (h.tryCatch fun f => ?_) fun a => ?_
  · by_cases hinterrupt : (!f.isInterrupt) = true
    · rw [if_pos hinterrupt]
      exact (htrace _).bind fun _ => Related.throw f
    · rw [if_neg hinterrupt]
      exact Related.throw f
  · cases shown? a with
    | none => exact Related.pure a
    | some t => exact (htrace _).bind fun _ => Related.pure a

/-- Related sessions stay related when one of them tells more than is told by default, and whether
it traces calls is clear. -/
structure HidesDetails (R : Session → Session → Prop) : Prop where
  level : ∀ s t, R s t → ∃ n, s.manager.threshold "trace" = .level n
  report : ∀ (level : Int) (channel t : Text), 0 < level →
    Related R (report level channel t) (pure ())

/-- A traced step that puts no other manager in charge is related to what the step is related
to. -/
theorem HidesDetails.traced (hR : HidesDetails R) (call : Call) (shown? : α → Option Text)
    {m n : SessionM α} (hkeeps : Keeps Session.retired m) (h : Related R m n) :
    Related R (traced call shown? m) n := by
  have htrace (t : Text) : Related R (trace t) (pure ()) := hR.report _ _ _ (by decide)
  intro s t hst
  obtain ⟨level, hlevel⟩ := hR.level s t hst
  rw [outcome_traced hlevel _ _ hkeeps]
  by_cases hoff : level < Level.debug
  · rw [if_pos hoff]
    exact h hst
  · rw [if_neg hoff]
    refine Related.skip (htrace _) (Related.followed (Related.rethrown h fun f => ?_) fun a => ?_)
      hst
    · by_cases hinterrupt : (!f.isInterrupt) = true
      · rw [if_pos hinterrupt]
        exact Related.skip (htrace _) (Related.throw f)
      · rw [if_neg hinterrupt]
        exact Related.throw f
    · cases shown? a with
      | none => exact Related.pure a
      | some t => exact Related.skip (htrace _) (Related.pure a)

end TargetHelp.Session
