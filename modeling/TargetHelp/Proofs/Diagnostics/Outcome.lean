import TargetHelp.Diagnostics.Trace

/-!
# Outcomes of steps

A step on a session comes to a value or a fault and leaves a session either way. What a step keeps
is said by a view of the session: diagnostics keep every view that shows neither the sink nor the
error stream, whether or not these take what is written to them.
-/

set_option autoImplicit false
set_option relaxedAutoImplicit false

namespace TargetHelp.Session

variable {α β γ : Type}

theorem bind_eq_ok_iff {ε : Type} {x : Except ε α} {next : α → Except ε β} {b : β} :
    x >>= next = .ok b ↔ ∃ a, x = .ok a ∧ next a = .ok b := by
  cases x with
  | ok a => exact ⟨fun h => ⟨a, rfl, h⟩, fun ⟨_, ha, h⟩ => Except.ok.inj ha ▸ h⟩
  | error f => exact ⟨fun h => (by cases h), fun ⟨_, ha, _⟩ => (by cases ha)⟩

/-- What a step comes to on a session, and the session it leaves. -/
def outcome (m : SessionM α) (s : Session) : Except Fault α × Session := ExceptT.run m s

theorem outcome_get (s : Session) : outcome get s = (.ok s, s) := rfl

theorem outcome_attempt (r : Except Fault α) (s : Session) : outcome (attempt r) s = (r, s) := by
  cases r <;> rfl

theorem outcome_bind (m : SessionM α) (next : α → SessionM β) (s : Session) :
    outcome (m >>= next) s =
      match outcome m s with
      | (.ok a, s') => outcome (next a) s'
      | (.error f, s') => (.error f, s') := by
  change (StateT.bind (ExceptT.run m) (ExceptT.bindCont next) : StateT _ _ _) s = _
  unfold StateT.bind outcome
  rcases ExceptT.run m s with ⟨r, s'⟩
  cases r <;> rfl

theorem outcome_tryCatch (m : SessionM α) (handle : Fault → SessionM α) (s : Session) :
    outcome (tryCatch m handle) s =
      match outcome m s with
      | (.ok a, s') => (.ok a, s')
      | (.error f, s') => outcome (handle f) s' := by
  change ExceptT.tryCatch m handle s = _
  unfold ExceptT.tryCatch ExceptT.mk outcome ExceptT.run
  change StateT.bind m _ s = _
  unfold StateT.bind
  rcases m s with ⟨r, s'⟩
  cases r <;> rfl

/-- A step that comes to a value behind another one gets there through a value of that one. -/
theorem outcome_bind_eq_ok {m : SessionM α} {next : α → SessionM β} {s s' : Session} {b : β}
    (h : outcome (m >>= next) s = (.ok b, s')) :
    ∃ a middle, outcome m s = (.ok a, middle) ∧ outcome (next a) middle = (.ok b, s') := by
  rw [outcome_bind] at h
  rcases hm : outcome m s with ⟨r, middle⟩
  rw [hm] at h
  cases r with
  | ok a => exact ⟨a, middle, rfl, h⟩
  | error f => cases h

/-- What stands behind a step that comes to a value goes on with it. -/
theorem outcome_bind_of_ok {m : SessionM α} {s s' : Session} {a : α}
    (h : outcome m s = (.ok a, s')) (next : α → SessionM β) :
    outcome (m >>= next) s = outcome (next a) s' := by
  rw [outcome_bind, h]

/-- Steps that come to the same go on alike. -/
theorem outcome_bind_congr {m n : SessionM α} {next : α → SessionM β} {s : Session}
    (h : outcome m s = outcome n s) : outcome (m >>= next) s = outcome (n >>= next) s := by
  rw [outcome_bind, outcome_bind, h]

/-- A report of the manager in charge. -/
theorem outcome_reportBy (s : Session) (level : Int) (channel t : Text) :
    outcome (reportBy s.manager level channel t) s = outcome (report level channel t) s := rfl

/-- A report is printed if the manager shows it, and else nothing is done. -/
theorem outcome_report {s : Session} {level : Int} {channel : Text} {shown : Bool}
    (h : s.manager.shows level channel = .ok shown) (t : Text) :
    outcome (report level channel t) s = outcome (if shown then printLine t else pure ()) s := by
  rw [← outcome_reportBy]
  unfold reportBy
  rw [outcome_bind, outcome_attempt, h]
  cases shown <;> rfl

/-- An error report that comes to a value is left at that. -/
theorem outcome_printError_of_ok {message : Text} {s s' : Session}
    (h : outcome (Session.error ("  ERROR: " ++ message)) s = (.ok (), s')) :
    outcome (printError message) s = (.ok (), s') := by
  unfold printError
  rw [outcome_tryCatch, h]

/-! ### What steps keep -/

/-- The step leaves what a view shows as it was, whatever it comes to. -/
def Keeps (view : Session → γ) (m : SessionM α) : Prop := ∀ s, view (outcome m s).2 = view s

namespace Keeps

variable {view : Session → γ}

theorem pure (a : α) : Keeps view (pure a : SessionM α) := fun _ => rfl

theorem throw (f : Fault) : Keeps view (throw f : SessionM α) := fun _ => rfl

theorem get : Keeps view (get : SessionM Session) := fun _ => rfl

theorem attempt (r : Except Fault α) : Keeps view (attempt r) := by
  intro s
  rw [outcome_attempt]

/-- What is kept behind a step is as the step has left it. -/
theorem view_bind (m : SessionM α) {next : α → SessionM β} (hnext : ∀ a, Keeps view (next a))
    (s : Session) : view (outcome (m >>= next) s).2 = view (outcome m s).2 := by
  rw [outcome_bind]
  rcases outcome m s with ⟨r, s'⟩
  cases r with
  | ok a => exact hnext a s'
  | error f => rfl

theorem view_tryCatch (m : SessionM α) {handle : Fault → SessionM α}
    (hhandle : ∀ f, Keeps view (handle f)) (s : Session) :
    view (outcome (tryCatch m handle) s).2 = view (outcome m s).2 := by
  rw [outcome_tryCatch]
  rcases outcome m s with ⟨r, s'⟩
  cases r with
  | ok a => rfl
  | error f => exact hhandle f s'

theorem bind {m : SessionM α} {next : α → SessionM β} (hm : Keeps view m)
    (hnext : ∀ a, Keeps view (next a)) : Keeps view (m >>= next) :=
  fun s => (view_bind m hnext s).trans (hm s)

theorem tryCatch {m : SessionM α} {handle : Fault → SessionM α} (hm : Keeps view m)
    (hhandle : ∀ f, Keeps view (handle f)) : Keeps view (tryCatch m handle) :=
  fun s => (view_tryCatch m hhandle s).trans (hm s)

theorem ite {c : Prop} [Decidable c] {m n : SessionM α} (hm : Keeps view m) (hn : Keeps view n) :
    Keeps view (if c then m else n) := by
  split
  · exact hm
  · exact hn

theorem forM {ts : List α} {act : α → SessionM PUnit} (h : ∀ t, Keeps view (act t)) :
    Keeps view (ts.forM act) := by
  induction ts with
  | nil => exact Keeps.pure PUnit.unit
  | cons t ts ih => exact (h t).bind fun _ => ih

end Keeps

/-- A view that shows neither of the streams of diagnostics. -/
structure HidesDiagnostics (view : Session → γ) : Prop where
  sink : ∀ (s : Session) (sink : Stream), view { s with sink } = view s
  errors : ∀ (s : Session) (errors : Stream), view { s with errors } = view s

theorem hidesDiagnostics_output : HidesDiagnostics Session.output :=
  ⟨fun _ _ => rfl, fun _ _ => rfl⟩

theorem hidesDiagnostics_manager : HidesDiagnostics Session.manager :=
  ⟨fun _ _ => rfl, fun _ _ => rfl⟩

theorem hidesDiagnostics_retired : HidesDiagnostics Session.retired :=
  ⟨fun _ _ => rfl, fun _ _ => rfl⟩

section Diagnostics

variable {view : Session → γ}

theorem keeps_writeSink (hview : HidesDiagnostics view) (t : Text) : Keeps view (writeSink t) :=
  Keeps.get.bind fun _ => (Keeps.attempt _).bind fun sink s => hview.sink s sink

theorem keeps_writeErrors (hview : HidesDiagnostics view) (t : Text) :
    Keeps view (writeErrors t) :=
  Keeps.get.bind fun _ => (Keeps.attempt _).bind fun errors s => hview.errors s errors

theorem keeps_printLineTo (hview : HidesDiagnostics view) (destination : Destination) (t : Text) :
    Keeps view (printLineTo destination t) := by
  cases destination with
  | sink => exact keeps_writeSink hview _
  | errors => exact keeps_writeErrors hview _

theorem keeps_printLine (hview : HidesDiagnostics view) (t : Text) : Keeps view (printLine t) :=
  Keeps.get.bind fun _ => keeps_printLineTo hview _ t

theorem keeps_reportBy (hview : HidesDiagnostics view) (manager : Manager) (level : Int)
    (channel t : Text) : Keeps view (reportBy manager level channel t) :=
  (Keeps.attempt _).bind fun _ => Keeps.ite (keeps_printLineTo hview _ t) (Keeps.pure _)

theorem keeps_report (hview : HidesDiagnostics view) (level : Int) (channel t : Text) :
    Keeps view (report level channel t) :=
  Keeps.get.bind fun _ => keeps_reportBy hview _ _ _ t

/-- A trace around a step runs the step on a session like the one it comes to, and keeps what the
step leaves; where it fails before, it keeps the session. -/
theorem view_traced (hview : HidesDiagnostics view) (call : Call) (shown? : α → Option Text)
    (step : SessionM α) (s : Session) :
    view (outcome (traced call shown? step) s).2 = view s ∨
      ∃ before, view before = view s ∧
        view (outcome (traced call shown? step) s).2 = view (outcome step before).2 := by
  have htrace (t : Text) : Keeps view (traceBy s.retired.length t) :=
    Keeps.get.bind fun _ => keeps_reportBy hview _ _ _ t
  unfold traced
  rw [outcome_bind, outcome_get]
  dsimp only
  rw [outcome_bind, outcome_attempt]
  cases (s.manager.threshold "trace").isBelow Level.debug with
  | error f => exact Or.inl rfl
  | ok isOff =>
    cases isOff with
    | true => exact Or.inr ⟨s, rfl, rfl⟩
    | false =>
      change view (outcome (traceBy s.retired.length call.entry >>= _) s).2 = _ ∨ ∃ before, _ ∧
        view (outcome (traceBy s.retired.length call.entry >>= _) s).2 = _
      have hentry := htrace call.entry s
      rw [outcome_bind]
      rcases hannounced : outcome (traceBy s.retired.length call.entry) s with ⟨r, before⟩
      rw [hannounced] at hentry
      cases r with
      | error f => exact Or.inl hentry
      | ok _ =>
        refine Or.inr ⟨before, hentry, ?_⟩
        dsimp only
        refine (Keeps.view_bind _ (fun value => ?_) before).trans
          (Keeps.view_tryCatch step (fun f => ?_) before)
        · cases shown? value with
          | none => exact Keeps.pure value
          | some t => exact (htrace _).bind fun _ => Keeps.pure value
        · exact Keeps.ite ((htrace _).bind fun _ => Keeps.throw f) (Keeps.throw f)

/-- A trace around a step keeps what the step keeps. -/
theorem keeps_traced (hview : HidesDiagnostics view) (call : Call) (shown? : α → Option Text)
    {step : SessionM α} (hstep : Keeps view step) : Keeps view (traced call shown? step) := by
  intro s
  obtain h | ⟨before, hbefore, h⟩ := view_traced hview call shown? step s
  · exact h
  · rw [h, hstep before, hbefore]

/-- Announces a call if calls are traced. -/
def announce (call : Call) : SessionM Unit := do
  let session ← get
  if ← attempt ((session.manager.threshold "trace").isBelow Level.debug) then pure ()
  else traceBy session.retired.length call.entry

/-- A traced step comes to a value only if the step does behind the announcement, and to the same
one. -/
theorem outcome_traced_eq_ok {call : Call} {shown? : α → Option Text} {step : SessionM α}
    {s s' : Session} {a : α} (h : outcome (traced call shown? step) s = (.ok a, s')) :
    ∃ before after, outcome (announce call) s = (.ok (), before) ∧
      outcome step before = (.ok a, after) := by
  obtain ⟨_, s₁, hget, h⟩ := outcome_bind_eq_ok h
  cases hget
  obtain ⟨isOff, s₂, hoff, h⟩ := outcome_bind_eq_ok h
  have hannounce : outcome (announce call) s =
      outcome (if isOff then pure () else traceBy s.retired.length call.entry) s₂ := by
    unfold announce
    rw [outcome_bind, outcome_get]
    dsimp only
    rw [outcome_bind, hoff]
  rw [hannounce]
  cases isOff with
  | true => exact ⟨s₂, s', rfl, h⟩
  | false =>
    obtain ⟨_, s₃, hentry, h⟩ := outcome_bind_eq_ok h
    obtain ⟨value, s₄, hvalue, h⟩ := outcome_bind_eq_ok h
    obtain rfl : value = a := by
      cases hshown : shown? value with
      | none =>
        rw [hshown] at h
        exact Except.ok.inj (congrArg Prod.fst h)
      | some t =>
        rw [hshown] at h
        obtain ⟨_, s₅, -, hlast⟩ := outcome_bind_eq_ok h
        exact Except.ok.inj (congrArg Prod.fst hlast)
    rw [outcome_tryCatch] at hvalue
    rcases hstep : outcome step s₃ with ⟨r, s₆⟩
    rw [hstep] at hvalue
    cases r with
    | ok b =>
      cases hvalue
      exact ⟨s₃, s₄, hentry, hstep⟩
    | error f =>
      change outcome (if (!f.isInterrupt) = true then _ else _) s₆ = _ at hvalue
      split at hvalue
      · obtain ⟨_, s₇, -, hthrow⟩ := outcome_bind_eq_ok hvalue
        cases hthrow
      · cases hvalue

end Diagnostics

end TargetHelp.Session
