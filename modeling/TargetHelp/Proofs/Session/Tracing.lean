import TargetHelp.Proofs.Diagnostics.Agreement
import TargetHelp.Proofs.Session.Step
import TargetHelp.Proofs.Session.Thresholds

/-!
# Tracing is transparent

A traced call comes to what it comes to without a trace. Where the channel of traces lets them
through, one line announces the call and at most one is behind it, told by the same manager with the
settings that it then has, whatever manager the call has left in charge; a call that is interrupted
or returns nothing has none. What the lines show has been made text before, so that no brace in it
is taken for a field. Under a new manager with the channel among those to be silent, nothing is
traced unless a specification names the channel.
-/

set_option autoImplicit false
set_option relaxedAutoImplicit false

namespace TargetHelp

/-! ### Thresholds -/

theorem Amount.below_or_same_of_not_below {x : Amount} (hx : x.Proper) {low level : Int}
    (hlow : low < level) (h : x.below (.ofInt level) = false) :
    (x.below (.ofInt low) || x.same (.ofInt low)) = false := by
  cases x with
  | none => rfl
  | infinite negative =>
    obtain rfl : negative = false := h
    rfl
  | quotient num den =>
    have hlevel : level * (den : Int) ≤ num * 1 := not_lt.mp (of_decide_eq_false h)
    have hless : low * (den : Int) < num * 1 :=
      (Int.mul_lt_mul_of_pos_right hlow (Int.natCast_pos.mpr hx)).trans_le hlevel
    refine Bool.or_eq_false_iff.mpr ⟨decide_eq_false (not_lt.mpr hless.le), ?_⟩
    exact beq_false_of_ne hless.ne'

/-- Only numbers are compared with a level, by their amounts. -/
theorem Json.exists_amount_of_isBelow {value : Json} {level : Int} {below : Bool}
    (h : value.isBelow (.int level) = .ok below) :
    ∃ x, value.amount? = some x ∧ x.below (.ofInt level) = below ∧
      (Json.int level).isAbove value = .ok below := by
  have hless : Json.less value (.int level) =
      (value.amount?.map fun x => Except.ok (x.below (.ofInt level))).getD
        (.error ⟨value.typeName, (Json.int level).typeName⟩) := by
    unfold Json.less
    cases value <;> simp [Json.amount?, Json.integer?]
  unfold Json.isBelow at h
  unfold Json.isAbove
  cases hamount : value.amount? with
  | none =>
    rw [hless, hamount] at h
    cases h
  | some x =>
    rw [hless, hamount] at h ⊢
    exact ⟨x, rfl, Except.ok.inj h, congrArg Except.ok (Except.ok.inj h)⟩

/-- A threshold that is not below a level lets the level through. -/
theorem Threshold.passes_of_isBelow {threshold : Threshold} {level : Int}
    (hwall : Level.wall < level) (h : threshold.isBelow level = .ok false) :
    threshold.passes level = .ok true := by
  cases threshold with
  | level n =>
    have hlevel : level ≤ n := not_lt.mp (of_decide_eq_false (Except.ok.inj h))
    rw [passes_level, decide_eq_true hlevel, decide_eq_true (hwall.trans_le hlevel)]
    rfl
  | other value =>
    obtain ⟨x, hx, hbelow, habove⟩ := Json.exists_amount_of_isBelow h
    have hisWall : value.isAtMost Level.wall = .ok false := by
      unfold Json.isAtMost
      rw [hx]
      exact congrArg Except.ok
        (Amount.below_or_same_of_not_below (Json.proper_of_amount? hx) hwall hbelow)
    exact Session.bind_eq_ok_iff.mpr
      ⟨false, hisWall, Session.bind_eq_ok_iff.mpr ⟨false, habove, rfl⟩⟩
  | stranger typeName => cases h

theorem Threshold.passesAny_eq_passes (threshold : Threshold) (level : Int) :
    threshold.passesAny (.int level) = threshold.passes level := by
  cases threshold with
  | level n => exact passesAny_int n level
  | other value => rfl
  | stranger typeName => rfl

/-! ### The messages of a call -/

namespace Call

variable {α : Type}

/-- The template and the fields of the message that announces a call. -/
def entryMessage (call : Call) : Text × Fields Json :=
  ("[TRACE] >> \x7bfn\x7d(\x7bargs\x7d)",
    [("channel", .str "trace"), ("fn", .str call.function), ("args", .str call.argumentsText)])

/-- The template and the fields of the message about what a call has raised. -/
def raisedMessage (call : Call) (fault : Fault) : Text × Fields Json :=
  ("[TRACE] !! \x7bfn\x7d raised: \x7bexc\x7d: \x7bmsg\x7d",
    [("channel", .str "trace"), ("fn", .str call.function), ("exc", .str fault.kind.label),
      ("msg", .str fault.message)])

/-- The template and the fields of the message about what a call has returned. -/
def returnedMessage (call : Call) (value : Text) : Text × Fields Json :=
  ("[TRACE] << \x7bfn\x7d returned: \x7bval\x7d",
    [("channel", .str "trace"), ("fn", .str call.function), ("val", .str value)])

/-- The line behind a call, if there is one: what it has raised, unless it has been interrupted, or
what it has returned, if that is shown. -/
def closing? (call : Call) (shown? : α → Option Text) : Except Fault α → Option Text
  | .ok a => (shown? a).map call.returned
  | .error f => if f.isInterrupt then none else some (call.raised f)

end Call

namespace Session

variable {α : Type}

/-- A message on the channel of traces is the line that its template makes of its fields. -/
theorem outcome_emitNamed_trace {template t : Text} {fields : Fields Json}
    (hnames : checkNames "OutputManager.emit" ["self", "level", "message"] fields = .ok ())
    (hchannel : Fields.get? channelKey fields = some (.str "trace"))
    (hfill : fill (.str template) (Fields.erase channelKey fields) = .ok t) (s : Session) :
    outcome (emitNamed (.int Level.debug) (.str template) fields) s = outcome (trace t) s := by
  rw [outcome_emitNamed]
  unfold emitLine?
  rw [hnames, hchannel, hfill]
  change outcome (attempt ((s.manager.threshold "trace").passesAny (.int Level.debug) >>= _) >>= _)
    s = _
  rw [Threshold.passesAny_eq_passes]
  cases hpasses : (s.manager.threshold "trace").passes Level.debug with
  | error f =>
    have htrace : outcome (trace t) s = outcome (attempt (s.manager.shows Level.debug "trace") >>=
        fun shown => if shown then printLineTo s.manager.destination t else pure ()) s := rfl
    rw [htrace, outcome_bind, outcome_attempt, Manager.shows, hpasses]
    rfl
  | ok shown =>
    refine Eq.trans ?_ (outcome_report hpasses t).symm
    cases shown <;> rfl

section Messages

variable (call : Call) (s : Session)

/-- What a message shows of a call is text, which is not searched for fields again. -/
theorem outcome_entryMessage :
    outcome (emitNamed (.int Level.debug) (.str call.entryMessage.1) call.entryMessage.2) s =
      outcome (trace call.entry) s :=
  outcome_emitNamed_trace rfl rfl (by unfold Call.entry; simp only [List.append_assoc]; rfl) s

theorem outcome_raisedMessage (fault : Fault) :
    outcome (emitNamed (.int Level.debug) (.str (call.raisedMessage fault).1)
      (call.raisedMessage fault).2) s = outcome (trace (call.raised fault)) s := by
  have hline : call.raised fault =
      ("[TRACE] !! " : Text) ++ (call.function ++ ((" raised: " : Text) ++
        (fault.kind.label ++ ((": " : Text) ++ (fault.message ++ []))))) := by
    simp only [Call.raised, List.append_assoc, List.append_nil]
  exact outcome_emitNamed_trace rfl rfl (by rw [hline]; rfl) s

theorem outcome_returnedMessage (value : Text) :
    outcome (emitNamed (.int Level.debug) (.str (call.returnedMessage value).1)
      (call.returnedMessage value).2) s = outcome (trace (call.returned value)) s := by
  have hline : call.returned value =
      ("[TRACE] << " : Text) ++ (call.function ++ ((" returned: " : Text) ++ (value ++ []))) := by
    simp only [Call.returned, List.append_assoc, List.append_nil]
  exact outcome_emitNamed_trace rfl rfl (by rw [hline]; rfl) s

end Messages

/-! ### Sessions that trace -/

/-- The session traces calls, and its diagnostics take every text and write it in one way. -/
structure Traces (form : Text → Text) (s : Session) : Prop where
  isOn : (s.manager.threshold "trace").isBelow Level.debug = .ok false
  writes : s.diagnostics.WritesAs form

/-- The session with one more line written in a place for diagnostics, if there is one. -/
def withLine? (form : Text → Text) (destination : Destination) (s : Session) :
    Option Text → Session
  | some t => s.withWriteTo destination (form (t ++ [Text.lineFeed]))
  | none => s

variable {s after : Session} {form form' : Text → Text}

theorem outcome_traceBy_of_isBelow {place : Nat}
    (hon : ((s.managerAt place).threshold "trace").isBelow Level.debug = .ok false)
    (hwrites : (s.stream (s.managerAt place).destination).WritesAs form) (t : Text) :
    outcome (traceBy place t) s =
      (.ok (), s.withLine? form (s.managerAt place).destination (some t)) := by
  have hshows : (s.managerAt place).shows Level.debug "trace" = .ok true :=
    Threshold.passes_of_isBelow (by decide) hon
  unfold traceBy reportBy
  rw [outcome_bind, outcome_get]
  dsimp only
  rw [outcome_bind, outcome_attempt, hshows]
  exact outcome_printLineTo_of_writesAs hwrites t

/-- A manager that does not show traces any more says nothing. -/
theorem outcome_traceBy_of_hidden {place : Nat}
    (hhides : (s.managerAt place).shows Level.debug "trace" = .ok false) (t : Text) :
    outcome (traceBy place t) s = (.ok (), s) := by
  unfold traceBy reportBy
  rw [outcome_bind, outcome_get]
  dsimp only
  rw [outcome_bind, outcome_attempt, hhides]
  rfl

/-- Between the lines of its trace a step runs once, behind the announcement, and comes to what it
comes to there, as long as the manager of the trace can tell what there is to tell. -/
theorem Traces.outcome_traced (h : Traces form s) (call : Call) (shown? : α → Option Text)
    {step : SessionM α} {r : Except Fault α} {last : Option Text → Session}
    (hstep : outcome step (s.withLine? form s.manager.destination (some call.entry)) = (r, after))
    (hnone : last none = after)
    (hclosing : ∀ t, outcome (traceBy s.retired.length t) after = (.ok (), last (some t))) :
    outcome (traced call shown? step) s = (r, last (call.closing? shown? r)) := by
  have hentry : outcome (traceBy s.retired.length call.entry) s =
      (.ok (), s.withLine? form s.manager.destination (some call.entry)) := by
    have hplace := managerAt_retired s
    rw [outcome_traceBy_of_isBelow (by rw [hplace]; exact h.isOn) (by rw [hplace]; exact h.writes),
      hplace]
  unfold traced
  rw [outcome_bind, outcome_get]
  dsimp only
  rw [outcome_bind, outcome_attempt, h.isOn]
  change outcome (traceBy s.retired.length call.entry >>= _) s = _
  rw [outcome_bind_of_ok hentry, outcome_bind, outcome_tryCatch, hstep]
  cases r with
  | ok a =>
    dsimp only [Call.closing?]
    cases shown? a with
    | none => exact congrArg _ hnone.symm
    | some t => rw [outcome_bind_of_ok (hclosing (call.returned t))]; rfl
  | error f =>
    dsimp only [Call.closing?]
    by_cases hinterrupt : (!f.isInterrupt) = true
    · have hreported : f.isInterrupt = false := Bool.not_eq_true' _ ▸ hinterrupt
      rw [if_pos hinterrupt, outcome_bind_of_ok (hclosing (call.raised f)), hreported]
      rfl
    · have hpassed : f.isInterrupt = true := by simpa using hinterrupt
      rw [if_neg hinterrupt, hpassed]
      exact congrArg _ hnone.symm

/-! ### Steps that do not look at what has been said -/

/-- The session without what has been said. -/
def unsaid (s : Session) : Session :=
  { s with sink := ⟨s.sink.policy, []⟩, errors := ⟨s.errors.policy, []⟩ }

/-- What has been said before makes no difference to the step. -/
def Oblivious (step : SessionM α) : Prop := Related (fun s t => s.unsaid = t.unsaid) step step

theorem unsaid_withLine? (form : Text → Text) (destination : Destination) (s : Session)
    (line? : Option Text) : (s.withLine? form destination line?).unsaid = s.unsaid := by
  cases line? with
  | none => rfl
  | some t => cases destination <;> rfl

/-- Neither does a new manager. -/
theorem oblivious_install (manager : Manager) : Oblivious (install manager) :=
  fun _ _ h => ⟨rfl, congrArg (fun s : Session => s.withManager manager) h⟩

/-- What is written to the output does not depend on what has been said. -/
theorem oblivious_writeOutput (t : Text) : Oblivious (writeOutput t) := by
  intro s s' h
  have houtput : s.unsaid.output = s'.unsaid.output := congrArg Session.output h
  change s.output = s'.output at houtput
  have hwrite (s : Session) : outcome (writeOutput t) s =
      outcome (attempt (s.output.write t) >>= fun output =>
        modify fun session => { session with output }) s := rfl
  rw [hwrite, hwrite, houtput, outcome_bind, outcome_bind, outcome_attempt, outcome_attempt]
  cases s'.output.write t with
  | error f => exact ⟨rfl, h⟩
  | ok output => exact ⟨rfl, congrArg (fun s : Session => { s with output }) h⟩

/-! ### New managers -/

/-- A new manager that is to keep traces silent and has no specification for them keeps them below
the level of traces. -/
theorem isBelow_of_managerOf {channels : Channel.Table} {verbosity : Threshold} {specs : List Text}
    {destination : Destination} {manager : Manager}
    (h : managerOf channels verbosity specs destination = .ok manager)
    (hoptIn : .str "trace" ∈ channels.optIn)
    (hspecs : ∀ spec ∈ specs, ∀ parsed, Channel.Spec.parse spec = .ok parsed →
      parsed.name ≠ "trace") :
    (manager.threshold "trace").isBelow Level.debug = .ok true := by
  have hsilent : (channels.optIn.any fun name => Json.same name (.str "trace")) = true :=
    List.any_eq_true.mpr ⟨_, hoptIn, (Json.same_str_iff _ _).mpr rfl⟩
  rw [threshold_of_managerOf h, Channel.levelOf?_eq_none hspecs, if_pos hsilent]
  rfl

/-- A traced step runs once and comes to what it comes to without a trace. Below the level of traces
nothing else happens. From that level on one line announces the call before the step, and one is
behind it if the call has raised without being interrupted or has returned something; both are told
by the manager that was in charge before the step, the one behind it with the settings which that
manager has then: it is written if these still let traces through to a place that takes them, and
left out if they do not show traces any more. What the step comes to is what it comes to without the
announcement, unless it looks at what has been said. The lines are what the templates make of the
call, whatever braces are in its texts. Under a new manager that is to keep traces silent and has no
specification for them, nothing is traced at any verbosity. -/
theorem traced_transparent (call : Call) (shown? : α → Option Text) (step : SessionM α) :
    (∀ s : Session, (s.manager.threshold "trace").isBelow Level.debug = .ok true →
      outcome (traced call shown? step) s = outcome step s) ∧
    (∀ (s after : Session) (form form' : Text → Text) (r : Except Fault α), Traces form s →
      outcome step (s.withLine? form s.manager.destination (some call.entry)) = (r, after) →
      let manager := after.managerAt s.retired.length
      ((manager.threshold "trace").isBelow Level.debug = .ok false →
        (after.stream manager.destination).WritesAs form' →
        outcome (traced call shown? step) s =
          (r, after.withLine? form' manager.destination (call.closing? shown? r))) ∧
      (manager.shows Level.debug "trace" = .ok false →
        outcome (traced call shown? step) s = (r, after)) ∧
      (Oblivious step → (outcome step s).1 = r)) ∧
    (∀ (s : Session) (fault : Fault) (value : Text),
      outcome (traceBy s.retired.length call.entry) s =
          outcome (emitNamed (.int Level.debug) (.str call.entryMessage.1) call.entryMessage.2) s ∧
        outcome (traceBy s.retired.length (call.raised fault)) s =
          outcome (emitNamed (.int Level.debug) (.str (call.raisedMessage fault).1)
            (call.raisedMessage fault).2) s ∧
        outcome (traceBy s.retired.length (call.returned value)) s =
          outcome (emitNamed (.int Level.debug) (.str (call.returnedMessage value).1)
            (call.returnedMessage value).2) s) ∧
    (∀ (s s' : Session) (verbosity : Int) (specs : List Text) (destination : Destination),
      outcome (start verbosity specs destination) s = (.ok (), s') →
      .str "trace" ∈ s.channels.optIn →
      (∀ spec ∈ specs, ∀ parsed, Channel.Spec.parse spec = .ok parsed → parsed.name ≠ "trace") →
      ∀ steps : List Step, (∀ other ∈ steps, other.KeepsSettings) →
      outcome (traced call shown? step) (Step.run steps s') =
        outcome step (Step.run steps s')) := by
  refine ⟨fun s hoff => outcome_traced_of_isBelow hoff call shown? step,
    fun s after form form' r hon hstep => ⟨fun hstill hwrites => ?_, fun hhides => ?_,
      fun hsame => ?_⟩,
    fun s fault value => ?_,
    fun s s' verbosity specs destination hstart hoptIn hspecs steps hsteps => ?_⟩
  · exact @Traces.outcome_traced _ _ _ _ hon call shown? step r
      (fun line? => after.withLine? form' (after.managerAt s.retired.length).destination line?)
      hstep rfl fun t => outcome_traceBy_of_isBelow hstill hwrites t
  · exact @Traces.outcome_traced _ _ _ _ hon call shown? step r (fun _ => after) hstep rfl
      fun t => outcome_traceBy_of_hidden hhides t
  · have hunsaid := (hsame (unsaid_withLine? form s.manager.destination s (some call.entry)).symm).1
    rwa [hstep] at hunsaid
  · have htold (t : Text) : outcome (traceBy s.retired.length t) s = outcome (trace t) s :=
      outcome_traceBy rfl t
    rw [htold, htold, htold]
    exact ⟨(outcome_entryMessage call s).symm, (outcome_raisedMessage call s fault).symm,
      (outcome_returnedMessage call s value).symm⟩
  · have hkept : (Step.run steps s').manager.threshold "trace" = s'.manager.threshold "trace" :=
      threshold_of_settings (Step.run_keeps_settings hsteps s') "trace"
    have hoff := isBelow_of_managerOf (managerOf_of_start hstart) hoptIn hspecs
    rw [← hkept] at hoff
    exact outcome_traced_of_isBelow hoff call shown? step

/-- A session that traces calls. -/
def tracing : Session := { manager := { overrides := [(.str "trace", .level Level.debug)] } }

theorem traces_tracing : Traces id tracing := ⟨rfl, fun _ _ => rfl⟩

/-- A call with braces in its arguments. -/
def braced : Call := ⟨"demo.f", [Json.brief (.str "\x7b0\x7d")], [("key", Json.brief (.arr []))]⟩

/-- A step that puts a manager without traces in charge, writes to the output and returns a text
with braces. -/
def bracedStep : SessionM Text := do
  install {}
  writeOutput "out"
  return "\x7bfn\x7d"

/-- The braces stay as they are, and the line behind the step is there although the step has put
another manager in charge; by default and under a new manager nothing is traced. -/
theorem traced_transparent_braces :
    outcome (traced braced some bracedStep) {} = outcome bracedStep {} ∧
    (∃ after, outcome (traced braced some bracedStep) tracing = (.ok "\x7bfn\x7d", after) ∧
      said tracing after = [("[TRACE] >> demo.f('\x7b0\x7d', key=[])\n" : Text),
        "[TRACE] << demo.f returned: \x7bfn\x7d\n"]) ∧
    (outcome bracedStep tracing).1 = .ok "\x7bfn\x7d" ∧
    ∃ s', outcome (start 9 ["parse:2"] .errors) { channels := .help } = (.ok (), s') ∧
      outcome (traced braced some bracedStep) (Step.run [.warning "late"] s') =
        outcome bracedStep (Step.run [.warning "late"] s') := by
  obtain ⟨hoff, hon, -, hnew⟩ := traced_transparent braced some bracedStep
  have hsame : Oblivious bracedStep :=
    (oblivious_install {}).bind fun _ => (oblivious_writeOutput "out").bind fun _ => Related.pure _
  obtain ⟨htraced, -, hplain⟩ := hon tracing _ id id (.ok "\x7bfn\x7d") traces_tracing rfl
  refine ⟨hoff {} rfl, ⟨_, htraced rfl fun _ _ => rfl, by decide +kernel⟩, hplain hsame, _, rfl, ?_⟩
  refine hnew { channels := .help } _ 9 ["parse:2"] .errors rfl
    (List.mem_singleton.mpr rfl) ?_ [.warning "late"]
    (List.forall_mem_singleton.mpr ⟨rfl, trivial⟩)
  refine List.forall_mem_singleton.mpr fun parsed hparsed => ?_
  obtain rfl := Except.ok.inj hparsed
  decide

/-- A call that is interrupted has no line behind it, a call that returns what has been said returns
the announcement too, and a call that silences the manager has no line behind it either. -/
theorem traced_unbracketed :
    let call : Call := ⟨"demo.f", [], []⟩
    let interrupted := outcome (traced call some (throw Fault.interrupt)) tracing
    let looking : SessionM Text := get >>= fun s => pure s.errors.text
    let silencing : SessionM Text :=
      modify (fun s => { s with manager.overrides := [] }) >>= fun _ => pure "done"
    let silenced := outcome (traced call some silencing) tracing
    (interrupted.1 = .error Fault.interrupt ∧
        said tracing interrupted.2 = [("[TRACE] >> demo.f()\n" : Text)]) ∧
      ((outcome (traced call some looking) tracing).1 = .ok "[TRACE] >> demo.f()\n" ∧
        (outcome looking tracing).1 = .ok []) ∧
      silenced.1 = .ok "done" ∧ said tracing silenced.2 = [("[TRACE] >> demo.f()\n" : Text)] :=
  ⟨⟨rfl, rfl⟩, ⟨rfl, rfl⟩, rfl, rfl⟩

end Session

end TargetHelp
