import TargetHelp.Proofs.Diagnostics.Agreement
import TargetHelp.Render

/-!
# Renderings without their diagnostics

A reading comes to its nodes or to its fault; collecting and rendering come to what is made of
these. Where the diagnostics are taken, the steps agree with that, also for a parser that does more
than read, as long as it agrees with what it comes to. Where they are not, a step that still comes
to a value comes to the same one, and the output is touched by nothing but the writing of a view.
-/

set_option autoImplicit false
set_option relaxedAutoImplicit false

namespace TargetHelp

/-- The comments that are collected from what a parser comes to: those of its nodes, or the fault
that its fault becomes. -/
def Node.collected (result : Except Fault (List Node)) : Except Fault (List Comment) :=
  (result.mapError Fault.ofParsing).map Node.documented

namespace Reading

/-- The nodes of a reading, unless a fault has ended it. -/
def result (reading : Reading) : Except Fault (List Node) :=
  match reading.fault with
  | some fault => .error fault
  | none => .ok reading.nodes

/-- The comments that are collected from a reading, or the fault that its fault becomes. -/
def comments (reading : Reading) : Except Fault (List Comment) := Node.collected reading.result

theorem result_eq_ok {reading : Reading} {nodes : List Node} (h : reading.result = .ok nodes) :
    reading.fault = none ∧ nodes = reading.nodes := by
  unfold result at h
  cases hfault : reading.fault with
  | none =>
    rw [hfault] at h
    exact ⟨rfl, (Except.ok.inj h).symm⟩
  | some f =>
    rw [hfault] at h
    cases h

theorem comments_of_result {reading : Reading} {nodes : List Node}
    (h : reading.result = .ok nodes) : reading.comments = .ok (Node.documented nodes) := by
  unfold comments
  rw [h]
  rfl

theorem comments_of_none {reading : Reading} (h : reading.fault = none) :
    reading.comments = .ok (Node.documented reading.nodes) := by
  refine comments_of_result ?_
  unfold result
  rw [h]

theorem comments_of_some {reading : Reading} {f : Fault} (h : reading.fault = some f) :
    reading.comments = .error f.ofParsing := by
  unfold comments result
  rw [h]
  rfl

end Reading

/-- A traversal of drafts of comments has no fault if none of its steps has one. -/
theorem Draft.mapM_ofComment {α : Type} {comments : List Comment} {part : Draft → Except Fault α}
    {value : Comment → α} (h : ∀ c, part (ofComment c) = .ok (value c)) :
    (comments.map ofComment).mapM part = .ok (comments.map value) := by
  induction comments with
  | nil => rfl
  | cons c comments ih =>
    rw [List.map_cons, List.mapM_cons, h, ih]
    rfl

theorem Draft.pieces_target (name : Text) (comments : List Comment) :
    pieces (.target name) (.str name) (comments.map ofComment) =
      .ok ((View.target name).pieces comments) := by
  have hselected : (comments.map ofComment).filter (fun d => Json.same d.target (.str name)) =
      (comments.filter fun c => c.target = name).map ofComment := by
    rw [List.filter_map]
    refine congrArg _ (List.filter_congr fun c _ => ?_)
    exact (Json.same_str c.target name).trans (Bool.eq_iff_iff.mpr (by simp))
  unfold pieces
  dsimp only
  rw [hselected]
  exact mapM_ofComment fun _ => rfl

namespace Session

/-- A target given as a text is shown by its view. -/
theorem renderTarget_str (name : Text) (source : Source) (parser? : Option Parser)
    (includePath : Json) :
    renderTarget (.str name) source parser? includePath =
      render (.target name) source parser? includePath := by
  unfold renderTarget render
  dsimp only
  congr 1
  funext comments
  change attempt (Draft.pieces (.target name) _ _) >>= _ = _
  rw [Draft.pieces_target]
  rfl

variable {d : Destination} {registry : Hint.Registry} {α γ : Type}

/-! ### Whether or not diagnostics are taken -/

section Keeps

variable {view : Session → γ} (hview : HidesDiagnostics view)
include hview

theorem keeps_reports (reports : List Report) :
    Keeps view (reports.forM fun r => report r.level r.channel r.text) :=
  Keeps.forM fun r => keeps_report hview r.level r.channel r.text

theorem keeps_finish (reading : Reading) : Keeps view (finish reading) := by
  refine (keeps_reports hview _).bind fun _ => ?_
  cases reading.fault with
  | none => exact Keeps.pure _
  | some f => exact Keeps.throw f

variable {parser : Parser} {source : Source} {includePath : Json}

theorem keeps_collectUntraced (hparser : Keeps view (parser.read source includePath)) :
    Keeps view (collectUntraced parser source includePath) := by
  refine Keeps.bind (hparser.tryCatch fun f => Keeps.throw f.ofParsing) fun nodes => ?_
  exact (keeps_report hview _ _ _).bind fun _ => Keeps.pure _

theorem keeps_collect (hparser : Keeps view (parser.read source includePath))
    (named : Fields Text) : Keeps view (collect named parser source includePath) :=
  keeps_traced hview _ _ (keeps_collectUntraced hview hparser)

end Keeps

/-! ### Where diagnostics make no difference -/

section Related

variable {R : Session → Session → Prop}

/-- A reading comes to its nodes or its fault if what it has to say makes no difference. -/
theorem Related.finish {reading : Reading}
    (h : ∀ r ∈ reading.reports, Related R (report r.level r.channel r.text) (Pure.pure ())) :
    Related R (finish reading) (Session.attempt reading.result) := by
  have hreports : Related R (reading.reports.forM fun r => report r.level r.channel r.text)
      (Pure.pure ()) := by
    revert h
    induction reading.reports with
    | nil => exact fun _ => Related.pure ()
    | cons r reports ih =>
      intro h
      obtain ⟨hr, hrest⟩ := List.forall_mem_cons.mp h
      exact hr.skip (ih hrest)
  refine hreports.skip ?_
  unfold Reading.result
  cases reading.fault with
  | none => exact Related.pure _
  | some f => exact Related.throw f

variable {parser : Parser} {source : Source} {includePath : Json}
  {result : Except Fault (List Node)}

theorem Related.parseNodes
    (h : Related R (parser.read source includePath) (Session.attempt result)) :
    Related R (parseNodes parser source includePath)
      (Session.attempt (result.mapError Fault.ofParsing)) := by
  have hparse : Related R (Session.parseNodes parser source includePath)
      (MonadExcept.tryCatch (Session.attempt result) fun f => MonadExcept.throw f.ofParsing) :=
    h.tryCatch fun f => Related.throw f.ofParsing
  cases result with
  | ok nodes => exact hparse
  | error f => exact hparse

/-- Collecting comes to the comments of what the parser comes to, if that puts no other manager in
charge and what it has to say makes no difference. -/
theorem HidesDetails.collect (hR : HidesDetails R)
    (hkeeps : Keeps Session.retired (parser.read source includePath))
    (h : Related R (parser.read source includePath) (attempt result)) (named : Fields Text) :
    Related R (collect named parser source includePath) (attempt (Node.collected result)) := by
  refine hR.traced _ _ (keeps_collectUntraced hidesDiagnostics_retired hkeeps) ?_
  have hcollect : Related R (collectUntraced parser source includePath)
      (attempt (result.mapError Fault.ofParsing) >>= fun nodes =>
        pure (Node.documented nodes)) :=
    h.parseNodes.bind fun _ => Related.skip (hR.report _ _ _ (by decide)) (Related.pure _)
  unfold Node.collected
  cases hr : result.mapError Fault.ofParsing with
  | ok nodes =>
    rw [hr] at hcollect
    exact hcollect
  | error f =>
    rw [hr] at hcollect
    exact hcollect

/-- A rendering without its diagnostics: comments, or a fault, that become a view. -/
def showView (view : View) (comments : Except Fault (List Comment)) : SessionM Nat := do
  let pieces := view.pieces (← attempt comments)
  (View.frame pieces).forM writeOutput
  return pieces.length

/-- A rendering comes to its view if neither what the parser has to say nor the details told on the
way make a difference. -/
theorem HidesDetails.render (hR : HidesDetails R) {parser? : Option Parser}
    (hkeeps : Keeps Session.retired ((parser?.getD .nodeStream).read source includePath))
    (h : Related R ((parser?.getD .nodeStream).read source includePath) (attempt result))
    (hwrite : ∀ t, Related R (writeOutput t) (writeOutput t)) (view : View) :
    Related R (render view source parser? includePath)
      (showView view (Node.collected result)) :=
  (hR.collect hkeeps h _).bind fun _ =>
    (Related.forM hwrite).bind fun _ =>
      Related.skip (hR.report _ _ _ (by decide)) (Related.pure _)

end Related

theorem agree_finish (reading : Reading) :
    Agree d registry (finish reading) (attempt reading.result) :=
  Related.finish fun _ _ => agree_report _ _ _

/-- Where diagnostics are taken, a reading comes to its nodes or its fault. -/
theorem Ready.outcome_finish {s : Session} (h : s.Ready d registry) (reading : Reading) :
    (outcome (finish reading) s).1 = reading.result := by
  obtain ⟨hvalue, -⟩ := agree_finish reading h.alike
  rw [hvalue, outcome_attempt]

theorem outcome_finish_eq_ok {reading : Reading} {s s' : Session} {nodes : List Node}
    (h : outcome (finish reading) s = (.ok nodes, s')) : reading.result = .ok nodes := by
  obtain ⟨_, middle, -, h⟩ := outcome_bind_eq_ok h
  unfold Reading.result
  cases hf : reading.fault with
  | none =>
    rw [hf] at h
    exact congrArg Prod.fst h
  | some f =>
    rw [hf] at h
    cases h

/-- What a step comes to does not depend on what is told: it agrees with its result where
diagnostics are taken, and comes to no other value where they are not. It leaves the output alone
and puts no other manager in charge. -/
structure ComesTo (step : SessionM α) (result : Except Fault α) : Prop where
  output : Keeps Session.output step
  retired : Keeps Session.retired step
  agree : ∀ d registry, Agree d registry step (attempt result)
  value : ∀ s a, (outcome step s).1 = .ok a → result = .ok a

/-- A reading comes to its nodes or to its fault. -/
theorem comesTo_finish (reading : Reading) : ComesTo (finish reading) reading.result where
  output := keeps_finish hidesDiagnostics_output reading
  retired := keeps_finish hidesDiagnostics_retired reading
  agree := fun _ _ => agree_finish reading
  value := fun _ _ h => outcome_finish_eq_ok (Prod.ext h rfl)

variable {source : Source} {includePath : Json} {result : Except Fault (List Node)}

theorem agree_collect {parser : Parser} (h : ComesTo (parser.read source includePath) result)
    (named : Fields Text) :
    Agree d registry (collect named parser source includePath)
      (attempt (Node.collected result)) :=
  hidesDetails_alike.collect h.retired (h.agree d registry) named

theorem agree_render {parser? : Option Parser}
    (h : ComesTo ((parser?.getD .nodeStream).read source includePath) result) (view : View) :
    Agree d registry (render view source parser? includePath)
      (showView view (Node.collected result)) :=
  hidesDetails_alike.render h.retired (h.agree d registry) agree_writeOutput view

/-! ### Parsers that act on the session -/

/-- Where the diagnostics are taken, before a step and behind it, a trace around the step makes no
difference to what it comes to behind the announcement. -/
theorem Ready.outcome_traced {s before : Session} (hs : s.Ready d registry) {call : Call}
    (hannounce : outcome (announce call) s = (.ok (), before)) (shown? : α → Option Text)
    {step : SessionM α} (hkeeps : Keeps Session.retired step) {d' : Destination}
    {registry' : Hint.Registry} (hafter : (outcome step before).2.Ready d' registry') :
    ∃ last, outcome (traced call shown? step) s = ((outcome step before).1, last) ∧
      last.Ready d' registry' ∧ last.output = (outcome step before).2.output := by
  obtain ⟨n, hn⟩ := hs.levels.threshold "trace"
  rw [Session.outcome_announce hn] at hannounce
  rw [Session.outcome_traced hn call shown? hkeeps]
  by_cases hbelow : n < Level.debug
  · rw [if_pos hbelow] at hannounce ⊢
    cases hannounce
    exact ⟨_, rfl, hafter, rfl⟩
  · rw [if_neg hbelow] at hannounce ⊢
    unfold betweenLines
    rw [outcome_bind, hannounce]
    dsimp only
    rw [outcome_bind, outcome_tryCatch]
    rcases hstep : outcome step before with ⟨r, after⟩
    rw [hstep] at hafter
    cases r with
    | ok a =>
      dsimp only
      cases shown? a with
      | none => exact ⟨after, rfl, hafter, rfl⟩
      | some t =>
        obtain ⟨last, hlast, hready, houtput⟩ :=
          hafter.outcome_report Level.debug "trace" (call.returned t)
        exact ⟨last, outcome_bind_of_ok hlast _, hready, houtput⟩
    | error f =>
      dsimp only
      by_cases hinterrupt : (!f.isInterrupt) = true
      · obtain ⟨last, hlast, hready, houtput⟩ :=
          hafter.outcome_report Level.debug "trace" (call.raised f)
        have hraised : outcome (trace (call.raised f)) after = (.ok (), last) := hlast
        rw [if_pos hinterrupt, outcome_bind_of_ok hraised]
        exact ⟨last, rfl, hready, houtput⟩
      · rw [if_neg hinterrupt]
        exact ⟨after, rfl, hafter, rfl⟩

/-- Where the diagnostics are taken, before the parser and behind it, collecting comes to the
comments of what the parser comes to behind the announcement. -/
theorem Ready.outcome_collect {s before : Session} (hs : s.Ready d registry) {named : Fields Text}
    (hannounce : outcome (announce (collecting named source)) s = (.ok (), before))
    {parser : Parser} (hkeeps : Keeps Session.retired (parser.read source includePath))
    {d' : Destination} {registry' : Hint.Registry}
    (hafter : (outcome (parser.read source includePath) before).2.Ready d' registry') :
    ∃ last, outcome (collect named parser source includePath) s =
        (Node.collected (outcome (parser.read source includePath) before).1, last) ∧
      last.Ready d' registry' ∧
      last.output = (outcome (parser.read source includePath) before).2.output := by
  have huntraced : ∃ middle, outcome (collectUntraced parser source includePath) before =
        (Node.collected (outcome (parser.read source includePath) before).1, middle) ∧
      middle.Ready d' registry' ∧
      middle.output = (outcome (parser.read source includePath) before).2.output := by
    unfold collectUntraced parseNodes
    rw [outcome_bind, outcome_tryCatch]
    rcases hread : outcome (parser.read source includePath) before with ⟨r, after⟩
    rw [hread] at hafter
    cases r with
    | error f => exact ⟨after, rfl, hafter, rfl⟩
    | ok nodes =>
      obtain ⟨middle, hreport, hready, houtput⟩ := hafter.outcome_report Level.detail "parse"
        (countNote nodes.length (Node.documented nodes).length)
      exact ⟨middle, outcome_bind_of_ok hreport _, hready, houtput⟩
  obtain ⟨middle, hmiddle, hready, houtput⟩ := huntraced
  have hmiddle' : (outcome (collectUntraced parser source includePath) before).2.Ready d'
      registry' := by
    rw [hmiddle]
    exact hready
  obtain ⟨last, hlast, hlastReady, hlastOutput⟩ := hs.outcome_traced hannounce
    (fun comments => some (Comment.briefList comments))
    (keeps_collectUntraced hidesDiagnostics_retired hkeeps) hmiddle'
  rw [hmiddle] at hlast hlastOutput
  exact ⟨last, hlast, hlastReady, hlastOutput.trans houtput⟩

/-! ### Collecting that succeeds -/

/-- Comments are collected only if the parser has come to nodes, and then they are those of the
nodes. -/
theorem outcome_collect_eq_ok {named : Fields Text} {parser : Parser} {s s' : Session}
    {comments : List Comment}
    (h : outcome (collect named parser source includePath) s = (.ok comments, s')) :
    ∃ before nodes, outcome (announce (collecting named source)) s = (.ok (), before) ∧
      (outcome (parser.read source includePath) before).1 = .ok nodes ∧
      comments = Node.documented nodes := by
  obtain ⟨before, after, hannounce, hstep⟩ := outcome_traced_eq_ok h
  obtain ⟨nodes, middle, hparse, hstep⟩ := outcome_bind_eq_ok hstep
  obtain ⟨_, last, -, hpure⟩ := outcome_bind_eq_ok hstep
  have hcomments : Node.documented nodes = comments := Except.ok.inj (congrArg Prod.fst hpure)
  have hread : outcome (parser.read source includePath) before = (.ok nodes, middle) := by
    unfold parseNodes at hparse
    rw [outcome_tryCatch] at hparse
    rcases hr : outcome (parser.read source includePath) before with ⟨r, s₁⟩
    rw [hr] at hparse
    cases r with
    | ok a => exact hparse
    | error f => cases hparse
  exact ⟨before, nodes, hannounce, congrArg Prod.fst hread, hcomments.symm⟩

end Session

end TargetHelp
