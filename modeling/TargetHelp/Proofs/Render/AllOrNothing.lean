import TargetHelp.Proofs.Render.Collect

/-!
# A view is written as a whole or not at all

Everything that can go wrong with the source has gone wrong before the first piece of a view is
written, and what is said after the last piece comes too late to take it back. Only the parser's
own faults reach the caller while the diagnostics are taken, each as the cause of a failure of
parsing. A parser may do more than read: what it leaves of the session is what the rendering goes
on with.
-/

set_option autoImplicit false
set_option relaxedAutoImplicit false

namespace TargetHelp

/-- A fault that a parser may raise and that is not meant for the program as a whole. -/
structure Fault.IsException (f : Fault) : Prop where
  not_interrupt : f.isInterrupt = false
  not_misuse : ∀ g, f ≠ .misuse g

theorem Fault.IsException.ofParsing {f : Fault} (h : f.IsException) :
    f.ofParsing = .failure "parsing" f := by
  have hnot : ¬ f.isInterrupt = true := by rw [h.not_interrupt]; exact Bool.false_ne_true
  unfold Fault.ofParsing
  split
  · exact absurd rfl (h.not_misuse _)
  · rw [if_neg hnot]

/-- Texts written one after the other. -/
def Stream.writeAll (stream : Stream) (ts : List Text) : Except Fault Stream :=
  ts.foldlM Stream.write stream

theorem Stream.TakesAll.writeAll {stream : Stream} (h : stream.TakesAll) (ts : List Text) :
    ∃ next, stream.writeAll ts = .ok next := by
  induction ts generalizing stream with
  | nil => exact ⟨stream, rfl⟩
  | cons t ts ih =>
    obtain ⟨middle, hwrite, hmiddle⟩ := h.write t
    obtain ⟨next, hnext⟩ := ih hmiddle
    refine ⟨next, ?_⟩
    unfold Stream.writeAll
    rw [List.foldlM_cons, hwrite]
    exact hnext

/-- Every text is taken as it is, whatever has been written before. -/
def Stream.TakesVerbatim (stream : Stream) : Prop :=
  ∀ (writes : List Text) (t : Text), Stream.accept stream.policy writes t = .ok t

theorem Stream.TakesVerbatim.takesAll {stream : Stream} (h : stream.TakesVerbatim) :
    stream.TakesAll := fun writes t => ⟨t, h writes t⟩

/-- Where texts are taken as they are, a stream grows by all that is written. -/
theorem Stream.TakesVerbatim.writeAll {stream : Stream} (h : stream.TakesVerbatim)
    (ts : List Text) :
    stream.writeAll ts = .ok { stream with writes := stream.writes ++ ts } := by
  induction ts generalizing stream with
  | nil =>
    rw [List.append_nil]
    rfl
  | cons t ts ih =>
    have hwrite : stream.write t = .ok { stream with writes := stream.writes ++ [t] } := by
      rw [Stream.write, h]
      rfl
    have hafter : Stream.TakesVerbatim { stream with writes := stream.writes ++ [t] } := h
    have hrest := ih hafter
    unfold Stream.writeAll
    rw [List.foldlM_cons, hwrite]
    rw [List.append_assoc] at hrest
    exact hrest

/-- The view of some nodes, piece by piece. -/
def View.ofNodes (view : View) (nodes : List Node) : List Text :=
  View.frame (view.pieces (Node.documented nodes))

namespace Session

variable {d : Destination} {registry : Hint.Registry}

theorem outcome_writeOutput {s : Session} {t : Text} {output : Stream}
    (h : s.output.write t = .ok output) :
    outcome (writeOutput t) s = (.ok (), { s with output }) := by
  unfold writeOutput
  rw [outcome_bind, outcome_get]
  dsimp only
  rw [outcome_bind, outcome_attempt, h]
  rfl

theorem outcome_writeOutputs {s : Session} {ts : List Text} {output : Stream}
    (h : s.output.writeAll ts = .ok output) :
    outcome (ts.forM writeOutput) s = (.ok (), { s with output }) := by
  induction ts generalizing s with
  | nil =>
    obtain rfl : s.output = output := Except.ok.inj h
    rfl
  | cons t ts ih =>
    unfold Stream.writeAll at h
    rw [List.foldlM_cons] at h
    cases hwrite : s.output.write t with
    | error f =>
      rw [hwrite] at h
      cases h
    | ok middle =>
      rw [hwrite] at h
      have hrest := ih (s := { s with output := middle }) h
      change outcome (writeOutput t >>= fun _ => ts.forM writeOutput) s = _
      rw [outcome_bind, outcome_writeOutput hwrite]
      exact hrest

/-- What is said behind a view that has been written leaves it there. -/
theorem output_writeView {s : Session} {view : View} {pieces : List Text} {output : Stream}
    (h : s.output.writeAll (View.frame pieces) = .ok output) :
    (outcome (writeView view pieces) s).2.output = output := by
  have hreport : Keeps Session.output (do
      report Level.summary "render" (view.summary pieces.length)
      return pieces.length) :=
    (keeps_report hidesDiagnostics_output _ _ _).bind fun _ => Keeps.pure _
  unfold writeView
  rw [outcome_bind, outcome_writeOutputs h]
  exact hreport _

section Render

variable {source : Source} {parser? : Option Parser} {includePath : Json}

/-- A view is written and counted if the output and the diagnostics are taken. -/
theorem Ready.value_writeView {s : Session} (hs : s.Ready d registry) (hout : s.output.TakesAll)
    (view : View) (pieces : List Text) :
    (outcome (writeView view pieces) s).1 = .ok pieces.length := by
  obtain ⟨output, houtput⟩ := hout.writeAll (View.frame pieces)
  have hready : Ready d registry { s with output } :=
    ⟨hs.destination, by cases d <;> exact hs.takesAll, hs.levels, hs.hints⟩
  obtain ⟨last, hreport, -, -⟩ :=
    hready.outcome_report Level.summary "render" (view.summary pieces.length)
  unfold writeView
  rw [outcome_bind_of_ok (outcome_writeOutputs houtput), outcome_bind_of_ok hreport]
  rfl

/-- A rendering shows the view of all nodes that the parser has come to, or else it raises and
leaves the output as it was. -/
theorem output_render (view : View)
    (hquiet : Keeps Session.output ((parser?.getD .nodeStream).read source includePath))
    {s : Session} (hout : s.output.TakesAll) :
    ((∃ f, (outcome (render view source parser? includePath) s).1 = .error f) ∧
      (outcome (render view source parser? includePath) s).2.output = s.output) ∨
    ∃ before nodes,
      outcome (announce (collecting (renderingArguments parser? includePath) source)) s =
        (.ok (), before) ∧
      (outcome ((parser?.getD .nodeStream).read source includePath) before).1 = .ok nodes ∧
      s.output.writeAll (view.ofNodes nodes) =
        .ok (outcome (render view source parser? includePath) s).2.output := by
  have hkeeps := keeps_collect hidesDiagnostics_output hquiet
    (renderingArguments parser? includePath) s
  unfold render
  rw [outcome_bind]
  rcases hcollect : outcome (collect (renderingArguments parser? includePath)
    (parser?.getD .nodeStream) source includePath) s with ⟨r, s'⟩
  rw [hcollect] at hkeeps
  cases r with
  | error f => exact Or.inl ⟨⟨f, rfl⟩, hkeeps⟩
  | ok comments =>
    right
    obtain ⟨before, nodes, hannounce, hread, rfl⟩ := outcome_collect_eq_ok hcollect
    refine ⟨before, nodes, hannounce, hread, ?_⟩
    obtain ⟨output, houtput⟩ := hout.writeAll (view.ofNodes nodes)
    have houtput' : s'.output.writeAll (View.frame (view.pieces (Node.documented nodes))) =
        .ok output := by
      rw [show s'.output = s.output from hkeeps]
      exact houtput
    rw [houtput, output_writeView houtput']

/-- Where the diagnostics are taken, a rendering comes to the size of the view or to what the
parser's fault becomes. -/
theorem value_render (view : View) {result : Except Fault (List Node)}
    (h : ComesTo ((parser?.getD .nodeStream).read source includePath) result)
    {s : Session} (hout : s.output.TakesAll) (hs : s.Ready d registry) :
    (outcome (render view source parser? includePath) s).1 =
      (Node.collected result).map fun comments => (view.pieces comments).length := by
  refine ((agree_render h view) hs.alike).1.trans ?_
  unfold showView
  rw [outcome_bind, outcome_attempt]
  cases Node.collected result with
  | error f => rfl
  | ok comments =>
    obtain ⟨output, houtput⟩ := hout.writeAll (View.frame (view.pieces comments))
    dsimp only
    rw [outcome_bind, outcome_writeOutputs houtput]
    rfl

end Render

/-- The run of a parser behind the announcement of its call. -/
def parserRun (source : Source) (parser? : Option Parser) (includePath : Json) (s : Session) :
    Except Fault (List Node) × Session :=
  outcome (do
    announce (collecting (renderingArguments parser? includePath) source)
    (parser?.getD .nodeStream).read source includePath) s

/-- Whatever the manager shows and whether or not its diagnostics can be written, a rendering adds
the complete view to the output or nothing, and nothing if the parser raised, be it a fault of its
own or one of what it had to say; the parser itself does not write to the output. If the diagnostics
can be written before the parser runs and behind it, and it has put no other manager in charge, the
rendering raises exactly when the parser did, and what it raises is a failure of parsing with the
parser's exception as its cause; otherwise it comes to the number of pieces, and the view has been
written. -/
theorem render_all_or_nothing (view : View) (source : Source) (parser? : Option Parser)
    (includePath : Json) (s : Session) (hout : s.output.TakesAll)
    (hquiet : Keeps Session.output ((parser?.getD .nodeStream).read source includePath)) :
    let run := outcome (render view source parser? includePath) s
    let parsed := parserRun source parser? includePath s
    (run.2.output = s.output ∨ ∃ nodes, parsed.1 = .ok nodes ∧
      s.output.writeAll (view.ofNodes nodes) = .ok run.2.output) ∧
    (∀ f, parsed.1 = .error f → run.2.output = s.output) ∧
    ∀ d registry d' registry', s.Ready d registry → parsed.2.Ready d' registry' →
      Keeps Session.retired ((parser?.getD .nodeStream).read source includePath) →
      (∀ f, parsed.1 = .error f → f.IsException) →
      ((∃ f, run.1 = .error f) ↔ ∃ f, parsed.1 = .error f) ∧
      (∀ f, parsed.1 = .error f →
        run.1 = .error (.failure "parsing" f) ∧
        (Fault.failure "parsing" f).message = "parsing: " ++ f.message) ∧
      ∀ nodes, parsed.1 = .ok nodes →
        run.1 = .ok (view.pieces (Node.documented nodes)).length ∧
        s.output.writeAll (view.ofNodes nodes) = .ok run.2.output := by
  intro run parsed
  have hview := output_render view hquiet hout
  have hbehind {before : Session}
      (h : outcome (announce (collecting (renderingArguments parser? includePath) source)) s =
        (.ok (), before)) :
      parsed = outcome ((parser?.getD .nodeStream).read source includePath) before :=
    outcome_bind_of_ok h _
  refine ⟨?_, fun f hraised => ?_, fun d registry d' registry' hs hafter hkeeps hexception => ?_⟩
  · rcases hview with ⟨-, hsame⟩ | ⟨before, nodes, hannounce, hread, hwritten⟩
    · exact Or.inl hsame
    · exact Or.inr ⟨nodes, (congrArg Prod.fst (hbehind hannounce)).trans hread, hwritten⟩
  · rcases hview with ⟨-, hsame⟩ | ⟨before, nodes, hannounce, hread, -⟩
    · exact hsame
    · cases hraised.symm.trans ((congrArg Prod.fst (hbehind hannounce)).trans hread)
  · have hvalue : run.1 = (Node.collected parsed.1).map
        fun comments => (view.pieces comments).length := by
      obtain ⟨before, hannounce, -, hsame⟩ :=
        hs.outcome_announce (collecting (renderingArguments parser? includePath) source)
      have hparsed := hbehind hannounce
      rw [hparsed] at hafter ⊢
      obtain ⟨last, hcollect, hready, houtput⟩ := hs.outcome_collect hannounce hkeeps hafter
      have hlast : last.output.TakesAll := by
        rw [houtput, hquiet before, hsame]
        exact hout
      change (outcome (collect _ _ _ _ >>= _) s).1 = _
      rw [outcome_bind, hcollect]
      cases Node.collected
          (outcome ((parser?.getD .nodeStream).read source includePath) before).1 with
      | error f => rfl
      | ok comments => exact hready.value_writeView hlast view _
    have hraised {f : Fault} (hf : parsed.1 = .error f) :
        run.1 = .error (.failure "parsing" f) := by
      rw [hvalue, hf, ← (hexception f hf).ofParsing]
      rfl
    have hshown {nodes : List Node} (hnodes : parsed.1 = .ok nodes) :
        run.1 = .ok (view.pieces (Node.documented nodes)).length := by
      rw [hvalue, hnodes]
      rfl
    refine ⟨⟨?_, fun ⟨f, hf⟩ => ⟨_, hraised hf⟩⟩, fun f hf => ⟨hraised hf, rfl⟩,
      fun nodes hnodes => ⟨hshown hnodes, ?_⟩⟩
    · rintro ⟨f, hf⟩
      cases hr : parsed.1 with
      | error g => exact ⟨g, rfl⟩
      | ok nodes => cases hf.symm.trans (hshown hr)
    · rcases hview with ⟨⟨f, hf⟩, -⟩ | ⟨before, others, hannounce, hread, hwritten⟩
      · cases hf.symm.trans (hshown hnodes)
      · have hothers := (congrArg Prod.fst (hbehind hannounce)).trans hread
        rwa [← Except.ok.inj (hnodes.symm.trans hothers)] at hwritten

/-- A parser that breaks off behind a comment, with traces on a stream that takes them. -/
theorem render_all_or_nothing_broken_off :
    let fault : Fault := .parse "unknown directive" (some 2)
    let reading : Reading := { nodes := [.comment ⟨"all", "Builds it."⟩], fault := some fault }
    let parser : Parser := ⟨"<function read at ADDR>", .reads fun _ _ => reading⟩
    let s : Session := { manager := { overrides := [(.str "trace", .level 3)] } }
    let run := outcome (render .short (Source.ofText "makefile" []) (some parser) .null) s
    run.1 = .error (.failure "parsing" fault) ∧ run.2.output = s.output := by
  intro fault reading parser s run
  have hout : s.output.TakesAll := fun _ t => ⟨t, rfl⟩
  have hready : s.Ready .errors Hint.ofProgram := by
    refine ⟨rfl, fun _ t => ⟨t, rfl⟩, ⟨⟨0, rfl⟩, ?_⟩, rfl⟩
    intro entry hentry
    obtain rfl := List.mem_singleton.mp hentry
    exact ⟨3, rfl⟩
  have hcomes : ComesTo (((some parser).getD .nodeStream).read (Source.ofText "makefile" []) .null)
      reading.result := comesTo_finish reading
  obtain ⟨before, hannounce, hbefore, -⟩ := hready.outcome_announce
    (collecting (renderingArguments (some parser) .null) (Source.ofText "makefile" []))
  have hparsed : parserRun (Source.ofText "makefile" []) (some parser) .null s =
      outcome (finish reading) before := outcome_bind_of_ok hannounce _
  have hfault : (parserRun (Source.ofText "makefile" []) (some parser) .null s).1 =
      .error fault := by
    rw [hparsed]
    exact hbefore.outcome_finish reading
  have hafter : (parserRun (Source.ofText "makefile" []) (some parser) .null s).2.Ready .errors
      Hint.ofProgram := by
    rw [hparsed]
    exact (agree_finish reading hbefore.alike).2.left
  have hexception : ∀ f, (parserRun (Source.ofText "makefile" []) (some parser) .null s).1 =
      .error f → f.IsException := by
    intro f hf
    obtain rfl : fault = f := Except.error.inj (hfault.symm.trans hf)
    exact ⟨by decide, fun g h => Fault.noConfusion h⟩
  obtain ⟨-, hnothing, hraises⟩ := render_all_or_nothing .short (Source.ofText "makefile" [])
    (some parser) .null s hout hcomes.output
  obtain ⟨-, hfailure, -⟩ := hraises .errors Hint.ofProgram .errors Hint.ofProgram hready hafter
    hcomes.retired hexception
  exact ⟨(hfailure fault hfault).1, hnothing fault hfault⟩

end Session

end TargetHelp
