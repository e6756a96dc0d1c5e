import TargetHelp.Proofs.Json.Same
import TargetHelp.Proofs.Session.Step

/-!
# Hints are shown once

Between two managers the hints that count as shown are those whose calls have printed a line, in
the order of the lines, be it in a step of the session or deep in a function or a parser that a step
calls: a call that prints nothing changes nothing, whatever keeps it from printing, and nothing else
changes what counts as shown. A hint that counts as shown is silent, whatever has become of it in
the registry.
-/

set_option autoImplicit false
set_option relaxedAutoImplicit false

namespace TargetHelp

namespace Session

/-- The hints that are printed while a step runs on a session, as they come. A call of a hint has
printed it if it has said something; what leaves the manager in charge as it was has printed
none. -/
inductive Prints : {α : Type} → SessionM α → Session → List Json → Prop
  | none {α : Type} {m : SessionM α} {s : Session} (h : (outcome m s).2.manager = s.manager) :
    Prints m s []
  | hint (id context : Json) (arguments : Fields Json) (s : Session) :
    Prints (hintIn id context arguments) s
      (if (said s (outcome (hintIn id context arguments) s).2).isEmpty then [] else [id])
  | bind {α β : Type} {m : SessionM α} {next : α → SessionM β} {s s' : Session} {a : α}
      {first later : List Json} (hm : outcome m s = (.ok a, s')) (hfirst : Prints m s first)
      (hlater : Prints (next a) s' later) : Prints (m >>= next) s (first ++ later)
  | cut {α β : Type} {m : SessionM α} {next : α → SessionM β} {s s' : Session} {f : Fault}
      {printed : List Json} (hm : outcome m s = (.error f, s')) (h : Prints m s printed) :
    Prints (m >>= next) s printed
  | tried {α : Type} {m : SessionM α} {handle : Fault → SessionM α} {s s' : Session} {a : α}
      {printed : List Json} (hm : outcome m s = (.ok a, s')) (h : Prints m s printed) :
    Prints (tryCatch m handle) s printed
  | caught {α : Type} {m : SessionM α} {handle : Fault → SessionM α} {s s' : Session} {f : Fault}
      {first later : List Json} (hm : outcome m s = (.error f, s')) (hfirst : Prints m s first)
      (hlater : Prints (handle f) s' later) : Prints (tryCatch m handle) s (first ++ later)

/-- All that a step does to the manager in charge, on any session, is to show hints. -/
def Hinting {α : Type} (m : SessionM α) : Prop := ∀ s, ∃ printed, Prints m s printed

/-- The hints that are printed while some steps run one after the other. -/
def Step.PrintsAll : List Step → Session → List Json → Prop
  | [], _, printed => printed = []
  | step :: steps, s, printed =>
    ∃ first later, Prints step.act s first ∧ PrintsAll steps (step.next s) later ∧
      printed = first ++ later

/-- What counts as shown could be looked up in a registry. -/
def ShownFindable (s : Session) : Prop :=
  ∀ id ∈ s.manager.shown, id.checkKey = .ok () ∧ Json.same id id = true

/-! ### One call -/

/-- A call of a hint prints its line and makes it count as shown, or changes nothing. -/
theorem outcome_hintIn_cases (id context : Json) (arguments : Fields Json) (s : Session) :
    (id.checkKey = .ok () ∧ Json.same id id = true ∧ s.manager.hasShown id = false ∧
      ∃ u, outcome (hintIn id context arguments) s = (.ok (), (s.withWrite u).withShown id)) ∨
    ∃ r, outcome (hintIn id context arguments) s = (r, s) := by
  rw [outcome_hintIn, outcome_bind, outcome_attempt]
  cases hline : s.hintLine? id context arguments with
  | error f => exact Or.inr ⟨_, rfl⟩
  | ok line? =>
    cases line? with
    | none => exact Or.inr ⟨_, rfl⟩
    | some t =>
      change (_ ∧ _ ∧ _ ∧ ∃ u, outcome (printLine t >>= _) s = _) ∨
        ∃ r, outcome (printLine t >>= _) s = _
      rw [outcome_bind]
      obtain ⟨u, -, hprint⟩ | ⟨f, -, hprint⟩ := printLine_cases t s
      · rw [hprint]
        obtain ⟨hint, hdue, -⟩ := hintLine?_eq_some_iff.mp hline
        obtain ⟨hkey, hnot, hfind, -, -⟩ := dueHint?_eq_some_iff.mp hdue
        have hself : Json.same id id = true :=
          Json.same_self_of_same hkey (Hint.Registry.same_of_find? hfind)
        exact Or.inl ⟨hkey, hself, hnot, u, rfl⟩
      · rw [hprint]
        exact Or.inr ⟨_, rfl⟩

/-- A hint that counts as shown prints nothing and raises nothing. -/
theorem outcome_hintIn_of_hasShown {s : Session} (hs : s.ShownFindable) {id : Json}
    (hshown : s.manager.hasShown id = true) (context : Json) (arguments : Fields Json) :
    outcome (hintIn id context arguments) s = (.ok (), s) := by
  obtain ⟨other, hother, hsame⟩ := List.any_eq_true.mp hshown
  have hkey : id.checkKey = .ok () := Json.checkKey_of_same (hs other hother).1 hsame
  have hdue : s.dueHint? id context = .ok none := by
    unfold dueHint?
    rw [hkey]
    change (if s.manager.hasShown id = true then _ else _) = _
    rw [if_pos hshown]
    rfl
  have hline : s.hintLine? id context arguments = .ok none := by
    unfold hintLine?
    rw [hdue]
    rfl
  rw [outcome_hintIn, outcome_bind, outcome_attempt, hline]
  rfl

/-! ### What is printed counts as shown -/

/-- Some hints have come to count as shown between two states of a session: they could be looked up,
did not count as shown, and none is equal to one before it. -/
structure Adds (s s' : Session) (printed : List Json) : Prop where
  shown : s'.manager.shown = s.manager.shown ++ printed
  fresh : ∀ id ∈ printed,
    id.checkKey = .ok () ∧ Json.same id id = true ∧ s.manager.hasShown id = false
  distinct : printed.Pairwise fun earlier later => Json.same later earlier = false

theorem Adds.refl {s s' : Session} (h : s'.manager = s.manager) : Adds s s' [] :=
  ⟨by rw [h, List.append_nil], List.forall_mem_nil _, List.Pairwise.nil⟩

theorem Adds.trans {s s' s'' : Session} {first later : List Json} (h : Adds s s' first)
    (h' : Adds s' s'' later) : Adds s s'' (first ++ later) := by
  have hlater : ∀ id ∈ later, s.manager.hasShown id = false ∧
      first.any (Json.same id) = false := by
    intro id hid
    obtain ⟨-, -, hnot⟩ := h'.fresh id hid
    unfold Manager.hasShown at hnot
    rw [h.shown, List.any_append, Bool.or_eq_false_iff] at hnot
    exact hnot
  refine ⟨?_, fun id hid => ?_, List.pairwise_append.mpr ⟨h.distinct, h'.distinct, ?_⟩⟩
  · rw [h'.shown, h.shown, List.append_assoc]
  · rcases List.mem_append.mp hid with hid | hid
    · exact h.fresh id hid
    · obtain ⟨hkey, hself, -⟩ := h'.fresh id hid
      exact ⟨hkey, hself, (hlater id hid).1⟩
  · intro earlier hearlier other hother
    exact Bool.eq_false_iff.mpr (List.any_eq_false.mp (hlater other hother).2 earlier hearlier)

/-- What counts as shown behind a step is what did before it, and what it has printed. -/
theorem Prints.adds {α : Type} {m : SessionM α} {s : Session} {printed : List Json}
    (h : Prints m s printed) : Adds s (outcome m s).2 printed := by
  induction h with
  | none h => exact Adds.refl h
  | hint id context arguments s =>
    obtain ⟨hkey, hself, hnot, u, hcall⟩ | ⟨r, hcall⟩ := outcome_hintIn_cases id context arguments s
    · have hsaid : said s ((s.withWrite u).withShown id) = [u] := said_eq (by simp) (by simp)
      rw [hcall, hsaid]
      exact ⟨by rw [shown_withShown, manager_withWrite]; rfl,
        List.forall_mem_singleton.mpr ⟨hkey, hself, hnot⟩, List.pairwise_singleton _ id⟩
    · rw [hcall, said_self]
      exact Adds.refl rfl
  | bind hm _ _ hfirst hlater =>
    rw [hm] at hfirst
    rw [outcome_bind_of_ok hm]
    exact hfirst.trans hlater
  | cut hm _ h =>
    rw [hm] at h
    rw [outcome_bind, hm]
    exact h
  | tried hm _ h =>
    rw [hm] at h
    rw [outcome_tryCatch, hm]
    exact h
  | caught hm _ _ hfirst hlater =>
    rw [hm] at hfirst
    rw [outcome_tryCatch, hm]
    exact hfirst.trans hlater

/-! ### Steps that show hints -/

namespace Hinting

variable {α β : Type}

theorem of_keeps {m : SessionM α} (h : Keeps Session.manager m) : Hinting m :=
  fun s => ⟨[], .none (h s)⟩

theorem hintIn (id context : Json) (arguments : Fields Json) :
    Hinting (hintIn id context arguments) :=
  fun s => ⟨_, .hint id context arguments s⟩

theorem bind {m : SessionM α} {next : α → SessionM β} (h : Hinting m)
    (hnext : ∀ a, Hinting (next a)) : Hinting (m >>= next) := by
  intro s
  obtain ⟨first, hfirst⟩ := h s
  rcases hm : outcome m s with ⟨r, s'⟩
  cases r with
  | ok a =>
    obtain ⟨later, hlater⟩ := hnext a s'
    exact ⟨_, .bind hm hfirst hlater⟩
  | error f => exact ⟨_, .cut hm hfirst⟩

theorem tryCatch {m : SessionM α} {handle : Fault → SessionM α} (h : Hinting m)
    (hhandle : ∀ f, Hinting (handle f)) : Hinting (tryCatch m handle) := by
  intro s
  obtain ⟨first, hfirst⟩ := h s
  rcases hm : outcome m s with ⟨r, s'⟩
  cases r with
  | ok a => exact ⟨_, .tried hm hfirst⟩
  | error f =>
    obtain ⟨later, hlater⟩ := hhandle f s'
    exact ⟨_, .caught hm hfirst hlater⟩

theorem ite {c : Prop} [Decidable c] {m n : SessionM α} (hm : Hinting m) (hn : Hinting n) :
    Hinting (if c then m else n) := by
  split
  · exact hm
  · exact hn

/-- A trace around a step shows no hints of its own. -/
theorem traced (call : Call) (shown? : α → Option Text) {m : SessionM α} (h : Hinting m) :
    Hinting (traced call shown? m) := by
  refine (of_keeps Keeps.get).bind fun s => (of_keeps (Keeps.attempt _)).bind fun isOff =>
    ite h ?_
  have htrace (t : Text) : Hinting (traceBy s.retired.length t) :=
    of_keeps (Keeps.get.bind fun _ => keeps_reportBy hidesDiagnostics_manager _ _ _ t)
  refine (htrace _).bind fun _ => bind (h.tryCatch fun f => ?_) fun value => ?_
  · exact ite ((htrace _).bind fun _ => of_keeps (Keeps.throw f)) (of_keeps (Keeps.throw f))
  · cases shown? value with
    | none => exact of_keeps (Keeps.pure value)
    | some t => exact (htrace _).bind fun _ => of_keeps (Keeps.pure value)

end Hinting

/-- A step that puts no manager in charge does nothing to the one that is but show hints, if that
holds of what it calls. -/
theorem Step.hinting {step : Step} (hinstalls : step.installs = false)
    (hcalls : step.Calls fun _ => Hinting) : Hinting step.act := by
  cases step with
  | hint id context arguments => exact Hinting.hintIn id context arguments
  | traced call function =>
    exact (Hinting.traced call id hcalls).bind fun _ => Hinting.of_keeps (Keeps.pure _)
  | render shown source parser? includePath =>
    have hreport (level : Int) (channel t : Text) : Hinting (report level channel t) :=
      Hinting.of_keeps (keeps_report hidesDiagnostics_manager level channel t)
    have huntraced : Hinting
        (collectUntraced (parser?.getD .nodeStream) source includePath) := by
      refine (Hinting.tryCatch hcalls fun f => ?_).bind fun nodes => ?_
      · exact Hinting.of_keeps (Keeps.throw f.ofParsing)
      · exact (hreport _ _ _).bind fun _ => Hinting.of_keeps (Keeps.pure _)
    have hcollect : Hinting (collect (renderingArguments parser? includePath)
        (parser?.getD .nodeStream) source includePath) :=
      huntraced.traced _ _
    refine (hcollect.bind fun comments => ?_).bind fun _ => Hinting.of_keeps (Keeps.pure _)
    exact Hinting.of_keeps (keeps_writeView hidesDiagnostics_manager (fun _ _ => rfl) _ _)
  | _ => exact Hinting.of_keeps (Step.keeps_manager hinstalls rfl trivial)

/-! ### Runs -/

/-- Steps that show hints print some on every session. -/
theorem Step.exists_printsAll {steps : List Step}
    (h : ∀ step ∈ steps, step.installs = false ∧ step.Calls fun _ => Hinting) (s : Session) :
    ∃ printed, PrintsAll steps s printed := by
  induction steps generalizing s with
  | nil => exact ⟨[], rfl⟩
  | cons step steps ih =>
    obtain ⟨⟨hinstalls, hcalls⟩, hrest⟩ := List.forall_mem_cons.mp h
    obtain ⟨first, hfirst⟩ := step.hinting hinstalls hcalls s
    obtain ⟨later, hlater⟩ := ih hrest (step.next s)
    exact ⟨_, first, later, hfirst, hlater, rfl⟩

theorem Step.PrintsAll.adds {steps : List Step} {s : Session} {printed : List Json}
    (h : PrintsAll steps s printed) : Adds s (run steps s) printed := by
  induction steps generalizing s printed with
  | nil =>
    obtain rfl : printed = [] := h
    exact Adds.refl rfl
  | cons step steps ih =>
    obtain ⟨first, later, hfirst, hlater, rfl⟩ := h
    exact hfirst.adds.trans (ih hlater)

/-- Between two managers the hints that count as shown are those that have been printed, in that
order, and no hint is printed twice, whether the steps call hints themselves or functions and
parsers that do. A hint that counts as shown is silent and raises nothing, whatever its context and
arguments and whatever the registry holds by then. A call that does not print its line, be it
skipped or raise, leaves the session as it was; every other step leaves the manager as it was,
unless it calls something that does not. -/
theorem hints_once (s : Session) (hnew : s.manager.shown = []) (steps : List Step)
    (hsteps : ∀ step ∈ steps, step.installs = false ∧ step.Calls fun _ => Hinting) :
    let now := Step.run steps s
    (∃ printed, Step.PrintsAll steps s printed) ∧
    (∀ printed, Step.PrintsAll steps s printed →
      now.manager.shown = printed ∧ (∀ id, printed.countP (Json.same id) ≤ 1) ∧
      ∀ id ∈ printed, now.manager.hasShown id = true) ∧
    (∀ id context arguments, now.manager.hasShown id = true →
      outcome (hintIn id context arguments) now = (.ok (), now)) ∧
    (∀ id context arguments,
      (now.manager.hasShown id = false ∧ ∃ u, outcome (hintIn id context arguments) now =
        (.ok (), (now.withWrite u).withShown id)) ∨
      ∃ r, outcome (hintIn id context arguments) now = (r, now)) ∧
    ∀ step : Step, step.installs = false → step.hintId? = none →
      (step.Calls fun _ => Keeps Session.manager) → (step.next now).manager = now.manager := by
  intro now
  obtain ⟨account, haccount⟩ := Step.exists_printsAll hsteps s
  have hadds {printed : List Json} (h : Step.PrintsAll steps s printed) :
      now.manager.shown = printed := by
    have hshown := h.adds.shown
    rw [hnew, List.nil_append] at hshown
    exact hshown
  refine ⟨⟨account, haccount⟩, fun printed hprinted => ⟨hadds hprinted, fun id => ?_,
    fun id hid => ?_⟩, fun id context arguments hid => ?_, fun id context arguments => ?_,
    fun step hinstalls hhint hcalls => step.keeps_manager hinstalls hhint hcalls now⟩
  · exact Json.countP_same_le_one (fun id hid => (hprinted.adds.fresh id hid).1)
      hprinted.adds.distinct id
  · unfold Manager.hasShown
    rw [hadds hprinted]
    exact List.any_eq_true.mpr ⟨id, hid, (hprinted.adds.fresh id hid).2.1⟩
  · refine outcome_hintIn_of_hasShown (fun other hother => ?_) hid context arguments
    rw [hadds haccount] at hother
    obtain ⟨hkey, hself, -⟩ := haccount.adds.fresh other hother
    exact ⟨hkey, hself⟩
  · obtain ⟨-, -, hnot, hcall⟩ | hcall := outcome_hintIn_cases id context arguments now
    · exact Or.inl ⟨hnot, hcall⟩
    · exact Or.inr hcall

/-- A hint that fails first for its arguments and then for its place is shown by the third call,
which a traced function makes, and stays silent when it has another message and when it is no longer
registered. -/
theorem hints_once_on_third_call :
    let tip : Hint := { id := .str "tip", message := .str "\x7bn\x7d targets" }
    let showing (arguments : Fields Json) : SessionM Unit :=
      hintIn (.str "tip") (.str "result") arguments
    let call (arguments : Fields Json) : Step := .hint (.str "tip") (.str "result") arguments
    let function : SessionM (Option Text) := showing [("n", .int 2)] >>= fun _ => pure none
    let steps : List Step := [.register [tip], call [("m", .int 1)],
      .answer .errors (.broken .noChannels), call [("n", .int 1)],
      .answer .errors .everything, .traced ⟨"demo.f", [], []⟩ function,
      .register [{ tip with message := .str "other" }], call [("n", .int 3)], .clearHints]
    let now := Step.run steps {}
    now.manager.shown.filterMap Json.text? = [("tip" : Text)] ∧ now.errors.text = "2 targets\n" ∧
    (∃ printed, Step.PrintsAll steps {} printed ∧ now.manager.shown = printed ∧
      printed.countP (Json.same (.str "tip")) ≤ 1) ∧
    outcome (hintIn (.str "tip") (.str "result") [("m", .int 4)]) now = (.ok (), now) := by
  intro tip showing call function steps now
  have hfunction : Hinting function :=
    (Hinting.hintIn _ _ _).bind fun _ => Hinting.of_keeps (Keeps.pure none)
  have hsteps : ∀ step ∈ steps, step.installs = false ∧ step.Calls fun _ => Hinting := by
    intro step hstep
    simp only [steps, List.mem_cons, List.not_mem_nil, or_false] at hstep
    obtain rfl | rfl | rfl | rfl | rfl | rfl | rfl | rfl | rfl := hstep
    all_goals first | exact ⟨rfl, trivial⟩ | exact ⟨rfl, hfunction⟩
  obtain ⟨⟨printed, hprinted⟩, hcount, hsilent, -, -⟩ := hints_once {} rfl steps hsteps
  obtain ⟨hshown, hle, -⟩ := hcount printed hprinted
  have hnow : now.manager.hasShown (.str "tip") = true := by decide +kernel
  exact ⟨by decide +kernel, by decide +kernel, ⟨printed, hprinted, hshown, hle _⟩,
    hsilent _ _ _ hnow⟩

end Session

end TargetHelp
