import TargetHelp.Proofs.Session.HintsOnce
import TargetHelp.Proofs.Session.Thresholds

/-!
# A step that raises leaves the setup as it was

The setup of a session is its manager, its hints and its channels. A step settles what may keep it
from being done before it changes any of these, and what it writes to a stream is no part of them.
So a step that raises can be left out of a run as far as the setup goes, unless it has called a
function or a parser that changes the setup; a new manager, above all, takes the place of the old
one only when all its specifications have been read.
-/

set_option autoImplicit false
set_option relaxedAutoImplicit false

namespace TargetHelp

/-- Hints whose identifiers can be looked up are registered without a fault. -/
theorem Hint.Registry.registerAll_of_keys {hints : List Hint}
    (h : ∀ hint ∈ hints, hint.id.checkKey = .ok ()) (registry : Registry) :
    (registry.registerAll hints).2 = none := by
  induction hints generalizing registry with
  | nil => rfl
  | cons hint hints ih =>
    obtain ⟨hkey, hrest⟩ := List.forall_mem_cons.mp h
    rw [registerAll, hkey]
    exact ih hrest _

namespace Session

/-- All that a session holds besides its streams. -/
structure Setup where
  manager : Manager
  hints : Hint.Registry
  channels : Channel.Table

def setup (s : Session) : Setup := ⟨s.manager, s.hints, s.channels⟩

theorem hidesDiagnostics_setup : HidesDiagnostics setup := ⟨fun _ _ => rfl, fun _ _ => rfl⟩

/-! ### Managers -/

/-- A malformed specification among others keeps them from being read. -/
theorem overridesOf_of_malformed (optIn : List Json) {specs : List Text} {spec : Text}
    (hspec : spec ∈ specs) {error : Channel.SpecError}
    (hparse : Channel.Spec.parse spec = .error error) :
    ∃ first, overridesOf optIn specs = .error first := by
  unfold overridesOf
  dsimp only
  generalize optIn.foldl (fun overrides name => Json.Table.set name Level.minimal overrides) [] =
    overrides
  induction specs generalizing overrides with
  | nil => cases hspec
  | cons other specs ih =>
    rw [List.foldlM_cons]
    cases hother : Channel.Spec.parse other with
    | error first => exact ⟨first, rfl⟩
    | ok parsed =>
      rcases List.mem_cons.mp hspec with rfl | hspec
      · cases hparse.symm.trans hother
      · exact ih hspec _

/-- A manager is put in charge as the last thing that a start does. -/
theorem outcome_startGiven_eq_error {verbosity : Threshold} {specs : Json}
    {destination : Destination} {s : Session} {f : Fault}
    (h : (outcome (startGiven verbosity specs destination) s).1 = .error f) :
    outcome (startGiven verbosity specs destination) s = (.error f, s) := by
  revert h
  unfold startGiven
  rw [outcome_bind, outcome_attempt]
  cases (if specs.isGiven then specs.parts else .ok []) with
  | error g => exact fun h => Prod.ext h rfl
  | ok given =>
    dsimp only
    rw [outcome_bind, outcome_get]
    dsimp only
    rw [outcome_bind, outcome_attempt]
    cases managerOf s.channels verbosity
        ((given.takeWhile fun spec => spec.text?.isSome).filterMap Json.text?) destination with
    | error g => exact fun h => Prod.ext h rfl
    | ok manager =>
      dsimp only
      cases given[((given.takeWhile fun spec => spec.text?.isSome).filterMap
          Json.text?).length]? with
      | some other => exact fun h => Prod.ext h rfl
      | none => exact fun h => nomatch h

/-- A malformed specification anywhere in a list keeps a manager from being put in charge. -/
theorem outcome_startGiven_of_malformed (verbosity : Threshold) {specs : List Text} {spec : Text}
    (hspec : spec ∈ specs) {error : Channel.SpecError}
    (hparse : Channel.Spec.parse spec = .error error) (destination : Destination) (s : Session) :
    ∃ first, outcome (startGiven verbosity (.arr (specs.map .str)) destination) s =
      (.error (.channel first), s) := by
  obtain ⟨first, hfirst⟩ := overridesOf_of_malformed s.channels.optIn hspec hparse
  have hmanager : managerOf s.channels verbosity specs destination =
      .error (.channel first) := by
    unfold managerOf
    rw [hfirst]
    rfl
  refine ⟨first, ?_⟩
  rw [outcome_startGiven_texts, outcome_bind, outcome_attempt, hmanager]

/-! ### Steps -/

/-- The hints that a step registers, if it does, have identifiers that can be looked up. -/
def Step.RegistersKeys : Step → Prop
  | register hints => ∀ hint ∈ hints, hint.id.checkKey = .ok ()
  | _ => True

theorem outcome_register {hints : List Hint} (h : ∀ hint ∈ hints, hint.id.checkKey = .ok ())
    (s : Session) :
    outcome (register hints) s = (.ok (), { s with hints := (s.hints.registerAll hints).1 }) := by
  have hnone := Hint.Registry.registerAll_of_keys h s.hints
  unfold register
  rw [outcome_bind, outcome_get]
  dsimp only
  rcases hregister : s.hints.registerAll hints with ⟨registered, fault?⟩
  rw [hregister] at hnone
  obtain rfl : fault? = none := hnone
  rfl

/-- A step ends in a fault. -/
def Step.Raises (step : Step) (s : Session) : Prop := ∃ f, (outcome step.act s).1 = .error f

instance (step : Step) (s : Session) : Decidable (step.Raises s) :=
  match h : (outcome step.act s).1 with
  | .ok _ => isFalse fun ⟨_, hf⟩ => nomatch h.symm.trans hf
  | .error f => isTrue ⟨f, h⟩

/-- What a step calls that is not the session's own, whatever it comes to. -/
def Step.call? : Step → Option (SessionM Unit)
  | traced _ function => some (discard function)
  | render _ source parser? includePath =>
      some (discard ((parser?.getD .nodeStream).read source includePath))
  | _ => none

theorem setup_discard {α : Type} (m : SessionM α) (s : Session) :
    (outcome (discard m) s).2.setup = (outcome m s).2.setup :=
  Keeps.view_bind m (fun _ => Keeps.pure ()) s

/-- Collecting leaves the setup as the parser does. -/
theorem setup_collectUntraced (parser : Parser) (source : Source) (includePath : Json)
    (s : Session) :
    (outcome (collectUntraced parser source includePath) s).2.setup =
      (outcome (parser.read source includePath) s).2.setup := by
  refine (Keeps.view_bind _ (fun nodes => ?_) s).trans
    (Keeps.view_tryCatch _ (fun f => Keeps.throw f.ofParsing) s)
  exact (keeps_report hidesDiagnostics_setup _ _ _).bind fun _ => Keeps.pure _

/-- A step that calls something leaves the setup as that does, unless it fails before. -/
theorem Step.setup_of_call {step : Step} {call : SessionM Unit} (hcall : step.call? = some call)
    (s : Session) :
    (step.next s).setup = s.setup ∨
      ∃ now, now.setup = s.setup ∧ (step.next s).setup = (outcome call now).2.setup := by
  cases step with
  | traced call' function =>
    obtain rfl : discard function = call := Option.some.inj hcall
    have hnext : (next (traced call' function) s).setup =
        (outcome (Session.traced call' id function) s).2.setup := setup_discard _ s
    rw [hnext]
    obtain h | ⟨now, hnow, h⟩ := view_traced hidesDiagnostics_setup call' id function s
    · exact Or.inl h
    · exact Or.inr ⟨now, hnow, h.trans (setup_discard function now).symm⟩
  | render view source parser? includePath =>
    obtain rfl : discard ((parser?.getD .nodeStream).read source includePath) = call :=
      Option.some.inj hcall
    have hwritten (comments : List Comment) :
        Keeps Session.setup (writeView view (view.pieces comments)) :=
      keeps_writeView hidesDiagnostics_setup (fun _ _ => rfl) view _
    have hnext : (next (render view source parser? includePath) s).setup =
        (outcome (collect (renderingArguments parser? includePath) (parser?.getD .nodeStream) source
          includePath) s).2.setup :=
      (setup_discard _ s).trans (Keeps.view_bind _ hwritten s)
    rw [hnext]
    obtain h | ⟨now, hnow, h⟩ := view_traced hidesDiagnostics_setup
      (collecting (renderingArguments parser? includePath) source)
      (fun comments => some (Comment.briefList comments))
      (collectUntraced (parser?.getD .nodeStream) source includePath) s
    · exact Or.inl h
    · refine Or.inr ⟨now, hnow, h.trans ?_⟩
      rw [setup_collectUntraced, setup_discard]
  | _ => cases hcall

/-- A step that raises leaves the setup as it was, if what it calls does. -/
theorem Step.setup_next {step : Step} (hkeys : step.RegistersKeys)
    (hcalls : step.Calls fun _ => Keeps Session.setup) {s : Session} (h : step.Raises s) :
    (step.next s).setup = s.setup := by
  obtain ⟨f, h⟩ := h
  cases hspeaks : step.speaks with
  | true =>
    cases step with
    | hint id context arguments =>
      change (outcome (hintIn id context arguments) s).1 = _ at h
      change (outcome (hintIn id context arguments) s).2.setup = _
      obtain ⟨-, -, -, u, hcall⟩ | ⟨r, hcall⟩ := outcome_hintIn_cases id context arguments s
      · rw [hcall] at h
        cases h
      · rw [hcall]
    | _ => exact Step.keeps_of_speaks hidesDiagnostics_setup (fun _ _ => rfl) hspeaks rfl hcalls s
  | false =>
    cases step with
    | start verbosity specs destination =>
      exact congrArg (fun r => setup r.2) (outcome_startGiven_eq_error h)
    | register hints =>
      change (outcome (Session.register hints) s).1 = _ at h
      rw [outcome_register hkeys] at h
      cases h
    | listChannels => exact keeps_discard (Keeps.get.bind fun _ => Keeps.attempt _) s
    | install manager => cases h
    | clearHints => cases h
    | useChannels channels => cases h
    | answer destination policy => cases h
    | _ => cases hspeaks

/-! ### Runs -/

/-- Every one of some steps raises when it is come to. -/
def Step.AllRaise : List Step → Session → Prop
  | [], _ => True
  | step :: steps, s => step.Raises s ∧ AllRaise steps (step.next s)

instance decidableAllRaise : (steps : List Step) → (s : Session) → Decidable (Step.AllRaise steps s)
  | [], _ => isTrue trivial
  | step :: steps, s =>
    have := decidableAllRaise steps (step.next s)
    inferInstanceAs (Decidable (_ ∧ _))

/-- Steps that raise one after the other leave the setup as it was. -/
theorem Step.setup_run {steps : List Step} (hkeys : ∀ step ∈ steps, step.RegistersKeys)
    (hcalls : ∀ step ∈ steps, step.Calls fun _ => Keeps Session.setup) {s : Session}
    (h : AllRaise steps s) : (run steps s).setup = s.setup := by
  induction steps generalizing s with
  | nil => rfl
  | cons step steps ih =>
    obtain ⟨hstep, hrest⟩ := List.forall_mem_cons.mp hkeys
    obtain ⟨hcall, hcalls⟩ := List.forall_mem_cons.mp hcalls
    obtain ⟨hraises, hraise⟩ := h
    calc (run (step :: steps) s).setup
        = (step.next s).setup := ih hrest hcalls hraise
      _ = s.setup := setup_next hstep hcall hraises

end Session

end TargetHelp
