import TargetHelp.Proofs.Diagnostics.Agreement
import TargetHelp.Proofs.Json.Members
import TargetHelp.Settings

/-!
# Loading files of settings

A missing file holds no settings, and one that holds an object holds what the last member with each
key says. There is one warning, and no settings, where the text is no JSON or no object. Bytes that
are no text and texts that the reader gives up for their depth or their numbers are not warned
about: they break the loading off.
-/

set_option autoImplicit false
set_option relaxedAutoImplicit false

namespace TargetHelp.Settings

open Session

/-! ### Loading keeps sessions related -/

section Related

variable {R : Session → Session → Prop} (hwarns : Warns R)
include hwarns

theorem related_ofText (path t : Text) : Related R (ofText path t) (ofText path t) := by
  unfold ofText
  split
  · exact Related.pure _
  · exact (hwarns _ rfl).bind fun _ => Related.pure _
  · exact (hwarns _ rfl).bind fun _ => Related.pure _
  · exact Related.throw _

theorem related_load (system : Files.System) (path : Json) :
    Related R (load system path) (load system path) := by
  unfold load
  split
  · exact Related.pure _
  · exact Related.throw _
  · split
    · exact Related.throw _
    · exact related_ofText hwarns _ _

theorem related_loadGlobal (system : Files.System) (path : Json) :
    Related R (loadGlobal system path) (loadGlobal system path) :=
  related_load hwarns system _

theorem related_loadProject (system : Files.System) (start : Option Text) :
    Related R (loadProject system start) (loadProject system start) := by
  refine (Related.attempt _).bind fun path? => ?_
  cases path? with
  | none => exact Related.pure _
  | some path => exact (related_load hwarns system _).bind fun _ => Related.pure _

end Related

/-! ### What files hold -/

/-- There are no files of settings: no project file in the working directory or above it, and the
global file, or the one given in its place, is missing. -/
structure Absent (system : Files.System) (given : Json) : Prop where
  project : ∀ directory ∈ (Files.normalize system.workingDirectory []).ancestors,
    system.isFile (directory.child projectFileName).text = .ok false
  global : ∃ path?, system.open (if given.isGiven then given else .str (globalPath system)) =
    .error (.file .missing path?)

variable {system : Files.System} {given : Json}

theorem firstWithFile_eq_none {directories : List Files.Absolute}
    (h : ∀ directory ∈ directories,
      system.isFile (directory.child projectFileName).text = .ok false) :
    firstWithFile system directories = .ok none := by
  induction directories with
  | nil => rfl
  | cons directory directories ih =>
    obtain ⟨hdirectory, hrest⟩ := List.forall_mem_cons.mp h
    unfold firstWithFile
    dsimp only
    rw [hdirectory]
    exact ih hrest

/-- What the file of settings at a path holds: nothing if it is missing, and else an object. -/
inductive Holds (system : Files.System) (path : Json) : Fields Json → Prop
  | missing {path? : Option Text} (hopen : system.open path = .error (.file .missing path?)) :
      Holds system path []
  | stored {bytes : Bytes} {t : Text} {fields : Fields Json}
      (hopen : system.open path = .ok bytes) (hdecode : Utf8.decode bytes = .ok t)
      (hread : Json.read (Text.universalLineEnds t) = .ok (.obj fields)) :
      Holds system path fields

theorem Holds.load {path : Json} {fields : Fields Json} (h : Holds system path fields) :
    load system path = pure fields := by
  unfold Settings.load
  cases h with
  | missing hopen => rw [hopen]
  | stored hopen hdecode hread =>
    rw [hopen]
    dsimp only
    rw [hdecode]
    dsimp only
    rw [ofText, hread]

theorem Holds.outcome_load {path : Json} {fields : Fields Json} (h : Holds system path fields)
    (s : Session) : outcome (Settings.load system path) s = (.ok fields, s) := by
  rw [h.load]
  rfl

/-- What the project file holds, if there is one, with its path. -/
inductive HoldsProject (system : Files.System) : Fields Json → Option Text → Prop
  | absent (hfind : findProject system none = .ok none) : HoldsProject system [] none
  | found {path : Text} {fields : Fields Json}
      (hfind : findProject system none = .ok (some path)) (h : Holds system (.str path) fields) :
      HoldsProject system fields (some path)

theorem HoldsProject.loadProject {fields : Fields Json} {path? : Option Text}
    (h : HoldsProject system fields path?) : loadProject system none = pure (fields, path?) := by
  unfold Settings.loadProject
  cases h with
  | absent hfind =>
    rw [hfind]
    rfl
  | found hfind h =>
    rw [hfind]
    change (Settings.load system (.str _) >>= _) = _
    rw [h.load]
    rfl

theorem HoldsProject.outcome_loadProject {fields : Fields Json} {path? : Option Text}
    (h : HoldsProject system fields path?) (s : Session) :
    outcome (Settings.loadProject system none) s = (.ok (fields, path?), s) := by
  rw [h.loadProject]
  rfl

theorem Absent.holdsProject (h : Absent system given) : HoldsProject system [] none :=
  .absent (firstWithFile_eq_none h.project)

theorem Absent.holds (h : Absent system given) :
    Holds system (if given.isGiven then given else .str (globalPath system)) [] :=
  .missing h.global.choose_spec

/-! ### What content comes to -/

section Content

open Json

variable {d : Destination} {registry : Hint.Registry} {s : Session} {path : Json} {bytes : Bytes}
  {t : Text}

theorem outcome_load_of_decode (hopen : system.open path = .ok bytes)
    (hdecode : Utf8.decode bytes = .ok t) (s : Session) :
    outcome (load system path) s = outcome (ofText path.plain (Text.universalLineEnds t)) s := by
  unfold load
  rw [hopen]
  dsimp only
  rw [hdecode]

/-- A warning in place of settings. -/
theorem outcome_warning_nil (hs : s.Ready d registry) (message : Text) :
    ∃ after, outcome (warning message) s = (.ok (), after) ∧
      outcome (warning message >>= fun _ => pure ([] : Fields Json)) s = (.ok [], after) := by
  have hagree : Agree d registry (warning message) (pure ()) := agree_report _ _ _
  have hvalue : (outcome (warning message) s).1 = .ok () := (hagree hs.alike).1
  rcases hwarning : outcome (warning message) s with ⟨r, after⟩
  rw [hwarning] at hvalue
  obtain rfl : r = .ok () := hvalue
  exact ⟨after, rfl, by rw [outcome_bind, hwarning]; rfl⟩

theorem ofText_of_ne_obj {v : Json} (hread : read t = .ok v) (hv : ∀ fields, v ≠ .obj fields)
    (path : Text) : ofText path t = warning ("  [WARN] Ignoring config " ++ path ++
      ": not a JSON object") >>= fun _ => pure [] := by
  unfold ofText
  rw [hread]
  cases v with
  | obj fields => exact absurd rfl (hv fields)
  | _ => rfl

theorem ofText_of_invalid {error : SyntaxError} (hread : read t = .error (.invalid error))
    (path : Text) : ofText path t = warning ("  [WARN] Ignoring malformed config " ++ path ++
      ": " ++ error.message) >>= fun _ => pure [] := by
  unfold ofText
  rw [hread]

theorem ofText_of_limit {error : ReadError} (hread : read t = .error error)
    (hlimit : ∀ invalid, error ≠ .invalid invalid) (path : Text) :
    ofText path t = throw (.json error) := by
  unfold ofText
  rw [hread]
  cases error with
  | invalid error => exact absurd rfl (hlimit error)
  | _ => rfl

/-- What loading a file comes to, for every content: nothing for a missing file; the object that it
holds, in which the last member with a key counts; nothing, with one warning, for other JSON and for
what is no JSON. Bytes that are no UTF-8 and a text beyond the limits of the reader raise. -/
theorem load_content (hs : s.Ready d registry) (system : Files.System) (path : Json) :
    (∀ path?, system.open path = .error (.file .missing path?) →
      outcome (load system path) s = (.ok [], s)) ∧
    ∀ bytes, system.open path = .ok bytes →
      (∀ error, Utf8.decode bytes = .error error →
        outcome (load system path) s = (.error (.decoding error), s)) ∧
      ∀ t, Utf8.decode bytes = .ok t →
        (∀ fields, read (Text.universalLineEnds t) = .ok (.obj fields) →
          outcome (load system path) s = (.ok fields, s)) ∧
        (∀ v, read (Text.universalLineEnds t) = .ok v → (∀ fields, v ≠ .obj fields) →
          ∃ after, outcome (warning ("  [WARN] Ignoring config " ++ path.plain ++
              ": not a JSON object")) s = (.ok (), after) ∧
            outcome (load system path) s = (.ok [], after)) ∧
        (∀ error, read (Text.universalLineEnds t) = .error (.invalid error) →
          ∃ after, outcome (warning ("  [WARN] Ignoring malformed config " ++ path.plain ++ ": " ++
              error.message)) s = (.ok (), after) ∧
            outcome (load system path) s = (.ok [], after)) ∧
        (∀ error, read (Text.universalLineEnds t) = .error error →
          (∀ invalid, error ≠ .invalid invalid) →
          outcome (load system path) s = (.error (.json error), s)) ∧
        ∀ gap gap' members, Text.universalLineEnds t = objectText gap gap' members →
          members ≠ [] → (∀ c ∈ gap ++ gap', isSpace c = true) → (∀ m ∈ members, m.Reads) →
          (∃ container, outcome (load system path) s = (.error (.json (.tooDeep container)), s)) ∨
            ∃ fields, outcome (load system path) s = (.ok fields, s) ∧
              ∀ key, Fields.get? key fields = last? key (Member.entries members) := by
  refine ⟨fun path? hopen => by unfold load; rw [hopen]; rfl, fun bytes hopen =>
    ⟨fun error hdecode => by unfold load; rw [hopen]; dsimp only; rw [hdecode]; rfl,
      fun t hdecode => ?_⟩⟩
  have hload := outcome_load_of_decode hopen hdecode s
  have hobject {fields : Fields Json}
      (hread : read (Text.universalLineEnds t) = .ok (.obj fields)) :
      outcome (load system path) s = (.ok fields, s) :=
    (Holds.stored hopen hdecode hread).outcome_load s
  have hlimit {error : ReadError} (hread : read (Text.universalLineEnds t) = .error error)
      (hlimit : ∀ invalid, error ≠ .invalid invalid) :
      outcome (load system path) s = (.error (.json error), s) := by
    rw [hload, ofText_of_limit hread hlimit]
    rfl
  refine ⟨fun fields hread => hobject hread, fun v hread hv => ?_, fun error hread => ?_,
    fun error hread herror => hlimit hread herror, fun gap gap' members htext hne hgaps hm => ?_⟩
  · rw [hload, ofText_of_ne_obj hread hv]
    exact outcome_warning_nil hs _
  · rw [hload, ofText_of_invalid hread]
    exact outcome_warning_nil hs _
  · obtain ⟨hgap, hgap'⟩ := List.forall_mem_append.mp hgaps
    rcases read_objectText hne hgap hgap' hm with ⟨container, hdeep⟩ | ⟨fields, hread, hlast⟩
    · rw [← htext] at hdeep
      exact Or.inl ⟨container, hlimit hdeep fun invalid h => nomatch h⟩
    · rw [← htext] at hread
      exact Or.inr ⟨fields, hobject hread, hlast⟩

/-- A directory with one file. -/
def oneFile (bytes : Bytes) : Files.System := ⟨.directory [("c.json", .file bytes)], [], [], []⟩

/-- No file, an object in which a key stands twice, and a text that breaks off. -/
theorem load_content_repeated :
    let stored (t : Text) : Files.System := oneFile ((Utf8.encode t).toOption.getD [])
    outcome (load (stored []) (.str "/d.json")) {} = (.ok [], {}) ∧
      (∃ fields, outcome (load (stored "\x7b\x22a\x22: 1, \x22a\x22: [2]\x7d")
          (.str "/c.json")) {} = (.ok fields, {}) ∧
        Fields.get? "a" fields = some (.arr [.int 2])) ∧
      ∃ after, outcome (load (stored "[") (.str "/c.json")) {} = (.ok [], after) ∧
        after.errors.text = "  [WARN] Ignoring malformed config /c.json: Expecting value\n" := by
  intro stored
  refine ⟨(load_content ready_new (stored []) (.str "/d.json")).1 (some "/d.json") rfl, ?_, ?_⟩
  · let t : Text := "\x7b\x22a\x22: 1, \x22a\x22: [2]\x7d"
    let members : List Json.Member := [⟨[], "a\x22", "a", " 1", .int 1⟩,
      ⟨" ", "a\x22", "a", " [2]", .arr [.int 2]⟩]
    have hdecode : Utf8.decode ((Utf8.encode t).toOption.getD []) = .ok t := by decide +kernel
    have hreads : ∀ m ∈ members, m.Reads :=
      List.forall_mem_cons.mpr ⟨⟨List.forall_mem_nil _, rfl, rfl⟩,
        List.forall_mem_singleton.mpr ⟨List.forall_mem_singleton.mpr rfl, rfl, rfl⟩⟩
    obtain ⟨-, hcontent⟩ := load_content ready_new (stored t) (.str "/c.json")
    obtain ⟨hobject, -, -, -, hmembers⟩ := (hcontent _ rfl).2 t hdecode
    obtain ⟨container, hdeep⟩ | ⟨fields, hfields, hlast⟩ :=
      hmembers [] [] members rfl (List.cons_ne_nil _ _) (List.forall_mem_nil _) hreads
    · have hread := hobject _ (rfl : Json.read (Text.universalLineEnds t) =
        .ok (.obj [("a", .arr [.int 2])]))
      exact nomatch hdeep.symm.trans hread
    · exact ⟨fields, hfields, hlast "a"⟩
  · have hdecode : Utf8.decode ((Utf8.encode "[").toOption.getD []) = .ok "[" := by decide +kernel
    obtain ⟨-, hcontent⟩ := load_content ready_new (stored "[") (.str "/c.json")
    obtain ⟨-, -, hinvalid, -, -⟩ := (hcontent _ rfl).2 "[" hdecode
    obtain ⟨after, hwarning, hload⟩ := hinvalid .expectingValue rfl
    refine ⟨after, hload, ?_⟩
    have hafter := congrArg (fun r => r.2.errors.text) hwarning
    exact hafter.symm.trans (by decide +kernel)

/-- Bytes that are no UTF-8 break the loading off. -/
theorem load_not_utf8 : ∃ error,
    outcome (load (oneFile [0xff]) (.str "/c.json")) {} = (.error (.decoding error), {}) :=
  ⟨_, rfl⟩

end Content

end TargetHelp.Settings
