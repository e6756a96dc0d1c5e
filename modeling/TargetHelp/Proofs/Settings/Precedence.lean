import TargetHelp.Proofs.Settings.Loading
import Mathlib.Data.List.Basic

/-!
# Which layer decides

For every key that is asked for the first value that is not null decides: that of the command line,
then that of the project file, then that of the global file. In a file the spelling with underscores
comes first; where it says null, it hides what the spelling with dashes says, and the next layer
decides. How the keys are spelled that are asked for makes no difference.
-/

set_option autoImplicit false
set_option relaxedAutoImplicit false

namespace TargetHelp.Settings

open Session

variable {system : Files.System} {given : Json}

/-! ### Layers -/

/-- The values that the layers have for some keys, null where none has one. -/
def ofLayers (arguments project global resolved : Fields Json) (keys : List Text) : Fields Json :=
  keys.foldl (fun resolved key =>
    Fields.set (underscored key)
      (((value? arguments project global (underscored key)).map Prod.fst).getD .null) resolved)
    resolved

/-- The values that arguments have for some keys, null where they have none. -/
def ofArguments (arguments resolved : Fields Json) (keys : List Text) : Fields Json :=
  keys.foldl (fun resolved key =>
    Fields.set (underscored key) ((Fields.get? (underscored key) arguments).getD .null) resolved)
    resolved

/-- Without files the value of a key is that of the arguments. -/
theorem value?_nil (arguments : Fields Json) (key : Text) :
    ((value? arguments [] [] key).map Prod.fst).getD .null =
      (Fields.get? key arguments).getD .null := by
  unfold value?
  cases (Fields.get? key arguments).getD .null <;> rfl

theorem ofLayers_nil (arguments resolved : Fields Json) (keys : List Text) :
    ofLayers arguments [] [] resolved keys = ofArguments arguments resolved keys := by
  unfold ofLayers ofArguments
  simp only [value?_nil]

variable {R : Session → Session → Prop}

theorem related_resolveKeys (hR : HidesDetails R) (arguments project global : Fields Json)
    (keys : List Text) (resolved : Fields Json) :
    Related R (resolveKeys arguments project global resolved keys)
      (pure (ofLayers arguments project global resolved keys)) := by
  induction keys generalizing resolved with
  | nil => exact Related.pure _
  | cons key keys ih =>
    unfold resolveKeys ofLayers
    rw [List.foldl_cons]
    dsimp only
    cases value? arguments project global (underscored key) with
    | none => exact ih _
    | some found => exact Related.skip (hR.report _ _ _ (by decide)) (ih _)

/-- Where the files of settings hold objects, the layers decide. -/
theorem related_resolve (hR : HidesDetails R) {arguments project global : Fields Json}
    {path? : Option Text} (hproject : HoldsProject system project path?)
    (hglobal : Holds system
      (if ((Fields.get? "config" arguments).getD .null).isGiven then
        (Fields.get? "config" arguments).getD .null else .str (globalPath system)) global)
    (keys : List Text) :
    Related R (resolve system arguments keys none)
      (pure (ofLayers arguments project global [] keys)) := by
  unfold resolve loadGlobal
  rw [hproject.loadProject, hglobal.load, pure_bind]
  dsimp only
  rw [pure_bind]
  have hkeys := related_resolveKeys hR arguments project global keys []
  cases path? with
  | none => exact hkeys
  | some path => exact Related.skip (hR.report _ _ _ (by decide)) hkeys

/-- Where there are no files of settings, the command line alone decides. -/
theorem Absent.related_resolve (hR : HidesDetails R) {arguments : Fields Json}
    (h : Absent system ((Fields.get? "config" arguments).getD .null)) (keys : List Text) :
    Related R (resolve system arguments keys none) (pure (ofArguments arguments [] keys)) := by
  rw [← ofLayers_nil]
  exact Settings.related_resolve hR h.holdsProject h.holds keys

/-! ### The first value that is not null -/

/-- The first of some values that is not null; null if there is none. -/
def firstSet (values : List Json) : Json := (values.find? fun v => !isNull v).getD .null

theorem isNull_eq_true_iff {v : Json} : isNull v = true ↔ v = .null := by
  cases v <;> simp [isNull]

theorem firstSet_cons (v : Json) (values : List Json) :
    firstSet (v :: values) = if isNull v then firstSet values else v := by
  unfold firstSet
  rw [List.find?_cons]
  cases isNull v <;> rfl

theorem firstSet_singleton (v : Json) : firstSet [v] = v := by
  cases v <;> rfl

theorem firstSet_append (values others : List Json) :
    firstSet (values ++ others) =
      if isNull (firstSet values) then firstSet others else firstSet values := by
  induction values with
  | nil => rfl
  | cons v values ih =>
    rw [List.cons_append, firstSet_cons, firstSet_cons, ih]
    cases hv : isNull v with
    | true => rfl
    | false =>
      have hset : ¬ isNull v = true := by rw [hv]; exact Bool.false_ne_true
      exact (if_neg hset).symm

/-- Values may be looked through group by group. -/
theorem firstSet_flatten (groups : List (List Json)) :
    firstSet (groups.map firstSet) = firstSet groups.flatten := by
  induction groups with
  | nil => rfl
  | cons values groups ih =>
    rw [List.map_cons, List.flatten_cons, firstSet_cons, firstSet_append, ih]

/-- Only if all values are null there is none that is not. -/
theorem eq_null_of_firstSet {values : List Json} (h : firstSet values = .null) :
    ∀ v ∈ values, v = .null := by
  induction values with
  | nil => exact List.forall_mem_nil _
  | cons v values ih =>
    rw [firstSet_cons] at h
    cases hv : isNull v with
    | true =>
      rw [hv] at h
      exact List.forall_mem_cons.mpr ⟨isNull_eq_true_iff.mp hv, ih h⟩
    | false =>
      rw [hv] at h
      obtain rfl : v = .null := h
      cases hv

theorem firstValue?_eq (values : List (Json × Layer)) :
    ((firstValue? values).map Prod.fst).getD .null = firstSet (values.map Prod.fst) := by
  induction values with
  | nil => rfl
  | cons entry values ih =>
    obtain ⟨v, layer⟩ := entry
    rw [List.map_cons, firstSet_cons, firstValue?]
    cases isNull v with
    | true => exact ih
    | false => rfl

/-! ### Spellings -/

/-- What a file says about a key spelled with underscores, and then spelled with dashes. -/
def spellings (fields : Fields Json) (key : Text) : List Json :=
  [(Fields.get? key fields).getD .null, (Fields.get? (dashed key) fields).getD .null]

/-- The spelling with underscores is there and says null, the one with dashes something else. -/
def Masks (fields : Fields Json) (key : Text) : Prop :=
  Fields.get? key fields = some .null ∧
    isNull ((Fields.get? (dashed key) fields).getD .null) = false

/-- Where a file does not hide one spelling behind the other, it says the first thing that is not
null under either. -/
theorem fileValue_eq_firstSet {fields : Fields Json} {key : Text} (h : ¬ Masks fields key) :
    fileValue fields key = firstSet (spellings fields key) := by
  unfold fileValue spellings
  rw [firstSet_cons, firstSet_cons]
  cases hkey : Fields.get? key fields with
  | none =>
    cases hdashed : isNull ((Fields.get? (dashed key) fields).getD .null) with
    | true => exact isNull_eq_true_iff.mp hdashed
    | false => rfl
  | some v =>
    cases hv : isNull v with
    | false => exact (if_neg (by rw [Option.getD_some, hv]; exact Bool.false_ne_true)).symm
    | true =>
      obtain rfl := isNull_eq_true_iff.mp hv
      cases hdashed : isNull ((Fields.get? (dashed key) fields).getD .null) with
      | true => rfl
      | false => exact absurd ⟨hkey, hdashed⟩ h

/-! ### Resolving -/

theorem get?_ofLayers (arguments project global resolved : Fields Json) (keys : List Text)
    (key : Text) :
    (key ∈ keys.map underscored →
      Fields.get? key (ofLayers arguments project global resolved keys) =
        some (firstSet [(Fields.get? key arguments).getD .null, fileValue project key,
          fileValue global key])) ∧
    (key ∉ keys.map underscored →
      Fields.get? key (ofLayers arguments project global resolved keys) =
        Fields.get? key resolved) := by
  induction keys generalizing resolved with
  | nil => exact ⟨fun h => absurd h List.not_mem_nil, fun _ => rfl⟩
  | cons other keys ih =>
    unfold ofLayers at ih ⊢
    rw [List.foldl_cons, List.map_cons]
    obtain ⟨hmem, hnot⟩ := ih (Fields.set (underscored other)
      (((value? arguments project global (underscored other)).map Prod.fst).getD .null) resolved)
    by_cases hrest : key ∈ keys.map underscored
    · exact ⟨fun _ => hmem hrest, fun h => absurd (List.mem_cons_of_mem _ hrest) h⟩
    · rw [hnot hrest]
      constructor
      · intro h
        obtain rfl : key = underscored other := (List.mem_cons.mp h).resolve_right hrest
        rw [Fields.get?_set_self, value?, firstValue?_eq]
        rfl
      · intro h
        have hne : key ≠ underscored other := by
          rintro rfl
          exact h List.mem_cons_self
        exact Fields.get?_set_of_ne hne _ _

/-- Keys that are the same with underscores have the same values. -/
theorem resolveKeys_congr (arguments project global : Fields Json) {keys keys' : List Text}
    (h : keys'.map underscored = keys.map underscored) (resolved : Fields Json) :
    resolveKeys arguments project global resolved keys' =
      resolveKeys arguments project global resolved keys := by
  induction keys generalizing keys' resolved with
  | nil =>
    obtain rfl : keys' = [] := List.map_eq_nil_iff.mp h
    rfl
  | cons key keys ih =>
    cases keys' with
    | nil => cases h
    | cons key' keys' =>
      obtain ⟨hkey, hrest⟩ := List.cons.inj h
      unfold resolveKeys
      dsimp only
      rw [hkey]
      cases value? arguments project global (underscored key) with
      | none => exact ih hrest _
      | some found => exact congrArg (detail _ >>= ·) (funext fun _ => ih hrest _)

variable {d : Destination} {registry : Hint.Registry}

/-- Behind the files, the layers decide. -/
theorem resolve_eq_ok {s s₁ s₂ : Session} (hs : s.Ready d registry) {arguments : Fields Json}
    {start path? : Option Text} {project global : Fields Json}
    (hproject : outcome (loadProject system start) s = (.ok (project, path?), s₁))
    (hglobal : outcome (loadGlobal system ((Fields.get? "config" arguments).getD .null)) s₁ =
      (.ok global, s₂)) (keys : List Text) :
    (outcome (resolve system arguments keys start) s).1 =
      .ok (ofLayers arguments project global [] keys) := by
  have hwarns : Warns (Alike d registry) := reports_alike.warns
  have hs₁ : s₁.Ready d registry :=
    Agree.ready (related_loadProject hwarns system start) hs hproject
  have hs₂ : s₂.Ready d registry :=
    Agree.ready (related_loadGlobal hwarns system _) hs₁ hglobal
  have hdetails : HidesDetails (Alike d registry) := hidesDetails_alike
  have hkeys := related_resolveKeys hdetails arguments project global keys []
  unfold resolve
  rw [outcome_bind, hproject]
  dsimp only
  rw [outcome_bind, hglobal]
  cases path? with
  | none => exact (hkeys hs₂.alike).1
  | some path =>
    exact (Related.skip (hdetails.report _ _ _ (by decide)) hkeys hs₂.alike).1

/-- For every key that is asked for, however it is spelled, the first value that is not null
decides: that of the command line, then what the project file says, then what the global file says.
Where a file does not hide one spelling behind the other, both spellings count, and what the
project file says is never overruled by the global file; null is the value only if no layer has
another. Nothing is there beside the keys that are asked for. -/
theorem resolve_precedence {s s₁ s₂ : Session} (hs : s.Ready d registry) {arguments : Fields Json}
    {start path? : Option Text} {project global : Fields Json}
    (hproject : outcome (loadProject system start) s = (.ok (project, path?), s₁))
    (hglobal : outcome (loadGlobal system ((Fields.get? "config" arguments).getD .null)) s₁ =
      (.ok global, s₂)) (keys : List Text) :
    (∃ resolved, (outcome (resolve system arguments keys start) s).1 = .ok resolved ∧
      (∀ key ∈ keys.map underscored,
        let given := (Fields.get? key arguments).getD .null
        ∃ v, Fields.get? key resolved = some v ∧
          v = firstSet [given, fileValue project key, fileValue global key] ∧
          (¬ Masks project key → ¬ Masks global key →
            v = firstSet (given :: (spellings project key ++ spellings global key)) ∧
            (v = .null →
              ∀ w ∈ given :: (spellings project key ++ spellings global key), w = .null)) ∧
          (¬ Masks project key → firstSet (spellings project key) ≠ .null →
            v = firstSet (given :: spellings project key))) ∧
      ∀ key ∉ keys.map underscored, Fields.get? key resolved = none) ∧
    ∀ keys', keys'.map underscored = keys.map underscored →
      resolve system arguments keys' start = resolve system arguments keys start := by
  refine ⟨⟨_, resolve_eq_ok hs hproject hglobal keys, fun key hkey => ?_, fun key hkey => ?_⟩,
    fun keys' hkeys => ?_⟩
  · dsimp only
    rw [(get?_ofLayers _ _ _ _ _ _).1 hkey]
    refine ⟨_, rfl, rfl, fun hp hg => ?_, fun hp hset => ?_⟩
    · have hall := firstSet_flatten [[(Fields.get? key arguments).getD .null],
        spellings project key, spellings global key]
      rw [List.map_cons, List.map_cons, List.map_cons, List.map_nil, firstSet_singleton,
        ← fileValue_eq_firstSet hp, ← fileValue_eq_firstSet hg] at hall
      exact ⟨hall, fun hnull => eq_null_of_firstSet (hall.symm.trans hnull)⟩
    · rw [firstSet_cons, firstSet_cons, firstSet_cons, fileValue_eq_firstSet hp]
      rw [if_neg fun hnull => hset (isNull_eq_true_iff.mp hnull)]
      exact (firstSet_cons _ _).symm
  · exact (get?_ofLayers _ _ _ _ _ _).2 hkey
  · unfold resolve
    refine congrArg (loadProject system start >>= ·) (funext fun found => ?_)
    refine congrArg (loadGlobal system _ >>= ·) (funext fun global => ?_)
    rw [resolveKeys_congr arguments found.1 global hkeys]

/-- A project file and a global file with these texts. -/
def layered (project global : Text) : Files.System :=
  let file (t : Text) : Files.Entry := .file ((Utf8.encode t).toOption.getD [])
  ⟨.directory [(".mmhelp.json", file project),
    (".mmhelp", .directory [("config.json", file global)])], [], [], []⟩

/-- What the project file says where its text and that of the global file are objects, and what the
global file says. -/
theorem holds_layered {project global : Text} (fields others : Fields Json)
    (hdecode : Utf8.decode ((Utf8.encode project).toOption.getD []) = .ok project ∧
      Utf8.decode ((Utf8.encode global).toOption.getD []) = .ok global)
    (hproject : Json.read (Text.universalLineEnds project) = .ok (.obj fields))
    (hglobal : Json.read (Text.universalLineEnds global) = .ok (.obj others)) (s : Session) :
    outcome (loadProject (layered project global) none) s =
        (.ok (fields, some "/.mmhelp.json"), s) ∧
      outcome (loadGlobal (layered project global)
        ((Fields.get? "config" ([] : Fields Json)).getD .null)) s = (.ok others, s) := by
  have hnear : HoldsProject (layered project global) fields (some "/.mmhelp.json") :=
    .found rfl (.stored rfl hdecode.1 hproject)
  have hfar : Holds (layered project global) (.str (globalPath (layered project global))) others :=
    .stored rfl hdecode.2 hglobal
  exact ⟨hnear.outcome_loadProject s, hfar.outcome_load s⟩

/-- The project file decides by its spelling with dashes, and a null there leaves the key to the
global file. -/
theorem resolve_precedence_dashed :
    let system := layered "\x7b\x22include-dir\x22: \x22/p\x22, \x22parser\x22: null\x7d"
      "\x7b\x22include_dir\x22: \x22/g\x22, \x22parser\x22: \x22a:b\x22\x7d"
    ∃ resolved, (outcome (resolve system [] ["include-dir", "parser"] none) {}).1 = .ok resolved ∧
      Fields.get? "include_dir" resolved = some (.str "/p") ∧
      Fields.get? "parser" resolved = some (.str "a:b") ∧
      resolve system [] ["include_dir", "parser"] none =
        resolve system [] ["include-dir", "parser"] none := by
  intro system
  let project : Fields Json := [("include-dir", .str "/p"), ("parser", .null)]
  let global : Fields Json := [("include_dir", .str "/g"), ("parser", .str "a:b")]
  obtain ⟨hproject, hglobal⟩ : outcome (loadProject system none) {} =
        (.ok (project, some "/.mmhelp.json"), {}) ∧ outcome (loadGlobal system _) {} = _ :=
    holds_layered project global (by decide +kernel) rfl rfl {}
  obtain ⟨⟨resolved, hresolved, hvalues, -⟩, hspelled⟩ :=
    resolve_precedence ready_new hproject hglobal ["include-dir", "parser"]
  obtain ⟨v, hv, -, hboth, -⟩ := hvalues "include_dir" (by decide)
  obtain ⟨w, hw, hfirst, -, -⟩ := hvalues "parser" (by decide)
  have hplain : ¬ Masks project "include_dir" := fun h => nomatch h.1
  have hplain' : ¬ Masks global "include_dir" := fun h => nomatch h.1
  rw [(hboth hplain hplain').1] at hv
  rw [hfirst] at hw
  have hsame := hspelled ["include_dir", "parser"] (by decide)
  exact ⟨resolved, hresolved, hv, hw, hsame⟩

/-- A null under the spelling with underscores hides what the project file says under the one with
dashes, so that the global file decides. -/
theorem resolve_masked :
    let system := layered "\x7b\x22include_dir\x22: null, \x22include-dir\x22: \x22/p\x22\x7d"
      "\x7b\x22include_dir\x22: \x22/g\x22\x7d"
    let project : Fields Json := [("include_dir", .null), ("include-dir", .str "/p")]
    outcome (loadProject system none) {} = (.ok (project, some "/.mmhelp.json"), {}) ∧
      firstSet (spellings project "include_dir") = .str "/p" ∧
      (outcome (resolve system [] ["include_dir"] none) {}).1 =
        .ok [("include_dir", .str "/g")] := by
  intro system project
  let global : Fields Json := [("include_dir", .str "/g")]
  obtain ⟨hproject, hglobal⟩ : outcome (loadProject system none) {} =
        (.ok (project, some "/.mmhelp.json"), {}) ∧ outcome (loadGlobal system _) {} = _ :=
    holds_layered project global (by decide +kernel) rfl rfl {}
  exact ⟨hproject, rfl, resolve_eq_ok ready_new hproject hglobal ["include_dir"]⟩

end TargetHelp.Settings
