import TargetHelp.Files.Tree
import TargetHelp.Proofs.Text.Pieces

/-!
# The names on a path

A path that was made absolute consists of names of entries: none is empty, `.` or `..`, and none
holds a slash. So its text is split into these names again, and the text gets longer with every
name. The bytes of a path are those of its names and one for each slash.
-/

set_option autoImplicit false
set_option relaxedAutoImplicit false

namespace TargetHelp.Files

/-! ### Code points of paths -/

/-- A code point that can stand in a path: no zero, and no surrogate but for those that are there
in place of a byte. -/
def IsPathPoint (c : CodePoint) : Prop :=
  (c.IsSurrogate → isByteSurrogate c = true) ∧ c ≠ CodePoint.ofChar '\x00'

theorem unencodable?_eq_none_iff (start : Nat) (t : Text) :
    unencodable? start t = none ↔ ∀ c ∈ t, c.IsSurrogate → isByteSurrogate c = true := by
  induction t generalizing start with
  | nil => simp [unencodable?]
  | cons c t ih =>
    rw [unencodable?, List.forall_mem_cons, ← ih (start + 1)]
    by_cases hc : c.IsSurrogate ∧ (!isByteSurrogate c) = true
    · rw [if_pos hc]
      refine iff_of_false (Option.some_ne_none _) fun h => ?_
      simp [h.1 hc.1] at hc
    · have hgood : c.IsSurrogate → isByteSurrogate c = true := by simpa using hc
      rw [if_neg hc, and_iff_right hgood]

theorem pathFault?_eq_none_iff (t : Text) : pathFault? t = none ↔ ∀ c ∈ t, IsPathPoint c := by
  unfold pathFault?
  cases herror : unencodable? 0 t with
  | some error =>
    have hbad : ¬ ∀ c ∈ t, c.IsSurrogate → isByteSurrogate c = true := by
      rw [← unencodable?_eq_none_iff 0, herror]
      exact Option.some_ne_none error
    simp only [reduceCtorEq, false_iff]
    exact fun h => hbad fun c hc => (h c hc).1
  | none =>
    have hgood := (unencodable?_eq_none_iff 0 t).mp herror
    by_cases hzero : t.contains (CodePoint.ofChar '\x00') = true
    · dsimp only
      rw [if_pos hzero]
      simp only [reduceCtorEq, false_iff]
      exact fun h => (h _ (List.contains_iff_mem.mp hzero)).2 rfl
    · dsimp only
      rw [if_neg hzero]
      refine iff_of_true rfl fun c hc => ⟨hgood c hc, ?_⟩
      rintro rfl
      exact hzero (List.contains_iff_mem.mpr hc)

/-! ### Names of entries -/

/-- A text that is the name of an entry wherever it stands on a path. -/
structure IsName (name : Text) : Prop where
  ne_nil : name ≠ []
  ne_here : name ≠ "."
  ne_up : name ≠ ".."
  notMem_slash : slash ∉ name
  pathFault : pathFault? name = none

instance (name : Text) : Decidable (IsName name) :=
  decidable_of_iff
    (name ≠ [] ∧ name ≠ "." ∧ name ≠ ".." ∧ slash ∉ name ∧ pathFault? name = none)
    ⟨fun ⟨hnil, hhere, hup, hslash, hfault⟩ => ⟨hnil, hhere, hup, hslash, hfault⟩,
      fun ⟨hnil, hhere, hup, hslash, hfault⟩ => ⟨hnil, hhere, hup, hslash, hfault⟩⟩

namespace Absolute

theorem step_eq_of_isName {name : Text} (h : IsName name) (names : List Text) :
    step names name = names ++ [name] := by
  have hstays : ¬ (name.isEmpty ∨ name = ".") := by
    simp [h.ne_nil, h.ne_here]
  rw [step, if_neg hstays, if_neg h.ne_up]

theorem foldl_step_of_isName {more : List Text} (h : ∀ name ∈ more, IsName name)
    (names : List Text) : more.foldl step names = names ++ more := by
  induction more generalizing names with
  | nil => exact (List.append_nil names).symm
  | cons name more ih =>
    obtain ⟨hname, hmore⟩ := List.forall_mem_cons.mp h
    rw [List.foldl_cons, step_eq_of_isName hname, ih hmore, List.append_assoc,
      List.singleton_append]

/-- One more piece of a path leaves names of entries. -/
theorem isName_of_mem_step {names : List Text} {piece : Text}
    (hnames : ∀ name ∈ names, IsName name) (hslash : slash ∉ piece)
    (hfault : pathFault? piece = none) : ∀ name ∈ step names piece, IsName name := by
  unfold step
  by_cases hstays : piece.isEmpty ∨ piece = "."
  · rw [if_pos hstays]
    exact hnames
  · rw [if_neg hstays]
    obtain ⟨hnil, hhere⟩ := not_or.mp hstays
    by_cases hup : piece = ".."
    · rw [if_pos hup]
      exact fun name hname => hnames name ((List.dropLast_sublist names).subset hname)
    · rw [if_neg hup]
      refine List.forall_mem_append.mpr ⟨hnames, List.forall_mem_singleton.mpr ?_⟩
      exact ⟨fun h => hnil (List.isEmpty_iff.mpr h), hhere, hup, hslash, hfault⟩

theorem isName_of_mem_foldl_step {pieces names : List Text}
    (hnames : ∀ name ∈ names, IsName name)
    (hpieces : ∀ piece ∈ pieces, slash ∉ piece ∧ pathFault? piece = none) :
    ∀ name ∈ pieces.foldl step names, IsName name := by
  induction pieces generalizing names with
  | nil => exact hnames
  | cons piece pieces ih =>
    obtain ⟨⟨hslash, hfault⟩, hrest⟩ := List.forall_mem_cons.mp hpieces
    exact ih (isName_of_mem_step hnames hslash hfault) hrest

/-! ### The text of a path -/

/-- The path of some names is made of them, each with a slash before it. -/
theorem text_eq_flatMap {path : Absolute} (h : path.names ≠ []) :
    path.text = path.names.flatMap fun name => slash :: name := by
  obtain ⟨names⟩ := path
  unfold text
  induction names with
  | nil => exact absurd rfl h
  | cons name names ih =>
    by_cases hlast : names = []
    · subst hlast
      simp [Text.join]
    · rw [Text.join_cons hlast, List.flatMap_cons, ← ih hlast]
      simp

theorem names_text {path : Absolute} (hne : path.names ≠ [])
    (h : ∀ name ∈ path.names, slash ∉ name) : Files.names path.text = [] :: path.names := by
  unfold Files.names text
  rw [Text.splitAll_cons_sep, Text.splitAll_join hne h]

theorem pathFault?_text {path : Absolute} (hne : path.names ≠ [])
    (h : ∀ name ∈ path.names, IsName name) : pathFault? path.text = none := by
  rw [text_eq_flatMap hne, pathFault?_eq_none_iff]
  intro c hc
  obtain ⟨name, hname, hc⟩ := List.mem_flatMap.mp hc
  rcases List.mem_cons.mp hc with rfl | hc
  · exact ⟨by decide, by decide⟩
  · exact (pathFault?_eq_none_iff name).mp (h name hname).pathFault c hc

end Absolute

/-- Every name of a path that was made absolute is that of an entry. -/
theorem isName_of_mem_normalize {workingDirectory : List Text} {path : Text}
    (hnames : ∀ name ∈ workingDirectory, IsName name) (hfault : pathFault? path = none) :
    ∀ name ∈ (normalize workingDirectory path).names, IsName name := by
  refine Absolute.isName_of_mem_foldl_step ?_ fun piece hpiece =>
    ⟨Text.notMem_of_mem_splitAll hpiece, ?_⟩
  · by_cases habsolute : isAbsolute path = true
    · simp [habsolute]
    · simpa [habsolute] using hnames
  · rw [pathFault?_eq_none_iff] at hfault ⊢
    exact fun c hc => hfault c (Text.mem_of_mem_splitAll hpiece hc)

/-! ### Bytes of a path -/

theorem byteLength_append (s t : Text) : byteLength (s ++ t) = byteLength s + byteLength t := by
  simp only [byteLength, ← List.sum_eq_foldl, List.map_append, List.sum_append]

/-- An entry of a directory has no longer path than the entry of that name further down. -/
theorem Absolute.byteLength_child_le {directory other : Absolute}
    (h : other.names <+: directory.names) (name : Text) :
    byteLength (other.child name).text ≤ byteLength (directory.child name).text := by
  obtain ⟨rest, hrest⟩ := h
  have hne (path : Absolute) : (path.child name).names ≠ [] :=
    List.append_ne_nil_of_right_ne_nil _ (List.cons_ne_nil _ _)
  rw [text_eq_flatMap (hne other), text_eq_flatMap (hne directory)]
  simp only [child, ← hrest, List.flatMap_append, byteLength_append]
  omega

end TargetHelp.Files
