import TargetHelp.Files.Open
import TargetHelp.Proofs.Files.Names

/-!
# Entries at a path

A walk through a tree goes up and down by the entries it passes, while `normalize` computes on
names alone. The two agree: where a walk ends is where the names of the path made absolute lead
from the root (`locate_at`). A path of the latter kind is followed by its names only, and the system
has three answers: the entry there, none, or that a name or the whole path is too long.
-/

set_option autoImplicit false
set_option relaxedAutoImplicit false

namespace TargetHelp.Files

/-! ### Names that lead from an entry -/

namespace Entry

/-- The entry with a name in a directory. -/
def member? (name : Text) : Entry → Option Entry
  | .file _ => none
  | .directory entries => Fields.get? name entries

/-- The entry that names lead to, one below the other. -/
def at? (entry : Entry) : List Text → Option Entry
  | [] => some entry
  | name :: names => (entry.member? name).bind fun inner => inner.at? names

theorem at?_append (entry : Entry) (names more : List Text) :
    entry.at? (names ++ more) = (entry.at? names).bind fun inner => inner.at? more := by
  induction names generalizing entry with
  | nil => rfl
  | cons name names ih =>
    simp only [List.cons_append, at?]
    cases entry.member? name with
    | none => rfl
    | some inner => exact ih inner

/-- On the way along names a directory is asked for a name that is too long for an entry. -/
inductive MeetsLong : Entry → List Text → Prop
  | first {entries : List (Text × Entry)} {name : Text} {names : List Text}
      (h : maxNameLength < byteLength name) : MeetsLong (.directory entries) (name :: names)
  | later {entry inner : Entry} {name : Text} {names : List Text}
      (hinner : entry.member? name = some inner) (h : MeetsLong inner names) :
      MeetsLong entry (name :: names)

theorem MeetsLong.exists_long {entry : Entry} {names : List Text} (h : MeetsLong entry names) :
    ∃ name ∈ names, maxNameLength < byteLength name := by
  induction h with
  | first h => exact ⟨_, List.mem_cons_self, h⟩
  | later _ _ ih =>
    obtain ⟨name, hname, hlong⟩ := ih
    exact ⟨name, List.mem_cons_of_mem _ hname, hlong⟩

theorem MeetsLong.append {entry : Entry} {names : List Text} (h : MeetsLong entry names)
    (more : List Text) : MeetsLong entry (names ++ more) := by
  induction h with
  | first h => exact .first h
  | later hinner _ ih => exact .later hinner ih

/-- A last name that is short enough is not the one that is met. -/
theorem MeetsLong.of_concat {entry : Entry} {names : List Text} {name : Text}
    (hshort : byteLength name ≤ maxNameLength) (h : MeetsLong entry (names ++ [name])) :
    MeetsLong entry names := by
  induction names generalizing entry with
  | nil =>
    obtain ⟨long, hmem, hlong⟩ := h.exists_long
    obtain rfl := List.mem_singleton.mp hmem
    exact absurd hlong (Nat.not_lt.mpr hshort)
  | cons first names ih =>
    cases h with
    | first hlong => exact .first hlong
    | later hinner h => exact .later hinner (ih h)

/-- Where the first name is that of an entry, a name that is too long comes after it. -/
theorem meetsLong_cons_iff {entry inner : Entry} {name : Text} {names : List Text}
    (hshort : ¬ maxNameLength < byteLength name) (hinner : entry.member? name = some inner) :
    entry.MeetsLong (name :: names) ↔ inner.MeetsLong names := by
  refine ⟨fun h => ?_, .later hinner⟩
  cases h with
  | first hlong => exact absurd hlong hshort
  | later hother h =>
    obtain rfl := Option.some.inj (hinner.symm.trans hother)
    exact h

/-- Where no entry has the first name, and it is short enough, no name is met that is too long. -/
theorem not_meetsLong_cons {entry : Entry} {name : Text} {names : List Text}
    (hshort : ¬ maxNameLength < byteLength name) (hinner : entry.member? name = none) :
    ¬ entry.MeetsLong (name :: names) := by
  intro h
  cases h with
  | first hlong => exact hshort hlong
  | later hother _ => exact nomatch hinner.symm.trans hother

end Entry

/-! ### Places of a walk -/

namespace Place

/-- A place is at some names from the root, with the directories that they pass above it. -/
inductive At (root : Entry) : List Text → Place → Prop
  | root : At root [] ⟨root, []⟩
  | child {names : List Text} {place : Place} {name : Text} {entry : Entry}
      (h : At root names place) (hentry : place.entry.member? name = some entry) :
      At root (names ++ [name]) ⟨entry, place.entry :: place.above⟩

variable {root : Entry} {names : List Text} {place next : Place} {name : Text}

theorem At.at?_eq (h : At root names place) : root.at? names = some place.entry := by
  induction h with
  | root => rfl
  | child _ hentry ih => rw [Entry.at?_append, ih, Option.bind_some, Entry.at?, hentry]; rfl

theorem At.parent (h : At root names place) : At root names.dropLast place.parent := by
  cases h with
  | root => exact .root
  | child h _ => rw [List.dropLast_concat]; exact h

/-- What a step of a walk does where it is not refused. -/
theorem step_cases (h : place.step name = .ok next) :
    (name.isEmpty ∨ name = ".") ∧ next = place ∨
    (¬ (name.isEmpty ∨ name = ".") ∧ name = "..") ∧ next = place.parent ∨
    (¬ (name.isEmpty ∨ name = ".") ∧ name ≠ "..") ∧ ∃ entry,
      place.entry.member? name = some entry ∧ next = ⟨entry, place.entry :: place.above⟩ := by
  obtain ⟨entry, above⟩ := place
  cases entry with
  | file content => exact nomatch h
  | directory entries =>
    unfold step at h
    dsimp only at h
    by_cases hstays : name.isEmpty ∨ name = "."
    · rw [if_pos hstays] at h
      exact .inl ⟨hstays, (Except.ok.inj h).symm⟩
    rw [if_neg hstays] at h
    by_cases hup : name = ".."
    · rw [if_pos hup] at h
      exact .inr (.inl ⟨⟨hstays, hup⟩, (Except.ok.inj h).symm⟩)
    rw [if_neg hup] at h
    by_cases hlong : maxNameLength < byteLength name
    · rw [if_pos hlong] at h
      exact nomatch h
    rw [if_neg hlong] at h
    cases hentry : Fields.get? name entries with
    | none =>
      rw [hentry] at h
      exact nomatch h
    | some entry =>
      rw [hentry] at h
      exact .inr (.inr ⟨⟨hstays, hup⟩, entry, hentry, (Except.ok.inj h).symm⟩)

/-- A step through the tree is the step on names. -/
theorem At.step (h : At root names place) (hstep : place.step name = .ok next) :
    At root (Absolute.step names name) next := by
  unfold Absolute.step
  rcases step_cases hstep with
    ⟨hstays, rfl⟩ | ⟨⟨hstays, hup⟩, rfl⟩ | ⟨⟨hstays, hup⟩, entry, hentry, rfl⟩
  · rw [if_pos hstays]
    exact h
  · rw [if_neg hstays, if_pos hup]
    exact h.parent
  · rw [if_neg hstays, if_neg hup]
    exact .child h hentry

/-- A walk through the tree is the walk on names. -/
theorem At.follow {pieces : List Text} (h : At root names place)
    (hfollow : place.follow pieces = .ok next) :
    At root (pieces.foldl Absolute.step names) next := by
  induction pieces generalizing names place with
  | nil =>
    obtain rfl := Except.ok.inj hfollow
    exact h
  | cons piece pieces ih =>
    rw [Place.follow, List.foldlM_cons] at hfollow
    cases hstep : place.step piece with
    | error problem =>
      rw [hstep] at hfollow
      exact nomatch hfollow
    | ok middle =>
      rw [hstep] at hfollow
      exact ih (h.step hstep) hfollow

end Place

/-- Where following a path ends is where its names lead once it was made absolute. -/
theorem System.locate_at {system : System}
    (hnames : ∀ name ∈ system.workingDirectory, IsName name) {path : Text} {place : Place}
    (h : system.locate path = .ok place) :
    Place.At system.root (normalize system.workingDirectory path).names place := by
  unfold locate at h
  dsimp only at h
  by_cases hempty : path.isEmpty = true
  · rw [if_pos hempty] at h
    exact nomatch h
  rw [if_neg hempty] at h
  by_cases hlong : maxPathLength < byteLength path
  · rw [if_pos hlong] at h
    exact nomatch h
  rw [if_neg hlong] at h
  by_cases habsolute : isAbsolute path = true
  · rw [if_pos habsolute] at h
    simp only [normalize, habsolute, if_true]
    exact Place.At.root.follow h
  · rw [if_neg habsolute] at h
    cases hstart : Place.follow ⟨system.root, []⟩ system.workingDirectory with
    | error problem =>
      rw [hstart] at h
      exact nomatch h
    | ok start =>
      rw [hstart] at h
      have hat := Place.At.root.follow hstart
      rw [Absolute.foldl_step_of_isName hnames, List.nil_append] at hat
      simp only [normalize, habsolute]
      exact hat.follow h

/-! ### Names of entries followed -/

/-- A step to the name of an entry. -/
theorem Place.step_of_isName {name : Text} (h : IsName name) (entries : List (Text × Entry))
    (above : List Entry) :
    Place.step ⟨.directory entries, above⟩ name =
      if maxNameLength < byteLength name then .error .nameTooLong
      else (Fields.get? name entries).elim (.error .missing) fun entry =>
        .ok ⟨entry, .directory entries :: above⟩ := by
  have hstays : ¬ (name.isEmpty ∨ name = ".") := by
    simp [h.ne_nil, h.ne_here]
  unfold step
  dsimp only
  rw [if_neg hstays, if_neg h.ne_up]
  cases Fields.get? name entries <;> rfl

/-- What comes of following names of entries: the entry there; a name that is too long; or another
problem, and there is no entry. -/
theorem Place.follow_of_isName {names : List Text} (h : ∀ name ∈ names, IsName name)
    (place : Place) :
    (∃ next, place.follow names = .ok next ∧ place.entry.at? names = some next.entry ∧
      ¬ place.entry.MeetsLong names) ∨
    (place.follow names = .error .nameTooLong ∧ place.entry.MeetsLong names) ∨
    (∃ problem, place.follow names = .error problem ∧ problem ≠ .nameTooLong ∧
      place.entry.at? names = none ∧ ¬ place.entry.MeetsLong names) := by
  induction names generalizing place with
  | nil =>
    refine .inl ⟨place, rfl, rfl, fun hlong => ?_⟩
    obtain ⟨name, hname, -⟩ := hlong.exists_long
    exact List.not_mem_nil hname
  | cons name names ih =>
    obtain ⟨hname, hnames⟩ := List.forall_mem_cons.mp h
    obtain ⟨entry, above⟩ := place
    have hfollow : Place.follow ⟨entry, above⟩ (name :: names) =
        Place.step ⟨entry, above⟩ name >>= fun next => next.follow names := List.foldlM_cons ..
    cases entry with
    | file content =>
      refine .inr (.inr ⟨.notDirectory, rfl, by decide, rfl, fun hlong => ?_⟩)
      cases hlong with
      | later hinner _ => exact nomatch hinner
    | directory entries =>
      rw [hfollow, Place.step_of_isName hname]
      by_cases hlong : maxNameLength < byteLength name
      · rw [if_pos hlong]
        exact .inr (.inl ⟨rfl, .first hlong⟩)
      rw [if_neg hlong]
      cases hentry : Fields.get? name entries with
      | none =>
        have hmember : (Entry.directory entries).member? name = none := hentry
        have hat : (Entry.directory entries).at? (name :: names) = none := by
          rw [Entry.at?, hmember]
          rfl
        exact .inr (.inr ⟨.missing, rfl, by decide, hat, Entry.not_meetsLong_cons hlong hmember⟩)
      | some inner =>
        have hmember : (Entry.directory entries).member? name = some inner := hentry
        have hat : (Entry.directory entries).at? (name :: names) = inner.at? names := by
          rw [Entry.at?, hmember]
          rfl
        rw [hat, Entry.meetsLong_cons_iff hlong hmember]
        exact ih hnames ⟨inner, _⟩

/-! ### Files at a path -/

namespace System

variable {system : System} {path : Absolute}

/-- The system refuses a path as too long, as a whole or for one of its names. -/
def Refuses (system : System) (path : Absolute) : Prop :=
  maxPathLength < byteLength path.text ∨ system.root.MeetsLong path.names

theorem not_refuses_of_short (hpath : byteLength path.text ≤ maxPathLength)
    (hnames : ∀ name ∈ path.names, byteLength name ≤ maxNameLength) : ¬ system.Refuses path := by
  rintro (hlong | hmeets)
  · exact Nat.not_lt.mpr hpath hlong
  · obtain ⟨name, hname, hlong⟩ := hmeets.exists_long
    exact Nat.not_lt.mpr (hnames name hname) hlong

/-- Locating a path that was made absolute is following its names from the root. -/
theorem locate_text (hne : path.names ≠ []) (h : ∀ name ∈ path.names, IsName name)
    (hshort : ¬ maxPathLength < byteLength path.text) :
    system.locate path.text = Place.follow ⟨system.root, []⟩ path.names := by
  have hgiven : ¬ path.text.isEmpty = true := Bool.false_ne_true
  have habsolute : isAbsolute path.text = true := rfl
  unfold locate
  dsimp only
  rw [if_neg hgiven, if_neg hshort, if_pos habsolute,
    Absolute.names_text hne fun name hname => (h name hname).notMem_slash]
  obtain ⟨name, names, hcons⟩ := List.exists_cons_of_ne_nil hne
  -- The empty piece before the first slash stays at the root, unless the root is no directory.
  cases system.root with
  | file content => rw [hcons]; rfl
  | directory entries => rfl

/-- What comes of locating a path that was made absolute: it is refused; there is the entry that
its names lead to; or there is none. -/
theorem locate_text_cases (hne : path.names ≠ []) (h : ∀ name ∈ path.names, IsName name) :
    (system.locate path.text = .error .nameTooLong ∧ system.Refuses path) ∨
    (∃ place, system.locate path.text = .ok place ∧
      system.root.at? path.names = some place.entry ∧ ¬ system.Refuses path) ∨
    (∃ problem, system.locate path.text = .error problem ∧ problem ≠ .nameTooLong ∧
      system.root.at? path.names = none ∧ ¬ system.Refuses path) := by
  by_cases hlong : maxPathLength < byteLength path.text
  · have hgiven : ¬ path.text.isEmpty = true := Bool.false_ne_true
    have hlocate : system.locate path.text = .error .nameTooLong := by
      unfold locate
      dsimp only
      rw [if_neg hgiven, if_pos hlong]
    exact .inl ⟨hlocate, .inl hlong⟩
  · have hrefuses : system.Refuses path ↔ system.root.MeetsLong path.names := or_iff_right hlong
    rw [locate_text hne h hlong, hrefuses]
    rcases Place.follow_of_isName h ⟨system.root, []⟩ with hfound | hmeets | hnone
    · exact .inr (.inl hfound)
    · exact .inl hmeets
    · exact .inr (.inr hnone)

theorem isFile_of_refuses (hne : path.names ≠ []) (h : ∀ name ∈ path.names, IsName name)
    (hrefuses : system.Refuses path) : system.isFile path.text = .error .nameTooLong := by
  unfold isFile
  rcases locate_text_cases hne h with
    ⟨hlocate, _⟩ | ⟨_, _, _, hnot⟩ | ⟨_, _, _, _, hnot⟩
  · rw [hlocate]
  · exact absurd hrefuses hnot
  · exact absurd hrefuses hnot

/-- A path that is not refused is that of a file or not as the names lead to a file or not. -/
theorem isFile_of_not_refuses (hne : path.names ≠ []) (h : ∀ name ∈ path.names, IsName name)
    (hrefuses : ¬ system.Refuses path) :
    (∃ content, system.root.at? path.names = some (.file content) ∧
      system.isFile path.text = .ok true ∧ system.read path.text = .ok content) ∨
    ((∀ content, system.root.at? path.names ≠ some (.file content)) ∧
      system.isFile path.text = .ok false) := by
  unfold isFile read
  rcases locate_text_cases hne h with
    ⟨_, hlong⟩ | ⟨⟨entry, above⟩, hlocate, hat, _⟩ | ⟨problem, hlocate, hproblem, hat, _⟩
  · exact absurd hlong hrefuses
  · rw [hlocate, hat]
    cases entry with
    | file content => exact .inl ⟨content, rfl, rfl, rfl⟩
    | directory entries => exact .inr ⟨fun content hfile => (nomatch hfile), rfl⟩
  · rw [hlocate, hat]
    refine .inr ⟨fun content hfile => (nomatch hfile), ?_⟩
    cases problem with
    | nameTooLong => exact absurd rfl hproblem
    | _ => rfl

/-- A file that is looked for in a directory and further up is refused in the directory if it is
refused anywhere: no path further up is longer, and none has other names but the last. -/
theorem Refuses.of_above {directory other : Absolute} (habove : other.names <+: directory.names)
    {name : Text} (hshort : byteLength name ≤ maxNameLength)
    (h : system.Refuses (other.child name)) : system.Refuses (directory.child name) := by
  rcases h with hlong | hmeets
  · exact .inl (Nat.lt_of_lt_of_le hlong (Absolute.byteLength_child_le habove name))
  · obtain ⟨rest, hrest⟩ := habove
    refine .inr ?_
    change system.root.MeetsLong (directory.names ++ [name])
    rw [← hrest, List.append_assoc]
    exact (Entry.MeetsLong.of_concat hshort hmeets).append _

end System

end TargetHelp.Files
