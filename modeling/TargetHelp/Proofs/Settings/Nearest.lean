import Mathlib.Data.List.Induction
import TargetHelp.Proofs.Diagnostics.Outcome
import TargetHelp.Proofs.Files.Lookup
import TargetHelp.Settings

/-!
# The nearest project file

The search for a project file climbs from a directory to the root, one parent after another, and
ends with the first file that it meets: the one in the deepest directory, whatever may lie further
up, since a step up leaves only directories without a file behind (`IsNearest.up`). It ends early in
one case only, when the path of the file to look for is refused as too long; such a path is refused
in the directory where the search begins or nowhere (`not_refuses_of_above`).
-/

set_option autoImplicit false
set_option relaxedAutoImplicit false

namespace TargetHelp

/-! ### Paths from the root downwards -/

namespace Files.Absolute

/-- The directory above a path; the root is its own. -/
def parent (path : Absolute) : Absolute := ⟨path.names.dropLast⟩

/-- Every path is the root or that of an entry of a directory. -/
@[elab_as_elim]
theorem child_induction {motive : Absolute → Prop} (root : motive ⟨[]⟩)
    (child : ∀ path name, motive path → motive (child path name)) (path : Absolute) :
    motive path := by
  obtain ⟨names⟩ := path
  induction names using List.reverseRecOn with
  | nil => exact root
  | append_singleton names name ih => exact child ⟨names⟩ name ih

variable (path : Absolute) (name : Text)

@[simp]
theorem parent_child : (path.child name).parent = path := by
  rw [parent, child, List.dropLast_concat]

theorem length_child : (path.child name).names.length = path.names.length + 1 := by
  rw [child, List.length_append, List.length_singleton]

theorem parent_ne_child : (path.child name).parent ≠ path.child name := by
  rw [parent_child]
  intro h
  have hlength := length_child path name
  rw [← h] at hlength
  exact Nat.ne_add_one _ hlength

theorem names_eq_nil_of_parent_eq {path : Absolute} (h : path.parent = path) :
    path.names = [] := by
  induction path using child_induction with
  | root => rfl
  | child path name _ => exact absurd h (parent_ne_child path name)

/-- What is above a path is the path itself or above its parent. -/
theorem prefix_iff_parent {path other : Absolute} :
    other.names <+: path.names ↔ other = path ∨ other.names <+: path.parent.names := by
  obtain ⟨others⟩ := other
  induction path using child_induction with
  | root => simp [parent]
  | child path name _ =>
    rw [parent_child, child, List.prefix_concat_iff, mk.injEq]

theorem beginnings_concat (names : List Text) (name : Text) :
    beginnings (names ++ [name]) = (names ++ [name]) :: beginnings names := by
  induction names with
  | nil => rfl
  | cons first names ih => rw [List.cons_append, beginnings, ih]; rfl

theorem ancestors_child : (path.child name).ancestors = path.child name :: path.ancestors := by
  rw [ancestors, child, beginnings_concat]
  rfl

end Files.Absolute

namespace Settings

open Session

variable {system : Files.System} {directory : Files.Absolute}

/-- The file of settings that a directory may hold. -/
def projectFile (directory : Files.Absolute) : Files.Absolute := directory.child projectFileName

theorem projectFile_names_ne_nil (directory : Files.Absolute) :
    (projectFile directory).names ≠ [] :=
  List.append_ne_nil_of_right_ne_nil _ (List.cons_ne_nil _ _)

/-- A directory holds a file of settings with some content; a directory of that name is none. -/
def HasFile (system : Files.System) (directory : Files.Absolute) (content : Bytes) : Prop :=
  system.root.at? (projectFile directory).names = some (.file content)

/-- Where the file of settings of a directory is not refused, none further up is. -/
theorem not_refuses_of_above {other : Files.Absolute}
    (hrefuses : ¬ system.Refuses (projectFile directory))
    (habove : other.names <+: directory.names) : ¬ system.Refuses (projectFile other) :=
  fun hother => hrefuses (hother.of_above habove (by decide))

/-! ### The search as a loop -/

/-- The search from a directory on: how many directories are looked into, and the result. After a
directory without a file it is the turn of its parent, unless that is the directory itself. -/
inductive Climbs (system : Files.System) :
    (directory : Files.Absolute) → (rounds : Nat) → Except Fault (Option Text) → Prop
  | refused {directory : Files.Absolute} {problem : Files.Problem}
      (h : system.isFile (projectFile directory).text = .error problem) :
      Climbs system directory 1 (.error (.file problem (some (projectFile directory).text)))
  | found {directory : Files.Absolute}
      (h : system.isFile (projectFile directory).text = .ok true) :
      Climbs system directory 1 (.ok (some (projectFile directory).text))
  | top {directory : Files.Absolute}
      (h : system.isFile (projectFile directory).text = .ok false)
      (htop : directory.parent = directory) : Climbs system directory 1 (.ok none)
  | up {directory : Files.Absolute} {rounds : Nat} {r : Except Fault (Option Text)}
      (h : system.isFile (projectFile directory).text = .ok false)
      (hup : directory.parent ≠ directory) (hrest : Climbs system directory.parent rounds r) :
      Climbs system directory (rounds + 1) r

/-- The loop takes one course only. -/
theorem Climbs.unique {rounds rounds' : Nat} {r r' : Except Fault (Option Text)}
    (h : Climbs system directory rounds r) (h' : Climbs system directory rounds' r') :
    rounds' = rounds ∧ r' = r := by
  induction h generalizing rounds' r' with
  | refused h =>
    cases h' with
    | refused h' =>
      obtain rfl := Except.error.inj (h.symm.trans h')
      exact ⟨rfl, rfl⟩
    | _ h' => exact nomatch h.symm.trans h'
  | found h =>
    cases h' with
    | found => exact ⟨rfl, rfl⟩
    | _ h' => exact nomatch h.symm.trans h'
  | top h htop =>
    cases h' with
    | top => exact ⟨rfl, rfl⟩
    | up _ hup => exact absurd htop hup
    | _ h' => exact nomatch h.symm.trans h'
  | up h hup _ ih =>
    cases h' with
    | top _ htop => exact absurd htop hup
    | up _ _ hrest =>
      obtain ⟨rfl, rfl⟩ := ih hrest
      exact ⟨rfl, rfl⟩
    | _ h' => exact nomatch h.symm.trans h'

/-- One round of the search: it ends there, or goes on with the rest of the directories. -/
theorem exists_climbs_cons {rest : List Files.Absolute} {bound : Nat}
    (hrest : (directory.parent = directory ∧ rest = []) ∨ (directory.parent ≠ directory ∧
      ∃ rounds ≤ bound, Climbs system directory.parent rounds (firstWithFile system rest))) :
    ∃ rounds ≤ bound + 1,
      Climbs system directory rounds (firstWithFile system (directory :: rest)) := by
  have hone : 1 ≤ bound + 1 := Nat.le_add_left 1 bound
  unfold firstWithFile
  dsimp only
  cases h : system.isFile (directory.child projectFileName).text with
  | error problem => exact ⟨1, hone, .refused h⟩
  | ok isFile =>
    cases isFile with
    | true => exact ⟨1, hone, .found h⟩
    | false =>
      rcases hrest with ⟨htop, rfl⟩ | ⟨hup, rounds, hrounds, hclimbs⟩
      · exact ⟨1, hone, .top h htop⟩
      · exact ⟨rounds + 1, Nat.succ_le_succ hrounds, .up h hup hclimbs⟩

/-- The loop ends, and it looks into no more directories than there are up to the root. -/
theorem exists_climbs (system : Files.System) (directory : Files.Absolute) :
    ∃ rounds ≤ directory.names.length + 1,
      Climbs system directory rounds (firstWithFile system directory.ancestors) := by
  induction directory using Files.Absolute.child_induction with
  | root => exact @exists_climbs_cons system _ _ 0 (.inl ⟨rfl, rfl⟩)
  | child directory name ih =>
    rw [Files.Absolute.ancestors_child, Files.Absolute.length_child]
    refine exists_climbs_cons (.inr ⟨Files.Absolute.parent_ne_child directory name, ?_⟩)
    rw [Files.Absolute.parent_child]
    exact ih

/-! ### The nearest file -/

/-- A directory holds the file of settings that is nearest to another directory: it is that
directory or above it, and no directory further down on the way holds one. -/
structure IsNearest (system : Files.System) (directory found : Files.Absolute)
    (content : Bytes) : Prop where
  above : found.names <+: directory.names
  file : HasFile system found content
  deepest : ∀ other : Files.Absolute, other.names <+: directory.names →
    ∀ content', HasFile system other content' → other.names <+: found.names

/-- Neither a directory nor one above it holds a file of settings. -/
def NoneAbove (system : Files.System) (directory : Files.Absolute) : Prop :=
  ∀ other : Files.Absolute, other.names <+: directory.names →
    ∀ content, ¬ HasFile system other content

theorem IsNearest.self {content : Bytes} (h : HasFile system directory content) :
    IsNearest system directory directory content :=
  ⟨List.prefix_rfl, h, fun _ habove _ _ => habove⟩

/-- What is nearest to the parent of a directory without a file is nearest to the directory. -/
theorem IsNearest.up {found : Files.Absolute} {content : Bytes}
    (h : IsNearest system directory.parent found content)
    (hnone : ∀ content, ¬ HasFile system directory content) :
    IsNearest system directory found content where
  above := Files.Absolute.prefix_iff_parent.mpr (.inr h.above)
  file := h.file
  deepest other habove content' hfile := by
    rcases Files.Absolute.prefix_iff_parent.mp habove with rfl | habove
    · exact absurd hfile (hnone content')
    · exact h.deepest other habove content' hfile

theorem NoneAbove.top (htop : directory.parent = directory)
    (hnone : ∀ content, ¬ HasFile system directory content) : NoneAbove system directory := by
  intro other habove
  have hroot := Files.Absolute.names_eq_nil_of_parent_eq htop
  obtain ⟨names⟩ := directory
  obtain ⟨others⟩ := other
  obtain rfl : names = [] := hroot
  obtain rfl : others = [] := List.prefix_nil.mp habove
  exact hnone

theorem NoneAbove.up (h : NoneAbove system directory.parent)
    (hnone : ∀ content, ¬ HasFile system directory content) : NoneAbove system directory := by
  intro other habove
  rcases Files.Absolute.prefix_iff_parent.mp habove with rfl | habove
  · exact hnone
  · exact h other habove

/-- There is one nearest file at most. -/
theorem IsNearest.unique {found found' : Files.Absolute} {content content' : Bytes}
    (h : IsNearest system directory found content)
    (h' : IsNearest system directory found' content') : found' = found ∧ content' = content := by
  have hle := h'.deepest found h.above content h.file
  have hge := h.deepest found' h'.above content' h'.file
  obtain ⟨names⟩ := found
  obtain ⟨names'⟩ := found'
  obtain rfl : names' = names := hge.eq_of_length_le hle.length_le
  exact ⟨rfl, Files.Entry.file.inj (Option.some.inj (h'.file.symm.trans h.file))⟩

theorem IsNearest.not_noneAbove {found : Files.Absolute} {content : Bytes}
    (h : IsNearest system directory found content) : ¬ NoneAbove system directory :=
  fun hnone => hnone found h.above content h.file

section Search

variable (hnames : ∀ name ∈ directory.names, Files.IsName name)
include hnames

theorem isName_of_mem_projectFile : ∀ name ∈ (projectFile directory).names, Files.IsName name :=
  List.forall_mem_append.mpr ⟨hnames, List.forall_mem_singleton.mpr (by decide)⟩

theorem isFile_projectFile (hrefuses : ¬ system.Refuses (projectFile directory)) :
    (∃ content, HasFile system directory content ∧
      system.isFile (projectFile directory).text = .ok true) ∨
    ((∀ content, ¬ HasFile system directory content) ∧
      system.isFile (projectFile directory).text = .ok false) := by
  rcases Files.System.isFile_of_not_refuses (projectFile_names_ne_nil directory)
    (isName_of_mem_projectFile hnames) hrefuses with
    ⟨content, hat, hfile, _⟩ | ⟨hat, hfile⟩
  · exact .inl ⟨content, hat, hfile⟩
  · exact .inr ⟨hat, hfile⟩

/-- What the search comes to where no path is too long. -/
theorem Climbs.nearest {rounds : Nat} {r : Except Fault (Option Text)}
    (h : Climbs system directory rounds r) (hrefuses : ¬ system.Refuses (projectFile directory)) :
    (∃ found content, IsNearest system directory found content ∧
      r = .ok (some (projectFile found).text)) ∨ (NoneAbove system directory ∧ r = .ok none) := by
  induction h with
  | refused h =>
    rcases isFile_projectFile hnames hrefuses with ⟨_, _, hfile⟩ | ⟨_, hfile⟩
    · exact nomatch hfile.symm.trans h
    · exact nomatch hfile.symm.trans h
  | found h =>
    rcases isFile_projectFile hnames hrefuses with ⟨content, hfile, _⟩ | ⟨_, hfile⟩
    · exact .inl ⟨_, content, .self hfile, rfl⟩
    · exact nomatch hfile.symm.trans h
  | top h htop =>
    rcases isFile_projectFile hnames hrefuses with ⟨_, _, hfile⟩ | ⟨hnone, _⟩
    · exact nomatch hfile.symm.trans h
    · exact .inr ⟨.top htop hnone, rfl⟩
  | @up directory _ _ h _ _ ih =>
    rcases isFile_projectFile hnames hrefuses with ⟨_, _, hfile⟩ | ⟨hnone, _⟩
    · exact nomatch hfile.symm.trans h
    have habove : directory.parent.names <+: directory.names := List.dropLast_prefix _
    rcases ih (fun name hname => hnames name (habove.subset hname))
      (not_refuses_of_above hrefuses habove) with
      ⟨found, content, hnearest, hr⟩ | ⟨hrest, hr⟩
    · exact .inl ⟨found, content, hnearest.up hnone, hr⟩
    · exact .inr ⟨hrest.up hnone, hr⟩

/-- The search ends with a file exactly if that is the nearest one. -/
theorem Climbs.eq_some_iff {rounds : Nat} {r : Except Fault (Option Text)}
    (h : Climbs system directory rounds r) (hrefuses : ¬ system.Refuses (projectFile directory))
    (path : Text) :
    r = .ok (some path) ↔ ∃ found content, IsNearest system directory found content ∧
      path = (projectFile found).text := by
  rcases h.nearest hnames hrefuses with ⟨found, content, hnearest, rfl⟩ | ⟨hnone, rfl⟩
  · constructor
    · intro hpath
      exact ⟨found, content, hnearest, (Option.some.inj (Except.ok.inj hpath)).symm⟩
    · rintro ⟨found', content', hnearest', rfl⟩
      obtain ⟨rfl, -⟩ := hnearest.unique hnearest'
      rfl
  · refine iff_of_false (fun hpath => nomatch hpath) ?_
    rintro ⟨found, content, hnearest, -⟩
    exact hnearest.not_noneAbove hnone

/-- The search ends without a file exactly if there is none up to the root. -/
theorem Climbs.eq_none_iff {rounds : Nat} {r : Except Fault (Option Text)}
    (h : Climbs system directory rounds r)
    (hrefuses : ¬ system.Refuses (projectFile directory)) :
    r = .ok none ↔ NoneAbove system directory := by
  rcases h.nearest hnames hrefuses with ⟨found, content, hnearest, rfl⟩ | ⟨hnone, rfl⟩
  · exact iff_of_false (fun hpath => nomatch hpath) hnearest.not_noneAbove
  · exact iff_of_true rfl hnone

theorem Climbs.of_refuses {rounds : Nat} {r : Except Fault (Option Text)}
    (h : Climbs system directory rounds r) (hrefuses : system.Refuses (projectFile directory)) :
    r = .error (.file .nameTooLong (some (projectFile directory).text)) := by
  have hisFile := Files.System.isFile_of_refuses (projectFile_names_ne_nil directory)
    (isName_of_mem_projectFile hnames) hrefuses
  exact ((Climbs.refused hisFile).unique h).2

theorem open_projectFile (hrefuses : ¬ system.Refuses (projectFile directory)) {content : Bytes}
    (hfile : HasFile system directory content) :
    system.open (.str (projectFile directory).text) = .ok content := by
  have hne := projectFile_names_ne_nil directory
  have hall := isName_of_mem_projectFile hnames
  rcases Files.System.isFile_of_not_refuses hne hall hrefuses with
    ⟨content', hat, _, hread⟩ | ⟨hat, _⟩
  · obtain rfl := Files.Entry.file.inj (Option.some.inj (hat.symm.trans hfile))
    change system.openPath (projectFile directory).text = _
    rw [Files.System.openPath, Files.Absolute.pathFault?_text hne hall, hread]
    rfl
  · exact absurd hfile (hat content)

end Search

/-! ### What is loaded -/

/-- The settings in the content of a file. -/
def ofBytes (path : Text) (bytes : Bytes) : SessionM (Fields Json) :=
  match Utf8.decode bytes with
  | .error error => throw (.decoding error)
  | .ok t => ofText path (Text.universalLineEnds t)

theorem load_of_open {path : Json} {bytes : Bytes} (h : system.open path = .ok bytes) :
    load system path = ofBytes path.plain bytes := by
  unfold load
  rw [h]
  rfl

theorem loadProject_of_none {start : Option Text} (h : findProject system start = .ok none) :
    loadProject system start = pure ([], none) := by
  unfold loadProject
  rw [h]
  rfl

theorem loadProject_of_some {start : Option Text} {path : Text}
    (h : findProject system start = .ok (some path)) :
    loadProject system start = load system (.str path) >>= fun fields =>
      pure (fields, some path) := by
  unfold loadProject
  rw [h]
  rfl

theorem loadProject_of_error {start : Option Text} {fault : Fault}
    (h : findProject system start = .error fault) :
    loadProject system start = throw fault := by
  unfold loadProject
  rw [h]
  rfl

/-- The settings in the nearest file, found from further down. -/
theorem load_nearest (hnames : ∀ name ∈ directory.names, Files.IsName name)
    (hrefuses : ¬ system.Refuses (projectFile directory)) {found : Files.Absolute}
    {content : Bytes} (h : IsNearest system directory found content) :
    load system (.str (projectFile found).text) = ofBytes (projectFile found).text content := by
  have hfound : ∀ name ∈ found.names, Files.IsName name := fun name hname =>
    hnames name (h.above.subset hname)
  exact load_of_open (open_projectFile hfound (not_refuses_of_above hrefuses h.above) h.file)

theorem findProject_eq_firstWithFile {start : Option Text}
    (h : Files.pathFault? (start.getD []) = none) :
    findProject system start = firstWithFile system
      (Files.normalize system.workingDirectory (start.getD [])).ancestors := by
  unfold findProject
  dsimp only
  rw [h]

/-- The search for a project file, in any tree and from any start whose code points can stand in a
path; the working directory is given by the names that lead to it, none of them `.` or `..`. The
start made absolute is where the start leads in the tree, if it leads anywhere, and the working
directory for no start or an empty one. From there the loop takes one course, which ends after no
more rounds than there are directories up to the root. Unless the path of the first file to look for
is too long, which is raised, the file found is the nearest one, there is none exactly where no
directory up to the root holds one, and the settings loaded depend on the content of that file and
on nothing else in the tree. -/
theorem findProject_nearest (hnames : ∀ name ∈ system.workingDirectory, Files.IsName name)
    {start : Option Text} (hstart : Files.pathFault? (start.getD []) = none) :
    let directory := Files.normalize system.workingDirectory (start.getD [])
    (start.getD [] = [] → directory.names = system.workingDirectory) ∧
    (∀ place, system.locate (start.getD []) = .ok place →
      system.root.at? directory.names = some place.entry) ∧
    (∃ rounds ≤ directory.names.length + 1, ∀ rounds' r,
      Climbs system directory rounds' r ↔ rounds' = rounds ∧ r = findProject system start) ∧
    (¬ system.Refuses (projectFile directory) →
      (∀ path, findProject system start = .ok (some path) ↔
        ∃ found content, IsNearest system directory found content ∧
          path = (projectFile found).text) ∧
      (findProject system start = .ok none ↔ NoneAbove system directory) ∧
      (∀ found content, IsNearest system directory found content →
        loadProject system start = ofBytes (projectFile found).text content >>= fun fields =>
          pure (fields, some (projectFile found).text)) ∧
      (NoneAbove system directory → loadProject system start = pure ([], none))) ∧
    (system.Refuses (projectFile directory) →
      let fault := Fault.file .nameTooLong (some (projectFile directory).text)
      findProject system start = .error fault ∧ loadProject system start = throw fault) := by
  intro directory
  have hdirectory : ∀ name ∈ directory.names, Files.IsName name :=
    Files.isName_of_mem_normalize hnames hstart
  obtain ⟨rounds, hrounds, hclimbs⟩ := exists_climbs system directory
  rw [← findProject_eq_firstWithFile hstart] at hclimbs
  refine ⟨fun hempty => ?_, fun place hplace => (Files.System.locate_at hnames hplace).at?_eq,
    ⟨rounds, hrounds, fun rounds' r => ⟨hclimbs.unique, ?_⟩⟩, fun hrefuses => ?_,
    fun hrefuses => ?_⟩
  · change (Files.normalize system.workingDirectory (start.getD [])).names = _
    rw [hempty]
    rfl
  · rintro ⟨rfl, rfl⟩
    exact hclimbs
  · have hsome := hclimbs.eq_some_iff hdirectory hrefuses
    have hnone := hclimbs.eq_none_iff hdirectory hrefuses
    refine ⟨hsome, hnone, fun found content hnearest => ?_,
      fun h => loadProject_of_none (hnone.mpr h)⟩
    rw [loadProject_of_some ((hsome _).mpr ⟨found, content, hnearest, rfl⟩),
      load_nearest hdirectory hrefuses hnearest]
  · have hfault := hclimbs.of_refuses hdirectory hrefuses
    exact ⟨hfault, loadProject_of_error hfault⟩

/-- A project with a file of settings, and a directory of that name in a directory below; there is
another file at the root. -/
def nested : Files.System where
  root := .directory [
    ("proj", .directory [
      (".mmhelp.json", .file [0x7b, 0x7d]),
      ("sub", .directory [(".mmhelp.json", .directory []), ("deep", .directory [])])]),
    (".mmhelp.json", .file [0x5b])]
  workingDirectory := ["proj", "sub", "deep"]
  home := []

/-- From the parent of the working directory the search passes over the directory that is named
like a file of settings, and the file at the root is not read. -/
theorem findProject_nearest_nested :
    findProject nested (some "..") = .ok (some "/proj/.mmhelp.json") ∧
      outcome (loadProject nested (some "..")) {} =
        (.ok ([], some "/proj/.mmhelp.json"), {}) := by
  have hnearest : IsNearest nested ⟨["proj", "sub"]⟩ ⟨["proj"]⟩ [0x7b, 0x7d] := by
    refine ⟨⟨["sub"], rfl⟩, rfl, fun other habove content hfile => ?_⟩
    rcases Files.Absolute.prefix_iff_parent.mp habove with rfl | habove
    · exact nomatch (hfile : some (Files.Entry.directory []) = some (.file content))
    · exact habove
  have hrefuses : ¬ nested.Refuses (projectFile ⟨["proj", "sub"]⟩) :=
    Files.System.not_refuses_of_short (by decide) (by decide)
  obtain ⟨-, -, -, hshort, -⟩ := @findProject_nearest nested (by decide) (some "..") rfl
  obtain ⟨hfind, -, hload, -⟩ := hshort hrefuses
  refine ⟨(hfind _).mpr ⟨_, _, hnearest, rfl⟩, ?_⟩
  rw [hload _ _ hnearest]
  rfl

/-- A name that is too long for an entry breaks the search off, although no directory up to the
root holds a file. -/
theorem findProject_longName :
    let system : Files.System := ⟨.directory [("work", .directory [])], ["work"], [], []⟩
    let start : Text := List.replicate 300 (CodePoint.ofChar 'a')
    Files.pathFault? start = none ∧
      NoneAbove system (Files.normalize system.workingDirectory start) ∧
      findProject system (some start) ≠ .ok none := by
  intro system start
  have hstart : Files.IsName start := by decide +kernel
  have hnormalize : Files.normalize system.workingDirectory start = ⟨["work", start]⟩ := by
    decide +kernel
  refine ⟨hstart.pathFault, ?_, ?_⟩
  · have hmissing (directory : Files.Absolute)
        (h : system.root.at? (projectFile directory).names = none) (content : Bytes) :
        ¬ HasFile system directory content := fun hfile => nomatch h.symm.trans hfile
    rw [hnormalize]
    exact .up (.up (.top rfl (hmissing ⟨[]⟩ rfl)) (hmissing ⟨["work"]⟩ rfl)) (hmissing _ rfl)
  · intro hfind
    have hfails : (findProject system (some start)).isOk = false := by decide +kernel
    rw [hfind] at hfails
    exact nomatch hfails

end Settings

end TargetHelp
