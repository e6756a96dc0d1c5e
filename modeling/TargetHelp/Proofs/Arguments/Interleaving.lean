import TargetHelp.Proofs.Arguments.GlobalFlags
import TargetHelp.Run
import Mathlib.Data.List.Basic

/-!
# Global flags anywhere

A global flag that holds its value, if it has one, in its own argument may stand between any two
arguments of a command, even between a flag of the command and its value. What is read depends on
the global flags in their order and on the other arguments in theirs, and not on how the two are
mixed; the flags that are only counted may also change places among themselves.
-/

set_option autoImplicit false
set_option relaxedAutoImplicit false

namespace TargetHelp

/-- A list that is taken from two others, one member after the other from either front. -/
inductive Interleaving {α : Type} : List α → List α → List α → Prop
  | nil : Interleaving [] [] []
  | left {a : α} {as bs cs : List α} (h : Interleaving as bs cs) :
      Interleaving (a :: as) bs (a :: cs)
  | right {b : α} {as bs cs : List α} (h : Interleaving as bs cs) :
      Interleaving as (b :: bs) (b :: cs)

theorem Interleaving.append {α : Type} (as bs : List α) : Interleaving as bs (as ++ bs) := by
  induction as with
  | nil =>
    induction bs with
    | nil => exact .nil
    | cons b bs ih => exact ih.right
  | cons a as ih => exact ih.left

namespace Arguments

/-- An argument that the global flags leave over: a word, or a flag that says where input comes
from. -/
inductive IsLeftOver : Text → Prop
  | word {t : Text} (h : t.head? ≠ some dash ∨ t = [dash]) : IsLeftOver t
  | source {t : Text} (h : t ∈ sourceNames) : IsLeftOver t

theorem IsLeftOver.actsAs {t : Text} (h : IsLeftOver t) : ActsAs t fun r => r.leave t := by
  cases h with
  | word hword => exact actsAs_word hword
  | source hsource => exact actsAs_source hsource

/-- A global flag in a single argument, by its long or its short name where it has both. -/
inductive GlobalFlag where
  | verbose (isLong : Bool)
  | quiet (isLong : Bool)
  | channel (spec : Text)
  | settings (path : Text)
  deriving DecidableEq, Repr

namespace GlobalFlag

def written : GlobalFlag → Text
  | verbose isLong => if isLong then "--verbose" else "-v"
  | quiet isLong => if isLong then "--quiet" else "-Q"
  | channel spec => "--show=" ++ spec
  | settings path => "--config=" ++ path

def isVerbose : GlobalFlag → Bool
  | verbose _ => true
  | _ => false

def isQuiet : GlobalFlag → Bool
  | quiet _ => true
  | _ => false

/-- Whether a flag is only counted. -/
def isCounted (flag : GlobalFlag) : Bool := flag.isVerbose || flag.isQuiet

def spec? : GlobalFlag → Option Text
  | channel spec => some spec
  | _ => none

def path? : GlobalFlag → Option Text
  | settings path => some path
  | _ => none

/-- What is noted of a channel: the separator is no value and leaves null. -/
def noted (spec : Text) : Json := if spec = separator then .null else .str spec

/-- What is stored as the path of the settings: the separator leaves an empty list. -/
def stored (path : Text) : Json := if path = separator then .arr [] else .str path

/-- The specifications of channels among some flags. -/
def specs (flags : List GlobalFlag) : List Text := flags.filterMap spec?

/-- The path of the settings that the last of some flags gives. -/
def lastPath? (flags : List GlobalFlag) : Option Text := (flags.filterMap path?).getLast?

/-- What some flags and some other arguments are read as. -/
def reading (flags : List GlobalFlag) (rest : List Text) : Read :=
  globalRead (flags.countP isVerbose) (flags.countP isQuiet) ((specs flags).map noted)
    (((lastPath? flags).map stored).getD .null) rest

theorem reading_nil : reading [] [] = ⟨globalDefaults, [], false⟩ := rfl

theorem leave_reading (flags : List GlobalFlag) (rest : List Text) (t : Text) :
    (reading flags rest).leave t = reading flags (rest ++ [t]) := rfl

theorem countP_concat (p : GlobalFlag → Bool) (flags : List GlobalFlag) (flag : GlobalFlag) :
    ((flags ++ [flag]).countP p : Int) = flags.countP p + if p flag then 1 else 0 := by
  rw [List.countP_append, List.countP_singleton]
  split <;> rfl

theorem specs_concat (flags : List GlobalFlag) (flag : GlobalFlag) :
    specs (flags ++ [flag]) = specs flags ++ flag.spec?.toList := by
  unfold specs
  rw [List.filterMap_append]
  cases h : flag.spec? <;> simp [h]

theorem lastPath?_concat (flags : List GlobalFlag) (flag : GlobalFlag) :
    lastPath? (flags ++ [flag]) = flag.path?.or (lastPath? flags) := by
  unfold lastPath?
  rw [List.filterMap_append, List.getLast?_append]
  cases h : flag.path? <;> simp [h]

theorem actsAs_verbose (isLong : Bool) :
    ActsAs (written (verbose isLong)) fun r => r.increment "verbose" := by
  cases isLong with
  | false => exact Arguments.actsAs_verbose
  | true => exact ⟨by decide, .flag verboseFlag "--verbose" none, rfl, fun _ _ => rfl⟩

theorem actsAs_quiet (isLong : Bool) :
    ActsAs (written (quiet isLong)) fun r => r.increment "quiet" := by
  cases isLong with
  | false => exact Arguments.actsAs_quiet
  | true => exact ⟨by decide, .flag quietFlag "--quiet" none, rfl, fun _ _ => rfl⟩

/-- A flag acts by itself, and what it adds to a reading is itself at the end of the flags. -/
theorem exists_actsAs (flag : GlobalFlag) :
    ∃ act, ActsAs flag.written act ∧
      ∀ flags rest, act (reading flags rest) = reading (flags ++ [flag]) rest := by
  have hreading (flags : List GlobalFlag) (rest : List Text) : reading (flags ++ [flag]) rest =
      globalRead (flags.countP isVerbose + if flag.isVerbose then 1 else 0)
        (flags.countP isQuiet + if flag.isQuiet then 1 else 0)
        ((specs flags).map noted ++ (flag.spec?.map noted).toList)
        (((flag.path?.or (lastPath? flags)).map stored).getD .null) rest := by
    unfold reading
    rw [countP_concat, countP_concat, specs_concat, lastPath?_concat, List.map_append,
      Option.toList_map]
  cases flag with
  | verbose isLong =>
    refine ⟨_, actsAs_verbose isLong, fun flags rest => ?_⟩
    rw [hreading, reading, increment_verbose]
    simp [isVerbose, isQuiet, spec?, path?]
  | quiet isLong =>
    refine ⟨_, actsAs_quiet isLong, fun flags rest => ?_⟩
    rw [hreading, reading, increment_quiet]
    simp [isVerbose, isQuiet, spec?, path?]
  | channel spec =>
    have hnoted : (if some spec = some separator then Json.null else .str spec) = noted spec := by
      simp only [noted, Option.some.injEq]
    refine ⟨_, actsAs_show spec, fun flags rest => ?_⟩
    rw [hreading, reading, hnoted, collect_show]
    simp [isVerbose, isQuiet, spec?, path?]
  | settings path =>
    have hstored : (if some path = some separator then Json.arr [] else .str path) =
        stored path := by
      simp only [stored, Option.some.injEq]
    refine ⟨_, actsAs_config path, fun flags rest => ?_⟩
    rw [hreading, reading, hstored, set_config]
    simp [isVerbose, isQuiet, spec?, path?]

/-- However flags are mixed with arguments that are left over, they are read as if they stood
apart. -/
theorem exists_items_of_interleaving {flags : List GlobalFlag} {rest argv : List Text}
    (hrest : ∀ t ∈ rest, IsLeftOver t) (h : Interleaving (flags.map written) rest argv) :
    ∃ items : List (Text × (Read → Read)), items.map Prod.fst = argv ∧
      (∀ item ∈ items, ActsAs item.1 item.2) ∧
      ∀ before left, items.foldl (fun r item => item.2 r) (reading before left) =
        reading (before ++ flags) (left ++ rest) := by
  generalize hwritten : flags.map written = ts at h
  induction h generalizing flags with
  | nil =>
    obtain rfl := List.map_eq_nil_iff.mp hwritten
    refine ⟨[], rfl, List.forall_mem_nil _, fun before left => ?_⟩
    rw [List.append_nil, List.append_nil]
    rfl
  | @left t ts rest argv h ih =>
    obtain ⟨flag, flags, rfl, rfl, rfl⟩ := List.map_eq_cons_iff.mp hwritten
    obtain ⟨act, hact, hadds⟩ := flag.exists_actsAs
    obtain ⟨items, hitems, hacts, hread⟩ := ih hrest rfl
    refine ⟨(flag.written, act) :: items, by rw [List.map_cons, hitems],
      List.forall_mem_cons.mpr ⟨hact, hacts⟩, fun before left => ?_⟩
    rw [List.foldl_cons]
    dsimp only
    rw [hadds, hread, List.append_assoc, List.singleton_append]
  | @right t ts rest argv h ih =>
    obtain ⟨ht, hrest⟩ := List.forall_mem_cons.mp hrest
    obtain ⟨items, hitems, hacts, hread⟩ := ih hrest hwritten
    refine ⟨(t, fun r => r.leave t) :: items, by rw [List.map_cons, hitems],
      List.forall_mem_cons.mpr ⟨ht.actsAs, hacts⟩, fun before left => ?_⟩
    rw [List.foldl_cons]
    dsimp only
    rw [leave_reading, hread, List.append_assoc, List.singleton_append]

theorem readGlobal_interleaving {flags : List GlobalFlag} {rest argv : List Text}
    (hrest : ∀ t ∈ rest, IsLeftOver t) (h : Interleaving (flags.map written) rest argv) :
    readGlobal argv = .ok (reading flags rest) := by
  obtain ⟨items, rfl, hacts, hread⟩ := exists_items_of_interleaving hrest h
  rw [readGlobal_of_actsAs hacts, ← reading_nil, hread]
  rfl

/-! ### The order of flags -/

/-- The same flags, in the same order but for those that are only counted. -/
structure SameRequests (flags others : List GlobalFlag) : Prop where
  perm : flags.Perm others
  valued : flags.filter (!·.isCounted) = others.filter (!·.isCounted)

theorem filterMap_valued {f : GlobalFlag → Option Text}
    (h : ∀ flag, flag.isCounted = true → f flag = none) (flags : List GlobalFlag) :
    (flags.filter (!·.isCounted)).filterMap f = flags.filterMap f := by
  rw [List.filterMap_filter]
  refine List.filterMap_congr fun flag _ => ?_
  cases hcounted : flag.isCounted with
  | false => rfl
  | true => exact (h flag hcounted).symm

theorem SameRequests.reading_eq {flags others : List GlobalFlag} (h : SameRequests flags others)
    (rest : List Text) : reading flags rest = reading others rest := by
  have hspecs : specs flags = specs others := by
    have hnone : ∀ flag : GlobalFlag, flag.isCounted = true → flag.spec? = none := by
      intro flag hflag
      cases flag <;> first | rfl | cases hflag
    unfold specs
    rw [← filterMap_valued hnone flags, h.valued, filterMap_valued hnone]
  have hpath : lastPath? flags = lastPath? others := by
    have hnone : ∀ flag : GlobalFlag, flag.isCounted = true → flag.path? = none := by
      intro flag hflag
      cases flag <;> first | rfl | cases hflag
    unfold lastPath?
    rw [← filterMap_valued hnone flags, h.valued, filterMap_valued hnone]
  unfold reading
  rw [h.perm.countP_eq, h.perm.countP_eq, hspecs, hpath]

/-- Global flags may stand anywhere among the arguments of a command. The others are left over in
their order; the counting flags are counted, the specifications of channels noted in their order,
with null for the separator, and the last path of settings stored, with an empty list for the
separator. So nothing but the order of the flags that are not only counted, and that of the other
arguments, makes a difference to a run, or to the manager that it puts in charge. -/
theorem readGlobal_anywhere {flags : List GlobalFlag} {rest argv : List Text}
    (hrest : ∀ t ∈ rest, IsLeftOver t) (h : Interleaving (flags.map written) rest argv) :
    readGlobal argv = .ok {
      values := [
        ("verbose", .int (flags.countP isVerbose)),
        ("quiet", .int (flags.countP isQuiet)),
        ("show", if (specs flags).isEmpty then .null else .arr ((specs flags).map noted)),
        ("config", ((lastPath? flags).map stored).getD .null)]
      leftOver := rest } ∧
    ∀ {others : List GlobalFlag} {argv' : List Text}, SameRequests flags others →
      Interleaving (others.map written) rest argv' →
      World.managerOf? argv' = World.managerOf? argv ∧
      ∀ world : World, world.run argv' = world.run argv := by
  have hread := readGlobal_interleaving hrest h
  refine ⟨?_, fun {others argv'} hsame h' => ?_⟩
  · rw [hread, reading, globalRead, List.isEmpty_map]
  · have hread' := readGlobal_interleaving hrest h'
    rw [← hsame.reading_eq rest, ← hread] at hread'
    refine ⟨?_, fun world => ?_⟩
    · unfold World.managerOf?
      rw [hread']
    · unfold World.run
      rw [hread']

/-- Flags in front of a command, between a flag and its value, and behind all. -/
theorem readGlobal_anywhere_scattered :
    readGlobal ["-v", "describe", "-f", "--show=parse:2", "nodes", "--quiet", "all", "--verbose",
        "--config=first", "--show=--", "--config=last"] =
      .ok {
        values := [("verbose", .int 2), ("quiet", .int 1),
          ("show", .arr [.str "parse:2", .null]), ("config", .str "last")]
        leftOver := ["describe", "-f", "nodes", "all"] } := by
  have hrest : ∀ t ∈ (["describe", "-f", "nodes", "all"] : List Text), IsLeftOver t := by
    simp only [List.forall_mem_cons]
    exact ⟨.word (Or.inl (by decide)), .source (by decide), .word (Or.inl (by decide)),
      .word (Or.inl (by decide)), List.forall_mem_nil _⟩
  let flags : List GlobalFlag := [verbose false, channel "parse:2", quiet true, verbose true,
    settings "first", channel "--", settings "last"]
  have h : Interleaving (flags.map written) ["describe", "-f", "nodes", "all"]
      ["-v", "describe", "-f", "--show=parse:2", "nodes", "--quiet", "all", "--verbose",
        "--config=first", "--show=--", "--config=last"] :=
    .left (.right (.right (.left (.right (.left (.right (.left (.left (.left (.left .nil))))))))))
  exact (readGlobal_anywhere hrest h).1

/-- The separator is noted as no channel, and stored as no path. -/
theorem readGlobal_separator :
    ∃ r, readGlobal [written (channel "--"), written (settings "--")] = .ok r ∧
      r.value "show" = .arr [.null] ∧ r.value "show" ≠ .arr [.str "--"] ∧
      r.value "config" = .arr [] ∧ r.value "config" ≠ .str "--" := by
  refine ⟨_, rfl, rfl, ?_, rfl, ?_⟩
  · exact fun h => nomatch h
  · exact fun h => nomatch h

end GlobalFlag

end Arguments

end TargetHelp
