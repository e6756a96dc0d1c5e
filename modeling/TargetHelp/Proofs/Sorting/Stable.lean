import TargetHelp.Proofs.Sorting.Merging
import TargetHelp.Sorting

/-!
# Sorting is stable

The runs that wait to be merged are the values that have been taken so far, run by run, and merging
neighbours leaves that so. When no values are left the runs that wait are merged to one, which is
the only stable arrangement of the values by their ranks (`sortedBy_eq`). Which neighbours are
merged when makes no difference to that.
-/

set_option autoImplicit false
set_option relaxedAutoImplicit false

namespace TargetHelp.Sorting

variable {α ε : Type} {lt : α → α → Bool} {given : List α}

/-- The values of runs that wait, of which the last comes first. -/
def waitingValues (runs : List (Pending α)) : List α := runs.reverse.flatMap Pending.values

/-- Runs in order, which together are a stable rearrangement of some values. -/
structure Holds (lt : α → α → Bool) (given : List α) (runs : List (Pending α)) : Prop where
  rearranges : Rearranges lt given (waitingValues runs)
  ascending : ∀ run ∈ runs, Ascending lt run.values

theorem waitingValues_cons (run : Pending α) (runs : List (Pending α)) :
    waitingValues (run :: runs) = waitingValues runs ++ run.values := by
  unfold waitingValues
  simp

section

variable {before : α → α → Except ε Bool} (h : Ranks lt)
include h

/-- Two neighbours among the runs that wait become one. -/
theorem joined_eq {above others : List (Pending α)} {left right : Pending α}
    (hholds : Holds lt given (above ++ right :: left :: others))
    (hcompares : Compares before lt given) (patience : Nat) :
    ∃ run rest, joined before patience left right = .ok (run, rest) ∧
      Holds lt given (above ++ run :: others) := by
  have hvalues (above : List (Pending α)) : waitingValues (above ++ right :: left :: others) =
      waitingValues others ++ (left.values ++ right.values) ++ waitingValues above := by
    unfold waitingValues
    simp
  have hsubset : left.values ++ right.values ⊆ given := fun a ha => by
    refine hholds.rearranges.perm.mem_iff.mp ?_
    rw [hvalues]
    exact List.mem_append_left _ (List.mem_append_right _ ha)
  obtain ⟨merged, rest, hmerge, hmerged⟩ := mergeRuns_eq h (hcompares.mono hsubset)
    (hholds.ascending left (by simp)) (hholds.ascending right (by simp)) patience
  refine ⟨{ left with values := merged }, rest, ?_, ?_, fun run hrun => ?_⟩
  · unfold joined
    rw [hmerge]
    rfl
  · have hparts := ((Rearranges.refl (waitingValues others)).append hmerged.toRearranges).append
      (.refl (waitingValues above))
    rw [← hvalues] at hparts
    have hsame : waitingValues (above ++ { left with values := merged } :: others) =
        waitingValues others ++ merged ++ waitingValues above := by
      unfold waitingValues
      simp
    exact hsame ▸ hholds.rearranges.trans hparts
  · rcases List.mem_append.mp hrun with hrun | hrun
    · exact hholds.ascending run (List.mem_append_left _ hrun)
    · rcases List.mem_cons.mp hrun with rfl | hrun
      · exact hmerged.ascending
      · exact hholds.ascending run (by simp [hrun])

omit h in
theorem Holds.withDepth {last : Pending α} {others : List (Pending α)}
    (hholds : Holds lt given (last :: others)) (depth : Nat) :
    Holds lt given ({ last with depth } :: others) := by
  have hvalues : waitingValues ({ last with depth } :: others) =
      waitingValues (last :: others) := by
    rw [waitingValues_cons, waitingValues_cons]
  obtain ⟨hlast, hothers⟩ := List.forall_mem_cons.mp hholds.ascending
  exact ⟨hvalues ▸ hholds.rearranges, List.forall_mem_cons.mpr ⟨hlast, hothers⟩⟩

omit h in
theorem Holds.cons {runs : List (Pending α)} (hholds : Holds lt given runs) {front : List α}
    {run : Pending α} (hrun : Sorts lt front run.values) :
    Holds lt (given ++ front) (run :: runs) := by
  refine ⟨?_, List.forall_mem_cons.mpr ⟨hrun.ascending, hholds.ascending⟩⟩
  rw [waitingValues_cons]
  exact hholds.rearranges.append hrun.toRearranges

theorem settle_eq {last : Pending α} {others : List (Pending α)}
    (hholds : Holds lt given (last :: others)) (hcompares : Compares before lt given)
    (patience depth : Nat) :
    ∃ w, settle before patience depth last others = .ok w ∧ Holds lt given w.runs := by
  induction others generalizing last patience with
  | nil => exact ⟨_, rfl, hholds.withDepth depth⟩
  | cons left others ih =>
    unfold settle
    by_cases hdepth : depth < left.depth
    · obtain ⟨run, rest, hjoined, hrun⟩ :=
        @joined_eq _ _ _ given before h [] others left last hholds hcompares patience
      obtain ⟨w, hsettle, hw⟩ := ih hrun rest
      refine ⟨w, ?_, hw⟩
      rw [if_pos hdepth, hjoined]
      exact hsettle
    · rw [if_neg hdepth]
      exact ⟨_, rfl, hholds.withDepth depth⟩

/-- One more run waits behind the others. -/
theorem add_eq {w : Waiting α} (hholds : Holds lt given w.runs)
    (hcompares : Compares before lt given) {front : List α} {run : Pending α}
    (hrun : Sorts lt front run.values) (size : Nat) :
    ∃ w', w.add before size run = .ok w' ∧ Holds lt (given ++ front) w'.runs := by
  unfold Waiting.add
  cases hruns : w.runs with
  | nil =>
    rw [hruns] at hholds
    exact ⟨_, rfl, hholds.cons hrun⟩
  | cons last others =>
    rw [hruns] at hholds
    obtain ⟨w', hsettle, hw'⟩ := settle_eq h hholds hcompares w.patience
      (depthOf size (2 * last.start + last.values.length)
        (2 * last.start + last.values.length + last.values.length + run.values.length))
    refine ⟨{ w' with runs := run :: w'.runs }, ?_, hw'.cons hrun⟩
    dsimp only
    rw [hsettle]
    rfl

/-- All the runs that wait become one. -/
theorem merged_eq {runs : List (Pending α)} (hholds : Holds lt given runs)
    (hcompares : Compares before lt given) (patience : Nat) :
    ∃ result, merged before patience runs = .ok result ∧ Sorts lt given result := by
  induction hlength : runs.length using Nat.strongRecOn generalizing runs patience with
  | ind length ih =>
    match runs, hholds, hlength with
    | [], hholds, _ =>
      exact ⟨[], by rw [merged], hholds.rearranges, .nil⟩
    | [run], hholds, _ =>
      have hvalues : waitingValues [run] = run.values := List.append_nil _
      exact ⟨run.values, by rw [merged], hvalues ▸ hholds.rearranges,
        hholds.ascending run List.mem_cons_self⟩
    | [last, middle], hholds, _ =>
      obtain ⟨run, rest, hjoined, hrun⟩ :=
        @joined_eq _ _ _ given before h [] [] middle last hholds hcompares patience
      have hvalues : waitingValues [run] = run.values := List.append_nil _
      refine ⟨run.values, ?_, hvalues ▸ hrun.rearranges, hrun.ascending run List.mem_cons_self⟩
      rw [merged, hjoined]
      rfl
    | last :: middle :: left :: others, hholds, hlength =>
      have hshorter {runs : List (Pending α)} (hruns : runs.length = others.length + 2)
          (hholds : Holds lt given runs) (rest : Nat) :
          ∃ result, merged before rest runs = .ok result ∧ Sorts lt given result := by
        refine ih runs.length ?_ hholds rest rfl
        simp only [List.length_cons] at hlength
        omega
      rw [merged]
      split
      · obtain ⟨run, rest, hjoined, hrun⟩ :=
          @joined_eq _ _ _ given before h [last] others left middle hholds hcompares patience
        rw [hjoined]
        exact hshorter rfl hrun rest
      · obtain ⟨run, rest, hjoined, hrun⟩ :=
          @joined_eq _ _ _ given before h [] (left :: others) middle last hholds hcompares patience
        rw [hjoined]
        exact hshorter rfl hrun rest

/-- All the values are taken into runs. -/
theorem addRuns_eq {values : List α} {w : Waiting α} (hholds : Holds lt given w.runs)
    (hcompares : Compares before lt (given ++ values)) {fuel : Nat} (hfuel : values.length ≤ fuel)
    (size least start : Nat) :
    ∃ w', addRuns before size least fuel start values w = .ok w' ∧
      Holds lt (given ++ values) w'.runs := by
  induction fuel generalizing given values w start with
  | zero =>
    obtain rfl := List.eq_nil_of_length_eq_zero (Nat.le_zero.mp hfuel)
    exact ⟨w, rfl, (List.append_nil given).symm ▸ hholds⟩
  | succ fuel ih =>
    cases values with
    | nil => exact ⟨w, rfl, (List.append_nil given).symm ▸ hholds⟩
    | cons a values =>
      obtain ⟨front, run, rest, hrunOf, hvalues, hrun, hne⟩ :=
        runOf_eq h (hcompares.mono (List.subset_append_right _ _)) least
      have hfront : 0 < front.length := List.length_pos_iff.mpr (hne (List.cons_ne_nil _ _))
      have hrest : rest.length ≤ fuel := by
        have hlength := congrArg List.length hvalues
        simp only [List.length_cons, List.length_append] at hlength hfuel
        omega
      have hgiven : given ++ a :: values = given ++ front ++ rest := by
        rw [hvalues, List.append_assoc]
      rw [hgiven] at hcompares ⊢
      have hpending : Sorts lt front ({ start, values := run } : Pending α).values := hrun
      obtain ⟨w₁, hadd, hw₁⟩ := add_eq h hholds
        (hcompares.mono fun b hb => List.mem_append_left _ (List.mem_append_left _ hb)) hpending
        size
      obtain ⟨w₂, hadds, hw₂⟩ := ih hw₁ hcompares hrest (start + run.length)
      refine ⟨w₂, ?_, hw₂⟩
      unfold addRuns
      rw [hrunOf]
      change (w.add before size { start, values := run } >>= fun _ => _) = _
      rw [hadd]
      exact hadds

/-- Sorting comes to a stable arrangement of the values by their ranks. -/
theorem exists_sortedBy {values : List α} (hcompares : Compares before lt values) :
    ∃ result, sortedBy before values = .ok result ∧ Sorts lt values result := by
  have hempty : Holds lt [] ({} : Waiting α).runs := ⟨.refl [], List.forall_mem_nil _⟩
  obtain ⟨w, hadd, hw⟩ :=
    addRuns_eq h hempty hcompares (Nat.le_refl _) values.length (leastRun values.length) 0
  obtain ⟨result, hmerged, hresult⟩ := merged_eq h hw hcompares w.patience
  refine ⟨result, ?_, hresult⟩
  unfold sortedBy
  dsimp only
  rw [hadd]
  exact hmerged

end

/-- Merging by halves is stable. -/
theorem sorts_mergeSort (h : Ranks lt) (values : List α) :
    Sorts lt values (values.mergeSort fun a b => !lt b a) := by
  have htrans : ∀ a b c, (!lt b a) = true → (!lt c b) = true → (!lt c a) = true := by
    intro a b c hab hbc
    rw [Bool.not_eq_true'] at *
    exact h.trans hab hbc
  have htotal : ∀ a b, (!lt b a || !lt a b) = true := by
    intro a b
    cases hba : lt b a with
    | false => rfl
    | true =>
      rw [h.asymm hba]
      rfl
  refine ⟨⟨List.mergeSort_perm _ _, fun a => ?_⟩,
    (List.pairwise_mergeSort htrans htotal values).imp fun hab => by simpa using hab⟩
  have htied : (values.filter (tied lt a)).Pairwise fun b c => (!lt c b) = true := by
    refine List.pairwise_of_forall_mem_list fun b hb c hc => ?_
    have hbc := tied_of_tied h (List.mem_filter.mp hb).2 (List.mem_filter.mp hc).2
    exact (Bool.and_eq_true_iff.mp hbc).2
  have hsublist :=
    (List.sublist_mergeSort htrans htotal htied List.filter_sublist).filter (tied lt a)
  rw [List.filter_filter] at hsublist
  simp only [Bool.and_self] at hsublist
  exact (hsublist.eq_of_length (((List.mergeSort_perm values _).filter _).length_eq).symm).symm

/-- Where comparisons have no faults and go by ranks, sorting comes to the values in the order of
their ranks, with those of one rank in their own order. -/
theorem sortedBy_eq {before : α → α → Except ε Bool} (h : Ranks lt) {values : List α}
    (hcompares : Compares before lt values) :
    sortedBy before values = .ok (values.mergeSort fun a b => !lt b a) := by
  obtain ⟨result, hsorted, hresult⟩ := exists_sortedBy h hcompares
  rw [hsorted, hresult.unique h (sorts_mergeSort h values)]

end TargetHelp.Sorting
