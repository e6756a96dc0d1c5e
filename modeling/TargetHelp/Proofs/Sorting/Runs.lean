import TargetHelp.Proofs.Sorting.Rearrangement
import TargetHelp.Sorting.Run

/-!
# Searching and runs

Where a test holds of the values in front and of none behind them, both ways to search find how many
are in front, from either end. So a value is put behind those that may stand before it, and a run,
however it has been found, is what stood at its place in the order of ranks.
-/

set_option autoImplicit false
set_option relaxedAutoImplicit false

namespace TargetHelp.Sorting

variable {α ε : Type}

/-! ### Searching -/

section Search

variable {isReversed : Bool} {test : α → Except ε Bool} {front back : List α}
  (hfront : ∀ a ∈ front, test a = .ok true) (hback : ∀ a ∈ back, test a = .ok false)
include hfront hback

theorem exists_test {place : Nat} (h : place < (front ++ back).length) :
    ∃ a, (front ++ back).toArray[place]? = some a ∧
      test a = .ok (decide (place < front.length)) := by
  refine ⟨(front ++ back)[place], by simp, ?_⟩
  by_cases hplace : place < front.length
  · rw [List.getElem_append_left hplace, decide_eq_true hplace]
    exact hfront _ (List.getElem_mem hplace)
  · rw [List.getElem_append_right (Nat.le_of_not_lt hplace), decide_eq_false hplace]
    exact hback _ (List.getElem_mem _)

theorem halve_eq {low high : Nat} (hlow : low ≤ front.length) (hhigh : front.length ≤ high)
    (hsize : high ≤ (front ++ back).length) :
    halve isReversed test (front ++ back).toArray low high = .ok front.length := by
  induction hgap : high - low using Nat.strongRecOn generalizing low high with
  | ind gap ih =>
    unfold halve
    by_cases hlt : low < high
    · have hmiddle := @middle_lt isReversed _ (Nat.sub_pos_of_lt hlt)
      obtain ⟨a, ha, htest⟩ :=
        @exists_test _ _ test front back hfront hback (low + middle isReversed (high - low))
          (by omega)
      rw [dif_pos hlt]
      dsimp only
      rw [ha]
      dsimp only
      rw [htest]
      by_cases hplace : low + middle isReversed (high - low) < front.length
      · rw [decide_eq_true hplace]
        exact ih (high - (low + middle isReversed (high - low) + 1)) (by omega) (by omega) hhigh
          hsize rfl
      · rw [decide_eq_false hplace]
        exact ih (low + middle isReversed (high - low) - low) (by omega) hlow (by omega) (by omega)
          rfl
    · rw [dif_neg hlt]
      exact congrArg Except.ok (by omega)

theorem stride_eq {last next : Nat} (hlast : last < front.length) (hnext : last < next) :
    stride isReversed test (front ++ back).toArray last next = .ok front.length := by
  induction hgap : (front ++ back).length - next using Nat.strongRecOn
    generalizing last next with
  | ind gap ih =>
    have hlength : front.length ≤ (front ++ back).length := by simp
    unfold stride
    by_cases hsize : next < (front ++ back).length
    · obtain ⟨a, ha, htest⟩ := exists_test hfront hback hsize
      split
      · rename_i hnone
        cases hnone.symm.trans ha
      · rename_i found hfound
        obtain rfl := Option.some.inj (hfound.symm.trans ha)
        rw [htest]
        by_cases hplace : next < front.length
        · rw [decide_eq_true hplace]
          exact ih ((front ++ back).length - (2 * next + 1)) (by omega) hplace (by omega) rfl
        · rw [decide_eq_false hplace]
          exact halve_eq hfront hback hlast (by omega) (by omega)
    · split
      · exact halve_eq hfront hback hlast hlength (by simp)
      · rename_i found hfound
        obtain ⟨hin, -⟩ := Array.getElem?_eq_some_iff.mp hfound
        exact absurd (by simpa using hin) hsize

/-- Searching finds how many values the test holds of. -/
theorem countNear_eq : countNear isReversed test (front ++ back) = .ok front.length := by
  cases front with
  | nil =>
    cases back with
    | nil => rfl
    | cons b back =>
      have htest : test b = .ok false := hback b List.mem_cons_self
      change (do if ← test b then _ else return 0) = _
      rw [htest]
      rfl
  | cons a front =>
    have htest : test a = .ok true := hfront a List.mem_cons_self
    change (test a >>= fun _ => _) = _
    rw [htest]
    exact stride_eq hfront hback (by simp) (by omega)

end Search

/-- A list whose values pass less and less has those in front that pass. -/
theorem exists_split {passes : α → Bool} {values : List α}
    (h : values.Pairwise fun a b => passes b = true → passes a = true) :
    ∃ front back, values = front ++ back ∧ (∀ a ∈ front, passes a = true) ∧
      ∀ a ∈ back, passes a = false := by
  induction values with
  | nil => exact ⟨[], [], rfl, List.forall_mem_nil _, List.forall_mem_nil _⟩
  | cons a values ih =>
    obtain ⟨ha, hvalues⟩ := List.pairwise_cons.mp h
    cases hpasses : passes a with
    | true =>
      obtain ⟨front, back, rfl, hfront, hback⟩ := ih hvalues
      exact ⟨a :: front, back, rfl, List.forall_mem_cons.mpr ⟨hpasses, hfront⟩, hback⟩
    | false =>
      refine ⟨[], a :: values, rfl, List.forall_mem_nil _, List.forall_mem_cons.mpr ⟨hpasses, ?_⟩⟩
      exact fun b hb => Bool.eq_false_iff.mpr fun hb' => Bool.eq_false_iff.mp hpasses (ha b hb hb')

/-- Searching finds those in front that pass, where the test tells what passes. -/
theorem exists_countNear {isReversed : Bool} {test : α → Except ε Bool} {passes : α → Bool}
    {values : List α} (h : values.Pairwise fun a b => passes b = true → passes a = true)
    (htest : ∀ a ∈ values, test a = .ok (passes a)) :
    ∃ front back, values = front ++ back ∧ (∀ a ∈ front, passes a = true) ∧
      (∀ a ∈ back, passes a = false) ∧ countNear isReversed test values = .ok front.length := by
  obtain ⟨front, back, rfl, hfront, hback⟩ := exists_split h
  refine ⟨front, back, rfl, hfront, hback, countNear_eq (fun a ha => ?_) (fun a ha => ?_)⟩
  · rw [htest a (List.mem_append_left _ ha), hfront a ha]
  · rw [htest a (List.mem_append_right _ ha), hback a ha]

/-! ### Comparisons -/

/-- The comparisons of some values have no faults and go by their ranks. -/
def Compares (before : α → α → Except ε Bool) (lt : α → α → Bool) (values : List α) : Prop :=
  ∀ a ∈ values, ∀ b ∈ values, before a b = .ok (lt a b)

variable {before : α → α → Except ε Bool} {lt : α → α → Bool}

theorem Compares.mono {values others : List α} (h : Compares before lt values)
    (hsubset : others ⊆ values) : Compares before lt others :=
  fun a ha b hb => h a (hsubset ha) b (hsubset hb)

theorem staysBefore_eq {a b : α} (h : before b a = .ok (lt b a)) :
    staysBefore before b a = .ok (!lt b a) := by
  unfold staysBefore
  rw [h]
  rfl

/-! ### Runs -/

section Runs

variable (h : Ranks lt)
include h

theorem rising_eq {last : α} {values : List α} (hcompares : Compares before lt (last :: values)) :
    ∃ run rest, rising before last values = .ok (run, rest) ∧ values = run ++ rest ∧
      Ascending lt (last :: run) := by
  induction values generalizing last with
  | nil => exact ⟨[], [], rfl, rfl, List.pairwise_singleton _ _⟩
  | cons a values ih =>
    have hbefore : before a last = .ok (lt a last) :=
      hcompares a (List.mem_cons_of_mem _ List.mem_cons_self) last List.mem_cons_self
    unfold rising
    rw [hbefore]
    cases hlt : lt a last with
    | true => exact ⟨[], a :: values, rfl, rfl, List.pairwise_singleton _ _⟩
    | false =>
      obtain ⟨run, rest, hrising, rfl, hrun⟩ := ih (hcompares.mono (List.subset_cons_self _ _))
      have hlast : ∀ b ∈ a :: run, lt b last = false := fun b hb => h.trans hlt (hrun.head_le h hb)
      refine ⟨a :: run, rest, ?_, rfl, List.pairwise_cons.mpr ⟨hlast, hrun⟩⟩
      change (rising before a _ >>= fun _ => _) = _
      rw [hrising]
      rfl

theorem falling_eq {turned : List α} {last : α} {values : List α}
    (hcompares : Compares before lt (last :: values)) :
    ∃ more rest, falling before turned last values = .ok (more ++ turned, rest) ∧
      values = more.reverse ++ rest ∧ (more ++ [last]).Pairwise fun a b => lt a b = true := by
  induction values generalizing turned last with
  | nil => exact ⟨[], [], rfl, rfl, List.pairwise_singleton _ _⟩
  | cons a values ih =>
    have hbefore : before a last = .ok (lt a last) :=
      hcompares a (List.mem_cons_of_mem _ List.mem_cons_self) last List.mem_cons_self
    unfold falling
    rw [hbefore]
    cases hlt : lt a last with
    | false => exact ⟨[], a :: values, rfl, rfl, List.pairwise_singleton _ _⟩
    | true =>
      obtain ⟨more, rest, hfalling, rfl, hmore⟩ :=
        @ih (a :: turned) a (hcompares.mono (List.subset_cons_self _ _))
      have hbelow : ∀ b ∈ more ++ [a], lt b last = true := by
        intro b hb
        rcases List.mem_append.mp hb with hb | hb
        · have hba : lt b a = true :=
            (List.pairwise_append.mp hmore).2.2 b hb a (List.mem_singleton.mpr rfl)
          exact h.lt_of_lt_of_le hba (h.asymm hlt)
        · exact List.mem_singleton.mp hb ▸ hlt
      refine ⟨more ++ [a], rest, ?_, by simp, List.pairwise_append.mpr
        ⟨hmore, List.pairwise_singleton _ _, fun b hb c hc => ?_⟩⟩
      · rw [List.append_assoc]
        exact hfalling
      · exact List.mem_singleton.mp hc ▸ hbelow b hb

/-- The first run is what stood in front, in order. -/
theorem firstRun_eq {values : List α} (hcompares : Compares before lt values) :
    ∃ front run rest, firstRun before values = .ok (run, rest) ∧ values = front ++ rest ∧
      Sorts lt front run ∧ (values ≠ [] → front ≠ []) := by
  match values, hcompares with
  | [], _ =>
    exact ⟨[], [], [], rfl, rfl, ⟨.refl [], List.Pairwise.nil⟩, fun hne => hne⟩
  | [a], _ =>
    exact ⟨[a], [a], [], rfl, rfl, ⟨.refl [a], List.pairwise_singleton _ _⟩, fun hne => hne⟩
  | a :: b :: values, hcompares =>
    have hbefore : before b a = .ok (lt b a) :=
      hcompares b (List.mem_cons_of_mem _ List.mem_cons_self) a List.mem_cons_self
    have hrest : Compares before lt (b :: values) := hcompares.mono (List.subset_cons_self _ _)
    unfold firstRun
    dsimp only
    rw [hbefore]
    cases hlt : lt b a with
    | true =>
      obtain ⟨more, rest, hfalling, rfl, hmore⟩ := @falling_eq _ _ before lt h [b, a] b values hrest
      have hrises : (more ++ [b] ++ [a]).Pairwise fun c d => lt c d = true := by
        refine List.pairwise_append.mpr ⟨hmore, List.pairwise_singleton _ _, fun c hc d hd => ?_⟩
        obtain rfl := List.mem_singleton.mp hd
        rcases List.mem_append.mp hc with hc | hc
        · have hcb : lt c b = true :=
            (List.pairwise_append.mp hmore).2.2 c hc b (List.mem_singleton.mpr rfl)
          exact h.lt_of_lt_of_le hcb (h.asymm hlt)
        · exact List.mem_singleton.mp hc ▸ hlt
      have hsorts := Sorts.of_reverse h hrises
      refine ⟨(more ++ [b] ++ [a]).reverse, more ++ [b] ++ [a], rest, ?_, by simp, hsorts, by simp⟩
      rw [List.append_assoc]
      exact hfalling
    | false =>
      obtain ⟨run, rest, hrising, rfl, hrun⟩ := rising_eq h hrest
      have hascending : Ascending lt (a :: b :: run) :=
        List.pairwise_cons.mpr ⟨fun c hc => h.trans hlt (hrun.head_le h hc), hrun⟩
      refine ⟨a :: b :: run, a :: b :: run, rest, ?_, rfl, ⟨.refl _, hascending⟩, by simp⟩
      change (rising before b _ >>= fun _ => _) = _
      rw [hrising]
      rfl

/-- A value is put behind those that may stand before it. -/
theorem insertSorted_eq {run : List α} {a : α} (hrun : Ascending lt run)
    (hcompares : Compares before lt (run ++ [a])) :
    ∃ result, insertSorted before run a = .ok result ∧ Sorts lt (run ++ [a]) result := by
  have hpasses : run.Pairwise fun b c => (!lt a c) = true → (!lt a b) = true :=
    hrun.imp fun hbc hc => by
      rw [Bool.not_eq_true'] at hc ⊢
      exact h.trans hbc hc
  have htest : ∀ b ∈ run, staysBefore before a b = .ok (!lt a b) := fun b hb =>
    staysBefore_eq (hcompares a (by simp) b (List.mem_append_left _ hb))
  obtain ⟨front, back, rfl, hfront, hback⟩ := exists_split hpasses
  have hplace : halve false (staysBefore before a) (front ++ back).toArray 0
      (front ++ back).length = .ok front.length := by
    refine halve_eq (fun b hb => ?_) (fun b hb => ?_) (Nat.zero_le _) (by simp) (Nat.le_refl _)
    · rw [htest b (List.mem_append_left _ hb), hfront b hb]
    · rw [htest b (List.mem_append_right _ hb), hback b hb]
  have hbelow : ∀ b ∈ back, lt a b = true := fun b hb => by simpa using hback b hb
  obtain ⟨hfrontRun, hbackRun, hcross⟩ := List.pairwise_append.mp hrun
  refine ⟨front ++ a :: back, ?_, ?_, List.pairwise_append.mpr
    ⟨hfrontRun, List.pairwise_cons.mpr ⟨fun b hb => h.asymm (hbelow b hb), hbackRun⟩, ?_⟩⟩
  · unfold insertSorted
    rw [hplace]
    change Except.ok (List.take front.length (front ++ back) ++
      a :: List.drop front.length (front ++ back)) = _
    rw [List.take_left, List.drop_left]
  · rw [List.append_assoc]
    refine (Rearranges.refl front).append (Rearranges.swap_of_lt h fun b hb c hc => ?_)
    exact List.mem_singleton.mp hc ▸ hbelow b hb
  · intro b hb c hc
    rcases List.mem_cons.mp hc with rfl | hc
    · simpa using hfront b hb
    · exact hcross b hb c hc

theorem foldlM_insertSorted_eq {given run values : List α} (hrun : Sorts lt given run)
    (hcompares : Compares before lt (given ++ values)) :
    ∃ result, values.foldlM (insertSorted before) run = .ok result ∧
      Sorts lt (given ++ values) result := by
  induction values generalizing given run with
  | nil => exact ⟨run, rfl, (List.append_nil given).symm ▸ hrun⟩
  | cons a values ih =>
    have hsubset : run ++ [a] ⊆ given ++ a :: values := by
      intro b hb
      rcases List.mem_append.mp hb with hb | hb
      · exact List.mem_append_left _ (hrun.perm.mem_iff.mp hb)
      · exact List.mem_append_right _ (List.mem_singleton.mp hb ▸ List.mem_cons_self)
    obtain ⟨longer, hinsert, hlonger⟩ :=
      insertSorted_eq h hrun.ascending (hcompares.mono hsubset)
    have hgiven : Sorts lt (given ++ [a]) longer :=
      ⟨(hrun.toRearranges.append (.refl [a])).trans hlonger.toRearranges, hlonger.ascending⟩
    have hassoc : given ++ [a] ++ values = given ++ a :: values := by simp
    obtain ⟨result, hfold, hresult⟩ := ih hgiven (hassoc ▸ hcompares)
    refine ⟨result, ?_, hassoc ▸ hresult⟩
    rw [List.foldlM_cons, hinsert]
    exact hfold

/-- A run that is made longer is what stood in front, in order. -/
theorem runOf_eq {values : List α} (hcompares : Compares before lt values) (least : Nat) :
    ∃ front run rest, runOf before least values = .ok (run, rest) ∧ values = front ++ rest ∧
      Sorts lt front run ∧ (values ≠ [] → front ≠ []) := by
  obtain ⟨front, run, rest, hfirst, rfl, hrun, hne⟩ := firstRun_eq h hcompares
  have hsubset : front ++ rest.take (least - run.length) ⊆ front ++ rest := fun a ha =>
    (List.mem_append.mp ha).elim (List.mem_append_left _) fun hmore =>
      List.mem_append_right _ (List.mem_of_mem_take hmore)
  obtain ⟨result, hfold, hresult⟩ := foldlM_insertSorted_eq h hrun (hcompares.mono hsubset)
  refine ⟨front ++ rest.take (least - run.length), result, rest.drop (least - run.length), ?_,
    by simp, hresult, fun hvalues hnil => hne hvalues (List.append_eq_nil_iff.mp hnil).1⟩
  unfold runOf
  rw [hfirst]
  change ((rest.take (least - run.length)).foldlM (insertSorted before) run >>= fun _ => _) = _
  rw [hfold]
  rfl

end Runs

end TargetHelp.Sorting
