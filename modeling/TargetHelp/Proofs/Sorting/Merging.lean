import TargetHelp.Proofs.Sorting.Runs
import TargetHelp.Sorting.Merge

/-!
# Merging

Merging from the back is merging from the front in the order from the other end, so one invariant
serves for both: what has been merged is in order and below the rest, both runs are in order, and
the last value that is kept aside is above all of the other run. Whatever is taken from one of the
runs, a value or a stretch, is not above the other, and strictly below it if it comes from the one
that is moved.
-/

set_option autoImplicit false
set_option relaxedAutoImplicit false

namespace TargetHelp.Sorting

variable {α ε : Type} {lt : α → α → Bool}

namespace Merging

/-- How many values are left to be merged. -/
def size (m : Merging α) : Nat := m.kept.length + m.moved.length

/-- A state of merging some values. -/
structure Holds (lt : α → α → Bool) (given : List α) (m : Merging α) : Prop where
  rearranges : Rearranges lt given (m.merged.reverse ++ (m.kept ++ m.moved))
  merged : Ascending lt m.merged.reverse
  above : ∀ a ∈ m.merged, ∀ b ∈ m.kept ++ m.moved, lt b a = false
  kept : Ascending lt m.kept
  moved : Ascending lt m.moved
  last : ∃ k, m.kept.getLast? = some k ∧ ∀ a ∈ m.moved, lt a k = true

namespace Holds

variable {given : List α} {m : Merging α}

theorem withPatience (h : Holds lt given m) (patience : Nat) :
    Holds lt given { m with patience } :=
  ⟨h.rearranges, h.merged, h.above, h.kept, h.moved, h.last⟩

theorem mem_given (h : Holds lt given m) {a : α} (ha : a ∈ m.kept ++ m.moved) : a ∈ given :=
  h.rearranges.perm.mem_iff.mp (List.mem_append_right _ ha)

/-- More that is not above what remains is merged in order. -/
theorem merged_append (h : Holds lt given m) {more : List α} (hmore : Ascending lt more)
    (hsubset : more ⊆ m.kept ++ m.moved) : Ascending lt (more.reverse ++ m.merged).reverse := by
  rw [List.reverse_append, List.reverse_reverse]
  exact List.pairwise_append.mpr ⟨h.merged, hmore, fun a ha b hb =>
    h.above a (List.mem_reverse.mp ha) b (hsubset hb)⟩

section Take

variable {front back : List α}

/-- A stretch that is kept aside is taken if it is not above the other run, and not all there is. -/
theorem takeKept (h : Holds lt given m) (hkept : m.kept = front ++ back) (hback : back ≠ [])
    (hbelow : ∀ k ∈ front, ∀ a ∈ m.moved, lt a k = false) :
    Holds lt given (m.takeKept front.length) := by
  have htaken : m.takeKept front.length =
      { m with merged := front.reverse ++ m.merged, kept := back } := by
    unfold Merging.takeKept
    rw [hkept, List.take_left, List.drop_left]
  obtain ⟨hfrontRun, hbackRun, hcross⟩ := List.pairwise_append.mp (hkept ▸ h.kept)
  have hfront : front ⊆ m.kept ++ m.moved := fun k hk =>
    List.mem_append_left _ (hkept ▸ List.mem_append_left back hk)
  obtain ⟨k, hk, hmoved⟩ := h.last
  rw [htaken]
  refine ⟨?_, h.merged_append hfrontRun hfront, ?_, hbackRun, h.moved, k, ?_, hmoved⟩
  · have hsame : (front.reverse ++ m.merged).reverse ++ (back ++ m.moved) =
        m.merged.reverse ++ (m.kept ++ m.moved) := by simp [hkept]
    exact hsame ▸ h.rearranges
  · intro a ha b hb
    rcases List.mem_append.mp ha with ha | ha
    · have ha := List.mem_reverse.mp ha
      rcases List.mem_append.mp hb with hb | hb
      · exact hcross a ha b hb
      · exact hbelow a ha b hb
    · refine h.above a ha b ?_
      rw [hkept, List.append_assoc]
      exact List.mem_append_right _ hb
  · rw [hkept, List.getLast?_append_of_ne_nil _ hback] at hk
    exact hk

/-- A stretch of the other run is taken if it is below all that is kept aside. -/
theorem takeMoved (h : Holds lt given m) (hranks : Ranks lt) (hmoved : m.moved = front ++ back)
    (hbelow : ∀ a ∈ front, ∀ k ∈ m.kept, lt a k = true) :
    Holds lt given (m.takeMoved front.length) := by
  have htaken : m.takeMoved front.length =
      { m with merged := front.reverse ++ m.merged, moved := back } := by
    unfold Merging.takeMoved
    rw [hmoved, List.take_left, List.drop_left]
  obtain ⟨hfrontRun, hbackRun, hcross⟩ := List.pairwise_append.mp (hmoved ▸ h.moved)
  have hfront : front ⊆ m.kept ++ m.moved := fun a ha =>
    List.mem_append_right _ (hmoved ▸ List.mem_append_left back ha)
  obtain ⟨k, hk, hlast⟩ := h.last
  rw [htaken]
  refine ⟨?_, h.merged_append hfrontRun hfront, ?_, h.kept, hbackRun, k, hk, ?_⟩
  · have hswap : Rearranges lt (m.kept ++ front) (front ++ m.kept) :=
      Rearranges.swap_of_lt hranks fun k hk a ha => hbelow a ha k hk
    have hinner := (Rearranges.refl m.merged.reverse).append (hswap.append (.refl back))
    rw [List.append_assoc m.kept, ← hmoved] at hinner
    have hsame : (front.reverse ++ m.merged).reverse ++ (m.kept ++ back) =
        m.merged.reverse ++ (front ++ m.kept ++ back) := by simp
    exact hsame ▸ h.rearranges.trans hinner
  · intro a ha b hb
    rcases List.mem_append.mp ha with ha | ha
    · have ha := List.mem_reverse.mp ha
      rcases List.mem_append.mp hb with hb | hb
      · exact hranks.asymm (hbelow a ha b hb)
      · exact hcross a ha b hb
    · refine h.above a ha b ?_
      rcases List.mem_append.mp hb with hb | hb
      · exact List.mem_append_left _ hb
      · exact List.mem_append_right _ (hmoved ▸ List.mem_append_right front hb)
  · exact fun a ha => hlast a (hmoved ▸ List.mem_append_right front ha)

end Take

/-- What has been merged is sorted when no order is left open. -/
theorem sorts (h : Holds lt given m) (hranks : Ranks lt) (hdone : m.isDone = true) :
    Sorts lt given m.values.reverse := by
  obtain ⟨last, hlast, hmoved⟩ := h.last
  have hbelow : ∀ k ∈ m.kept, ∀ a ∈ m.moved, lt a k = true := by
    rcases Bool.or_eq_true_iff.mp hdone with hempty | hone
    · rw [List.isEmpty_iff.mp hempty]
      exact fun _ _ _ ha => absurd ha List.not_mem_nil
    · have hone := of_decide_eq_true hone
      match hkept : m.kept, hlast with
      | [k], hlast =>
        obtain rfl : k = last := Option.some.inj hlast
        exact List.forall_mem_singleton.mpr hmoved
      | _ :: _ :: _, _ =>
        rw [hkept] at hone
        simp at hone
  have hvalues : m.values.reverse = m.merged.reverse ++ (m.moved ++ m.kept) := by
    unfold values
    simp
  rw [hvalues]
  refine ⟨h.rearranges.trans ((Rearranges.refl _).append (.swap_of_lt hranks hbelow)),
    List.pairwise_append.mpr ⟨h.merged, List.pairwise_append.mpr
      ⟨h.moved, h.kept, fun a ha k hk => hranks.asymm (hbelow k hk a ha)⟩, fun a ha b hb => ?_⟩⟩
  exact h.above a (List.mem_reverse.mp ha) b (List.mem_append.mpr (List.mem_append.mp hb).symm)

end Holds

/-! ### Stretches -/

/-- A round goes on with the same merging, and leaves less of it unless no order is open. -/
def Advances {β : Type} (lt : α → α → Bool) (given : List α) (m : Merging α)
    (result : Except ε (β × Merging α)) : Prop :=
  ∃ b m', result = .ok (b, m') ∧ Holds lt given m' ∧ (m'.isDone = true ∨ m'.size < m.size)

section Stretches

variable {isReversed : Bool} {before : α → α → Except ε Bool} {given : List α} {m : Merging α}

theorem Holds.goesFirst_eq (h : Holds lt given m)
    (hcompares : Compares (goesFirst isReversed before) lt given) {a k : α} (ha : a ∈ m.moved)
    (hk : k ∈ m.kept) : goesFirst isReversed before a k = .ok (lt a k) :=
  hcompares a (h.mem_given (List.mem_append_right _ ha)) k
    (h.mem_given (List.mem_append_left _ hk))

variable (hranks : Ranks lt) (hcompares : Compares (goesFirst isReversed before) lt given)
  (h : Holds lt given m)
include hranks hcompares h

/-- A stretch of the run that is kept aside, and one value of the other. -/
theorem advances_keptStretch : Advances lt given m (keptStretch isReversed before m) := by
  unfold keptStretch
  cases hmoved : m.moved with
  | nil =>
    refine ⟨0, m, rfl, h, Or.inl ?_⟩
    unfold isDone
    rw [hmoved]
    rfl
  | cons a rest =>
    have ha : a ∈ m.moved := hmoved ▸ List.mem_cons_self
    have hpasses : m.kept.Pairwise fun k l => (!lt a l) = true → (!lt a k) = true :=
      h.kept.imp fun hkl hl => by
        rw [Bool.not_eq_true'] at hl ⊢
        exact hranks.trans hkl hl
    have htest : ∀ k ∈ m.kept,
        (do return !(← goesFirst isReversed before a k)) = (.ok (!lt a k) : Except ε Bool) :=
      fun k hk => by
        rw [h.goesFirst_eq hcompares ha hk]
        rfl
    obtain ⟨front, back, hkept, hfront, hback, hcount⟩ :=
      @exists_countNear _ _ isReversed _ _ _ hpasses htest
    have hne : back ≠ [] := by
      rintro rfl
      obtain ⟨k, hk, hlast⟩ := h.last
      have hin : k ∈ front := by
        rw [← List.append_nil front, ← hkept]
        exact List.mem_of_getLast? hk
      have hnot := hfront k hin
      rw [hlast a ha] at hnot
      cases hnot
    have htaken : Holds lt given (m.takeKept front.length) := by
      refine h.takeKept hkept hne fun k hk b hb => hranks.trans ?_ ((hmoved ▸ h.moved).head_le
        hranks (hmoved ▸ hb))
      simpa using hfront k hk
    refine ⟨front.length, _, by dsimp only; rw [hcount]; rfl, ?_⟩
    by_cases hdone : (m.takeKept front.length).isDone = true
    · rw [if_pos hdone]
      exact ⟨htaken, Or.inl hdone⟩
    · rw [if_neg hdone]
      have hfirst : (m.takeKept front.length).moved = [a] ++ rest := hmoved
      refine ⟨htaken.takeMoved hranks hfirst fun b hb k hk => ?_, Or.inr ?_⟩
      · obtain rfl := List.mem_singleton.mp hb
        have hin : k ∈ back := by
          have hdrop : (m.takeKept front.length).kept = back := by
            unfold takeKept
            rw [hkept, List.drop_left]
          exact hdrop ▸ hk
        simpa using hback k hin
      · simp only [size, takeKept, takeMoved, List.length_drop, hmoved, List.length_cons]
        omega

/-- A stretch of the run that is moved, and one value that was kept aside. -/
theorem advances_movedStretch : Advances lt given m (movedStretch isReversed before m) := by
  unfold movedStretch
  cases hkept : m.kept with
  | nil =>
    obtain ⟨k, hk, -⟩ := h.last
    rw [hkept] at hk
    cases hk
  | cons k rest =>
    have hk : k ∈ m.kept := hkept ▸ List.mem_cons_self
    have hpasses : m.moved.Pairwise fun a b => lt b k = true → lt a k = true :=
      h.moved.imp fun hab hb => hranks.lt_of_le_of_lt hab hb
    have htest : ∀ a ∈ m.moved, goesFirst isReversed before a k = .ok (lt a k) :=
      fun a ha => h.goesFirst_eq hcompares ha hk
    obtain ⟨front, back, hmoved, hfront, hback, hcount⟩ :=
      @exists_countNear _ _ isReversed _ _ _ hpasses htest
    have htaken : Holds lt given (m.takeMoved front.length) := by
      refine h.takeMoved hranks hmoved fun a ha l hl => ?_
      exact hranks.lt_of_lt_of_le (hfront a ha) ((hkept ▸ h.kept).head_le hranks (hkept ▸ hl))
    refine ⟨front.length, _, by dsimp only; rw [hcount]; rfl, ?_⟩
    by_cases hdone : (m.takeMoved front.length).isDone = true
    · rw [if_pos hdone]
      exact ⟨htaken, Or.inl hdone⟩
    · rw [if_neg hdone]
      have hfirst : (m.takeMoved front.length).kept = [k] ++ rest := hkept
      have hne : rest ≠ [] := by
        rintro rfl
        refine hdone (Bool.or_eq_true_iff.mpr (Or.inr (decide_eq_true ?_)))
        rw [hfirst]
        exact Nat.le_refl 1
      refine ⟨htaken.takeKept hfirst hne fun l hl a ha => ?_, Or.inr ?_⟩
      · obtain rfl := List.mem_singleton.mp hl
        have hin : a ∈ back := by
          have hdrop : (m.takeMoved front.length).moved = back := by
            unfold takeMoved
            rw [hmoved, List.drop_left]
          exact hdrop ▸ ha
        exact hback a hin
      · simp only [size, takeKept, takeMoved, List.length_drop, hkept, List.length_cons]
        omega

/-- A stretch of each run, in either order. -/
theorem advances_stretches : Advances lt given m (stretches isReversed before m) := by
  obtain ⟨first, second, hpair, hfirst, hsecond⟩ : ∃ first second : Merging α → Except ε _,
      (if isReversed = true then (movedStretch isReversed before, keptStretch isReversed before)
        else (keptStretch isReversed before, movedStretch isReversed before)) = (first, second) ∧
      (∀ m, Holds lt given m → Advances lt given m (first m)) ∧
      ∀ m, Holds lt given m → Advances lt given m (second m) := by
    cases isReversed with
    | false =>
      exact ⟨_, _, rfl, fun _ hm => advances_keptStretch hranks hcompares hm,
        fun _ hm => advances_movedStretch hranks hcompares hm⟩
    | true =>
      exact ⟨_, _, rfl, fun _ hm => advances_movedStretch hranks hcompares hm,
        fun _ hm => advances_keptStretch hranks hcompares hm⟩
  obtain ⟨count, m₁, heq₁, hm₁, hless₁⟩ := hfirst m h
  unfold stretches
  rw [hpair]
  dsimp only
  rw [heq₁]
  by_cases hdone : m₁.isDone = true
  · exact ⟨false, m₁, if_pos hdone, hm₁, Or.inl hdone⟩
  · obtain ⟨other, m₂, heq₂, hm₂, hless₂⟩ := hsecond m₁ hm₁
    have hless := hless₁.resolve_left hdone
    refine ⟨decide (longStretch ≤ count) || decide (longStretch ≤ other), m₂, ?_, hm₂,
      hless₂.imp_right fun hlt => Nat.lt_trans hlt hless⟩
    refine (if_neg hdone).trans ?_
    rw [heq₂]
    rfl

end Stretches

/-! ### Merging to the end -/

section Rest

variable {isReversed : Bool} {before : α → α → Except ε Bool} {given : List α} {m : Merging α}

theorem isDone_or_open (m : Merging α) : m.isDone = true ∨
    ∃ a rest k l others, m.moved = a :: rest ∧ m.kept = k :: l :: others := by
  unfold isDone
  cases m.moved with
  | nil => exact Or.inl rfl
  | cons a rest =>
    match m.kept with
    | [] => exact Or.inl rfl
    | [_] => exact Or.inl rfl
    | k :: l :: others => exact Or.inr ⟨a, rest, k, l, others, rfl, rfl⟩

theorem mergeRest_of_isDone (h : m.isDone = true) (fuel : Nat) (pace : Pace) :
    mergeRest isReversed before fuel pace m = .ok m := by
  unfold mergeRest
  split
  · rename_i a rest k l others hmoved hkept
    unfold isDone at h
    rw [hmoved, hkept] at h
    cases h
  · rfl

/-- Merging goes on until no order is open. -/
theorem mergeRest_eq (hranks : Ranks lt)
    (hcompares : Compares (goesFirst isReversed before) lt given) (h : Holds lt given m)
    {fuel : Nat} (hfuel : m.size ≤ fuel) (pace : Pace) :
    ∃ m', mergeRest isReversed before fuel pace m = .ok m' ∧ Holds lt given m' ∧
      m'.isDone = true := by
  induction fuel generalizing m pace with
  | zero =>
    obtain ⟨k, hk, -⟩ := h.last
    have hkept : m.kept = [] := List.eq_nil_of_length_eq_zero (by unfold size at hfuel; omega)
    rw [hkept] at hk
    cases hk
  | succ fuel ih =>
    rcases isDone_or_open m with hdone | ⟨a, rest, k, l, others, hmoved, hkept⟩
    · exact ⟨m, mergeRest_of_isDone hdone _ pace, h, hdone⟩
    have ha : a ∈ m.moved := hmoved ▸ List.mem_cons_self
    have hk : k ∈ m.kept := hkept ▸ List.mem_cons_self
    unfold mergeRest
    rw [hmoved, hkept]
    cases pace with
    | single ofMoved count =>
      dsimp only
      rw [h.goesFirst_eq hcompares ha hk]
      refine ih ?_ ?_ _
      · cases hlt : lt a k with
        | true =>
          have hfirst : m.moved = [a] ++ rest := hmoved
          refine h.takeMoved hranks hfirst fun b hb l hl => ?_
          obtain rfl := List.mem_singleton.mp hb
          exact hranks.lt_of_lt_of_le hlt ((hkept ▸ h.kept).head_le hranks (hkept ▸ hl))
        | false =>
          have hfirst : m.kept = [k] ++ l :: others := hkept
          refine h.takeKept hfirst (List.cons_ne_nil _ _) fun l hl b hb => ?_
          obtain rfl := List.mem_singleton.mp hl
          exact hranks.trans hlt ((hmoved ▸ h.moved).head_le hranks (hmoved ▸ hb))
      · unfold size at hfuel ⊢
        split
        · simp only [takeMoved, List.length_drop, hmoved, List.length_cons] at hfuel ⊢
          omega
        · simp only [takeKept, List.length_drop, hkept, List.length_cons] at hfuel ⊢
          omega
    | stretches isFirst =>
      obtain ⟨isLong, m', heq, hm', hless⟩ := advances_stretches hranks hcompares
        (h.withPatience (if isFirst = true then m.patience else max 1 (m.patience - 1)))
      rw [hmoved, hkept] at heq
      dsimp only
      rw [heq]
      by_cases hdone : m'.isDone = true
      · exact ⟨m', if_pos hdone, hm', hdone⟩
      · have hsize : m'.size ≤ fuel :=
          Nat.le_of_lt_succ (Nat.lt_of_lt_of_le (hless.resolve_left hdone) hfuel)
        change ∃ m'', (if m'.isDone = true then _ else if isLong = true then _ else _) = _ ∧ _
        rw [if_neg hdone]
        split
        · exact ih hm' hsize _
        · exact ih (hm'.withPatience (m'.patience + 1)) hsize _

/-- Two runs are merged, of which the second begins below the first and ends below its last
value. -/
theorem exists_merged (hranks : Ranks lt) {kept rest : List α} {a k : α}
    (hcompares : Compares (goesFirst isReversed before) lt (kept ++ a :: rest))
    (hkept : Ascending lt kept) (hmoved : Ascending lt (a :: rest)) (hk : kept.getLast? = some k)
    (hlast : ∀ b ∈ a :: rest, lt b k = true) (hfirst : ∀ l ∈ kept, lt a l = true) {fuel : Nat}
    (hfuel : kept.length + rest.length ≤ fuel) (pace : Pace) (patience : Nat) :
    let m : Merging α := { merged := [], kept, moved := a :: rest, patience }
    ∃ m', mergeRest isReversed before fuel pace (m.takeMoved 1) = .ok m' ∧
      Sorts lt (kept ++ a :: rest) m'.values.reverse := by
  intro m
  have hbegun : Holds lt (kept ++ a :: rest) m :=
    ⟨.refl _, .nil, List.forall_mem_nil _, hkept, hmoved, k, hk, hlast⟩
  have hhead : m.moved = [a] ++ rest := rfl
  have htaken : Holds lt (kept ++ a :: rest) (m.takeMoved 1) :=
    hbegun.takeMoved hranks hhead (List.forall_mem_singleton.mpr hfirst)
  obtain ⟨m', heq, hm', hdone⟩ := mergeRest_eq hranks hcompares htaken hfuel pace
  exact ⟨m', heq, hm'.sorts hranks hdone⟩

end Rest

end Merging

section Runs

variable {before : α → α → Except ε Bool} (h : Ranks lt)
include h

/-- Runs that overlap are merged from whichever side. -/
theorem mergeOverlap_eq {front back : List α} {a b : α}
    (hcompares : Compares before lt ((front ++ [a]) ++ b :: back))
    (hleft : Ascending lt (front ++ [a])) (hright : Ascending lt (b :: back))
    (hfirst : ∀ c ∈ front ++ [a], lt b c = true) (hlast : ∀ c ∈ b :: back, lt c a = true)
    (patience : Nat) :
    ∃ merged left, mergeOverlap before patience (front ++ [a]) (b :: back) = .ok (merged, left) ∧
      Sorts lt ((front ++ [a]) ++ b :: back) merged := by
  unfold mergeOverlap
  dsimp only
  split
  · have hforward : Compares (goesFirst false before) lt ((front ++ [a]) ++ b :: back) := hcompares
    have hfuel : (front ++ [a]).length + back.length ≤
        (front ++ [a]).length + (b :: back).length := by simp
    obtain ⟨m, heq, hm⟩ := Merging.exists_merged h hforward hleft hright List.getLast?_concat hlast
      hfirst hfuel (.single false 0) patience
    rw [heq]
    exact ⟨_, _, rfl, hm⟩
  · -- From the back it is the same, with the order from the other end.
    have hends : (front ++ [a]).reverse = a :: front.reverse := by simp
    have hboth : (b :: back).reverse ++ a :: front.reverse =
        ((front ++ [a]) ++ b :: back).reverse := by simp
    have hreversed : Compares (goesFirst true before) (backward lt)
        ((b :: back).reverse ++ a :: front.reverse) := fun c hc d hd =>
      hcompares d (List.mem_reverse.mp (hboth ▸ hd)) c (List.mem_reverse.mp (hboth ▸ hc))
    have hmoved : Ascending (backward lt) (a :: front.reverse) :=
      hends ▸ List.pairwise_reverse.mpr hleft
    have hlowest : (b :: back).reverse.getLast? = some b := by simp
    have hfuel : (b :: back).reverse.length + front.reverse.length ≤
        (front ++ [a]).length + (b :: back).length := by simp; omega
    obtain ⟨m, heq, hm⟩ := Merging.exists_merged h.backward hreversed
      (List.pairwise_reverse.mpr hright) hmoved hlowest
      (fun c hc => hfirst c (List.mem_reverse.mp (hends ▸ hc)))
      (fun c hc => hlast c (List.mem_reverse.mp hc)) hfuel (.single false 0) patience
    rw [hends, heq]
    rw [hboth] at hm
    exact ⟨_, _, rfl, hm.backward⟩

omit h in
/-- How many values stay before another one. -/
theorem countNear_staysBefore {front upper : List α} {b : α}
    (hbefore : ∀ c ∈ front ++ upper, before b c = .ok (lt b c))
    (hfront : ∀ c ∈ front, lt b c = false) (hupper : ∀ c ∈ upper, lt b c = true) :
    countNear false (staysBefore before b) (front ++ upper) = pure front.length := by
  refine countNear_eq (fun c hc => ?_) (fun c hc => ?_)
  · rw [staysBefore_eq (hbefore c (List.mem_append_left _ hc)), hfront c hc]
    rfl
  · rw [staysBefore_eq (hbefore c (List.mem_append_right _ hc)), hupper c hc]
    rfl

omit h in
/-- How many values at the end stay behind another one. -/
theorem countNear_staysBehind {front after : List α} {a : α}
    (hbefore : ∀ c ∈ front ++ after, before c a = .ok (lt c a))
    (hfront : ∀ c ∈ front, lt c a = true) (hafter : ∀ c ∈ after, lt c a = false) :
    countNear true (fun c => staysBefore before c a) (front ++ after).reverse =
      pure after.length := by
  rw [List.reverse_append, ← List.length_reverse]
  refine countNear_eq (fun c hc => ?_) (fun c hc => ?_)
  · have hc := List.mem_reverse.mp hc
    rw [staysBefore_eq (hbefore c (List.mem_append_right _ hc)), hafter c hc]
    rfl
  · have hc := List.mem_reverse.mp hc
    rw [staysBefore_eq (hbefore c (List.mem_append_left _ hc)), hfront c hc]
    rfl

/-- The end of the left run that is above the beginning of the right one is merged with that; what
is outside of both stays in its place. -/
theorem mergeRuns_of_overlap {front upper back after : List α} {a b : α}
    (hcompares : Compares before lt ((front ++ (upper ++ [a])) ++ (b :: back ++ after)))
    (hleft : Ascending lt (front ++ (upper ++ [a]))) (hright : Ascending lt (b :: back ++ after))
    (hfront : ∀ c ∈ front, lt b c = false) (hupper : ∀ c ∈ upper ++ [a], lt b c = true)
    (hback : ∀ c ∈ b :: back, lt c a = true) (hafter : ∀ c ∈ after, lt c a = false)
    (patience : Nat) :
    ∃ merged rest, mergeRuns before patience (front ++ (upper ++ [a])) (b :: back ++ after) =
        .ok (merged, rest) ∧
      Sorts lt ((front ++ (upper ++ [a])) ++ (b :: back ++ after)) merged := by
  have hplaced : countNear false (staysBefore before b) (front ++ (upper ++ [a])) =
      pure front.length :=
    countNear_staysBefore (fun c hc => hcompares b (by simp) c (List.mem_append_left _ hc)) hfront
      hupper
  have hbehind : countNear true (fun c => staysBefore before c a) (b :: back ++ after).reverse =
      pure after.length :=
    countNear_staysBehind (fun c hc => hcompares c (List.mem_append_right _ hc) a (by simp)) hback
      hafter
  obtain ⟨hfrontRun, hupperRun, hcross⟩ := List.pairwise_append.mp hleft
  obtain ⟨hbackRun, hafterRun, -⟩ := List.pairwise_append.mp hright
  have hinner : Compares before lt ((upper ++ [a]) ++ b :: back) := by
    refine hcompares.mono fun c hc => ?_
    rcases List.mem_append.mp hc with hc | hc
    · exact List.mem_append_left _ (List.mem_append_right _ hc)
    · exact List.mem_append_right _ (List.mem_append_left _ hc)
  obtain ⟨merged, left, hmerge, hmerged⟩ :=
    mergeOverlap_eq h hinner hupperRun hbackRun hupper hback patience
  refine ⟨front ++ merged ++ after, left, ?_, ?_⟩
  · have hcount : (b :: (back ++ after)).length - after.length = (b :: back).length := by
      simp only [List.length_cons, List.length_append]
      omega
    have htake : (b :: (back ++ after)).take (b :: back).length = b :: back := by
      rw [← List.cons_append, List.take_left]
    have hdrop : (b :: (back ++ after)).drop (b :: back).length = after := by
      rw [← List.cons_append, List.drop_left]
    have hlonger : ¬ (b :: back).length = 0 := Nat.succ_ne_zero back.length
    unfold mergeRuns
    rw [List.cons_append] at hbehind ⊢
    dsimp only
    rw [hplaced, pure_bind, List.drop_left, List.getLast?_concat]
    dsimp only
    rw [hbehind, pure_bind, hcount, if_neg hlonger, htake, hdrop, List.take_left, hmerge]
    rfl
  · have hsame : front ++ ((upper ++ [a]) ++ b :: back) ++ after =
        (front ++ (upper ++ [a])) ++ (b :: back ++ after) := by simp
    -- All of the right run is above the front, and all of the left one below what is behind.
    have habove : ∀ c ∈ front, ∀ d ∈ b :: back ++ after, lt d c = false := fun c hc d hd =>
      h.trans (hfront c hc) (hright.head_le h hd)
    have hupTo : ∀ c ∈ upper ++ [a], lt a c = false := fun c hc =>
      Ascending.le_last h hupperRun hc
    refine hsame ▸ hmerged.surround hfrontRun hafterRun (fun c hc d hd => ?_) fun c hc d hd => ?_
    · rw [List.append_assoc] at hd
      rcases List.mem_append.mp hd with hd | hd
      · exact hcross c hc d hd
      · exact habove c hc d hd
    · rcases List.mem_append.mp hc with hc | hc
      · exact h.trans (hupTo c hc) (hafter d hd)
      · exact h.trans (h.asymm (hback c hc)) (hafter d hd)

/-- Two neighbouring runs become one. -/
theorem mergeRuns_eq {left right : List α} (hcompares : Compares before lt (left ++ right))
    (hleft : Ascending lt left) (hright : Ascending lt right) (patience : Nat) :
    ∃ merged rest, mergeRuns before patience left right = .ok (merged, rest) ∧
      Sorts lt (left ++ right) merged := by
  cases right with
  | nil =>
    refine ⟨left ++ [], patience, ?_, .refl _, (List.append_nil left).symm ▸ hleft⟩
    unfold mergeRuns
    dsimp only
    rw [pure_bind, List.drop_length]
    rfl
  | cons b rest =>
    have hpasses : left.Pairwise fun c d => (!lt b d) = true → (!lt b c) = true :=
      hleft.imp fun hcd hd => by
        rw [Bool.not_eq_true'] at hd ⊢
        exact h.trans hcd hd
    obtain ⟨front, upper, rfl, hfront, hupper⟩ := exists_split hpasses
    have hfront : ∀ c ∈ front, lt b c = false := fun c hc => by simpa using hfront c hc
    have hupper : ∀ c ∈ upper, lt b c = true := fun c hc => by simpa using hupper c hc
    rcases List.eq_nil_or_concat upper with rfl | ⟨upper, a, rfl⟩
    · rw [List.append_nil] at hcompares hleft ⊢
      have hplaced : countNear false (staysBefore before b) front = pure front.length := by
        have hplaced := @countNear_staysBefore _ _ lt before front [] b (fun c hc =>
          hcompares b (by simp) c (by simpa using Or.inl hc)) hfront hupper
        rwa [List.append_nil] at hplaced
      refine ⟨front ++ b :: rest, patience, ?_, .refl _, List.pairwise_append.mpr
        ⟨hleft, hright, fun c hc d hd => h.trans (hfront c hc) (hright.head_le h hd)⟩⟩
      unfold mergeRuns
      dsimp only
      rw [hplaced, pure_bind, List.drop_length]
      rfl
    · have hpasses : (b :: rest).Pairwise fun c d => lt d a = true → lt c a = true :=
        hright.imp fun hcd hd => h.lt_of_le_of_lt hcd hd
      obtain ⟨inner, after, hrest, hinner, hafter⟩ := exists_split hpasses
      cases inner with
      | nil =>
        -- What is above the beginning of the right run is above something there.
        obtain rfl : b :: rest = after := hrest
        have hnot := hafter b List.mem_cons_self
        exact Bool.noConfusion (hnot.symm.trans (hupper a (by simp)))
      | cons c back =>
        obtain ⟨rfl, rfl⟩ := List.cons.inj hrest
        rw [List.concat_eq_append] at *
        exact mergeRuns_of_overlap h hcompares hleft hright hfront hupper hinner hafter patience

end Runs

end TargetHelp.Sorting
