import Mathlib.Data.List.Basic

/-!
# Stable rearrangements

Values are compared by their ranks, and some may have the same. A rearrangement is stable if it
keeps the order among the values of each rank. Two neighbouring lists can change places if no rank
is in both, a list that falls strictly can be turned around, and what can be done to parts of a list
can be done to the whole. There is only one stable rearrangement in which the ranks ascend.
-/

set_option autoImplicit false
set_option relaxedAutoImplicit false

namespace TargetHelp.Sorting

variable {α : Type}

/-- `lt` compares values by a rank that each of them has. -/
structure Ranks (lt : α → α → Bool) : Prop where
  asymm : ∀ {a b}, lt a b = true → lt b a = false
  trans : ∀ {a b c}, lt b a = false → lt c b = false → lt c a = false

/-- The order from the other end. -/
def backward (lt : α → α → Bool) (a b : α) : Bool := lt b a

/-- Whether two values have the same rank. -/
def tied (lt : α → α → Bool) (a b : α) : Bool := !lt a b && !lt b a

/-- The ranks ascend. -/
def Ascending (lt : α → α → Bool) (values : List α) : Prop :=
  values.Pairwise fun a b => lt b a = false

/-- The same values, and those of each rank in the same order. -/
structure Rearranges (lt : α → α → Bool) (given result : List α) : Prop where
  perm : result.Perm given
  stable : ∀ a, result.filter (tied lt a) = given.filter (tied lt a)

/-- A stable rearrangement in which the ranks ascend. -/
structure Sorts (lt : α → α → Bool) (given result : List α) : Prop
    extends Rearranges lt given result where
  ascending : Ascending lt result

variable {lt : α → α → Bool}

/-! ### Ranks -/

namespace Ranks

variable (h : Ranks lt) {a b c : α}
include h

theorem backward : Ranks (backward lt) := ⟨fun hba => h.asymm hba, fun hab hbc => h.trans hbc hab⟩

/-- Values are compared by the ranks of their parts. -/
theorem comap {β : Type} (part : β → α) : Ranks fun a b => lt (part a) (part b) :=
  ⟨fun hab => h.asymm hab, fun hba hcb => h.trans hba hcb⟩

theorem refl (a : α) : lt a a = false := by
  cases haa : lt a a with
  | false => rfl
  | true => exact haa.symm.trans (h.asymm haa)

theorem lt_of_lt_of_le (hab : lt a b = true) (hbc : lt c b = false) : lt a c = true := by
  cases hac : lt a c with
  | true => rfl
  | false => exact (h.trans hbc hac).symm.trans hab

theorem lt_of_le_of_lt (hab : lt b a = false) (hbc : lt b c = true) : lt a c = true := by
  cases hac : lt a c with
  | true => rfl
  | false => exact (h.trans hac hab).symm.trans hbc

theorem tied_self (a : α) : tied lt a a = true := by
  unfold tied
  rw [h.refl]
  rfl

end Ranks

theorem tied_backward (a b : α) : tied (backward lt) a b = tied lt a b := Bool.and_comm _ _

theorem tied_of_tied (h : Ranks lt) {a b c : α} (hab : tied lt a b = true)
    (hac : tied lt a c = true) : tied lt b c = true := by
  simp only [tied, Bool.and_eq_true, Bool.not_eq_true'] at *
  exact ⟨h.trans hac.1 hab.2, h.trans hab.1 hac.2⟩

/-! ### Rearrangements -/

namespace Rearranges

variable {xs ys zs us vs : List α}

protected theorem refl (xs : List α) : Rearranges lt xs xs := ⟨.refl xs, fun _ => rfl⟩

protected theorem trans (h : Rearranges lt xs ys) (h' : Rearranges lt ys zs) :
    Rearranges lt xs zs :=
  ⟨h'.perm.trans h.perm, fun a => (h'.stable a).trans (h.stable a)⟩

protected theorem append (h : Rearranges lt xs ys) (h' : Rearranges lt us vs) :
    Rearranges lt (xs ++ us) (ys ++ vs) := by
  refine ⟨h.perm.append h'.perm, fun a => ?_⟩
  rw [List.filter_append, List.filter_append, h.stable, h'.stable]

/-- Lists that have no rank in common can change places. -/
protected theorem swap (h : Ranks lt) (hne : ∀ x ∈ xs, ∀ y ∈ ys, tied lt x y = false) :
    Rearranges lt (xs ++ ys) (ys ++ xs) := by
  refine ⟨List.perm_append_comm, fun a => ?_⟩
  rw [List.filter_append, List.filter_append]
  by_cases hxs : ∃ x ∈ xs, tied lt a x = true
  · obtain ⟨x, hx, hax⟩ := hxs
    have hnone : ys.filter (tied lt a) = [] := by
      refine List.filter_eq_nil_iff.mpr fun y hy hay => ?_
      exact Bool.noConfusion ((tied_of_tied h hax hay).symm.trans (hne x hx y hy))
    rw [hnone, List.nil_append, List.append_nil]
  · have hnone : xs.filter (tied lt a) = [] :=
      List.filter_eq_nil_iff.mpr fun x hx hax => hxs ⟨x, hx, hax⟩
    rw [hnone, List.nil_append, List.append_nil]

/-- Two lists can change places if one is below the other. -/
protected theorem swap_of_lt (h : Ranks lt) (hlt : ∀ x ∈ xs, ∀ y ∈ ys, lt y x = true) :
    Rearranges lt (xs ++ ys) (ys ++ xs) := by
  refine Rearranges.swap h fun x hx y hy => ?_
  unfold tied
  rw [hlt x hx y hy, Bool.not_true, Bool.and_false]

protected theorem backward (h : Rearranges lt xs ys) :
    Rearranges (backward lt) xs.reverse ys.reverse := by
  refine ⟨(ys.reverse_perm.trans h.perm).trans xs.reverse_perm.symm, fun a => ?_⟩
  have hfilter (zs : List α) :
      zs.reverse.filter (tied (Sorting.backward lt) a) = (zs.filter (tied lt a)).reverse := by
    rw [List.filter_reverse]
    exact congrArg List.reverse (List.filter_congr fun b _ => tied_backward a b)
  rw [hfilter, hfilter, h.stable]

end Rearranges

/-! ### Sorting -/

namespace Sorts

variable {xs ys zs : List α}

/-- A list that rises strictly is what its reverse becomes. -/
theorem of_reverse (h : Ranks lt) (hrises : xs.Pairwise fun a b => lt a b = true) :
    Sorts lt xs.reverse xs := by
  refine ⟨?_, hrises.imp fun hab => h.asymm hab⟩
  induction xs with
  | nil => exact Rearranges.refl []
  | cons x xs ih =>
    obtain ⟨hx, hxs⟩ := List.pairwise_cons.mp hrises
    rw [List.reverse_cons]
    have hback : Rearranges lt (xs.reverse ++ [x]) ([x] ++ xs.reverse) := by
      refine Rearranges.swap_of_lt h fun y hy z hz => ?_
      obtain rfl := List.mem_singleton.mp hz
      exact hx y (List.mem_reverse.mp hy)
    exact hback.trans ((Rearranges.refl [x]).append (ih hxs))

protected theorem backward (h : Sorts (backward lt) xs.reverse ys.reverse) : Sorts lt xs ys := by
  have hback := h.toRearranges.backward
  rw [List.reverse_reverse, List.reverse_reverse] at hback
  exact ⟨hback, List.pairwise_reverse.mp h.ascending⟩

/-- What stands before and behind values that are sorted stays there, if it is in order with all of
them. -/
protected theorem surround (h : Sorts lt xs ys) {front after : List α}
    (hfront : Ascending lt front) (hafter : Ascending lt after)
    (hbefore : ∀ a ∈ front, ∀ b ∈ xs ++ after, lt b a = false)
    (hbehind : ∀ a ∈ xs, ∀ b ∈ after, lt b a = false) :
    Sorts lt (front ++ xs ++ after) (front ++ ys ++ after) := by
  refine ⟨((Rearranges.refl front).append h.toRearranges).append (.refl after), ?_⟩
  have hmem {a : α} (ha : a ∈ ys) : a ∈ xs := h.perm.mem_iff.mp ha
  refine List.pairwise_append.mpr ⟨List.pairwise_append.mpr ⟨hfront, h.ascending, ?_⟩, hafter, ?_⟩
  · exact fun a ha b hb => hbefore a ha b (List.mem_append_left _ (hmem hb))
  · intro a ha b hb
    rcases List.mem_append.mp ha with ha | ha
    · exact hbefore a ha b (List.mem_append_right _ hb)
    · exact hbehind a (hmem ha) b hb

end Sorts

/-! ### Uniqueness -/

namespace Ascending

variable {x y : α} {xs ys : List α}

theorem head_le (h : Ranks lt) (hxs : Ascending lt (x :: xs)) (hy : y ∈ x :: xs) :
    lt y x = false := by
  rcases List.mem_cons.mp hy with rfl | hy
  · exact h.refl y
  · exact (List.pairwise_cons.mp hxs).1 y hy

theorem le_last (h : Ranks lt) (hxs : Ascending lt (xs ++ [x])) (hy : y ∈ xs ++ [x]) :
    lt x y = false := by
  rcases List.mem_append.mp hy with hy | hy
  · exact (List.pairwise_append.mp hxs).2.2 y hy x (List.mem_singleton.mpr rfl)
  · exact List.mem_singleton.mp hy ▸ h.refl x

theorem mem_of_filter (h : Ranks lt)
    (hsame : ∀ a, xs.filter (tied lt a) = ys.filter (tied lt a)) (hx : x ∈ xs) : x ∈ ys := by
  have hself : x ∈ xs.filter (tied lt x) := List.mem_filter.mpr ⟨hx, h.tied_self x⟩
  rw [hsame] at hself
  exact (List.mem_filter.mp hself).1

/-- Lists in order that agree on the values of each rank are the same. -/
theorem eq_of_filter (h : Ranks lt) (hxs : Ascending lt xs) (hys : Ascending lt ys)
    (hsame : ∀ a, xs.filter (tied lt a) = ys.filter (tied lt a)) : xs = ys := by
  induction xs generalizing ys with
  | nil =>
    refine (List.eq_nil_iff_forall_not_mem.mpr fun y hy => ?_).symm
    exact List.not_mem_nil (mem_of_filter h (fun a => (hsame a).symm) hy)
  | cons x xs ih =>
    cases ys with
    | nil => exact absurd (mem_of_filter h hsame List.mem_cons_self) List.not_mem_nil
    | cons y ys =>
      have hyx : lt y x = false :=
        head_le h hxs (mem_of_filter h (fun a => (hsame a).symm) List.mem_cons_self)
      have hxy : lt x y = false := head_le h hys (mem_of_filter h hsame List.mem_cons_self)
      have htied : tied lt x y = true := by
        unfold tied
        rw [hxy, hyx]
        rfl
      have hfirst := hsame x
      rw [List.filter_cons_of_pos (h.tied_self x), List.filter_cons_of_pos htied] at hfirst
      obtain ⟨rfl, -⟩ := List.cons.inj hfirst
      refine congrArg _ (ih (List.pairwise_cons.mp hxs).2 (List.pairwise_cons.mp hys).2 fun a => ?_)
      have hhere := hsame a
      cases ha : tied lt a x with
      | true =>
        rw [List.filter_cons_of_pos ha, List.filter_cons_of_pos ha] at hhere
        exact (List.cons.inj hhere).2
      | false =>
        have hnot : ¬ tied lt a x = true := Bool.eq_false_iff.mp ha
        rwa [List.filter_cons_of_neg hnot, List.filter_cons_of_neg hnot] at hhere

end Ascending

/-- There is only one sorted list of some values. -/
theorem Sorts.unique (h : Ranks lt) {given xs ys : List α} (hxs : Sorts lt given xs)
    (hys : Sorts lt given ys) : xs = ys :=
  hxs.ascending.eq_of_filter h hys.ascending fun a => (hxs.stable a).trans (hys.stable a).symm

end TargetHelp.Sorting
