import TargetHelp.Text.Basic

/-!
# Texts in pieces

A text is split at the first of some separators, or at all of them. What comes of it is told by how
the pieces are put together: no piece holds a separator, and with one between neighbours they are
the text.
-/

set_option autoImplicit false
set_option relaxedAutoImplicit false

namespace TargetHelp.Text

variable {sep : CodePoint}

/-! ### The first separator -/

/-- The first separator is the one that follows a text without any. -/
theorem splitFirst_append {front : Text} (h : sep ∉ front) (back : Text) :
    splitFirst sep (front ++ sep :: back) = (front, some back) := by
  induction front with
  | nil => exact if_pos rfl
  | cons c front ih =>
    have hc : ¬ c = sep := fun heq => h (heq ▸ List.mem_cons_self)
    have hrest := ih fun hm => h (List.mem_cons_of_mem c hm)
    rw [List.cons_append, splitFirst, if_neg hc, hrest]

theorem splitFirst_of_notMem {t : Text} (h : sep ∉ t) : splitFirst sep t = (t, none) := by
  induction t with
  | nil => rfl
  | cons c t ih =>
    have hc : ¬ c = sep := fun heq => h (heq ▸ List.mem_cons_self)
    rw [splitFirst, if_neg hc, ih fun hm => h (List.mem_cons_of_mem c hm)]

/-- A text that holds a separator has a first one. -/
theorem exists_first {t : Text} (h : sep ∈ t) :
    ∃ front back, t = front ++ sep :: back ∧ sep ∉ front := by
  obtain ⟨front, back, rfl, hfront⟩ := List.eq_append_cons_of_mem h
  exact ⟨front, back, rfl, hfront⟩

/-- What stands before the first separator of a text, and what stands behind it if there is one. -/
inductive SplitsFirst (sep : CodePoint) : Text → Text → Option Text → Prop
  | whole {t : Text} (h : sep ∉ t) : SplitsFirst sep t t none
  | parts {front : Text} (h : sep ∉ front) (back : Text) :
      SplitsFirst sep (front ++ sep :: back) front (some back)

theorem SplitsFirst.notMem {t front : Text} {back? : Option Text}
    (h : SplitsFirst sep t front back?) : sep ∉ front := by
  cases h with
  | whole hfront => exact hfront
  | parts hfront => exact hfront

theorem splitFirst_eq_iff {t front : Text} {back? : Option Text} :
    splitFirst sep t = (front, back?) ↔ SplitsFirst sep t front back? := by
  constructor
  · intro h
    by_cases hsep : sep ∈ t
    · obtain ⟨before, after, rfl, hbefore⟩ := exists_first hsep
      obtain ⟨rfl, rfl⟩ := Prod.mk.inj ((splitFirst_append hbefore after).symm.trans h)
      exact .parts hbefore after
    · obtain ⟨rfl, rfl⟩ := Prod.mk.inj ((splitFirst_of_notMem hsep).symm.trans h)
      exact .whole hsep
  · rintro (hfront | ⟨hfront, back⟩)
    · exact splitFirst_of_notMem hfront
    · exact splitFirst_append hfront back

/-- A text that holds a separator has a last one. -/
theorem exists_last {t : Text} (h : sep ∈ t) :
    ∃ front back, t = front ++ sep :: back ∧ sep ∉ back := by
  obtain ⟨back, front, hreverse, hback⟩ := exists_first (List.mem_reverse.mpr h)
  refine ⟨front.reverse, back.reverse, ?_, fun hmem => hback (List.mem_reverse.mp hmem)⟩
  rw [← List.reverse_reverse t, hreverse]
  simp

/-! ### All separators -/

theorem splitAll_of_notMem {t : Text} (h : sep ∉ t) : splitAll sep t = [t] := by
  induction t with
  | nil => rfl
  | cons c t ih =>
    have hc : ¬ c = sep := fun heq => h (heq ▸ List.mem_cons_self)
    rw [splitAll, if_neg hc, ih fun hm => h (List.mem_cons_of_mem c hm)]

/-- Any other code point is the first one of the first piece. -/
theorem splitAll_cons_of_ne {c : CodePoint} (h : c ≠ sep) {t piece : Text} {pieces : List Text}
    (hpieces : splitAll sep t = piece :: pieces) :
    splitAll sep (c :: t) = (c :: piece) :: pieces := by
  rw [splitAll, if_neg h, hpieces]

theorem splitAll_append (s t : Text) :
    splitAll sep (s ++ sep :: t) = splitAll sep s ++ splitAll sep t := by
  induction s with
  | nil => exact splitAll_cons_sep sep t
  | cons c s ih =>
    rw [List.cons_append]
    by_cases hc : c = sep
    · subst hc
      rw [splitAll_cons_sep, splitAll_cons_sep, ih]
      rfl
    · rw [splitAll, if_neg hc, ih, splitAll, if_neg hc]
      cases hpieces : splitAll sep s with
      | nil => exact absurd hpieces (splitAll_ne_nil sep s)
      | cons piece pieces => rfl

/-- Pieces without separators are what their text is split into. -/
theorem splitAll_join {pieces : List Text} (hne : pieces ≠ []) (h : ∀ p ∈ pieces, sep ∉ p) :
    splitAll sep (join [sep] pieces) = pieces := by
  induction pieces with
  | nil => exact absurd rfl hne
  | cons p pieces ih =>
    obtain ⟨hp, hpieces⟩ := List.forall_mem_cons.mp h
    by_cases hlast : pieces = []
    · subst hlast
      exact splitAll_of_notMem hp
    · rw [join_cons hlast, List.append_assoc, List.singleton_append, splitAll_append,
        splitAll_of_notMem hp, ih hlast hpieces]
      rfl

theorem notMem_of_mem_splitAll {t p : Text} (h : p ∈ splitAll sep t) : sep ∉ p := by
  induction t generalizing p with
  | nil =>
    obtain rfl := List.mem_singleton.mp h
    exact List.not_mem_nil
  | cons c t ih =>
    by_cases hc : c = sep
    · subst hc
      rw [splitAll_cons_sep] at h
      rcases List.mem_cons.mp h with rfl | h
      · exact List.not_mem_nil
      · exact ih h
    · rw [splitAll, if_neg hc] at h
      cases hpieces : splitAll sep t with
      | nil => exact absurd hpieces (splitAll_ne_nil sep t)
      | cons q pieces =>
        rw [hpieces] at h ih
        rcases List.mem_cons.mp h with rfl | h
        · intro hmem
          rcases List.mem_cons.mp hmem with heq | hmem
          · exact hc heq.symm
          · exact ih List.mem_cons_self hmem
        · exact ih (List.mem_cons_of_mem q h)

theorem mem_of_mem_splitAll {t p : Text} {c : CodePoint} (hp : p ∈ splitAll sep t) (hc : c ∈ p) :
    c ∈ t := by
  rw [← join_splitAll sep t]
  generalize splitAll sep t = pieces at hp
  induction pieces with
  | nil => exact absurd hp List.not_mem_nil
  | cons q pieces ih =>
    by_cases hlast : pieces = []
    · subst hlast
      obtain rfl := List.mem_singleton.mp hp
      exact hc
    · rw [join_cons hlast]
      rcases List.mem_cons.mp hp with rfl | hp
      · exact List.mem_append_left _ (List.mem_append_left _ hc)
      · exact List.mem_append_right _ (ih hp)

/-- What a text is split into: pieces without separators, at least one, that make up the text. -/
theorem splitAll_eq_iff {t : Text} {pieces : List Text} :
    splitAll sep t = pieces ↔ pieces ≠ [] ∧ join [sep] pieces = t ∧ ∀ p ∈ pieces, sep ∉ p := by
  constructor
  · rintro rfl
    exact ⟨splitAll_ne_nil sep t, join_splitAll sep t, fun p hp => notMem_of_mem_splitAll hp⟩
  · rintro ⟨hne, rfl, hpieces⟩
    exact splitAll_join hne hpieces

end TargetHelp.Text
