import TargetHelp.Proofs.Json.Escape
import TargetHelp.Text.Layout
import TargetHelp.Text.Utf8

/-!
# Plain texts

A text without surrogates can be written everywhere: the strict encoding takes it as it is, and
nothing in it is escaped. Layout adds spaces alone, so it keeps a text plain. Escaping puts a
backslash in for each surrogate, so what comes without any has not been escaped.
-/

set_option autoImplicit false
set_option relaxedAutoImplicit false

namespace TargetHelp

namespace Text

/-- No code point is a surrogate. -/
def Plain (t : Text) : Prop := ∀ c ∈ t, ¬ c.IsSurrogate

instance (t : Text) : Decidable t.Plain :=
  List.decidableBAll (fun c : CodePoint => ¬ c.IsSurrogate) t

namespace Plain

theorem append {s t : Text} (hs : s.Plain) (ht : t.Plain) : (s ++ t).Plain :=
  List.forall_mem_append.mpr ⟨hs, ht⟩

theorem cons {c : CodePoint} {t : Text} (hc : ¬ c.IsSurrogate) (ht : t.Plain) :
    Text.Plain (c :: t) :=
  List.forall_mem_cons.mpr ⟨hc, ht⟩

theorem unpaired {t : Text} (h : t.Plain) : t.Unpaired := by
  unfold Unpaired
  induction t with
  | nil => exact .nil
  | cons c t ih =>
    obtain ⟨hc, ht⟩ := List.forall_mem_cons.mp h
    refine (ih ht).cons fun d hd hhigh => ?_
    exact absurd ((CodePoint.isSurrogate_iff c).mpr (Or.inl hhigh)) hc

theorem surrogates? {t : Text} (h : t.Plain) : Utf8.surrogates? t = none := by
  have hfrom (start : Nat) : Utf8.surrogatesFrom start t = none := by
    induction t generalizing start with
    | nil => rfl
    | cons c t ih =>
      obtain ⟨hc, ht⟩ := List.forall_mem_cons.mp h
      rw [Utf8.surrogatesFrom, if_neg hc]
      exact ih ht (start + 1)
  exact hfrom 0

end Plain

/-- A text that is not plain is not encoded. -/
theorem exists_surrogates {t : Text} (h : ¬ t.Plain) :
    ∃ error, Utf8.surrogates? t = some error := by
  have hfrom (start : Nat) : ∃ error, Utf8.surrogatesFrom start t = some error := by
    induction t generalizing start with
    | nil => exact absurd (List.forall_mem_nil _) h
    | cons c t ih =>
      unfold Utf8.surrogatesFrom
      split
      · exact ⟨_, rfl⟩
      · rename_i hc
        exact ih (fun ht => h (.cons hc ht)) (start + 1)
  exact hfrom 0

namespace Plain

theorem escapeSurrogates {t : Text} (h : t.Plain) : t.escapeSurrogates = t := by
  unfold Text.escapeSurrogates
  induction t with
  | nil => rfl
  | cons c t ih =>
    obtain ⟨hc, ht⟩ := List.forall_mem_cons.mp h
    rw [List.flatMap_cons, if_neg hc, ih ht]
    rfl

/-! ### Layout -/

theorem padRight {t : Text} (h : t.Plain) (width : Nat) : (padRight width t).Plain := by
  refine h.append fun c hc => ?_
  rw [(List.mem_replicate.mp hc).2]
  decide

theorem firstLine {t : Text} (h : t.Plain) : t.firstLine.Plain := by
  unfold Text.firstLine
  induction t with
  | nil => exact h
  | cons c t ih =>
    obtain ⟨hc, ht⟩ := List.forall_mem_cons.mp h
    rw [splitFirst]
    split
    · exact List.forall_mem_nil _
    · exact .cons hc (ih ht)

theorem indent {t : Text} (h : t.Plain) : t.indent.Plain := by
  have hindentation : Text.Plain indentation := by decide
  intro d hd
  obtain ⟨c, hc, hcd⟩ := List.mem_flatMap.mp hd
  split at hcd
  · have hbreak : Text.Plain (lineFeed :: indentation) := by decide
    exact hbreak d hcd
  · obtain rfl := List.mem_singleton.mp hcd
    exact hindentation.append h d hc

end Plain

/-! ### Escaping -/

theorem backslash_mem_numericEscape (c : CodePoint) : backslash ∈ numericEscape c := by
  unfold numericEscape
  split
  · exact List.mem_cons_self
  · split
    · exact List.mem_cons_self
    · exact List.mem_cons_self

/-- What is escaped to a text without backslashes is that text. -/
theorem eq_of_escapeSurrogates_eq {t u : Text} (h : t.escapeSurrogates = u) (hu : backslash ∉ u) :
    t = u := by
  have hplain : t.Plain := by
    intro c hc hsurrogate
    refine hu (h ▸ List.mem_flatMap.mpr ⟨c, hc, ?_⟩)
    rw [if_pos hsurrogate]
    exact backslash_mem_numericEscape c
  rw [← h, hplain.escapeSurrogates]

end Text

end TargetHelp
