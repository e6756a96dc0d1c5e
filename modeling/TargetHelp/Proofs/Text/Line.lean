import TargetHelp.Text.Blank
import TargetHelp.Text.Line

/-!
# Splitting into lines

A text without line feeds in front of a line feed is one line, whatever follows. A text without
carriage returns is the same under universal line ends, so a framing by line feeds alone survives
both ways of reading. What stands behind the end of a line is split, and its line ends are read, as
if it stood alone. Where carriage returns stand in front of line feeds only, both ways of reading
cut a text at the same places, and universal line ends take the carriage returns out of each line.
-/

set_option autoImplicit false
set_option relaxedAutoImplicit false

namespace TargetHelp.Text

theorem lines_append_lineFeed {line : Text} (h : lineFeed ∉ line) (t : Text) :
    lines (line ++ lineFeed :: t) = (line ++ [lineFeed]) :: lines t := by
  induction line with
  | nil => simp [lines]
  | cons c line ih =>
    have hc : c ≠ lineFeed := fun hc => h (by simp [hc])
    have hline : lineFeed ∉ line := fun hm => h (List.mem_cons_of_mem c hm)
    rw [List.cons_append, lines, if_neg hc, ih hline]
    rfl

/-- A text without line feeds is a single line. -/
theorem lines_of_lineFeed_notMem {line : Text} (h : lineFeed ∉ line) (hne : line ≠ []) :
    lines line = [line] := by
  induction line with
  | nil => exact absurd rfl hne
  | cons c line ih =>
    have hc : c ≠ lineFeed := fun hc => h (by simp [hc])
    have hrest : lineFeed ∉ line := fun hm => h (List.mem_cons_of_mem c hm)
    rw [lines, if_neg hc]
    cases line with
    | nil => rfl
    | cons d line => rw [ih hrest (List.cons_ne_nil d line)]

/-- Texts of one line each are the first lines of a text that begins with them. -/
theorem lines_flatten_append {pieces : List Text}
    (h : ∀ piece ∈ pieces, ∃ body, lineFeed ∉ body ∧ piece = body ++ [lineFeed]) (t : Text) :
    lines (pieces.flatten ++ t) = pieces ++ lines t := by
  induction pieces with
  | nil => rfl
  | cons piece pieces ih =>
    obtain ⟨⟨body, hbody, rfl⟩, hrest⟩ := List.forall_mem_cons.mp h
    rw [List.flatten_cons, List.append_assoc, List.append_assoc, List.singleton_append,
      lines_append_lineFeed hbody, ih hrest]
    rfl

/-- Texts without line feeds, each ended by one, are the lines of what they make up. -/
theorem lines_flatten {bodies : List Text} (h : ∀ body ∈ bodies, lineFeed ∉ body) :
    lines (bodies.map (· ++ [lineFeed])).flatten = bodies.map (· ++ [lineFeed]) := by
  have hpieces : ∀ piece ∈ bodies.map (· ++ [lineFeed]),
      ∃ body, lineFeed ∉ body ∧ piece = body ++ [lineFeed] :=
    List.forall_mem_map.mpr fun body hbody => ⟨body, h body hbody, rfl⟩
  have hlines := lines_flatten_append hpieces []
  rwa [List.append_nil, lines, List.append_nil] at hlines

theorem universalLineEndsFrom_eq_self {t : Text} (h : carriageReturn ∉ t) :
    universalLineEndsFrom false t = t := by
  induction t with
  | nil => rfl
  | cons c t ih =>
    have hc : c ≠ carriageReturn := fun hc => h (by simp [hc])
    have ht : carriageReturn ∉ t := fun hm => h (List.mem_cons_of_mem c hm)
    simp [universalLineEndsFrom, hc, ih ht]

/-- Without carriage returns there is nothing to translate. -/
theorem universalLineEnds_eq_self {t : Text} (h : carriageReturn ∉ t) : universalLineEnds t = t :=
  universalLineEndsFrom_eq_self h

/-! ### Behind the end of a line -/

/-- The text ends where a line ends: it is empty, or its last code point is a line feed. -/
def EndsLine (s : Text) : Prop := s = [] ∨ s.getLast? = some lineFeed

instance (s : Text) : Decidable s.EndsLine := inferInstanceAs (Decidable (_ ∨ _))

theorem endsLine_of_cons {c : CodePoint} {s : Text} (h : EndsLine (c :: s)) :
    (c = lineFeed ∧ s = []) ∨ (s ≠ [] ∧ EndsLine s) := by
  obtain h | h := h
  · cases h
  · cases s with
    | nil => exact Or.inl ⟨Option.some.inj h, rfl⟩
    | cons d s =>
      rw [List.getLast?_cons_cons] at h
      exact Or.inr ⟨List.cons_ne_nil d s, Or.inr h⟩

theorem lines_ne_nil {s : Text} (h : s ≠ []) : lines s ≠ [] := by
  intro hnil
  have hflat := flatten_lines s
  rw [hnil] at hflat
  exact h hflat.symm

/-- Behind the end of a line, a text is split as if it stood alone. -/
theorem lines_append {s : Text} (h : s.EndsLine) (t : Text) :
    lines (s ++ t) = lines s ++ lines t := by
  induction s with
  | nil => rfl
  | cons c s ih =>
    rcases endsLine_of_cons h with ⟨rfl, rfl⟩ | ⟨hne, hs⟩
    · rfl
    · rw [List.cons_append, lines, lines, ih hs]
      split
      · rfl
      · -- `s` is not empty, so the first line begins in it and not in `t`.
        obtain ⟨line, rest, hlines⟩ := List.exists_cons_of_ne_nil (lines_ne_nil hne)
        rw [hlines]
        rfl

theorem universalLineEndsFrom_append {s : Text} (hne : s ≠ []) (h : s.EndsLine)
    (afterReturn : Bool) (t : Text) :
    universalLineEndsFrom afterReturn (s ++ t) =
      universalLineEndsFrom afterReturn s ++ universalLineEnds t := by
  induction s generalizing afterReturn with
  | nil => exact absurd rfl hne
  | cons c s ih =>
    rcases endsLine_of_cons h with ⟨rfl, rfl⟩ | ⟨hne, hs⟩
    · cases afterReturn <;> rfl
    · rw [List.cons_append, universalLineEndsFrom, universalLineEndsFrom, ih hne hs, ih hne hs]
      split
      · rfl
      · split
        · rfl
        · rfl

/-- Behind the end of a line, the line ends of a text are read as if it stood alone. -/
theorem universalLineEnds_append {s : Text} (h : s.EndsLine) (t : Text) :
    universalLineEnds (s ++ t) = universalLineEnds s ++ universalLineEnds t := by
  by_cases hne : s = []
  · rw [hne]
    rfl
  · exact universalLineEndsFrom_append hne h false t

theorem EndsLine.cons {c : CodePoint} {s : Text} (h : s.EndsLine) (hc : s = [] → c = lineFeed) :
    EndsLine (c :: s) := by
  cases s with
  | nil =>
    rw [hc rfl]
    exact Or.inr rfl
  | cons d s =>
    refine Or.inr ?_
    rw [List.getLast?_cons_cons]
    exact h.resolve_left (List.cons_ne_nil d s)

theorem universalLineEndsFrom_ne_nil {s : Text} (h : s ≠ []) :
    universalLineEndsFrom false s ≠ [] := by
  obtain ⟨c, s, rfl⟩ := List.exists_cons_of_ne_nil h
  unfold universalLineEndsFrom
  split
  · exact List.cons_ne_nil _ _
  · rw [if_neg fun h => Bool.false_ne_true h.1]
    exact List.cons_ne_nil _ _

theorem EndsLine.universalLineEndsFrom {s : Text} (h : s.EndsLine) (afterReturn : Bool) :
    (universalLineEndsFrom afterReturn s).EndsLine := by
  induction s generalizing afterReturn with
  | nil => exact Or.inl rfl
  | cons c s ih =>
    rcases endsLine_of_cons h with ⟨rfl, rfl⟩ | ⟨hne, hs⟩
    · cases afterReturn
      · exact Or.inr rfl
      · exact Or.inl rfl
    · unfold Text.universalLineEndsFrom
      split
      · exact (ih hs true).cons fun _ => rfl
      · split
        · exact ih hs false
        · exact (ih hs false).cons fun hnil => absurd hnil (universalLineEndsFrom_ne_nil hne)

theorem isBlank_universalLineEndsFrom {s : Text} (h : isBlank s = true) (afterReturn : Bool) :
    isBlank (universalLineEndsFrom afterReturn s) = true := by
  induction s generalizing afterReturn with
  | nil => rfl
  | cons c s ih =>
    obtain ⟨hc, hs⟩ := (Bool.and_eq_true _ _).mp h
    unfold universalLineEndsFrom
    split
    · exact ih hs true
    · split
      · exact ih hs false
      · exact (Bool.and_eq_true _ _).mpr ⟨hc, ih hs false⟩

/-- The lines of a blank text are blank. -/
theorem isBlank_of_mem_lines {s line : Text} (h : isBlank s = true) (hline : line ∈ lines s) :
    isBlank line = true := by
  rw [isBlank, List.all_eq_true] at h ⊢
  intro c hc
  refine h c ?_
  rw [← flatten_lines s]
  exact List.mem_flatten.mpr ⟨line, hline, hc⟩

/-! ### Carriage returns in front of line feeds -/

/-- A line feed follows each carriage return. -/
def PairsReturns : Text → Prop
  | [] => True
  | c :: t => (c = carriageReturn → t.head? = some lineFeed) ∧ PairsReturns t

instance decidablePairsReturns : (t : Text) → Decidable t.PairsReturns
  | [] => isTrue trivial
  | _ :: t =>
    have := decidablePairsReturns t
    inferInstanceAs (Decidable (_ ∧ _))

theorem pairsReturns_iff {t : Text} :
    t.PairsReturns ↔ ∀ u v, t = u ++ carriageReturn :: v → ∃ w, v = lineFeed :: w := by
  constructor
  · intro h u v ht
    induction u generalizing t with
    | nil =>
      rw [ht] at h
      exact List.head?_eq_some_iff.mp (h.1 rfl)
    | cons c u ih =>
      rw [ht] at h
      exact ih h.2 rfl
  · intro h
    induction t with
    | nil => trivial
    | cons c t ih =>
      refine ⟨fun hc => ?_, ih fun u v ht => h (c :: u) v (congrArg (c :: ·) ht)⟩
      obtain ⟨w, rfl⟩ := h [] t (congrArg (· :: t) hc)
      rfl

def withoutReturns (t : Text) : Text := t.filter (· ≠ carriageReturn)

theorem withoutReturns_return (t : Text) :
    withoutReturns (carriageReturn :: t) = withoutReturns t := rfl

theorem withoutReturns_cons {c : CodePoint} (hc : c ≠ carriageReturn) (t : Text) :
    withoutReturns (c :: t) = c :: withoutReturns t :=
  List.filter_cons_of_pos (decide_eq_true hc)

theorem withoutReturns_eq_self {t : Text} (h : carriageReturn ∉ t) : withoutReturns t = t :=
  List.filter_eq_self.mpr fun _ hc => decide_eq_true fun hreturn => h (hreturn ▸ hc)

/-- A carriage return is one line end together with the line feed behind it, which is the one that
stays. -/
theorem universalLineEnds_eq_withoutReturns {t : Text} (h : t.PairsReturns) :
    universalLineEnds t = withoutReturns t := by
  suffices hboth : universalLineEndsFrom false t = withoutReturns t ∧
      (t.head? = some lineFeed → lineFeed :: universalLineEndsFrom true t = withoutReturns t) from
    hboth.1
  induction t with
  | nil => exact ⟨rfl, fun hnil => nomatch hnil⟩
  | cons c t ih =>
    obtain ⟨hrest, hbehind⟩ := ih h.2
    by_cases hc : c = carriageReturn
    · rw [hc]
      refine ⟨?_, fun hfeed => nomatch Option.some.inj hfeed⟩
      rw [universalLineEndsFrom, if_pos rfl, withoutReturns_return]
      exact hbehind (h.1 hc)
    · rw [withoutReturns_cons hc]
      constructor
      · rw [universalLineEndsFrom, if_neg hc, if_neg fun h => Bool.false_ne_true h.1, hrest]
      · intro hfeed
        obtain rfl : c = lineFeed := Option.some.inj hfeed
        rw [universalLineEndsFrom, if_neg hc, if_pos ⟨rfl, rfl⟩, hrest]

/-- Without carriage returns that stand in front of line feeds, a text is cut at the same places. -/
theorem lines_withoutReturns {t : Text} (h : t.PairsReturns) :
    lines (withoutReturns t) = (lines t).map withoutReturns := by
  induction t with
  | nil => rfl
  | cons c t ih =>
    have ih := ih h.2
    by_cases hc : c = carriageReturn
    · have hne : t ≠ [] := by
        intro hnil
        have hhead := h.1 hc
        rw [hnil] at hhead
        cases hhead
      obtain ⟨line, rest, hlines⟩ := List.exists_cons_of_ne_nil (lines_ne_nil hne)
      rw [hc, withoutReturns_return, ih, lines, if_neg (by decide), hlines]
      rfl
    · rw [withoutReturns_cons hc, lines, lines, ih]
      by_cases hfeed : c = lineFeed
      · rw [if_pos hfeed, if_pos hfeed, List.map_cons, withoutReturns_cons hc]
        rfl
      · rw [if_neg hfeed, if_neg hfeed]
        cases lines t with
        | nil => exact congrArg (fun line => [line]) (withoutReturns_cons hc []).symm
        | cons line rest =>
          exact congrArg (· :: rest.map withoutReturns) (withoutReturns_cons hc line).symm

/-- A line has no carriage return unless it ends in one and a line feed. -/
theorem returns_of_mem_lines {t line : Text} (h : t.PairsReturns) (hline : line ∈ lines t) :
    carriageReturn ∉ line ∨
      ∃ body, carriageReturn ∉ body ∧ line = body ++ [carriageReturn, lineFeed] := by
  induction t generalizing line with
  | nil => cases hline
  | cons c t ih =>
    have ih {line : Text} := @ih line h.2
    rw [lines] at hline
    by_cases hfeed : c = lineFeed
    · rw [if_pos hfeed] at hline
      rcases List.mem_cons.mp hline with rfl | hline
      · rw [hfeed]
        exact Or.inl (by decide)
      · exact ih hline
    · rw [if_neg hfeed] at hline
      by_cases hc : c = carriageReturn
      · obtain ⟨w, rfl⟩ := List.head?_eq_some_iff.mp (h.1 hc)
        rcases List.mem_cons.mp hline with rfl | hline
        · rw [hc]
          exact Or.inr ⟨[], List.not_mem_nil, rfl⟩
        · exact ih (List.mem_cons_of_mem _ hline)
      · have hcons {line : Text} (hreturn : carriageReturn ∉ line) :
            carriageReturn ∉ c :: line :=
          List.not_mem_cons_of_ne_of_not_mem (Ne.symm hc) hreturn
        cases hlines : lines t with
        | nil =>
          rw [hlines] at hline
          rw [List.mem_singleton.mp hline]
          exact Or.inl (hcons List.not_mem_nil)
        | cons first rest =>
          rw [hlines] at hline ih
          rcases List.mem_cons.mp hline with rfl | hline
          · rcases ih List.mem_cons_self with hfirst | ⟨body, hbody, rfl⟩
            · exact Or.inl (hcons hfirst)
            · exact Or.inr ⟨c :: body, hcons hbody, rfl⟩
          · exact ih (List.mem_cons_of_mem first hline)

end TargetHelp.Text
