import Mathlib.Logic.Function.Iterate
import TargetHelp.Proofs.Text.Pieces
import TargetHelp.Text.Layout

/-!
# Indentation goes line by line

A text is indented as a whole: two spaces before it, and two more behind each line feed in it. What
comes of it is the same as two spaces before each of its lines, empty ones and the last one too, and
indenting it several times adds as many spaces to each line (`Text.indent_line_by_line`). A line
feed between two texts keeps them apart, and taking the spaces away again gives the text back.
-/

set_option autoImplicit false
set_option relaxedAutoImplicit false

namespace TargetHelp

namespace Text

/-- `t` without the first `width` code points of each of its lines. -/
def outdent (width : Nat) (t : Text) : Text :=
  join [lineFeed] ((splitAll lineFeed t).map (List.drop width))

/-! ### Replacing a code point -/

section Replace

variable {old : CodePoint} {new : Text}

theorem replaceEach_append (s t : Text) :
    replaceEach old new (s ++ t) = replaceEach old new s ++ replaceEach old new t :=
  List.flatMap_append

theorem replaceEach_cons_self (t : Text) :
    replaceEach old new (old :: t) = new ++ replaceEach old new t := by
  unfold replaceEach
  rw [List.flatMap_cons, if_pos rfl]

theorem replaceEach_eq_self {t : Text} (h : old ∉ t) : replaceEach old new t = t := by
  unfold replaceEach
  induction t with
  | nil => rfl
  | cons c t ih =>
    have hc : c ≠ old := fun heq => h (heq ▸ List.mem_cons_self)
    have ht : old ∉ t := fun hmem => h (List.mem_cons_of_mem c hmem)
    rw [List.flatMap_cons, if_neg hc, ih ht]
    rfl

end Replace

/-! ### One level -/

theorem lineFeed_notMem_indentation : lineFeed ∉ indentation := by decide

theorem indent_eq (t : Text) :
    indent t = indentation ++ replaceEach lineFeed (lineFeed :: indentation) t := by
  unfold indent
  rw [replaceEach_append, replaceEach_eq_self lineFeed_notMem_indentation]

theorem indent_of_notMem {line : Text} (h : lineFeed ∉ line) :
    indent line = indentation ++ line := by
  rw [indent_eq, replaceEach_eq_self h]

/-- What stands before a line feed and what stands behind it are indented each on its own. -/
theorem indent_append_lineFeed (s t : Text) :
    indent (s ++ lineFeed :: t) = indent s ++ lineFeed :: indent t := by
  rw [indent_eq, indent_eq s, indent_eq t, replaceEach_append, replaceEach_cons_self]
  simp only [List.append_assoc, List.cons_append]

theorem indent_join {lines : List Text} (hne : lines ≠ [])
    (h : ∀ line ∈ lines, lineFeed ∉ line) :
    indent (join [lineFeed] lines) = join [lineFeed] (lines.map (indentation ++ ·)) := by
  induction lines with
  | nil => exact absurd rfl hne
  | cons line lines ih =>
    obtain ⟨hline, hlines⟩ := List.forall_mem_cons.mp h
    -- No line feed stands behind the last line, so there is nothing to cut off there.
    by_cases hlast : lines = []
    · subst hlast
      exact indent_of_notMem hline
    · have hrest : lines.map (indentation ++ ·) ≠ [] := mt List.map_eq_nil_iff.mp hlast
      rw [List.map_cons, join_cons hlast, join_cons hrest, List.append_assoc, List.append_assoc,
        List.singleton_append, List.singleton_append, indent_append_lineFeed,
        indent_of_notMem hline, ih hlast hlines]

/-- The lines of an indented text are those of the text, each behind the indentation. -/
theorem splitAll_indent (t : Text) :
    splitAll lineFeed (indent t) = (splitAll lineFeed t).map (indentation ++ ·) := by
  have hlines : ∀ line ∈ splitAll lineFeed t, lineFeed ∉ line := fun line hline =>
    notMem_of_mem_splitAll hline
  have hindented : ∀ line ∈ (splitAll lineFeed t).map (indentation ++ ·), lineFeed ∉ line := by
    refine List.forall_mem_map.mpr fun line hline hmem => ?_
    rcases List.mem_append.mp hmem with hmem | hmem
    · exact lineFeed_notMem_indentation hmem
    · exact hlines line hline hmem
  have hne : (splitAll lineFeed t).map (indentation ++ ·) ≠ [] :=
    mt List.map_eq_nil_iff.mp (splitAll_ne_nil lineFeed t)
  have hjoin := indent_join (splitAll_ne_nil lineFeed t) hlines
  rw [join_splitAll] at hjoin
  exact splitAll_eq_iff.mpr ⟨hne, hjoin.symm, hindented⟩

/-! ### Any number of levels -/

/-- Each level adds its two spaces to those that stand before a line already. -/
theorem splitAll_iterate_indent (levels : Nat) (t : Text) :
    splitAll lineFeed (indent^[levels] t) =
      (splitAll lineFeed t).map (List.replicate (2 * levels) space ++ ·) := by
  induction levels with
  | zero => exact (List.map_id _).symm
  | succ levels ih =>
    have hspaces : indentation ++ List.replicate (2 * levels) space =
        List.replicate (2 * (levels + 1)) space := rfl
    rw [Function.iterate_succ_apply', splitAll_indent, ih, List.map_map, ← hspaces]
    refine List.map_congr_left fun line _ => ?_
    exact (List.append_assoc indentation (List.replicate (2 * levels) space) line).symm

theorem outdent_iterate_indent (levels : Nat) (t : Text) :
    outdent (2 * levels) (indent^[levels] t) = t := by
  have hlines : List.drop (2 * levels) ∘ (List.replicate (2 * levels) space ++ ·) = id :=
    funext fun line => List.drop_left' List.length_replicate
  unfold outdent
  rw [splitAll_iterate_indent, List.map_map, hlines, List.map_id, join_splitAll]

/-- The lines of a text indented any number of times are the lines of the text in their order, each
behind two spaces for every level, and dropping as many code points from each of them gives the text
back. So indenting tells texts apart, and a line feed between two texts stays one between the two of
them indented. -/
theorem indent_line_by_line :
    (∀ (levels : Nat) (t : Text),
      splitAll lineFeed (indent^[levels] t) =
        (splitAll lineFeed t).map (List.replicate (2 * levels) space ++ ·) ∧
      outdent (2 * levels) (indent^[levels] t) = t) ∧
    Function.Injective indent ∧
    ∀ s t : Text, indent (s ++ lineFeed :: t) = indent s ++ lineFeed :: indent t := by
  have hinverse : Function.LeftInverse (outdent 2) indent := outdent_iterate_indent 1
  exact ⟨fun levels t => ⟨splitAll_iterate_indent levels t, outdent_iterate_indent levels t⟩,
    hinverse.injective, indent_append_lineFeed⟩

/-- An empty line, one with a space of its own, and an empty last line. -/
example : indent^[2] "a\n\n b\n" = Text.ofString "    a\n    \n     b\n    " := by decide

end Text

/-! ### Layouts -/

end TargetHelp
