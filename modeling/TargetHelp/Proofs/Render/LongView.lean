import TargetHelp.Proofs.Text.Line
import TargetHelp.View

/-!
# The long view tells its comments

A target without line feeds is what stands in front of the first colon at the end of a line. The
lines of its value are indented, empty ones too, so the first empty line ends the value, whatever
the value holds. Therefore each block of a long view ends at a place that only the text up to there
decides, and the comments can be told from the text (`long_view_unambiguous`).
-/

set_option autoImplicit false
set_option relaxedAutoImplicit false

namespace TargetHelp

namespace Text

/-- `t` with the indentation of a value in a block in front of each of its lines but the first. -/
def nested (t : Text) : Text :=
  t.flatMap fun c => if c = lineFeed then lineFeed :: (indentation ++ indentation) else [c]

@[simp]
theorem nested_cons_lineFeed (t : Text) :
    nested (lineFeed :: t) = lineFeed :: (indentation ++ (indentation ++ nested t)) := rfl

theorem nested_cons_of_ne {c : CodePoint} (h : c ≠ lineFeed) (t : Text) :
    nested (c :: t) = c :: nested t := by
  unfold nested
  rw [List.flatMap_cons, if_neg h]
  rfl

theorem indent_indent (t : Text) :
    indent (indent t) = indentation ++ indentation ++ nested t := by
  unfold indent replaceEach nested
  simp only [List.flatMap_append, List.flatMap_assoc, List.append_assoc]
  have hpoint (c : CodePoint) :
      (if c = lineFeed then lineFeed :: indentation else [c]).flatMap
          (fun d => if d = lineFeed then lineFeed :: indentation else [d]) =
        if c = lineFeed then lineFeed :: (indentation ++ indentation) else [c] := by
    by_cases hc : c = lineFeed
    · rw [if_pos hc, if_pos hc]
      rfl
    · rw [if_neg hc, if_neg hc, List.flatMap_singleton, if_neg hc]
  simp only [hpoint]
  rfl

/-- The first line feed ends what has none. -/
theorem append_lineFeed_inj {s s' t t' : Text} (hs : lineFeed ∉ s) (hs' : lineFeed ∉ s')
    (h : s ++ lineFeed :: t = s' ++ lineFeed :: t') : s = s' ∧ t = t' := by
  have hlines := congrArg lines h
  rw [lines_append_lineFeed hs, lines_append_lineFeed hs'] at hlines
  obtain rfl : s = s' := List.append_cancel_right (List.cons.inj hlines).1
  exact ⟨rfl, (List.cons.inj (List.append_cancel_left h)).2⟩

/-- Two line feeds in a row end what is nested: behind each of its own stands a space. -/
theorem nested_append_inj {s s' t t' : Text}
    (h : nested s ++ lineFeed :: lineFeed :: t = nested s' ++ lineFeed :: lineFeed :: t') :
    s = s' ∧ t = t' := by
  have hspace : lineFeed ≠ space := by decide
  -- An empty text and any other one already differ in front of the second line feed.
  have hempty {c : CodePoint} {r u u' : Text} :
      lineFeed :: lineFeed :: u ≠ nested (c :: r) ++ lineFeed :: lineFeed :: u' := by
    intro heq
    by_cases hc : c = lineFeed
    · rw [hc, nested_cons_lineFeed] at heq
      exact hspace (List.cons.inj (List.cons.inj heq).2).1
    · rw [nested_cons_of_ne hc] at heq
      exact hc (List.cons.inj heq).1.symm
  induction s generalizing s' with
  | nil =>
    cases s' with
    | nil => exact ⟨rfl, (List.cons.inj (List.cons.inj h).2).2⟩
    | cons d s' => exact absurd h hempty
  | cons c s ih =>
    cases s' with
    | nil => exact absurd h.symm hempty
    | cons d s' =>
      by_cases hc : c = lineFeed
      · by_cases hd : d = lineFeed
        · simp only [hc, hd, nested_cons_lineFeed, List.cons_append, List.append_assoc,
            List.cons.injEq, true_and, List.append_cancel_left_eq] at h
          obtain ⟨hss, htt⟩ := ih h
          exact ⟨by rw [hc, hd, hss], htt⟩
        · rw [hc, nested_cons_lineFeed, nested_cons_of_ne hd] at h
          exact absurd (List.cons.inj h).1.symm hd
      · by_cases hd : d = lineFeed
        · rw [hd, nested_cons_lineFeed, nested_cons_of_ne hc] at h
          exact absurd (List.cons.inj h).1 hc
        · rw [nested_cons_of_ne hc, nested_cons_of_ne hd] at h
          obtain ⟨hcd, hrest⟩ := List.cons.inj h
          obtain ⟨hss, htt⟩ := ih hrest
          exact ⟨by rw [hcd, hss], htt⟩

end Text

/-! ### Blocks -/

namespace Comment

theorem block_append_eq (c : Comment) (t : Text) :
    c.block ++ t = Text.indentation ++ ((c.target ++ ":") ++ Text.lineFeed ::
      (Text.indentation ++ Text.indentation ++
        (Text.nested c.value ++ Text.lineFeed :: Text.lineFeed :: t))) := by
  have hcolon : Text.ofString ":\n" = Text.ofString ":" ++ [Text.lineFeed] := rfl
  have hend : Text.ofString "\n\n" = [Text.lineFeed, Text.lineFeed] := rfl
  unfold block
  rw [Text.indent_indent, hcolon, hend]
  simp only [List.append_assoc, List.cons_append, List.nil_append]

/-- A block tells its comment and where it ends. -/
theorem block_append_inj {c d : Comment} (hc : Text.lineFeed ∉ c.target)
    (hd : Text.lineFeed ∉ d.target) {t u : Text} (h : c.block ++ t = d.block ++ u) :
    c = d ∧ t = u := by
  have hheading {e : Comment} (he : Text.lineFeed ∉ e.target) :
      Text.lineFeed ∉ e.target ++ Text.ofString ":" := by
    intro hmem
    rcases List.mem_append.mp hmem with hmem | hmem
    · exact he hmem
    · exact absurd (List.mem_singleton.mp hmem) (by decide)
  rw [block_append_eq, block_append_eq] at h
  obtain ⟨htarget, hbehind⟩ :=
    Text.append_lineFeed_inj (hheading hc) (hheading hd) (List.append_cancel_left h)
  obtain ⟨hvalue, htu⟩ := Text.nested_append_inj (List.append_cancel_left hbehind)
  have hcd : c = d := by
    cases c
    cases d
    simp only [mk.injEq]
    exact ⟨List.append_cancel_right htarget, hvalue⟩
  exact ⟨hcd, htu⟩

theorem blocks_append_inj {cs ds : List Comment} (hcs : ∀ c ∈ cs, Text.lineFeed ∉ c.target)
    (hds : ∀ d ∈ ds, Text.lineFeed ∉ d.target)
    (h : (cs.map block).flatten ++ [Text.lineFeed] = (ds.map block).flatten ++ [Text.lineFeed]) :
    cs = ds := by
  -- A block begins with a space and the end of a view does not.
  have hend {c : Comment} {t : Text} : [Text.lineFeed] ≠ c.block ++ t := by
    rw [block_append_eq]
    exact fun heq => absurd (List.cons.inj heq).1 (by decide)
  induction cs generalizing ds with
  | nil =>
    cases ds with
    | nil => rfl
    | cons d ds =>
      rw [List.map_cons, List.flatten_cons, List.append_assoc] at h
      exact absurd h hend
  | cons c cs ih =>
    obtain ⟨hc, hcs⟩ := List.forall_mem_cons.mp hcs
    rw [List.map_cons, List.flatten_cons, List.append_assoc] at h
    cases ds with
    | nil => exact absurd h.symm hend
    | cons d ds =>
      obtain ⟨hd, hds⟩ := List.forall_mem_cons.mp hds
      rw [List.map_cons, List.flatten_cons, List.append_assoc] at h
      obtain ⟨hcd, hrest⟩ := block_append_inj hc hd h
      rw [hcd, ih hcs hds hrest]

end Comment

/-! ### The whole view -/

/-- Two long views with the same text show the same comments in the same order, if no target holds
a line feed. Values may hold anything: none looks like a heading, the end of a block or the end of
the view. -/
theorem View.long_view_unambiguous {cs ds : List Comment}
    (hcs : ∀ c ∈ cs, Text.lineFeed ∉ c.target) (hds : ∀ d ∈ ds, Text.lineFeed ∉ d.target)
    (h : (View.frame (View.long.pieces cs)).flatten =
      (View.frame (View.long.pieces ds)).flatten) : cs = ds := by
  rw [View.flatten_frame, View.flatten_frame] at h
  exact Comment.blocks_append_inj hcs hds (List.cons.inj h).2

/-- A value that holds blank lines and what would be the heading and the text of another block. -/
theorem View.long_view_unambiguous_imitation :
    let imitation : Comment := ⟨"all", "Builds.\n\n  lint:\n    Checks.\n\n"⟩
    let lint : Comment := ⟨"lint", []⟩
    let nodes := [Node.comment imitation, .comment ⟨[], "x"⟩, .target "lint", .comment lint]
    Comment.attached (Node.comments nodes) = [imitation, lint] := by
  intro imitation lint nodes
  exact View.long_view_unambiguous (by decide) (by decide) (by decide)

/-- A target with a line feed may look like two comments. -/
example : (View.frame (View.long.pieces [⟨"a:\n    \n\n  b", []⟩])).flatten =
    (View.frame (View.long.pieces [⟨"a", []⟩, ⟨"b", []⟩])).flatten := by
  decide

end TargetHelp
