import TargetHelp.Proofs.Render.Views
import TargetHelp.Proofs.Text.Line
import TargetHelp.Proofs.Text.Pieces
import Mathlib.Data.List.Forall2

/-!
# The short view is a table

A line of the table is a target and the first line of its text, with spaces between them up to a
column that the longest target decides, so the columns line up (`View.short_view_aligned`). The text
is cut at its first line feed, but a target is shown as it is: a view of targets without line feeds
has a line for each, between two empty ones, and every line feed in a target adds a line
(`Session.render_short_lines`).
-/

set_option autoImplicit false
set_option relaxedAutoImplicit false

namespace TargetHelp

namespace Comment

/-! ### Columns -/

/-- A number is the length of the longest target, zero if there is none. -/
structure IsWidth (comments : List Comment) (width : Nat) : Prop where
  bound : ∀ c ∈ comments, c.target.length ≤ width
  attained : comments ≠ [] → ∃ c ∈ comments, c.target.length = width
  empty : comments = [] → width = 0

theorem isWidth_targetWidth (comments : List Comment) :
    IsWidth comments (targetWidth comments) := by
  have hwidth : targetWidth comments =
      max 0 ((comments.map fun c => c.target.length).max?.getD 0) := List.foldl_max
  rw [Nat.zero_max] at hwidth
  cases hmax : (comments.map fun c => c.target.length).max? with
  | none =>
    obtain rfl : comments = [] := List.map_eq_nil_iff.mp (List.max?_eq_none_iff.mp hmax)
    exact ⟨List.forall_mem_nil _, fun hne => absurd rfl hne, fun _ => rfl⟩
  | some width =>
    rw [hmax, Option.getD_some] at hwidth
    obtain ⟨hmem, hbound⟩ := List.max?_eq_some_iff.mp hmax
    obtain ⟨c, hc, hlength⟩ := List.mem_map.mp hmem
    rw [hwidth]
    refine ⟨fun d hd => hbound _ (List.mem_map_of_mem hd), fun _ => ⟨c, hc, hlength⟩, ?_⟩
    rintro rfl
    cases hc

/-- A line of a table: behind two spaces the target, then at least three spaces up to the column of
summaries, and there the text up to its first line feed, with a line feed at the end. -/
structure Columns (width : Nat) (c : Comment) (gap summary line : Text) : Prop where
  text : line = Text.indentation ++ c.target ++ gap ++ summary ++ [Text.lineFeed]
  blank : ∀ p ∈ gap, p = Text.space
  apart : 3 ≤ gap.length
  column : (Text.indentation ++ c.target ++ gap).length = width + 5
  summary : ∃ rest?, Text.SplitsFirst Text.lineFeed c.value summary rest?

theorem splitsFirst_firstLine (t : Text) :
    ∃ rest?, Text.SplitsFirst Text.lineFeed t t.firstLine rest? :=
  ⟨_, Text.splitFirst_eq_iff.mp rfl⟩

theorem columns_summaryLine {c : Comment} {width : Nat} (h : c.target.length ≤ width) :
    c.Columns width (List.replicate (width + 2 - c.target.length) Text.space ++ [Text.space])
      c.value.firstLine (c.summaryLine width) where
  text := by
    unfold summaryLine tableLine Text.padRight
    simp only [List.append_assoc, List.cons_append, List.nil_append]
  blank p hp := by
    rcases List.mem_append.mp hp with hp | hp
    · exact List.eq_of_mem_replicate hp
    · exact List.mem_singleton.mp hp
  apart := by
    rw [List.length_append, List.length_replicate, List.length_singleton]
    omega
  column := by
    simp only [List.length_append, List.length_replicate, List.length_singleton]
    have hindentation : Text.indentation.length = 2 := rfl
    omega
  summary := splitsFirst_firstLine c.value

end Comment

/-- The lines of the short view are those of the comments, one for each and in their order. Their
columns line up: the longest target, of which there is one if there are comments at all, decides
where the summaries begin. -/
theorem View.short_view_aligned (comments : List Comment) :
    Comment.IsWidth comments (Comment.targetWidth comments) ∧
    List.Forall₂
      (fun c line => ∃ gap summary, c.Columns (Comment.targetWidth comments) gap summary line)
      comments (View.short.pieces comments) := by
  have hwidth := Comment.isWidth_targetWidth comments
  refine ⟨hwidth, List.forall₂_map_right_iff.mpr (List.forall₂_same.mpr fun c hc => ?_)⟩
  exact ⟨_, _, Comment.columns_summaryLine (hwidth.bound c hc)⟩

/-- An empty target is as good as any, and so is a text that begins with a line feed. -/
example : View.short.pieces [⟨"über", "x\ny"⟩, ⟨[], "\nz"⟩] =
    ["  über   x\n", "         \n"] := by
  decide

namespace Comment

/-! ### Line feeds -/

section LineFeeds

variable {width : Nat} {c : Comment} {gap summary line : Text}

theorem Columns.lineFeed_notMem (h : c.Columns width gap summary line) :
    Text.lineFeed ∉ gap ∧ Text.lineFeed ∉ summary := by
  obtain ⟨rest?, hsummary⟩ := h.summary
  exact ⟨fun hgap => absurd (h.blank _ hgap) (by decide), hsummary.notMem⟩

/-- A line of a table holds the line feeds of its target and its own. -/
theorem Columns.count_lineFeed (h : c.Columns width gap summary line) :
    line.count Text.lineFeed = c.target.count Text.lineFeed + 1 := by
  obtain ⟨hgap, hsummary⟩ := h.lineFeed_notMem
  have hindentation : Text.indentation.count Text.lineFeed = 0 := rfl
  rw [h.text]
  simp only [List.count_append, hindentation, List.count_eq_zero.mpr hgap,
    List.count_eq_zero.mpr hsummary, Nat.zero_add, Nat.add_zero]
  rfl

/-- With a target of one line, it is one line. -/
theorem Columns.exists_body (h : c.Columns width gap summary line)
    (htarget : Text.lineFeed ∉ c.target) :
    ∃ body, Text.lineFeed ∉ body ∧ line = body ++ [Text.lineFeed] := by
  obtain ⟨hgap, hsummary⟩ := h.lineFeed_notMem
  refine ⟨_, ?_, h.text⟩
  have hindentation : Text.lineFeed ∉ Text.indentation := by decide
  simp only [List.mem_append, not_or]
  exact ⟨⟨⟨hindentation, htarget⟩, hgap⟩, hsummary⟩

theorem Columns.begins (h : c.Columns width gap summary line) :
    Text.indentation ++ c.target <+: line := by
  rw [h.text, List.append_assoc, List.append_assoc]
  exact List.prefix_append _ _

end LineFeeds

/-- The number of line feeds in the targets of some comments. -/
def lineFeeds (comments : List Comment) : Nat :=
  (comments.flatMap target).count Text.lineFeed

theorem lineFeeds_eq_zero_iff {comments : List Comment} :
    lineFeeds comments = 0 ↔ ∀ c ∈ comments, Text.lineFeed ∉ c.target := by
  unfold lineFeeds
  simp only [List.count_eq_zero, List.mem_flatMap, not_exists, not_and]

variable {width : Nat} {comments : List Comment}

theorem count_flatten_summaryLine (h : ∀ c ∈ comments, c.target.length ≤ width) :
    (comments.map (summaryLine width)).flatten.count Text.lineFeed =
      comments.length + lineFeeds comments := by
  unfold lineFeeds
  induction comments with
  | nil => rfl
  | cons c comments ih =>
    obtain ⟨hc, hrest⟩ := List.forall_mem_cons.mp h
    have hline := (columns_summaryLine hc).count_lineFeed
    rw [List.map_cons, List.flatten_cons, List.count_append, hline, ih hrest, List.length_cons,
      List.flatMap_cons, List.count_append]
    omega

/-- Behind its empty line the view begins with the lines of comments whose targets hold no line
feed. -/
theorem lines_frame {before : List Comment} (hbefore : ∀ c ∈ before, c.target.length ≤ width)
    (htargets : ∀ c ∈ before, Text.lineFeed ∉ c.target) (pieces : List Text) :
    ∃ rest, Text.lines (View.frame (before.map (summaryLine width) ++ pieces)).flatten =
      [Text.lineFeed] :: (before.map (summaryLine width) ++ rest) := by
  have hpieces : ∀ piece ∈ before.map (summaryLine width),
      ∃ body, Text.lineFeed ∉ body ∧ piece = body ++ [Text.lineFeed] :=
    List.forall_mem_map.mpr fun c hc =>
      (columns_summaryLine (hbefore c hc)).exists_body (htargets c hc)
  refine ⟨Text.lines (pieces.flatten ++ [Text.lineFeed]), ?_⟩
  rw [View.flatten_frame, List.flatten_append, List.append_assoc, Text.lines, if_pos rfl,
    Text.lines_flatten_append hpieces]

end Comment

namespace View

theorem count_frame_short (comments : List Comment) :
    (frame (short.pieces comments)).flatten.count Text.lineFeed =
      comments.length + 2 + Comment.lineFeeds comments := by
  have hpieces := Comment.count_flatten_summaryLine (Comment.isWidth_targetWidth comments).bound
  have hend : ([Text.lineFeed] : Text).count Text.lineFeed = 1 := rfl
  rw [flatten_frame, List.count_cons_self, List.count_append, hend, pieces, hpieces]
  omega

/-- A comment has a line of its own in its place if no target up to there holds a line feed. -/
theorem getElem?_lines_frame_short {comments : List Comment} {i : Nat} {c : Comment}
    (hc : comments[i]? = some c)
    (htargets : ∀ other ∈ comments.take (i + 1), Text.lineFeed ∉ other.target) :
    (Text.lines (frame (short.pieces comments)).flatten)[i + 1]? =
      some (c.summaryLine (Comment.targetWidth comments)) := by
  let width := Comment.targetWidth comments
  have hbound : ∀ other ∈ comments.take (i + 1), other.target.length ≤ width := fun other hother =>
    (Comment.isWidth_targetWidth comments).bound other (List.mem_of_mem_take hother)
  have hpieces : short.pieces comments =
      (comments.take (i + 1)).map (Comment.summaryLine width) ++
        (comments.drop (i + 1)).map (Comment.summaryLine width) := by
    rw [← List.map_append, List.take_append_drop]
    rfl
  have hline : ((comments.take (i + 1)).map (Comment.summaryLine width))[i]? =
      some (c.summaryLine width) := by
    rw [List.getElem?_map, List.getElem?_take_of_lt (Nat.lt_succ_self i), hc]
    rfl
  obtain ⟨rest, hlines⟩ := Comment.lines_frame hbound htargets
    ((comments.drop (i + 1)).map (Comment.summaryLine width))
  rw [hpieces, hlines, List.getElem?_cons_succ,
    List.getElem?_append_left (List.getElem?_eq_some_iff.mp hline).1, hline]

end View

namespace Session

variable {d : Destination} {registry : Hint.Registry}

/-- The short view of any nodes that have been read is two line feeds and one more for each comment
shown and for each line feed in a target, so it has one line for each comment if and only if no
target holds a line feed. The line of a comment begins with its target, two spaces before it, and is
where the place of the comment says, as long as no target up to there holds a line feed. -/
theorem render_short_lines {source : Source} {parser? : Option Parser} {includePath : Json}
    {nodes : List Node}
    (hread : ComesTo ((parser?.getD .nodeStream).read source includePath) (.ok nodes))
    {s : Session} (hs : s.Ready d registry) (hout : s.output.TakesVerbatim) :
    let shown := outcome (render .short source parser? includePath) s
    ∃ (comments : List Comment) (text : Text), Comment.Documents nodes comments ∧
      shown.1 = .ok comments.length ∧ shown.2.output.text = s.output.text ++ text ∧
      text.count Text.lineFeed = comments.length + 2 + Comment.lineFeeds comments ∧
      (text.count Text.lineFeed = comments.length + 2 ↔
        ∀ c ∈ comments, Text.lineFeed ∉ c.target) ∧
      ∀ i c, comments[i]? = some c →
        (∀ other ∈ comments.take (i + 1), Text.lineFeed ∉ other.target) →
        ∃ line, (Text.lines text)[i + 1]? = some line ∧ Text.indentation ++ c.target <+: line := by
  intro shown
  obtain ⟨hvalue, hwrites⟩ := shows_render hread hs hout .short
  have hdocuments := Node.documents_documented nodes
  generalize Node.documented nodes = comments at hvalue hwrites hdocuments
  have hcount := View.count_frame_short comments
  refine ⟨comments, (View.frame (View.short.pieces comments)).flatten, hdocuments, ?_, ?_, hcount,
    ?_, fun i c hc htargets => ⟨_, View.getElem?_lines_frame_short hc htargets, ?_⟩⟩
  · rw [hvalue, View.pieces, List.length_map]
  · rw [Stream.text, hwrites, List.flatten_append, Stream.text]
  · rw [hcount, Nat.add_eq_left, Comment.lineFeeds_eq_zero_iff]
  · have hbound := (Comment.isWidth_targetWidth comments).bound c (List.mem_of_getElem? hc)
    exact (Comment.columns_summaryLine hbound).begins

/-- Two comments, the second of a target with a line feed: the line of the first one is where it
should be, and there is a line too many. -/
theorem render_short_lines_second :
    let nodes := [Node.comment ⟨"a", "x\ny"⟩, .target "a", .comment ⟨"b\nc", "z"⟩]
    let parser : Parser := ⟨"<function read at ADDR>", .reads fun _ _ => { nodes }⟩
    let shown := outcome (render .short (Source.ofText "makefile" []) (some parser) .null) {}
    shown.1 = .ok 2 ∧ shown.2.output.text.count Text.lineFeed = 5 ∧
      ∃ line, (Text.lines shown.2.output.text)[1]? = some line ∧ Text.ofString "  a" <+: line := by
  intro nodes parser shown
  have hread : ComesTo (((some parser).getD .nodeStream).read (Source.ofText "makefile" []) .null)
      (.ok nodes) := comesTo_finish { nodes }
  have hout : Stream.TakesVerbatim ⟨.everything, []⟩ := fun _ _ => rfl
  have hgiven : Comment.Documents nodes [⟨"a", "x\ny"⟩, ⟨"b\nc", "z"⟩] :=
    ⟨by decide, List.pairwise_pair.mpr (.inr (.rel (by decide))), fun _ _ => rfl⟩
  obtain ⟨comments, text, hdocuments, hvalue, htext, hcount, -, hline⟩ :=
    render_short_lines hread ready_new hout
  obtain rfl := hdocuments.unique hgiven fun _ _ => rfl
  have hwhole : shown.2.output.text = text := htext
  rw [hwhole]
  exact ⟨hvalue, hcount, hline 0 ⟨"a", "x\ny"⟩ rfl (by decide)⟩

/-- The records of a stream may hold line feeds in a target, and then the view of one comment has
two lines. -/
theorem render_short_broken_line :
    let record : Text := "\x7b\x22kind\x22: \x22comment\x22, \x22target\x22: \x22a\\nb\x22, " ++
      "\x22value\x22: \x22x\x22\x7d\n"
    let shown := outcome (render .short (Source.ofText "stream" record) none .null) {}
    shown.1.toOption = some 1 ∧ shown.2.output.text = "\n  a\nb   x\n\n" ∧
      shown.2.output.text.count Text.lineFeed ≠ 1 + 2 := by
  decide +kernel

end Session

end TargetHelp
