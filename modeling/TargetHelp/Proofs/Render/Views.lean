import TargetHelp.Proofs.Render.AllOrNothing
import TargetHelp.Proofs.Render.Documented
import Mathlib.Algebra.BigOperators.Group.Finset.Basic

/-!
# The three views of the same nodes

The two views of everything show one list of comments, in a table or block by block. The view of a
target shows some of them, and they are those that a selection from the nodes in their own order
would give, since sorting by target keeps the comments of a target in order
(`Comment.ofTarget_sorted`). Every collected comment has one target, which is not empty, so the
views of all such targets together show as many comments as a view of everything
(`render_views_agree`).
-/

set_option autoImplicit false
set_option relaxedAutoImplicit false

namespace TargetHelp

/-- The comments of a target as they stand among some nodes; the empty text is no target. -/
def Node.commentsOn (t : Text) (nodes : List Node) : List Comment :=
  if t = [] then [] else Comment.ofTarget t (Node.comments nodes)

namespace Comment

/-! ### Selecting and counting -/

/-- Selecting from what documents some nodes is selecting from the nodes. -/
theorem Documents.commentsOn {nodes : List Node} {comments : List Comment}
    (h : Documents nodes comments) (t : Text) :
    Comment.ofTarget t comments = Node.commentsOn t nodes := by
  unfold Node.commentsOn
  by_cases ht : t = []
  · rw [if_pos ht, ht, h.ofTarget_nil]
  · rw [if_neg ht, h.ofTarget t ht]

/-- A target has collected comments exactly if it is not empty and some comment names it. -/
theorem Documents.mem_targets {nodes : List Node} {comments : List Comment}
    (h : Documents nodes comments) (t : Text) :
    t ∈ comments.map Comment.target ↔ t ≠ [] ∧ ∃ c ∈ Node.comments nodes, c.target = t := by
  rw [List.mem_map]
  constructor
  · rintro ⟨c, hc, rfl⟩
    have hne := h.attached c hc
    have hmem : c ∈ Comment.ofTarget c.target (Node.comments nodes) := by
      rw [← h.ofTarget c.target hne]
      exact mem_ofTarget.mpr ⟨hc, rfl⟩
    exact ⟨hne, c, (mem_ofTarget.mp hmem).1, rfl⟩
  · rintro ⟨hne, c, hc, rfl⟩
    have hmem : c ∈ Comment.ofTarget c.target comments := by
      rw [h.ofTarget c.target hne]
      exact mem_ofTarget.mpr ⟨hc, rfl⟩
    exact ⟨c, (mem_ofTarget.mp hmem).1, rfl⟩

/-- Each comment is counted for its own target and for no other. -/
theorem sum_length_ofTarget {comments : List Comment} {targets : Finset Text}
    (h : ∀ t, t ∈ targets ↔ t ∈ comments.map target) :
    ∑ t ∈ targets, (ofTarget t comments).length = comments.length := by
  have htargets : targets = (comments.map target).toFinset := by
    ext t
    rw [h, List.mem_toFinset]
  have hsum := List.sum_toFinset_count_eq_length (comments.map target)
  rw [← htargets, List.length_map] at hsum
  rw [← hsum]
  refine Finset.sum_congr rfl fun t _ => ?_
  unfold ofTarget List.count
  rw [← List.countP_eq_length_filter, List.countP_map]
  refine List.countP_congr fun c _ => ?_
  simp

end Comment

/-! ### What a view writes -/

/-- No piece of a view is empty: each ends in a line feed of its own. -/
theorem View.ne_nil_of_mem_pieces {view : View} {comments : List Comment} {piece : Text}
    (h : piece ∈ view.pieces comments) : piece ≠ [] := by
  cases view with
  | short =>
    obtain ⟨c, -, rfl⟩ := List.mem_map.mp h
    simp [Comment.summaryLine, Comment.tableLine]
  | long =>
    obtain ⟨c, -, rfl⟩ := List.mem_map.mp h
    simp [Comment.block, Text.indentation]
  | target name =>
    obtain ⟨c, -, rfl⟩ := List.mem_map.mp h
    simp [Comment.description]

/-- Between its empty lines a view is empty exactly if it has no pieces. -/
theorem View.flatten_frame_pieces_eq_iff (view : View) (comments : List Comment) :
    (View.frame (view.pieces comments)).flatten = [Text.lineFeed, Text.lineFeed] ↔
      (view.pieces comments).length = 0 := by
  rw [View.flatten_frame, List.length_eq_zero_iff]
  constructor
  · intro h
    have hflatten : (view.pieces comments).flatten = [] :=
      List.append_cancel_right (List.cons.inj h).2
    refine List.eq_nil_iff_forall_not_mem.mpr fun piece hpiece => ?_
    exact View.ne_nil_of_mem_pieces hpiece (List.flatten_eq_nil_iff.mp hflatten piece hpiece)
  · intro h
    rw [h]
    rfl

namespace Session

variable {d : Destination} {registry : Hint.Registry}

/-- A step writes some pieces between two empty lines to the output and comes to their number. -/
def Shows (m : SessionM Nat) (s : Session) (pieces : List Text) : Prop :=
  (outcome m s).1 = .ok pieces.length ∧
    (outcome m s).2.output.writes = s.output.writes ++ View.frame pieces

theorem shows_render {source : Source} {parser? : Option Parser} {includePath : Json}
    {nodes : List Node}
    (hread : ComesTo ((parser?.getD .nodeStream).read source includePath) (.ok nodes))
    {s : Session} (hs : s.Ready d registry) (hout : s.output.TakesVerbatim) (view : View) :
    Shows (render view source parser? includePath) s (view.pieces (Node.documented nodes)) := by
  have hvalue : (outcome (render view source parser? includePath) s).1 =
      .ok (view.pieces (Node.documented nodes)).length := by
    rw [value_render view hread hout.takesAll hs]
    rfl
  refine ⟨hvalue, ?_⟩
  rcases output_render view hread.output hout.takesAll with
    ⟨⟨f, hf⟩, -⟩ | ⟨before, nodes', -, hread', hwritten⟩
  · cases hf.symm.trans hvalue
  · obtain rfl : nodes = nodes' := Except.ok.inj (hread.value before nodes' hread')
    rw [hout.writeAll] at hwritten
    rw [← Except.ok.inj hwritten]
    rfl

/-- What is shown is two line feeds exactly if nothing is counted. -/
theorem Shows.text_eq_iff {view : View} {comments : List Comment} {m : SessionM Nat} {s : Session}
    (h : Shows m s (view.pieces comments)) {n : Nat} (hn : (outcome m s).1 = .ok n) :
    (outcome m s).2.output.text = s.output.text ++ [Text.lineFeed, Text.lineFeed] ↔ n = 0 := by
  obtain ⟨hvalue, hwrites⟩ := h
  obtain rfl : (view.pieces comments).length = n := Except.ok.inj (hvalue.symm.trans hn)
  rw [← View.flatten_frame_pieces_eq_iff, Stream.text, hwrites, List.flatten_append, Stream.text,
    List.append_cancel_left_eq]

/-- The views of the same nodes agree. That of a target shows the comments that name it in the
order of the nodes, and none for the empty text. The views of everything show the same comments
one for one, as many as the views of all targets together. What a view writes is two line feeds
exactly if it counts nothing. -/
theorem render_views_agree {source : Source} {parser? : Option Parser} {includePath : Json}
    {nodes : List Node}
    (hread : ComesTo ((parser?.getD .nodeStream).read source includePath) (.ok nodes))
    {s : Session} (hs : s.Ready d registry) (hout : s.output.TakesVerbatim) :
    let targetRun (t : Text) := renderTarget (.str t) source parser? includePath
    let viewRun (view : View) := render view source parser? includePath
    ∃ comments, Comment.Documents nodes comments ∧
      (∀ t, Shows (targetRun t) s ((Node.commentsOn t nodes).map Comment.description)) ∧
      Shows (viewRun .short) s
        (comments.map (Comment.summaryLine (Comment.targetWidth comments))) ∧
      Shows (viewRun .long) s (comments.map Comment.block) ∧
      (∀ (targets : Finset Text) (count : Text → Nat),
        (∀ t, t ∈ targets ↔ t ≠ [] ∧ ∃ c ∈ Node.comments nodes, c.target = t) →
        (∀ t ∈ targets, (outcome (targetRun t) s).1 = .ok (count t)) →
        ∑ t ∈ targets, count t = comments.length) ∧
      ∀ m n, (m = viewRun .short ∨ m = viewRun .long ∨ ∃ t, m = targetRun t) →
        (outcome m s).1 = .ok n →
        ((outcome m s).2.output.text = s.output.text ++ [Text.lineFeed, Text.lineFeed] ↔
          n = 0) := by
  intro targetRun viewRun
  have hview := shows_render hread hs hout
  have hdocuments := Node.documents_documented nodes
  have htarget : ∀ t, Shows (targetRun t) s ((View.target t).pieces (Node.documented nodes)) := by
    intro t
    show Shows (renderTarget (.str t) source parser? includePath) s _
    rw [renderTarget_str]
    exact hview (.target t)
  have hpieces (t : Text) : (View.target t).pieces (Node.documented nodes) =
      (Node.commentsOn t nodes).map Comment.description := by
    rw [← hdocuments.commentsOn t]
    rfl
  refine ⟨Node.documented nodes, hdocuments, fun t => ?_, hview .short, hview .long, ?_, ?_⟩
  · rw [← hpieces]
    exact htarget t
  · intro targets count hmem hcount
    have hsum := Comment.sum_length_ofTarget fun t => (hmem t).trans (hdocuments.mem_targets t).symm
    rw [← hsum]
    refine Finset.sum_congr rfl fun t ht => ?_
    have hvalue := (htarget t).1.symm.trans (hcount t ht)
    rw [hpieces, List.length_map, ← hdocuments.commentsOn t] at hvalue
    exact (Except.ok.inj hvalue).symm
  · rintro m n (rfl | rfl | ⟨t, rfl⟩) hn
    · exact (hview .short).text_eq_iff hn
    · exact (hview .long).text_eq_iff hn
    · exact (htarget t).text_eq_iff hn

/-- Two comments of one target with one of another and one of none between them. -/
theorem render_views_agree_interleaved :
    let nodes := [Node.comment ⟨"b", "First.\nMore."⟩, .comment ⟨[], "A remark."⟩,
      .comment ⟨"a", []⟩, .target "b", .comment ⟨"b", "Second."⟩]
    let parser : Parser := ⟨"<function read at ADDR>", .reads fun _ _ => { nodes }⟩
    let source := Source.ofText "makefile" []
    let targetRun (t : Text) := outcome (renderTarget (.str t) source (some parser) .null) {}
    (targetRun "b").2.output.text = "\n  First.\n  More.\n  Second.\n\n" ∧
      (targetRun []).2.output.text = "\n\n" ∧
      (outcome (render .long source (some parser) .null) {}).1 = .ok 3 := by
  intro nodes parser source targetRun
  have hread : ComesTo (((some parser).getD .nodeStream).read source .null) (.ok nodes) :=
    comesTo_finish { nodes }
  have hout : Stream.TakesVerbatim ⟨.everything, []⟩ := fun _ _ => rfl
  obtain ⟨comments, -, htarget, -, hlong, hsum, -⟩ := render_views_agree hread ready_new hout
  have hmem : ∀ t, t ∈ ({Text.ofString "a", Text.ofString "b"} : Finset Text) ↔
      t ≠ [] ∧ ∃ c ∈ Node.comments nodes, c.target = t := by
    intro t
    constructor
    · intro ht
      rcases Finset.mem_insert.mp ht with rfl | ht
      · decide
      · rw [Finset.mem_singleton.mp ht]
        decide
    · rintro ⟨hne, c, hc, rfl⟩
      revert c
      decide
  have hlength : 3 = comments.length :=
    hsum _ (fun t => (Node.commentsOn t nodes).length) hmem fun t _ => by
      rw [(htarget t).1, List.length_map]
  refine ⟨?_, ?_, ?_⟩
  · rw [Stream.text, (htarget "b").2]
    decide
  · rw [Stream.text, (htarget []).2]
    decide
  · rw [hlong.1, List.length_map, ← hlength]

end Session

end TargetHelp
