import TargetHelp.Proofs.Render.Collect
import TargetHelp.Proofs.Sorting.Stable

/-!
# Which comments are collected, and in which order

The collected comments are those that name a target, in the order of their targets, and the
comments of one target stand as the parser gave them. These conditions leave no choice: two lists
in the order of their targets are equal if they hold the same comments of every single target. So
the views depend on nothing else in the nodes.
-/

set_option autoImplicit false
set_option relaxedAutoImplicit false

namespace TargetHelp

namespace Text

/-- Whether a text comes no later is the lexicographic order by code points. -/
theorem atMost_iff (s t : Text) :
    atMost s t = true ↔ s = t ∨ List.Lex (fun c d => c.val < d.val) s t := by
  induction s generalizing t with
  | nil =>
    cases t with
    | nil => exact ⟨fun _ => Or.inl rfl, fun _ => rfl⟩
    | cons d t => exact ⟨fun _ => Or.inr List.Lex.nil, fun _ => rfl⟩
  | cons c s ih =>
    cases t with
    | nil => simp [atMost]
    | cons d t =>
      have hcons : atMost (c :: s) (d :: t) = true ↔
          c.val < d.val ∨ c = d ∧ atMost s t = true := by
        simp [atMost, Fin.ext_iff]
      rw [hcons, ih t, List.cons_lex_cons_iff, List.cons.injEq]
      constructor
      · rintro (hlt | ⟨hcd, hst | hst⟩)
        · exact Or.inr (Or.inl hlt)
        · exact Or.inl ⟨hcd, hst⟩
        · exact Or.inr (Or.inr ⟨hcd, hst⟩)
      · rintro (⟨hcd, hst⟩ | hlt | ⟨hcd, hst⟩)
        · exact Or.inr ⟨hcd, Or.inl hst⟩
        · exact Or.inl hlt
        · exact Or.inr ⟨hcd, Or.inr hst⟩

/-- Whether a text comes before another one. -/
def below (s t : Text) : Bool := !atMost t s

theorem ranks_below : Sorting.Ranks below where
  asymm := by
    intro s t hst
    have hnot : atMost t s = false := by simpa [below] using hst
    have htotal := atMost_total s t
    rw [hnot, Bool.or_false] at htotal
    unfold below
    rw [htotal, Bool.not_true]
  trans := by
    intro s t u hts hut
    unfold below at *
    rw [Bool.not_eq_false'] at *
    exact atMost_trans hts hut

/-- No two texts have the same rank. -/
theorem tied_below (s t : Text) : Sorting.tied below s t = decide (t = s) := by
  unfold Sorting.tied below
  rw [Bool.not_not, Bool.not_not, Bool.eq_iff_iff, Bool.and_eq_true, decide_eq_true_iff]
  constructor
  · rintro ⟨hts, hst⟩
    exact atMost_antisymm hts hst
  · rintro rfl
    exact ⟨atMost_refl t, atMost_refl t⟩

end Text

namespace Comment

/-- The comments of a target, in their order. -/
def ofTarget (t : Text) (comments : List Comment) : List Comment :=
  comments.filter fun c => c.target = t

theorem mem_ofTarget {t : Text} {comments : List Comment} {c : Comment} :
    c ∈ ofTarget t comments ↔ c ∈ comments ∧ c.target = t := by
  unfold ofTarget
  rw [List.mem_filter, decide_eq_true_iff]

/-- The order of comments by their targets. -/
def byTarget (c d : Comment) : Bool := Text.below c.target d.target

theorem ranks_byTarget : Sorting.Ranks byTarget := Text.ranks_below.comap Comment.target

/-- The comments of a target are those of one rank. -/
theorem filter_tied (c : Comment) (comments : List Comment) :
    comments.filter (Sorting.tied byTarget c) = ofTarget c.target comments :=
  List.filter_congr fun d _ => Text.tied_below c.target d.target

/-- In the order of their targets. -/
def Ascending (comments : List Comment) : Prop :=
  comments.Pairwise fun c d => Text.atMost c.target d.target = true

theorem Ascending.ranks {comments : List Comment} (h : Ascending comments) :
    Sorting.Ascending byTarget comments :=
  h.imp fun hcd => congrArg not hcd

/-- The order of targets and the comments of each leave no choice. -/
theorem Ascending.eq_of_ofTarget {cs ds : List Comment} (hcs : Ascending cs) (hds : Ascending ds)
    (h : ∀ t, ofTarget t cs = ofTarget t ds) : cs = ds := by
  refine hcs.ranks.eq_of_filter ranks_byTarget hds.ranks fun c => ?_
  rw [filter_tied, filter_tied, h]

theorem sorts_sorted (comments : List Comment) :
    Sorting.Sorts byTarget comments (sorted comments) := by
  have hsorted : sorted comments = comments.mergeSort fun c d => !byTarget d c := by
    unfold sorted byTarget Text.below
    simp only [Bool.not_not]
  rw [hsorted]
  exact Sorting.sorts_mergeSort ranks_byTarget comments

theorem ascending_sorted (comments : List Comment) : Ascending (sorted comments) :=
  (sorts_sorted comments).ascending.imp fun hcd => by
    rwa [byTarget, Text.below, Bool.not_eq_false'] at hcd

/-- Sorting keeps the order among the comments of a target. -/
theorem ofTarget_sorted (t : Text) (comments : List Comment) :
    ofTarget t (sorted comments) = ofTarget t comments := by
  have hstable := (sorts_sorted comments).stable ⟨t, []⟩
  rw [filter_tied, filter_tied] at hstable
  exact hstable

theorem target_ne_nil_of_mem_attached {c : Comment} {comments : List Comment}
    (h : c ∈ attached comments) : c.target ≠ [] := by
  have hattached : c.isAttached = true := (List.mem_filter.mp h).2
  intro hnil
  rw [isAttached, hnil] at hattached
  cases hattached

theorem ofTarget_attached {t : Text} (ht : t ≠ []) (comments : List Comment) :
    ofTarget t (attached comments) = ofTarget t comments := by
  unfold ofTarget attached
  rw [List.filter_filter]
  refine List.filter_congr fun c _ => ?_
  by_cases hc : c.target = t
  · have hattached : c.isAttached = true := by
      rw [isAttached, hc]
      simpa using ht
    rw [hattached, Bool.and_true]
  · rw [decide_eq_false hc, Bool.false_and]

/-- Some comments are those of the nodes that name a target, in lexicographic order of the targets
by code points, and for each target in the order of the nodes. -/
structure Documents (nodes : List Node) (comments : List Comment) : Prop where
  attached : ∀ c ∈ comments, c.target ≠ []
  sorted : comments.Pairwise fun c d =>
    c.target = d.target ∨ List.Lex (fun x y => x.val < y.val) c.target d.target
  ofTarget : ∀ t ≠ [], ofTarget t comments = ofTarget t (Node.comments nodes)

theorem Documents.ascending {nodes : List Node} {comments : List Comment}
    (h : Documents nodes comments) : Ascending comments :=
  h.sorted.imp fun {c d} hcd => (Text.atMost_iff c.target d.target).mpr hcd

theorem Documents.ofTarget_nil {nodes : List Node} {comments : List Comment}
    (h : Documents nodes comments) : Comment.ofTarget [] comments = [] :=
  List.filter_eq_nil_iff.mpr fun c hc htarget => h.attached c hc (of_decide_eq_true htarget)

/-- Comments that document some nodes are those of all nodes that agree with them on each
target. -/
theorem Documents.unique {ms ns : List Node} {cs ds : List Comment} (hcs : Documents ms cs)
    (hds : Documents ns ds)
    (h : ∀ t ≠ [], Comment.ofTarget t (Node.comments ms) = Comment.ofTarget t (Node.comments ns)) :
    cs = ds := by
  refine hcs.ascending.eq_of_ofTarget hds.ascending fun t => ?_
  by_cases ht : t = []
  · rw [ht, hcs.ofTarget_nil, hds.ofTarget_nil]
  · rw [hcs.ofTarget t ht, h t ht, hds.ofTarget t ht]

end Comment

open Comment in
theorem Node.documents_documented (nodes : List Node) :
    Documents nodes (Node.documented nodes) := by
  refine ⟨fun c hc => ?_, ?_, fun t ht => ?_⟩
  · exact target_ne_nil_of_mem_attached ((List.mergeSort_perm _ _).mem_iff.mp hc)
  · exact (ascending_sorted _).imp fun {c d} hcd => (Text.atMost_iff c.target d.target).mp hcd
  · unfold Node.documented
    rw [ofTarget_sorted, ofTarget_attached ht]

namespace Session

open Comment

/-- If comments are collected, they are those of the nodes that the parser comes to. -/
theorem eq_documented_of_collect {named : Fields Text} {parser : Parser} {source : Source}
    {includePath : Json} {nodes : List Node} {s : Session} {cs : List Comment}
    (hread : ComesTo (parser.read source includePath) (.ok nodes))
    (h : (outcome (collect named parser source includePath) s).1 = .ok cs) :
    cs = Node.documented nodes := by
  rcases hcollect : outcome (collect named parser source includePath) s with ⟨r, s'⟩
  rw [hcollect] at h
  obtain rfl : r = .ok cs := h
  obtain ⟨before, ms, -, hms, rfl⟩ := outcome_collect_eq_ok hcollect
  rw [Except.ok.inj (hread.value before ms hms)]

/-- What is collected documents the nodes that the parser comes to, and that leaves no choice: nodes
that agree on the comments of each target give the same comments and the same views. -/
theorem collect_documents {parser : Parser} {source : Source} {includePath : Json}
    {nodes : List Node} (hread : ComesTo (parser.read source includePath) (.ok nodes))
    (named : Fields Text) :
    ∃ comments : List Comment,
      (∀ d registry (s : Session), s.Ready d registry →
        (outcome (collect named parser source includePath) s).1 = .ok comments) ∧
      (∀ s cs, (outcome (collect named parser source includePath) s).1 = .ok cs → cs = comments) ∧
      Documents nodes comments ∧
      comments.Perm (attached (Node.comments nodes)) ∧
      (∀ others, Documents nodes others → others = comments) ∧
      ∀ (parser' : Parser) (source' : Source) (includePath' : Json) (nodes' : List Node),
        ComesTo (parser'.read source' includePath') (.ok nodes') →
        (∀ t ≠ [], ofTarget t (Node.comments nodes') = ofTarget t (Node.comments nodes)) →
        (∀ named' s cs, (outcome (collect named' parser' source' includePath') s).1 = .ok cs →
          cs = comments) ∧
        ∀ view d registry (s t : Session), Alike d registry s t →
          (outcome (render view source' (some parser') includePath') s).1 =
            (outcome (render view source (some parser) includePath) t).1 ∧
          (outcome (render view source' (some parser') includePath') s).2.output =
            (outcome (render view source (some parser) includePath) t).2.output := by
  have hdocuments := Node.documents_documented nodes
  refine ⟨Node.documented nodes, fun d registry s hs => ?_,
    fun s cs => eq_documented_of_collect hread, hdocuments, List.mergeSort_perm _ _,
    fun others hothers => ?_, ?_⟩
  · have hagree : Agree d registry (collect named parser source includePath)
        (pure (Node.documented nodes)) := agree_collect hread named
    exact (hagree hs.alike).1
  · exact hothers.unique hdocuments fun _ _ => rfl
  · intro parser' source' includePath' nodes' hread' hsame
    have hequal : Node.documented nodes' = Node.documented nodes :=
      (Node.documents_documented nodes').unique hdocuments hsame
    refine ⟨fun named' s cs hcs => ?_, fun view d registry s t hst => ?_⟩
    · rw [← hequal]
      exact eq_documented_of_collect hread' hcs
    · have hleft : Agree d registry (render view source' (some parser') includePath')
          (showView view (.ok (Node.documented nodes'))) :=
        @agree_render d registry source' includePath' (.ok nodes') (some parser') hread' view
      have hright : Agree d registry (render view source (some parser) includePath)
          (showView view (.ok (Node.documented nodes))) :=
        @agree_render d registry source includePath (.ok nodes) (some parser) hread view
      rw [hequal] at hleft
      obtain ⟨hvalue, hafter⟩ := hleft.trans hright.symm hst
      exact ⟨hvalue, hafter.output⟩

/-- Comments of two targets in any mixture, among nodes of other kinds and comments of none. -/
theorem collect_documents_interleaved :
    let first : Comment := ⟨"lint", "Checks the style."⟩
    let second : Comment := ⟨"lint", "Slow."⟩
    let other : Comment := ⟨"Build", "Builds it."⟩
    let parser : Parser := ⟨"<function read at ADDR>", .reads fun source _ =>
      { nodes := if source.lines.isEmpty
          then [.comment first, .target "lint", .comment other, .comment second]
          else [.comment ⟨[], "A remark."⟩, .comment other, .comment first, .comment second] }⟩
    ∀ view, (outcome (render view ⟨"a", [], none⟩ (some parser) .null) {}).2.output =
      (outcome (render view ⟨"b", [[]], none⟩ (some parser) .null) {}).2.output := by
  intro first second other parser view
  have hsame : ∀ t ≠ [], ofTarget t [first, other, second] =
      ofTarget t [⟨[], "A remark."⟩, other, first, second] := by
    intro t ht
    by_cases hlint : "lint" = t
    · subst hlint
      decide
    · by_cases hbuild : "Build" = t
      · subst hbuild
        decide
      · have hnil : ¬ ([] : Text) = t := fun h => ht h.symm
        simp [ofTarget, first, other, second, hlint, hbuild, hnil]
  have hread : ComesTo (parser.read ⟨"b", [[]], none⟩ .null)
      (.ok [.comment ⟨[], "A remark."⟩, .comment other, .comment first, .comment second]) :=
    comesTo_finish _
  have hread' : ComesTo (parser.read ⟨"a", [], none⟩ .null)
      (.ok [.comment first, .target "lint", .comment other, .comment second]) := comesTo_finish _
  obtain ⟨comments, -, -, -, -, -, hviews⟩ := collect_documents hread []
  exact ((hviews parser ⟨"a", [], none⟩ .null _ hread' hsame).2 view _ _ _ _ ready_new.alike).2

end Session

end TargetHelp
