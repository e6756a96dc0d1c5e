import TargetHelp.Proofs.Node.Codec
import TargetHelp.Proofs.Render.AllOrNothing
import TargetHelp.Proofs.Text.Plain

/-!
# Plain views

The views add nothing but spaces, line feeds and colons to the texts of the comments, so they are
plain where these are, and a strict stream takes them as they are.
-/

set_option autoImplicit false
set_option relaxedAutoImplicit false

namespace TargetHelp

namespace Comment

/-- Both texts of a comment are plain. -/
structure Plain (c : Comment) : Prop where
  target : c.target.Plain
  value : c.value.Plain

theorem Plain.summaryLine {c : Comment} (h : c.Plain) (width : Nat) :
    (c.summaryLine width).Plain := by
  have hindentation : Text.Plain Text.indentation := by decide
  have hend : Text.Plain [Text.lineFeed] := by decide
  exact ((hindentation.append (h.target.padRight _)).append
    (.cons (by decide) h.value.firstLine)).append hend

theorem Plain.block {c : Comment} (h : c.Plain) : c.block.Plain := by
  have hindentation : Text.Plain Text.indentation := by decide
  have hcolon : Text.Plain ":\n" := by decide
  have hend : Text.Plain "\n\n" := by decide
  exact (((hindentation.append h.target).append hcolon).append h.value.indent.indent).append hend

theorem Plain.description {c : Comment} (h : c.Plain) : c.description.Plain := by
  have hend : Text.Plain [Text.lineFeed] := by decide
  exact h.value.indent.append hend

end Comment

theorem View.plain_frame {pieces : List Text} (h : ∀ t ∈ pieces, t.Plain) :
    ∀ t ∈ View.frame pieces, t.Plain := by
  have hend : ∀ t ∈ [([Text.lineFeed] : Text)], Text.Plain t :=
    List.forall_mem_singleton.mpr (by decide)
  exact List.forall_mem_append.mpr ⟨List.forall_mem_append.mpr ⟨hend, h⟩, hend⟩

theorem View.plain_pieces {comments : List Comment} (h : ∀ c ∈ comments, c.Plain) (view : View) :
    ∀ t ∈ view.pieces comments, t.Plain := by
  intro t ht
  cases view with
  | short =>
    obtain ⟨c, hc, rfl⟩ := List.mem_map.mp ht
    exact (h c hc).summaryLine _
  | long =>
    obtain ⟨c, hc, rfl⟩ := List.mem_map.mp ht
    exact (h c hc).block
  | target name =>
    obtain ⟨c, hc, rfl⟩ := List.mem_map.mp ht
    exact (h c (List.mem_of_mem_filter hc)).description

/-- The comments of nodes with plain texts have plain texts. -/
theorem Node.plain_documented {nodes : List Node} (h : ∀ n ∈ nodes, ∀ t ∈ n.texts, t.Plain) :
    ∀ c ∈ Node.documented nodes, c.Plain := by
  intro c hc
  have hattached := (List.mergeSort_perm _ _).mem_iff.mp hc
  obtain ⟨n, hn, hcomment⟩ := List.mem_filterMap.mp (List.mem_of_mem_filter hattached)
  cases n with
  | comment d =>
    obtain rfl : d = c := Option.some.inj hcomment
    have htexts := h _ hn
    exact ⟨htexts _ List.mem_cons_self, htexts _ (List.mem_cons_of_mem _ List.mem_cons_self)⟩
  | target name => cases hcomment
  | «include» path isOptional => cases hcomment

/-! ### Strict output -/

theorem Stream.write_strict {t : Text} (h : t.Plain) (writes : List Text) :
    Stream.write ⟨.strict, writes⟩ t = .ok ⟨.strict, writes ++ [t]⟩ := by
  unfold Stream.write Stream.accept
  rw [h.surrogates?]
  rfl

/-- A strict stream takes plain texts as they are. -/
theorem Stream.writeAll_strict {ts : List Text} (h : ∀ t ∈ ts, t.Plain) (writes : List Text) :
    Stream.writeAll ⟨.strict, writes⟩ ts = .ok ⟨.strict, writes ++ ts⟩ := by
  induction ts generalizing writes with
  | nil => rw [List.append_nil]; rfl
  | cons t ts ih =>
    obtain ⟨ht, hts⟩ := List.forall_mem_cons.mp h
    unfold writeAll
    rw [List.foldlM_cons, Stream.write_strict ht]
    have hrest := ih hts (writes ++ [t])
    rw [List.append_assoc] at hrest
    exact hrest

namespace Session

/-- Texts are written to a strict output up to the first one that is not plain. -/
theorem outcome_writeOutputs_strict {before : List Text} (hbefore : ∀ u ∈ before, u.Plain)
    {t : Text} (ht : ¬ t.Plain) (after : List Text) {s : Session} {writes : List Text}
    (hs : s.output = ⟨.strict, writes⟩) :
    ∃ error, Utf8.encode t = .error error ∧
      outcome ((before ++ t :: after).forM writeOutput) s =
        (.error (.encoding error), { s with output := ⟨.strict, writes ++ before⟩ }) := by
  obtain ⟨error, herror⟩ := Text.exists_surrogates ht
  refine ⟨error, by unfold Utf8.encode; rw [herror], ?_⟩
  induction before generalizing s writes with
  | nil =>
    -- A write that is refused leaves the stream as it was.
    have hwrite : s.output.write t = .error (.encoding error) := by
      rw [hs]
      unfold Stream.write Stream.accept
      rw [herror]
      rfl
    have hrefused : outcome (writeOutput t) s = (.error (.encoding error), s) := by
      unfold writeOutput
      rw [outcome_bind, outcome_get]
      dsimp only
      rw [outcome_bind, outcome_attempt, hwrite]
    change outcome (writeOutput t >>= fun _ => after.forM writeOutput) s = _
    rw [outcome_bind, hrefused, List.append_nil, ← hs]
  | cons u before ih =>
    obtain ⟨hu, hrest⟩ := List.forall_mem_cons.mp hbefore
    have hwrite : s.output.write u = .ok ⟨.strict, writes ++ [u]⟩ := by
      rw [hs]
      exact Stream.write_strict hu writes
    have hbehind := ih hrest (s := { s with output := ⟨.strict, writes ++ [u]⟩ }) rfl
    change outcome (writeOutput u >>= fun _ => (before ++ t :: after).forM writeOutput) s = _
    rw [outcome_bind, outcome_writeOutput hwrite]
    rw [List.append_assoc] at hbehind
    exact hbehind

section Views

variable {view : View} {comments : List Comment} {s : Session} {writes : List Text}
  (hs : s.output = ⟨.strict, writes⟩)
include hs

/-- A view of plain pieces is written as a whole. -/
theorem outcome_showView_of_plain (h : ∀ t ∈ view.pieces comments, t.Plain) :
    outcome (showView view (.ok comments)) s =
      (.ok (view.pieces comments).length,
        { s with output := ⟨.strict, writes ++ View.frame (view.pieces comments)⟩ }) := by
  have hwritten : s.output.writeAll (View.frame (view.pieces comments)) =
      .ok ⟨.strict, writes ++ View.frame (view.pieces comments)⟩ := by
    rw [hs]
    exact Stream.writeAll_strict (View.plain_frame h) writes
  unfold showView
  rw [outcome_bind, outcome_attempt]
  dsimp only
  rw [outcome_bind, outcome_writeOutputs hwritten]
  rfl

/-- A view is written up to its first piece that is not plain. -/
theorem outcome_showView_of_not_plain {before after : List Text} {t : Text}
    (h : view.pieces comments = before ++ t :: after) (hbefore : ∀ u ∈ before, u.Plain)
    (ht : ¬ t.Plain) :
    ∃ error, Utf8.encode t = .error error ∧
      outcome (showView view (.ok comments)) s =
        (.error (.encoding error),
          { s with output := ⟨.strict, writes ++ [Text.lineFeed] :: before⟩ }) := by
  have hframe : View.frame (view.pieces comments) =
      ([Text.lineFeed] :: before) ++ t :: (after ++ [[Text.lineFeed]]) := by
    rw [h, View.frame, List.singleton_append, List.cons_append, List.append_assoc,
      List.cons_append, List.cons_append]
  have hplain : ∀ u ∈ [Text.lineFeed] :: before, Text.Plain u :=
    List.forall_mem_cons.mpr ⟨by decide, hbefore⟩
  obtain ⟨error, herror, hwritten⟩ :=
    outcome_writeOutputs_strict hplain ht (after ++ [[Text.lineFeed]]) hs
  refine ⟨error, herror, ?_⟩
  unfold showView
  rw [outcome_bind, outcome_attempt]
  dsimp only
  rw [hframe, outcome_bind, hwritten]

end Views

end Session

end TargetHelp
