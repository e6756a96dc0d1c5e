import TargetHelp.Proofs.Render.Documented
import TargetHelp.Proofs.Text.Literal

/-!
# Comments are drafts of texts

Collecting and rendering take whatever a parser gives for the parts of a comment. Where it gives
texts, no comparison and no piece of a view is refused, the order is that of comments, and the
column of targets is as wide as a table of comments makes it. So for the records of nodes the
general way is the way of comments.
-/

set_option autoImplicit false
set_option relaxedAutoImplicit false

namespace TargetHelp

/-! ### The column of targets -/

namespace Text

/-- A positive number begins with a digit that is not zero. -/
theorem exists_head_decimal {n : Nat} (h : 0 < n) :
    ∃ c rest, decimal n = c :: rest ∧ isAsciiDigit c = true ∧ c ≠ '0' := by
  have hdigit : ∀ d < 10, 0 < d →
      isAsciiDigit (CodePoint.ofChar d.digitChar) = true ∧ CodePoint.ofChar d.digitChar ≠ '0' := by
    decide
  induction n using Nat.strongRecOn with
  | ind n ih =>
    unfold decimal inBase at ih ⊢
    by_cases hsmall : n < 10
    · rw [Nat.toDigits_of_lt_base hsmall]
      exact ⟨_, [], rfl, hdigit n hsmall h⟩
    · have hlarge : 10 ≤ n := Nat.le_of_not_lt hsmall
      obtain ⟨c, rest, hdigits, hc⟩ :=
        ih (n / 10) (Nat.div_lt_self h (by decide)) (Nat.div_pos hlarge (by decide))
      rw [Nat.toDigits_of_base_le (by decide) hlarge, List.map_append, hdigits]
      exact ⟨c, rest ++ _, rfl, hc⟩

end Text

namespace Template

theorem leadingDigits_some {digits : Text} {value : Nat}
    (h : ∀ c ∈ digits, Text.isAsciiDigit c = true) :
    leadingDigits (some value) digits =
      (some (digits.foldl (fun v c => v * 10 + Text.asciiDigitValue c) value), []) := by
  induction digits generalizing value with
  | nil => rfl
  | cons c digits ih =>
    obtain ⟨hc, hdigits⟩ := List.forall_mem_cons.mp h
    unfold leadingDigits
    rw [Text.decimalValue?_of_isAsciiDigit hc]
    exact ih hdigits

/-- A number that is not too large is read back from its digits. -/
theorem leadingNumber_decimal {n : Nat} (h : n ≤ maxNumber) :
    leadingNumber (Text.decimal n) = .ok (some n, []) := by
  have hdigits : ∀ c ∈ Text.decimal n, Text.isAsciiDigit c = true := by
    intro c hc
    obtain ⟨digit, hdigit, rfl⟩ := List.mem_map.mp hc
    exact Text.isAsciiDigit_ofChar (Nat.isDigit_of_mem_toDigits (by decide) (by decide) hdigit)
  have hvalue : (Text.decimal n).foldl (fun v c => v * 10 + Text.asciiDigitValue c) 0 = n := by
    have hread := Nat.ofDigitChars_ten_toDigits (n := n)
    rw [Nat.ofDigitChars_eq_foldl] at hread
    unfold Text.decimal Text.inBase
    rw [List.foldl_map]
    simp only [Nat.mul_comm 10] at hread
    exact hread
  have hleading : leadingDigits none (Text.decimal n) = (some n, []) := by
    have hne : Text.decimal n ≠ [] := mt List.map_eq_nil_iff.mp Nat.toDigits_ne_nil
    obtain ⟨c, rest, hcons⟩ := List.exists_cons_of_ne_nil hne
    rw [hcons] at hdigits hvalue ⊢
    unfold leadingDigits
    obtain ⟨hc, hrest⟩ := List.forall_mem_cons.mp hdigits
    rw [Text.decimalValue?_of_isAsciiDigit hc]
    exact (leadingDigits_some hrest).trans (congrArg (fun v => (some v, [])) hvalue)
  unfold leadingNumber
  rw [hleading]
  exact if_neg (Nat.not_lt.mpr h)

/-- The specification of a column is read as its width alone: no digit is a mark, and the first one
is not zero. -/
theorem parse_column {n : Nat} (hpositive : 0 < n) (hwidth : n ≤ maxNumber) (defaults : Defaults) :
    Spec.parse defaults (CodePoint.ofChar '<' :: Text.decimal n) = .ok {
      fill := Text.space, align := .left, sign := none, zeroCoercion := false, alternate := false
      width := some n, separator := none, precision := none, code := defaults.code } := by
  obtain ⟨c, rest, hcons, hc, hzero⟩ := Text.exists_head_decimal hpositive
  have hread := leadingNumber_decimal hwidth
  rw [hcons] at hread ⊢
  have hne (d : CodePoint) (hd : Text.isAsciiDigit d = false) : c ≠ d := fun hcd =>
    Bool.noConfusion (hd.symm.trans (hcd ▸ hc))
  have hpoint : Align.ofPoint? c = none := by
    unfold Align.ofPoint?
    rw [if_neg (hne '<' (by decide)), if_neg (hne '>' (by decide)), if_neg (hne '^' (by decide)),
      if_neg (hne '=' (by decide))]
  have halign : Spec.takeAlign (CodePoint.ofChar '<' :: c :: rest) =
      (some (none, .left), c :: rest) := by
    unfold Spec.takeAlign
    dsimp only
    rw [hpoint]
    rfl
  have hsign : Spec.takeSign (c :: rest) = (none, c :: rest) := by
    unfold Spec.takeSign SignRule.ofPoint?
    dsimp only
    rw [if_neg (hne '-' (by decide)), if_neg (hne '+' (by decide)), if_neg (hne ' ' (by decide))]
  have hmark {mark : CodePoint} (hmark : c ≠ mark) :
      Spec.takeMark mark (c :: rest) = (false, c :: rest) := if_neg hmark
  unfold Spec.parse
  simp only [halign, hsign, hmark (hne 'z' (by decide)), hmark (hne '#' (by decide)),
    Option.bind_some, Option.isNone_none, if_true, hmark hzero, hread]
  rfl

/-- A text in a column is followed by spaces up to the width. -/
theorem formatValue_column {n : Nat} (hpositive : 0 < n) (hwidth : n < Spec.sizeLimit) (t : Text) :
    formatValue (.str t) (CodePoint.ofChar '<' :: Text.decimal n) = .ok (Text.padRight n t) := by
  have hnumber : n ≤ maxNumber := by
    have hlimits : Spec.sizeLimit ≤ maxNumber := by decide
    omega
  let spec : Spec := {
    fill := Text.space, align := .left, sign := none, zeroCoercion := false, alternate := false
    width := some n, separator := none, precision := none, code := Spec.textDefaults.code }
  have hparse : Spec.parse Spec.textDefaults (CodePoint.ofChar '<' :: Text.decimal n) = .ok spec :=
    parse_column hpositive hnumber _
  have hsize : spec.isOversized = false := decide_eq_false (Nat.not_le.mpr hwidth)
  have hpad : spec.pad [] t = Text.padRight n t := by
    unfold Spec.pad Text.padRight
    simp [spec]
  have hformat : spec.formatText t = .ok (spec.pad [] t) := by
    unfold Spec.formatText
    rw [hsize]
    rfl
  have hne : (CodePoint.ofChar '<' :: Text.decimal n).isEmpty = false := rfl
  unfold formatValue
  rw [hne, if_neg Bool.false_ne_true]
  dsimp only
  rw [hparse]
  exact hformat.trans (congrArg Except.ok hpad)

end Template

namespace Draft

/-! ### The order of drafts -/

/-- Texts can be compared. -/
theorem isBelow_str (s t : Text) :
    (Json.str s).isBelow (.str t) = .ok (Text.below s t) := by
  have hless : (s != t && Text.atMost s t) = Text.below s t := by
    unfold Text.below
    cases hts : Text.atMost t s with
    | false =>
      have hne : s ≠ t := by
        rintro rfl
        exact Bool.noConfusion ((Text.atMost_refl s).symm.trans hts)
      have htotal := Text.atMost_total s t
      rw [hts, Bool.or_false] at htotal
      rw [htotal, Bool.and_true]
      exact bne_iff_ne.mpr hne
    | true =>
      cases hst : Text.atMost s t with
      | false => exact Bool.and_false _
      | true =>
        obtain rfl := Text.atMost_antisymm hst hts
        simp
  unfold Json.isBelow Json.less
  rw [hless]
  rfl

/-- The drafts of comments are sorted as the comments are. -/
theorem sorted_ofComment (comments : List Comment) :
    sorted (comments.map ofComment) = .ok ((Comment.sorted comments).map ofComment) := by
  have hranks : Sorting.Ranks fun c d : Draft => Text.below c.target.plain d.target.plain :=
    Text.ranks_below.comap fun d : Draft => d.target.plain
  have hcompares : Sorting.Compares (fun c d : Draft => c.target.isBelow d.target)
      (fun c d => Text.below c.target.plain d.target.plain) (comments.map ofComment) := by
    intro c hc d hd
    obtain ⟨c, -, rfl⟩ := List.mem_map.mp hc
    obtain ⟨d, -, rfl⟩ := List.mem_map.mp hd
    exact isBelow_str c.target d.target
  unfold sorted
  rw [Sorting.sortedBy_eq hranks hcompares]
  refine congrArg Except.ok (List.map_mergeSort fun c _ d _ => ?_).symm
  exact (Bool.not_not _).symm

/-! ### Views of drafts -/

theorem targetWidth_ofComment (comments : List Comment) :
    targetWidth (comments.map ofComment) = .ok (Comment.targetWidth comments) := by
  have hlengths : (comments.map ofComment).mapM (fun d => d.target.length) =
      .ok (comments.map fun c => c.target.length) := mapM_ofComment fun _ => rfl
  unfold targetWidth
  rw [hlengths]
  rfl

theorem tableLine_ofComment {width : Nat} (h : width + 2 < Template.Spec.sizeLimit) (c : Comment) :
    tableLine (CodePoint.ofChar '<' :: Text.decimal (width + 2)) (ofComment c) =
      .ok (Comment.summaryLine width c) := by
  unfold tableLine
  have hcolumn : Template.formatValue (ofComment c).target
      (CodePoint.ofChar '<' :: Text.decimal (width + 2)) =
      .ok (Text.padRight (width + 2) c.target) :=
    Template.formatValue_column (Nat.succ_pos _) h c.target
  rw [hcolumn]
  rfl

/-- The drafts of comments make the view of the comments, unless the table is too wide for one. -/
theorem pieces_ofComment {view : View} {target : Json} {comments : List Comment}
    (htarget : ∀ name, view = .target name → target = .str name)
    (hwidth : view = .short → Comment.targetWidth comments + 2 < Template.Spec.sizeLimit) :
    pieces view target (comments.map ofComment) = .ok (view.pieces comments) := by
  cases view with
  | short =>
    have hspec : columnSpec (.int (Comment.targetWidth comments)) =
        .ok (CodePoint.ofChar '<' :: Text.decimal (Comment.targetWidth comments + 2)) := rfl
    unfold pieces
    dsimp only
    rw [targetWidth_ofComment]
    change (columnSpec (.int (Comment.targetWidth comments)) >>= fun spec =>
      (comments.map ofComment).mapM (tableLine spec)) = _
    rw [hspec]
    exact mapM_ofComment (tableLine_ofComment (hwidth rfl))
  | long => exact mapM_ofComment fun _ => rfl
  | target name =>
    rw [htarget name rfl]
    exact pieces_target name comments

/-- The drafts among the records of nodes are those of their comments. -/
theorem filterMap_ofRecord? (nodes : List Node) :
    (nodes.map Node.toJson).filterMap ofRecord? = (Node.comments nodes).map ofComment := by
  have hrecord (n : Node) : ofRecord? n.toJson = n.comment?.map ofComment := by
    cases n <;> rfl
  unfold Node.comments
  rw [List.filterMap_map, List.map_filterMap]
  exact congrArg (List.filterMap · nodes) (funext hrecord)

theorem attached_ofComment (comments : List Comment) :
    attached (comments.map ofComment) = (Comment.attached comments).map ofComment :=
  List.filter_map

end Draft

namespace Session

variable {α β : Type}

/-! ### Steps with their values mapped -/

theorem ext {m n : SessionM α} (h : ∀ s, outcome m s = outcome n s) : m = n := funext h

theorem outcome_map (f : α → β) (m : SessionM α) (s : Session) :
    outcome (f <$> m) s = ((outcome m s).1.map f, (outcome m s).2) := by
  rw [map_eq_pure_bind, outcome_bind]
  rcases outcome m s with ⟨r, s'⟩
  cases r <;> rfl

theorem tryCatch_map (f : α → β) (m : SessionM α) {handle : Fault → SessionM α}
    {handle' : Fault → SessionM β} (h : ∀ fault, handle' fault = f <$> handle fault) :
    MonadExcept.tryCatch (f <$> m) handle' = f <$> MonadExcept.tryCatch m handle := by
  refine ext fun s => ?_
  rw [outcome_map, outcome_tryCatch, outcome_tryCatch, outcome_map]
  rcases outcome m s with ⟨r, s'⟩
  cases r with
  | ok a => rfl
  | error fault => exact (congrArg (outcome · s') (h fault)).trans (outcome_map f (handle fault) s')

/-- A trace shows the value of a step, so the value can be mapped behind the trace. -/
theorem traced_map (f : α → β) (call : Call) (shown? : β → Option Text) (m : SessionM α) :
    traced call shown? (f <$> m) = f <$> traced call (fun a => shown? (f a)) m := by
  unfold traced
  rw [map_bind]
  refine bind_congr fun session => ?_
  rw [map_bind]
  refine bind_congr fun isOff => ?_
  cases isOff with
  | true => rfl
  | false =>
    dsimp only
    rw [if_neg Bool.false_ne_true, if_neg Bool.false_ne_true, map_bind]
    refine bind_congr fun _ => ?_
    rw [map_bind, tryCatch_map f m fun fault => ?_, bind_map_left]
    · refine bind_congr fun a => ?_
      cases shown? (f a) with
      | none => rfl
      | some t => rw [map_bind]; rfl
    · by_cases hinterrupt : (!fault.isInterrupt) = true
      · rw [if_pos hinterrupt, if_pos hinterrupt, map_bind]
        rfl
      · rw [if_neg hinterrupt, if_neg hinterrupt]
        rfl

/-! ### Records in the place of nodes -/

variable {parser : Parser} {reading : Reading} {source : Source} {includePath : Json}

/-- Drafts are collected from the records of nodes as comments are collected from the nodes. -/
theorem collectDrafts_toJson
    (hread : parser.read source includePath = attempt reading.result) (named : Fields Text) :
    collectDrafts named source (reading.nodes.map Node.toJson) reading.fault =
      List.map Draft.ofComment <$> collect named parser source includePath := by
  have hdrafts : Draft.attached ((reading.nodes.map Node.toJson).filterMap Draft.ofRecord?) =
      (Comment.attached (Node.comments reading.nodes)).map Draft.ofComment := by
    rw [Draft.filterMap_ofRecord?, Draft.attached_ofComment]
  have hlength : (Comment.attached (Node.comments reading.nodes)).length =
      (Node.documented reading.nodes).length := (List.length_mergeSort _).symm
  unfold collectDrafts collect
  refine Eq.trans ?_ (traced_map (List.map Draft.ofComment) (collecting named source)
    (fun drafts => some (Draft.briefList drafts)) (collectUntraced parser source includePath))
  congr 1
  unfold collectUntraced parseNodes
  rw [hread, map_bind]
  unfold Reading.result
  cases reading.fault with
  | some fault => rfl
  | none =>
    dsimp only
    rw [hdrafts, Draft.sorted_ofComment, List.length_map, List.length_map, hlength]
    change _ = List.map Draft.ofComment <$> (report Level.detail "parse"
      (countNote reading.nodes.length (Node.documented reading.nodes).length) >>= fun _ =>
        pure (Node.documented reading.nodes))
    rw [map_bind]
    rfl

/-- The records of nodes are rendered as the nodes are, unless the table is too wide to be made. -/
theorem outcome_renderDrafts
    (hread : parser.read source includePath = attempt reading.result) {view : View} {target : Json}
    (htarget : ∀ name, view = .target name → target = .str name)
    (hwidth : view = .short →
      Comment.targetWidth (Node.documented reading.nodes) + 2 < Template.Spec.sizeLimit)
    (s : Session) :
    outcome (renderDrafts view target source parser (reading.nodes.map Node.toJson) reading.fault
        includePath) s =
      outcome (render view source (some parser) includePath) s := by
  unfold renderDrafts render
  dsimp only [Option.getD_some]
  rw [collectDrafts_toJson hread, bind_map_left, outcome_bind, outcome_bind]
  rcases hcollect : outcome (collect (renderingArguments (some parser) includePath) parser source
    includePath) s with ⟨r, s'⟩
  cases r with
  | error fault => rfl
  | ok comments =>
    obtain ⟨before, nodes, -, hnodes, rfl⟩ := outcome_collect_eq_ok hcollect
    rw [hread, outcome_attempt] at hnodes
    obtain ⟨-, rfl⟩ := Reading.result_eq_ok hnodes
    dsimp only
    rw [Draft.pieces_ofComment htarget hwidth]
    rfl

end Session

end TargetHelp
