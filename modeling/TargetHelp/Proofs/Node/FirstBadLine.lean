import TargetHelp.Proofs.Json.Digits
import TargetHelp.Proofs.Render.Collect
import TargetHelp.Proofs.Text.Line

/-!
# The first bad line ends a reading

A line that is not blank holds a node or is bad. A reading gives the nodes of the lines before the
first bad one, and the fault that ends it has the number of that line, blank lines counted. One
sort of bad line has no number, though: the digits of an integer are counted by what reads numbers,
and its refusal is passed on as it is.
-/

set_option autoImplicit false
set_option relaxedAutoImplicit false

namespace TargetHelp.Node

/-- The node that a line holds, if it holds one. -/
def decoding? (line : Text) : Option Node :=
  (Json.read line).toOption.bind fun record => (ofJson record).toOption

/-- A line that is not blank and holds no node. -/
def IsBad (line : Text) : Prop := Text.isBlank line = false ∧ decoding? line = none

instance (line : Text) : Decidable (IsBad line) :=
  inferInstanceAs (Decidable (Text.isBlank line = false ∧ decoding? line = none))

/-- The nodes that some lines hold, the blank ones left out. -/
def decodings (lines : List Text) : List Node :=
  (lines.filter fun line => !Text.isBlank line).filterMap decoding?

/-! ### One line -/

theorem decoding?_of_ofLine {number : Nat} {line : Text} {n : Node}
    (h : ofLine number line = .ok n) : decoding? line = some n := by
  unfold ofLine at h
  unfold decoding?
  split at h
  · cases h
  · cases h
  · cases h
  · rename_i record hread
    rw [hread]
    split at h
    · cases h
    · rename_i found hfound
      change (ofJson record).toOption = _
      rw [hfound]
      exact congrArg some (Except.ok.inj h)

/-- The fault of a line that holds no node has the number of the line, unless it is that of an
integer with too many digits. -/
def IsFaultOf (number : Nat) (line : Text) (f : Fault) : Prop :=
  ((∀ digits, Json.read line ≠ .error (.tooManyDigits digits)) →
    ∃ message, f = .parse message (some number)) ∧
  ∀ digits, Json.read line = .error (.tooManyDigits digits) →
    f = .json (.tooManyDigits digits) ∧ Text.maxDigits < digits ∧ Text.HasDigits digits line

theorem isFaultOf_of_ofLine {number : Nat} {line : Text} {f : Fault}
    (h : ofLine number line = .error f) : decoding? line = none ∧ IsFaultOf number line f := by
  unfold ofLine at h
  unfold decoding? IsFaultOf
  split at h
  · rename_i error hread
    rw [hread]
    exact ⟨rfl, fun _ => ⟨_, (Except.error.inj h).symm⟩, fun _ hdigits => nomatch hdigits⟩
  · rename_i container hread
    rw [hread]
    exact ⟨rfl, fun _ => ⟨_, (Except.error.inj h).symm⟩, fun _ hdigits => nomatch hdigits⟩
  · rename_i count hread
    obtain ⟨hlong, hdigits⟩ := Json.hasDigits_of_tooManyDigits hread
    rw [hread]
    refine ⟨rfl, fun hnot => absurd rfl (hnot count), fun digits heq => ?_⟩
    obtain rfl : count = digits := by cases heq; rfl
    exact ⟨(Except.error.inj h).symm, hlong, hdigits⟩
  · rename_i record hread
    rw [hread]
    split at h
    · rename_i error hrecord
      refine ⟨?_, fun _ => ⟨_, (Except.error.inj h).symm⟩, fun _ hdigits => nomatch hdigits⟩
      change (ofJson record).toOption = _
      rw [hrecord]
      rfl
    · cases h

/-! ### All lines -/

theorem decodings_cons_of_blank {line : Text} (h : Text.isBlank line = true) (lines : List Text) :
    decodings (line :: lines) = decodings lines := by
  unfold decodings
  rw [List.filter_cons_of_neg (by simp [h])]

theorem decodings_cons_of_some {line : Text} (hblank : Text.isBlank line = false) {n : Node}
    (h : decoding? line = some n) (lines : List Text) :
    decodings (line :: lines) = n :: decodings lines := by
  unfold decodings
  rw [List.filter_cons_of_pos (by simp [hblank]), List.filterMap_cons_some h]

/-- Without bad lines every line that is not blank gives a node. -/
theorem length_decodings {lines : List Text} (h : ∀ line ∈ lines, ¬ IsBad line) :
    (decodings lines).length = lines.countP fun line => !Text.isBlank line := by
  induction lines with
  | nil => rfl
  | cons line lines ih =>
    obtain ⟨hline, hrest⟩ := List.forall_mem_cons.mp h
    cases hblank : Text.isBlank line with
    | true =>
      rw [decodings_cons_of_blank hblank, ih hrest, List.countP_cons_of_neg (by simp [hblank])]
    | false =>
      obtain ⟨n, hn⟩ := Option.ne_none_iff_exists'.mp fun hnone => hline ⟨hblank, hnone⟩
      rw [decodings_cons_of_some hblank hn, List.length_cons, ih hrest,
        List.countP_cons_of_pos (by simp [hblank])]

/-- A reading of lines ends at the first bad one, or has the nodes of all. -/
theorem ofLines_cases (number : Nat) (lines : List Text) :
    ((∀ line ∈ lines, ¬ IsBad line) ∧ ofLines number lines = (decodings lines, none)) ∨
    ∃ before line after f, lines = before ++ line :: after ∧
      (∀ other ∈ before, ¬ IsBad other) ∧ IsBad line ∧
      IsFaultOf (number + before.length) line f ∧
      ofLines number lines = (decodings before, some f) := by
  induction lines generalizing number with
  | nil => exact Or.inl ⟨List.forall_mem_nil _, rfl⟩
  | cons line lines ih =>
    cases hblank : Text.isBlank line with
    | true =>
      have hgood : ¬ IsBad line := fun hbad => by cases hblank.symm.trans hbad.1
      have hskip : ofLines number (line :: lines) = ofLines (number + 1) lines := by
        rw [ofLines, hblank, if_pos rfl]
      rw [hskip]
      rcases ih (number + 1) with
        ⟨hall, hread⟩ | ⟨before, bad, after, f, rfl, hall, hbad, hf, hread⟩
      · refine Or.inl ⟨List.forall_mem_cons.mpr ⟨hgood, hall⟩, ?_⟩
        rw [hread, decodings_cons_of_blank hblank]
      · refine Or.inr ⟨line :: before, bad, after, f, rfl,
          List.forall_mem_cons.mpr ⟨hgood, hall⟩, hbad, ?_, ?_⟩
        · rwa [List.length_cons, Nat.add_comm before.length, ← Nat.add_assoc]
        · rw [hread, decodings_cons_of_blank hblank]
    | false =>
      cases hline : ofLine number line with
      | error f =>
        obtain ⟨hnone, hfault⟩ := isFaultOf_of_ofLine hline
        refine Or.inr ⟨[], line, lines, f, rfl, List.forall_mem_nil _,
          ⟨hblank, hnone⟩, hfault, ?_⟩
        rw [ofLines, hblank, if_neg Bool.false_ne_true, hline]
        rfl
      | ok n =>
        have hn := decoding?_of_ofLine hline
        have hgood : ¬ IsBad line := fun hbad => by cases hn.symm.trans hbad.2
        have hstep : ofLines number (line :: lines) =
            (n :: (ofLines (number + 1) lines).1, (ofLines (number + 1) lines).2) := by
          rw [ofLines, hblank, if_neg Bool.false_ne_true, hline]
        rw [hstep]
        rcases ih (number + 1) with
          ⟨hall, hread⟩ | ⟨before, bad, after, f, rfl, hall, hbad, hf, hread⟩
        · refine Or.inl ⟨List.forall_mem_cons.mpr ⟨hgood, hall⟩, ?_⟩
          rw [hread, decodings_cons_of_some hblank hn]
        · refine Or.inr ⟨line :: before, bad, after, f, rfl,
            List.forall_mem_cons.mpr ⟨hgood, hall⟩, hbad, ?_, ?_⟩
          · rwa [List.length_cons, Nat.add_comm before.length, ← Nat.add_assoc]
          · rw [hread, decodings_cons_of_some hblank hn]

theorem ofLines_of_not_isBad {number : Nat} {lines : List Text}
    (h : ∀ line ∈ lines, ¬ IsBad line) : ofLines number lines = (decodings lines, none) := by
  rcases ofLines_cases number lines with ⟨-, hread⟩ | ⟨before, line, after, f, rfl, -, hbad, -⟩
  · exact hread
  · exact absurd hbad (h line (List.mem_append_right _ List.mem_cons_self))

theorem not_isBad_of_ofLines {number : Nat} {lines : List Text}
    (h : (ofLines number lines).2 = none) : ∀ line ∈ lines, ¬ IsBad line := by
  rcases ofLines_cases number lines with
    ⟨hall, -⟩ | ⟨before, line, after, f, -, -, -, -, hread⟩
  · exact hall
  · rw [hread] at h
    cases h

/-! ### A whole stream -/

/-- The reading of a text completes exactly if no line is bad, and then has one node for every line
that is not blank. What ends it early is the first bad line, and the nodes are those of the lines
before: its fault has the number of that line, blank lines counted, unless the line holds an
integer with more digits than are read. -/
theorem readStream_first_bad (display t : Text) (includePath : Json) :
    let reading := readStream (Source.ofText display t) includePath
    (reading.fault = none ↔ ∀ line ∈ Text.lines t, ¬ IsBad line) ∧
    (reading.fault = none → reading.nodes = decodings (Text.lines t) ∧
      reading.nodes.length = (Text.lines t).countP fun line => !Text.isBlank line) ∧
    (∀ f, reading.fault = some f → ∃ before line after,
      Text.lines t = before ++ line :: after ∧
      (∀ other ∈ before, ¬ IsBad other) ∧ IsBad line ∧ IsFaultOf (before.length + 1) line f ∧
      reading.nodes = decodings before ∧
      reading.nodes.length = before.countP fun other => !Text.isBlank other) ∧
    ∀ d registry (s : Session), s.Ready d registry →
      (Session.outcome (Session.finish reading) s).1 = reading.result := by
  intro reading
  have hfinish : ∀ d registry (s : Session), s.Ready d registry →
      (Session.outcome (Session.finish reading) s).1 = reading.result :=
    fun d registry s hs => hs.outcome_finish reading
  have hreading : reading = readStream (Source.ofText display t) includePath := rfl
  have hlines : (Source.ofText display t).lines = Text.lines t := rfl
  rcases ofLines_cases 1 (Text.lines t) with
    ⟨hall, hread⟩ | ⟨before, line, after, f, hsplit, hall, hbad, hf, hread⟩
  · have hvalue : reading = ⟨decodings (Text.lines t), none,
        [readingReport (decodings (Text.lines t)).length includePath]⟩ := by
      rw [hreading, readStream, hlines, hread]
      rfl
    have hnone : reading.fault = none := by rw [hvalue]
    have hnodes : reading.nodes = decodings (Text.lines t) := by rw [hvalue]
    refine ⟨⟨fun _ => hall, fun _ => hnone⟩, fun _ => ⟨hnodes, ?_⟩, fun f hf => ?_, hfinish⟩
    · rw [hnodes, length_decodings hall]
    · cases hnone.symm.trans hf
  · have hvalue : reading = ⟨decodings before, some f, []⟩ := by
      rw [hreading, readStream, hlines, hread]
      rfl
    have hsome : reading.fault = some f := by rw [hvalue]
    have hnodes : reading.nodes = decodings before := by rw [hvalue]
    have hmem : line ∈ Text.lines t := by
      rw [hsplit]
      exact List.mem_append_right _ List.mem_cons_self
    rw [Nat.add_comm] at hf
    refine ⟨⟨fun hnone => ?_, fun hgood => absurd hbad (hgood line hmem)⟩, fun hnone => ?_,
      fun g hg => ?_, hfinish⟩
    · cases hnone.symm.trans hsome
    · cases hnone.symm.trans hsome
    · obtain rfl : f = g := Option.some.inj (hsome.symm.trans hg)
      refine ⟨before, line, after, hsplit, hall, hbad, hf, hnodes, ?_⟩
      rw [hnodes, length_decodings hall]

/-- A line of wide spaces counts, so the fourth line is the first bad one. -/
theorem readStream_first_bad_fourth :
    let rule : Text := "\x7b\x22kind\x22: \x22target\x22, \x22name\x22: \x22a\x22\x7d\n"
    let t : Text := rule ++ ("\u2003\n" : Text) ++ rule ++ ("nope\n[1]\n" : Text)
    let reading := readStream (Source.ofText "stdin" t) .null
    let f : Fault := .parse "invalid JSON: Expecting value" (some 4)
    reading.fault = some f ∧ (Session.outcome (Session.finish reading) {}).1 = reading.result ∧
    ∃ before line after, Text.lines t = before ++ line :: after ∧ IsBad line ∧
      before.length = 3 ∧ reading.nodes = decodings before := by
  intro rule t reading f
  obtain ⟨-, -, hsome, hfinish⟩ := readStream_first_bad "stdin" t .null
  have hf : reading.fault = some f := rfl
  obtain ⟨before, line, after, hsplit, -, hbad, hfault, hnodes, -⟩ := hsome f hf
  obtain ⟨message, hmessage⟩ := hfault.1 fun digits hdigits => nomatch (hfault.2 digits hdigits).1
  have hnumber : ((4 : Nat) : Int) = (before.length + 1 : Nat) :=
    Option.some.inj (Fault.parse.inj hmessage).2
  have hlength : before.length = 3 := by omega
  exact ⟨hf, hfinish _ _ {} Session.ready_new, before, line, after, hsplit, hbad, hlength, hnodes⟩

/-- A line of nothing but too many digits is bad, and its number is not told. -/
theorem readStream_digits {c : CodePoint} (hc : Text.isAsciiDigit c = true) (hzero : c ≠ '0')
    {digits : Text} (hdigits : ∀ d ∈ digits, Text.isAsciiDigit d = true)
    (hlong : Text.maxDigits ≤ digits.length) (display : Text) (includePath : Json) :
    let reading := readStream (Source.ofText display (c :: digits)) includePath
    Text.lines (c :: digits) = [c :: digits] ∧ IsBad (c :: digits) ∧
      reading.fault = some (.json (.tooManyDigits (digits.length + 1))) := by
  have hread := Json.read_digits hc hzero hdigits hlong
  have hlines : Text.lines (c :: digits) = [c :: digits] := by
    have hall : ∀ d ∈ c :: digits, Text.isAsciiDigit d = true :=
      List.forall_mem_cons.mpr ⟨hc, hdigits⟩
    refine Text.lines_of_lineFeed_notMem (fun hm => ?_) (List.cons_ne_nil _ _)
    exact absurd (hall _ hm) (by decide)
  have hblank : Text.isBlank (c :: digits) = false := by
    unfold Text.isBlank
    rw [List.all_cons, Text.isBlankPoint_of_isAsciiDigit hc, Bool.false_and]
  have hline : ofLine 1 (c :: digits) = .error (.json (.tooManyDigits (digits.length + 1))) := by
    rw [ofLine, hread]
  refine ⟨hlines, ⟨hblank, (isFaultOf_of_ofLine hline).1⟩, ?_⟩
  unfold readStream Source.ofText
  dsimp only
  rw [hlines, ofLines, hblank, if_neg Bool.false_ne_true, hline]
  rfl

/-- So the number of the first bad line is not always told: here the line holds 4301 ones. -/
theorem readStream_too_many_digits :
    let line : Text := '1' :: List.replicate 4300 '1'
    let reading := readStream (Source.ofText "stdin" line) .null
    Text.lines line = [line] ∧ IsBad line ∧ reading.fault = some (.json (.tooManyDigits 4301)) ∧
    ∀ message number, reading.fault ≠ some (.parse message number) := by
  have hone : Text.isAsciiDigit '1' = true := by decide
  have hones (k : Nat) (hk : Text.maxDigits ≤ k) :
      let line : Text := '1' :: List.replicate k '1'
      let reading := readStream (Source.ofText "stdin" line) .null
      Text.lines line = [line] ∧ IsBad line ∧
      reading.fault = some (.json (.tooManyDigits (k + 1))) ∧
      ∀ message number, reading.fault ≠ some (.parse message number) := by
    have hdigits : ∀ d ∈ List.replicate k (CodePoint.ofChar '1'), Text.isAsciiDigit d = true := by
      intro d hd
      rwa [(List.mem_replicate.mp hd).2]
    have hlong : Text.maxDigits ≤ (List.replicate k (CodePoint.ofChar '1')).length :=
      hk.trans_eq List.length_replicate.symm
    obtain ⟨hlines, hbad, hfault⟩ :=
      readStream_digits hone (by decide) hdigits hlong "stdin" .null
    rw [List.length_replicate] at hfault
    refine ⟨hlines, hbad, hfault, fun message number h => ?_⟩
    cases hfault.symm.trans h
  exact hones 4300 (Nat.le_refl Text.maxDigits)

end TargetHelp.Node
