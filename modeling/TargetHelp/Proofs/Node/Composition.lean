import TargetHelp.Proofs.Node.Codec

/-!
# Reading one text behind another

A reading goes line by line and takes nothing from one line to the next but the number of lines. So
a text that ends where a line ends, and is read to its end, has no part in what is read behind it
but that faults are told further down. Lines that are blank move what follows them, and nothing
else.
-/

set_option autoImplicit false
set_option relaxedAutoImplicit false

namespace TargetHelp

/-- A fault as it is told `k` lines further down: if it tells the number of a line, then one that
is greater by `k`. -/
def Fault.down (k : Nat) : Fault → Fault
  | .parse message (some number) => .parse message (some (number + k))
  | fault => fault

namespace Node

/-! ### Lines -/

theorem ofLine_add (number k : Nat) (line : Text) :
    ofLine (number + k) line = (ofLine number line).mapError (Fault.down k) := by
  have hparse (message : Text) :
      Fault.parse message (some (number + k : Nat)) =
        Fault.down k (.parse message (some number)) := by
    rw [Fault.down, Int.natCast_add]
  unfold ofLine
  cases Json.read line with
  | error error =>
    cases error with
    | invalid error => exact congrArg Except.error (hparse _)
    | tooDeep container => exact congrArg Except.error (hparse _)
    | tooManyDigits digits => rfl
  | ok record =>
    dsimp only
    cases ofJson record with
    | error error => exact congrArg Except.error (hparse _)
    | ok node => rfl

theorem ofLines_cons_of_blank {line : Text} (h : Text.isBlank line = true) (number : Nat)
    (lines : List Text) : ofLines number (line :: lines) = ofLines (number + 1) lines := by
  rw [ofLines, if_pos h]

theorem ofLines_cons_of_error {line : Text} {number : Nat} {f : Fault}
    (hblank : ¬ Text.isBlank line = true) (h : ofLine number line = .error f)
    (lines : List Text) : ofLines number (line :: lines) = ([], some f) := by
  rw [ofLines, if_neg hblank, h]

theorem ofLines_cons_of_ok {line : Text} {number : Nat} {n : Node}
    (hblank : ¬ Text.isBlank line = true) (h : ofLine number line = .ok n)
    (lines : List Text) :
    ofLines number (line :: lines) =
      (n :: (ofLines (number + 1) lines).1, (ofLines (number + 1) lines).2) := by
  rw [ofLines, if_neg hblank, h]

/-- Lines that stand further down hold the same nodes, and their fault is told further down. -/
theorem ofLines_add (number k : Nat) (lines : List Text) :
    ofLines (number + k) lines =
      ((ofLines number lines).1, (ofLines number lines).2.map (Fault.down k)) := by
  induction lines generalizing number with
  | nil => rfl
  | cons line lines ih =>
    have hnext : number + k + 1 = number + 1 + k := by omega
    by_cases hblank : Text.isBlank line = true
    · rw [ofLines_cons_of_blank hblank, ofLines_cons_of_blank hblank, hnext, ih]
    · have hline := ofLine_add number k line
      cases hread : ofLine number line with
      | error f =>
        rw [hread] at hline
        rw [ofLines_cons_of_error hblank hread, ofLines_cons_of_error hblank hline]
        rfl
      | ok n =>
        rw [hread] at hline
        rw [ofLines_cons_of_ok hblank hread, ofLines_cons_of_ok hblank hline, hnext, ih]

/-- Behind lines that are read to their end, reading goes on with the next number. -/
theorem ofLines_append_of_none {number : Nat} {before : List Text}
    (h : (ofLines number before).2 = none) (lines : List Text) :
    ofLines number (before ++ lines) =
      ((ofLines number before).1 ++ (ofLines (number + before.length) lines).1,
        (ofLines (number + before.length) lines).2) := by
  induction before generalizing number with
  | nil => rfl
  | cons line before ih =>
    have hnext : number + (line :: before).length = number + 1 + before.length := by
      rw [List.length_cons]
      omega
    rw [List.cons_append, hnext]
    by_cases hblank : Text.isBlank line = true
    · rw [ofLines_cons_of_blank hblank] at h
      rw [ofLines_cons_of_blank hblank, ofLines_cons_of_blank hblank, ih h]
    · cases hread : ofLine number line with
      | error f =>
        rw [ofLines_cons_of_error hblank hread] at h
        cases h
      | ok n =>
        rw [ofLines_cons_of_ok hblank hread] at h
        rw [ofLines_cons_of_ok hblank hread, ofLines_cons_of_ok hblank hread, ih h]
        rfl

/-- Behind a bad line nothing is read any more. -/
theorem ofLines_append_of_some {number : Nat} {before : List Text} {f : Fault}
    (h : (ofLines number before).2 = some f) (lines : List Text) :
    ofLines number (before ++ lines) = ofLines number before := by
  induction before generalizing number with
  | nil => cases h
  | cons line before ih =>
    rw [List.cons_append]
    by_cases hblank : Text.isBlank line = true
    · rw [ofLines_cons_of_blank hblank] at h
      rw [ofLines_cons_of_blank hblank, ofLines_cons_of_blank hblank, ih h]
    · cases hread : ofLine number line with
      | error g => rw [ofLines_cons_of_error hblank hread, ofLines_cons_of_error hblank hread]
      | ok n =>
        rw [ofLines_cons_of_ok hblank hread] at h
        rw [ofLines_cons_of_ok hblank hread, ofLines_cons_of_ok hblank hread, ih h]

theorem ofLines_of_blank {lines : List Text} (h : ∀ line ∈ lines, Text.isBlank line = true)
    (number : Nat) : ofLines number lines = ([], none) := by
  induction lines generalizing number with
  | nil => rfl
  | cons line lines ih =>
    obtain ⟨hline, hrest⟩ := List.forall_mem_cons.mp h
    rw [ofLines_cons_of_blank hline, ih hrest]

/-- Blank lines hold no node and only count. -/
theorem ofLines_blank_append {blanks : List Text}
    (h : ∀ line ∈ blanks, Text.isBlank line = true) (number : Nat) (lines : List Text) :
    ofLines number (blanks ++ lines) =
      ((ofLines number lines).1, (ofLines number lines).2.map (Fault.down blanks.length)) := by
  have hblanks := ofLines_of_blank h number
  rw [ofLines_append_of_none (by rw [hblanks]), hblanks, ofLines_add, List.nil_append]

/-- Blank lines in between never change the nodes. A fault in front of them stays as it is, and one
behind them is told further down. -/
theorem ofLines_blank_between {blanks : List Text}
    (h : ∀ line ∈ blanks, Text.isBlank line = true) (number : Nat) (before after : List Text) :
    let read := ofLines number (before ++ (blanks ++ after))
    read.1 = (ofLines number (before ++ after)).1 ∧
    ((ofLines number before).2 = none →
      read.2 = (ofLines number (before ++ after)).2.map (Fault.down blanks.length)) ∧
    ((ofLines number before).2 ≠ none → read.2 = (ofLines number (before ++ after)).2) := by
  intro read
  cases hbefore : (ofLines number before).2 with
  | none =>
    have hread : read = ((ofLines number (before ++ after)).1,
        (ofLines number (before ++ after)).2.map (Fault.down blanks.length)) := by
      change ofLines number (before ++ (blanks ++ after)) = _
      rw [ofLines_append_of_none hbefore, ofLines_append_of_none hbefore, ofLines_blank_append h]
    rw [hread]
    exact ⟨rfl, fun _ => rfl, fun hne => absurd rfl hne⟩
  | some f =>
    have hread : read = ofLines number (before ++ after) := by
      change ofLines number (before ++ (blanks ++ after)) = _
      rw [ofLines_append_of_some hbefore, ofLines_append_of_some hbefore]
    rw [hread]
    exact ⟨rfl, fun hnone => (nomatch hnone), fun _ => rfl⟩

/-! ### Texts -/

section Texts

variable {form : Text → Text} (hform : form = id ∨ form = Text.universalLineEnds)
include hform

theorem lines_form_append {s : Text} (hs : s.EndsLine) (t : Text) :
    Text.lines (form (s ++ t)) = Text.lines (form s) ++ Text.lines (form t) := by
  rcases hform with rfl | rfl
  · exact Text.lines_append hs t
  · have hends : (Text.universalLineEnds s).EndsLine := hs.universalLineEndsFrom false
    rw [Text.universalLineEnds_append hs, Text.lines_append hends]

theorem isBlank_of_mem_lines_form {t line : Text} (ht : Text.isBlank t = true)
    (hline : line ∈ Text.lines (form t)) : Text.isBlank line = true := by
  rcases hform with rfl | rfl
  · exact Text.isBlank_of_mem_lines ht hline
  · exact Text.isBlank_of_mem_lines (Text.isBlank_universalLineEndsFrom ht false) hline

/-- A text that ends where a line ends and is read to its end gives its nodes, and then comes what
the text behind it gives when it is read alone: its nodes, and its fault, told further down by as
many lines as stand before. Blank lines put in at the end of a line never change the nodes, and a
fault only if it is behind them, where it is told further down. All this holds with line feeds
alone for line ends, and with the other universal ones. -/
theorem readStream_append (display : Text) (includePath : Json) {s : Text} (hs : s.EndsLine)
    (t : Text) :
    let reading (x : Text) := readStream (Source.ofText display (form x)) includePath
    let count (x : Text) := (Text.lines (form x)).length
    ((reading s).fault = none →
      (reading (s ++ t)).nodes = (reading s).nodes ++ (reading t).nodes ∧
      (reading (s ++ t)).fault = (reading t).fault.map (Fault.down (count s))) ∧
    (∀ blank, Text.isBlank blank = true → blank.EndsLine ∨ t = [] →
      (reading (s ++ blank ++ t)).nodes = (reading (s ++ t)).nodes ∧
      ((reading s).fault = none → (reading (s ++ blank ++ t)).fault =
        (reading (s ++ t)).fault.map (Fault.down (count blank))) ∧
      ((reading s).fault ≠ none →
        (reading (s ++ blank ++ t)).fault = (reading (s ++ t)).fault)) ∧
    ∀ x d registry (session : Session), session.Ready d registry →
      (Session.outcome (Session.finish (reading x)) session).1 = (reading x).result := by
  intro reading count
  have hnodes (x : Text) : (reading x).nodes = (ofLines 1 (Text.lines (form x))).1 :=
    nodes_readStream _ _
  have hfault (x : Text) : (reading x).fault = (ofLines 1 (Text.lines (form x))).2 :=
    (fault_readStream _ _).trans Option.or_none
  have happend (x : Text) :
      Text.lines (form (s ++ x)) = Text.lines (form s) ++ Text.lines (form x) :=
    lines_form_append hform hs x
  refine ⟨fun hread => ?_, fun blank hblank hends => ?_,
    fun x d registry session hready => hready.outcome_finish _⟩
  · rw [hfault] at hread
    simp only [hnodes, hfault]
    rw [happend, ofLines_append_of_none hread, ofLines_add]
    exact ⟨rfl, rfl⟩
  · have hblanks : Text.lines (form (blank ++ t)) =
        Text.lines (form blank) ++ Text.lines (form t) := by
      rcases hends with hends | rfl
      · exact lines_form_append hform hends t
      · have hnil : Text.lines (form []) = [] := by rcases hform with rfl | rfl <;> rfl
        rw [hnil, List.append_nil, List.append_nil]
    have hbetween := ofLines_blank_between (fun line => isBlank_of_mem_lines_form hform hblank) 1
      (Text.lines (form s)) (Text.lines (form t))
    simp only [hnodes, hfault]
    rw [List.append_assoc, happend, happend, hblanks]
    exact hbetween

end Texts

/-- A wide space makes a line as good as any, and the one behind two lines is the third. -/
theorem readStream_append_third :
    let rule : Text := "\x7b\x22kind\x22: \x22target\x22, \x22name\x22: \x22a\x22\x7d\r\n"
    let s : Text := rule ++ ("\u2003\r\n" : Text)
    let reading (x : Text) :=
      readStream (Source.ofText "stdin" (Text.universalLineEnds x)) .null
    let f (number : Int) : Fault := .parse "invalid JSON: Expecting value" (some number)
    (s.EndsLine ∧ (reading s).fault = none ∧ (reading "nope").fault = some (f 1)) ∧
    (reading (s ++ "nope")).nodes = [.target "a"] ∧
    (reading (s ++ "nope")).fault = some (f 3) ∧
    (reading (s ++ "\u0085\n \n" ++ "nope")).fault = some (f 5) := by
  intro rule s reading f
  have hends : s.EndsLine := by decide
  have hs : (reading s).fault = none := rfl
  have hnope : (reading "nope").fault = some (f 1) := rfl
  obtain ⟨happend, hblank, -⟩ :=
    readStream_append (Or.inr rfl) "stdin" .null hends "nope"
  obtain ⟨hnodes, hfault⟩ := happend hs
  have hthird : (reading (s ++ "nope")).fault = some (f 3) := by
    refine hfault.trans ?_
    change (reading "nope").fault.map (Fault.down 2) = _
    rw [hnope]
    rfl
  obtain ⟨-, hdown, -⟩ := hblank "\u0085\n \n" (by decide) (Or.inl (by decide))
  refine ⟨⟨hends, hs, hnope⟩, hnodes, hthird, (hdown hs).trans ?_⟩
  change (reading (s ++ "nope")).fault.map (Fault.down 2) = _
  rw [hthird]
  rfl

end Node

end TargetHelp
