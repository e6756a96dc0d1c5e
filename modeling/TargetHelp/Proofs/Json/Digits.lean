import TargetHelp.Json.Reader
import Mathlib.Data.List.Infix
import Mathlib.Tactic.SplitIfs

/-!
# How many digits the reader counts

While it reads a number, the reader counts the digits in front of its point. Those digits stand in
a row in what it has read. So an integer is refused for its length only in a text that holds as
many digits in a row as the refusal says, and that are more than an integer may have.
-/

set_option autoImplicit false
set_option relaxedAutoImplicit false

namespace TargetHelp

namespace Text

/-- Somewhere in a text stand `k` digits in a row. -/
def HasDigits (k : Nat) (t : Text) : Prop :=
  ∃ digits : Text, digits <:+: t ∧ digits.length = k ∧ ∀ c ∈ digits, isAsciiDigit c = true

/-- The last `k` code points of a text are digits. -/
def EndsInDigits (k : Nat) (t : Text) : Prop :=
  ∃ digits : Text, digits <:+ t ∧ digits.length = k ∧ ∀ c ∈ digits, isAsciiDigit c = true

theorem EndsInDigits.hasDigits {k : Nat} {t : Text} (h : EndsInDigits k t) : HasDigits k t := by
  obtain ⟨digits, hsuffix, hdigits⟩ := h
  exact ⟨digits, hsuffix.isInfix, hdigits⟩

theorem HasDigits.append {k : Nat} {t : Text} (h : HasDigits k t) (u : Text) :
    HasDigits k (t ++ u) := by
  obtain ⟨digits, hinfix, hdigits⟩ := h
  exact ⟨digits, hinfix.trans (List.prefix_append t u).isInfix, hdigits⟩

theorem endsInDigits_zero (t : Text) : EndsInDigits 0 t :=
  ⟨[], List.nil_suffix, rfl, List.forall_mem_nil _⟩

theorem EndsInDigits.push {k : Nat} {t : Text} (h : EndsInDigits k t) {c : CodePoint}
    (hc : isAsciiDigit c = true) : EndsInDigits (k + 1) (t ++ [c]) := by
  obtain ⟨digits, ⟨before, rfl⟩, rfl, hdigits⟩ := h
  refine ⟨digits ++ [c], ⟨before, (List.append_assoc _ _ _).symm⟩, List.length_append, ?_⟩
  exact List.forall_mem_append.mpr ⟨hdigits, List.forall_mem_singleton.mpr hc⟩

theorem isBlankPoint_of_isAsciiDigit {c : CodePoint} (h : isAsciiDigit c = true) :
    isBlankPoint c = false := by
  simp only [isAsciiDigit, Bool.and_eq_true, decide_eq_true_eq] at h
  simp only [isBlankPoint, Bool.or_eq_false_iff, Bool.and_eq_false_iff, decide_eq_false_iff_not,
    beq_eq_false_iff_ne]
  omega

end Text

namespace Json

/-- The digits in front of the point are still being read. -/
def NumberState.isWhole : NumberState → Bool
  | .minus | .zero | .whole => true
  | _ => false

/-- After a text the reader is in a state whose count of digits is that of digits in the text. -/
def Counts (t : Text) : State → Prop
  | .number _ place n =>
    Text.HasDigits n.wholeCount t ∧ (place.isWhole = true → Text.EndsInDigits n.wholeCount t)
  | .failed (.tooManyDigits k) => Text.maxDigits < k ∧ Text.HasDigits k t
  | _ => True

theorem counts_whole {t : Text} {n : Numeral} (h : Text.EndsInDigits n.wholeCount t)
    (stack : List Frame) (place : NumberState) : Counts t (.number stack place n) :=
  ⟨h.hasDigits, fun _ => h⟩

theorem counts_behind {t : Text} {n : Numeral} (h : Text.HasDigits n.wholeCount t)
    (stack : List Frame) {place : NumberState} (hplace : place.isWhole = false) :
    Counts t (.number stack place n) :=
  ⟨h, fun hwhole => nomatch hwhole.symm.trans hplace⟩

/-! ### One step -/

theorem counts_ite {t : Text} {p : Prop} [Decidable p] {s s' : State} (h : p → Counts t s)
    (h' : ¬ p → Counts t s') : Counts t (if p then s else s') := by
  split_ifs with hp
  · exact h hp
  · exact h' hp

theorem counts_stepAfter (t : Text) (stack : List Frame) (value : Json) (c : CodePoint) :
    Counts t (stepAfter stack value c) := by
  unfold stepAfter
  refine counts_ite (fun _ => trivial) fun _ => ?_
  cases stack with
  | nil => trivial
  | cons frame outer => cases frame <;> dsimp only <;> split_ifs <;> trivial

theorem Numeral.value_eq_error {n : Numeral} {isInteger : Bool} {error : ReadError}
    (h : n.value isInteger = .error error) :
    error = .tooManyDigits n.wholeCount ∧ Text.maxDigits < n.wholeCount := by
  unfold value at h
  split_ifs at h with _ hlong
  exact ⟨(Except.error.inj h).symm, hlong⟩

/-- A number ends as the refusal of its digits or as its value, behind which comes a step. -/
theorem endNumber_cases (stack : List Frame) (place : NumberState) (n : Numeral)
    (next : CodePoint) :
    endNumber stack place n next = .invalid .expectingValue ∨
    (∃ isInteger error, n.value isInteger = .error error ∧
      endNumber stack place n next = .failed error) ∨
    ∃ isInteger value c, n.value isInteger = .ok value ∧
      endNumber stack place n next = stepAfter stack value c := by
  have hclose (isInteger : Bool) (c : CodePoint)
      (hfails : ∀ error, n.value isInteger = .error error →
        endNumber stack place n next = .failed error)
      (hends : ∀ value, n.value isInteger = .ok value →
        endNumber stack place n next = stepAfter stack value c) :
      (∃ isInteger error, n.value isInteger = .error error ∧
        endNumber stack place n next = .failed error) ∨
      ∃ isInteger value c, n.value isInteger = .ok value ∧
        endNumber stack place n next = stepAfter stack value c := by
    cases hvalue : n.value isInteger with
    | error error => exact Or.inl ⟨isInteger, error, hvalue, hfails error hvalue⟩
    | ok value => exact Or.inr ⟨isInteger, value, c, hvalue, hends value hvalue⟩
  cases place with
  | minus => exact Or.inl rfl
  | zero | whole =>
    refine Or.inr (hclose true next (fun error h => ?_) fun value h => ?_) <;>
      simp only [endNumber, h]
  | point =>
    refine Or.inr (hclose true '.' (fun error h => ?_) fun value h => ?_) <;>
      simp only [endNumber, h]
  | mark | markSign =>
    refine Or.inr (hclose (n.fractionCount = 0) 'e' (fun error h => ?_) fun value h => ?_) <;>
      simp only [endNumber, h]
  | fraction | exponent =>
    refine Or.inr (hclose false next (fun error h => ?_) fun value h => ?_) <;>
      simp only [endNumber, h]

theorem counts_endNumber {t : Text} {n : Numeral} (h : Text.HasDigits n.wholeCount t)
    (stack : List Frame) (place : NumberState) (next : CodePoint) :
    Counts t (endNumber stack place n next) := by
  rcases endNumber_cases stack place n next with
    hend | ⟨isInteger, error, hvalue, hend⟩ | ⟨isInteger, value, c, -, hend⟩
  · rw [hend]
    trivial
  · rw [hend]
    obtain ⟨rfl, hlong⟩ := Numeral.value_eq_error hvalue
    exact ⟨hlong, h⟩
  · rw [hend]
    exact counts_stepAfter t stack value c

theorem counts_stepNumber {t : Text} {stack : List Frame} {place : NumberState} {n : Numeral}
    (h : Counts t (.number stack place n)) (c : CodePoint) :
    Counts (t ++ [c]) (stepNumber stack place n c) := by
  obtain ⟨hhas, hends⟩ := h
  have hhas' := hhas.append [c]
  unfold stepNumber
  cases place with
  | minus =>
    have hends := hends rfl
    dsimp only
    split_ifs with hname hzero hdigit
    · trivial
    · exact counts_whole (hends.push (by rw [hzero]; decide)) stack _
    · exact counts_whole (hends.push hdigit) stack _
    · trivial
  | zero =>
    dsimp only
    split_ifs
    · exact counts_behind hhas' stack rfl
    · exact counts_behind hhas' stack rfl
    · exact counts_endNumber hhas' stack _ c
  | whole =>
    have hends := hends rfl
    dsimp only
    split_ifs with hdigit
    · exact counts_whole (hends.push hdigit) stack _
    · exact counts_behind hhas' stack rfl
    · exact counts_behind hhas' stack rfl
    · exact counts_endNumber hhas' stack _ c
  | point | fraction | mark | markSign | exponent =>
    dsimp only
    split_ifs <;>
      first
        | exact counts_behind hhas' stack rfl
        | exact counts_endNumber hhas' stack _ c

theorem counts_stepValue (t : Text) (stack : List Frame) (opened : Bool) (c : CodePoint) :
    Counts (t ++ [c]) (stepValue stack opened c) := by
  have hquiet {p : Prop} [Decidable p] {s rest : State} (hs : Counts (t ++ [c]) s)
      (hrest : Counts (t ++ [c]) rest) : Counts (t ++ [c]) (if p then s else rest) :=
    counts_ite (fun _ => hs) fun _ => hrest
  have hlast (hc : Text.isAsciiDigit c = true) : Text.EndsInDigits 1 (t ++ [c]) :=
    (Text.endsInDigits_zero t).push hc
  unfold stepValue
  refine hquiet trivial (hquiet trivial (hquiet (hquiet trivial trivial)
    (hquiet (hquiet trivial trivial) ?_)))
  refine hquiet trivial (hquiet trivial (hquiet trivial (hquiet trivial (hquiet trivial ?_))))
  refine hquiet (counts_whole (Text.endsInDigits_zero _) stack _) ?_
  refine counts_ite (fun hzero => counts_whole (hlast (by rw [hzero]; decide)) stack _) fun _ => ?_
  refine counts_ite (fun hdigit => counts_whole (hlast hdigit) stack _) fun _ => ?_
  split
  · exact hquiet trivial trivial
  · trivial

theorem counts_stepString (t : Text) (role : Role) (read : Text) (place : StringState)
    (c : CodePoint) : Counts t (stepString role read place c) := by
  have hplain (read : Text) : Counts t (stepPlain role read c) := by
    unfold stepPlain
    refine counts_ite (fun _ => by cases role <;> trivial) fun _ => ?_
    exact counts_ite (fun _ => trivial) fun _ => counts_ite (fun _ => trivial) fun _ => trivial
  unfold stepString
  cases place with
  | plain => exact hplain read
  | afterBackslash high =>
    refine counts_ite (fun _ => trivial) fun _ => ?_
    cases simpleEscape? c <;> trivial
  | digits high value count =>
    dsimp only
    cases hexValue? c with
    | none => trivial
    | some d =>
      refine counts_ite (fun _ => ?_) fun _ => trivial
      cases high with
      | none => trivial
      | some h => exact counts_ite (fun _ => trivial) fun _ => trivial
  | escaped e => exact counts_ite (fun _ => trivial) fun _ => hplain _

theorem counts_step {t : Text} {s : State} (h : Counts t s) (c : CodePoint) :
    Counts (t ++ [c]) (step s c) := by
  cases s with
  | start => exact counts_ite (fun _ => trivial) fun _ => counts_stepValue t [] false c
  | value stack opened => exact counts_stepValue t stack opened c
  | key stack fields opened =>
    refine counts_ite (fun _ => trivial) fun _ => counts_ite (fun _ => trivial) fun _ => ?_
    exact counts_ite (fun _ => trivial) fun _ => trivial
  | colon stack fields key =>
    exact counts_ite (fun _ => trivial) fun _ => counts_ite (fun _ => trivial) fun _ => trivial
  | after stack value => exact counts_stepAfter _ stack value c
  | string role read place => exact counts_stepString _ role read place c
  | number stack place n => exact counts_stepNumber h c
  | word stack rest value =>
    change Counts _ (stepWord stack rest value c)
    unfold stepWord
    split
    · trivial
    · exact counts_ite (fun _ => trivial) fun _ => trivial
    · exact counts_ite (fun _ => trivial) fun _ => trivial
  | failed error =>
    cases error with
    | invalid error => trivial
    | tooManyDigits k => exact ⟨h.1, h.2.append [c]⟩
    | tooDeep container => trivial

/-! ### A whole text -/

theorem counts_run {t : Text} {s : State} (h : Counts t s) (u : Text) :
    Counts (t ++ u) (run s u) := by
  induction u generalizing t s with
  | nil => rwa [List.append_nil]
  | cons c u ih =>
    have happend : t ++ c :: u = (t ++ [c]) ++ u := List.append_cons t c u
    rw [run_cons, happend]
    exact ih (counts_step h c)

theorem counts_of_finish {t : Text} {s : State} (h : Counts t s) {k : Nat}
    (hfinish : finish s = .error (.tooManyDigits k)) : Counts t (.failed (.tooManyDigits k)) := by
  have hafter {stack : List Frame} {value : Json} :
      finishAfter stack value ≠ .error (.tooManyDigits k) := by
    cases stack <;> exact fun h => nomatch h
  cases s with
  | number stack place n =>
    have hend := counts_endNumber h.1 stack place ' '
    unfold finish at hfinish
    dsimp only at hfinish
    split at hfinish
    · exact absurd hfinish hafter
    · rename_i error he
      rw [he] at hend
      rwa [Except.error.inj hfinish] at hend
    · cases hfinish
  | failed error =>
    obtain rfl : error = .tooManyDigits k := Except.error.inj hfinish
    exact h
  | after stack value => exact absurd hfinish hafter
  | string role read place => cases place <;> exact nomatch hfinish
  | _ => exact nomatch hfinish

/-- An integer is refused for its length only where that many digits stand in a row. -/
theorem hasDigits_of_tooManyDigits {t : Text} {k : Nat} (h : read t = .error (.tooManyDigits k)) :
    Text.maxDigits < k ∧ Text.HasDigits k t := by
  have hstart : Counts [] .start := trivial
  exact counts_of_finish (counts_run hstart t) h

/-! ### Nothing but digits -/

theorem run_whole {digits : Text} (h : ∀ c ∈ digits, Text.isAsciiDigit c = true)
    (stack : List Frame) (n : Numeral) :
    ∃ value, run (.number stack .whole n) digits = .number stack .whole
      { n with digits := value, wholeCount := n.wholeCount + digits.length } := by
  induction digits generalizing n with
  | nil => exact ⟨n.digits, rfl⟩
  | cons c digits ih =>
    obtain ⟨hc, hrest⟩ := List.forall_mem_cons.mp h
    have hstep : step (.number stack .whole n) c =
        .number stack .whole (n.addWhole (Text.asciiDigitValue c)) := if_pos hc
    obtain ⟨value, hvalue⟩ := ih hrest (n.addWhole (Text.asciiDigitValue c))
    refine ⟨value, ?_⟩
    rw [run_cons, hstep, hvalue, List.length_cons, Nat.add_comm digits.length, ← Nat.add_assoc]
    rfl

theorem finish_tooManyDigits (stack : List Frame) {n : Numeral}
    (h : Text.maxDigits < n.wholeCount) :
    finish (.number stack .whole n) = .error (.tooManyDigits n.wholeCount) := by
  have hvalue : n.value true = .error (.tooManyDigits n.wholeCount) := if_pos h
  unfold finish endNumber
  dsimp only
  rw [hvalue]

/-- Too many digits, of which the first is not zero, are refused with their number. -/
theorem read_digits {c : CodePoint} (hc : Text.isAsciiDigit c = true) (hzero : c ≠ '0')
    {digits : Text} (hdigits : ∀ d ∈ digits, Text.isAsciiDigit d = true)
    (hlong : Text.maxDigits ≤ digits.length) :
    read (c :: digits) = .error (.tooManyDigits (digits.length + 1)) := by
  have hne {d : CodePoint} (hd : Text.isAsciiDigit d = false) : c ≠ d := by
    rintro rfl
    cases hc.symm.trans hd
  have hspace : isSpace c = false := by
    unfold isSpace
    rw [decide_eq_false (hne (by decide)), decide_eq_false (hne (by decide)),
      decide_eq_false (hne (by decide)), decide_eq_false (hne (by decide))]
    rfl
  have hfirst : step .start c =
      .number [] .whole ⟨false, Text.asciiDigitValue c, 1, 0, false, 0⟩ := by
    change (if c = byteOrderMark then _ else stepValue [] false c) = _
    rw [if_neg (hne (by decide))]
    unfold stepValue
    rw [hspace, if_neg Bool.false_ne_true, if_neg (hne (by decide)), if_neg (hne (by decide)),
      if_neg (hne (by decide)), if_neg (hne (by decide)), if_neg (hne (by decide)),
      if_neg (hne (by decide)), if_neg (hne (by decide)), if_neg (hne (by decide)),
      if_neg (hne (by decide)), if_neg hzero, if_pos hc]
  obtain ⟨value, hrun⟩ := run_whole hdigits [] ⟨false, Text.asciiDigitValue c, 1, 0, false, 0⟩
  have hcount : 1 + digits.length = digits.length + 1 := Nat.add_comm _ _
  rw [read, run_cons, hfirst, hrun, ← hcount]
  exact finish_tooManyDigits [] (hcount ▸ Nat.lt_succ_of_le hlong)

end Json

end TargetHelp
