import TargetHelp.Json.Reader
import TargetHelp.Json.Writer
import Mathlib.Data.List.Chain
import Mathlib.Tactic.SplitIfs

/-!
# Reading escaped texts

The writer escapes code point by code point and the reader takes the escapes apart again. Between
two code points the reader may hold the last one back: an escaped high surrogate waits for an
escaped low one to join. So a text comes back unless a high surrogate stands right in front of a
low one in it, and `Unpaired` texts are those where none does.
-/

set_option autoImplicit false
set_option relaxedAutoImplicit false

namespace TargetHelp

/-- No high surrogate is immediately followed by a low one. -/
def Text.Unpaired (t : Text) : Prop :=
  t.IsChain fun c d => c.IsHighSurrogate → ¬ d.IsLowSurrogate

instance (t : Text) : Decidable t.Unpaired := by
  unfold Text.Unpaired
  infer_instance

/-! ### Hexadecimal digits -/

namespace Text

def hexDigit (n : Nat) : CodePoint := CodePoint.ofChar n.digitChar

/-- The last digit of a number stands behind the digits of what is left without it. -/
theorem hexadecimal_succ {width : Nat} (hw : 0 < width) (n : Nat) :
    hexadecimal (width + 1) n = hexadecimal width (n / 16) ++ [hexDigit (n % 16)] := by
  have hdigits := Nat.toDigits_eq_if (b := 16) (n := n) (by decide)
  by_cases hn : n < 16
  · have hzero : n / 16 = 0 := Nat.div_eq_of_lt hn
    have hone : width + 1 - 1 = (width - 1) + 1 := by omega
    rw [if_pos hn] at hdigits
    simp only [hexadecimal, inBase, hdigits, hzero, Nat.toDigits_zero, List.map_cons, List.map_nil,
      List.length_singleton, hone, List.replicate_succ', Nat.mod_eq_of_lt hn, hexDigit]
  · rw [if_neg hn] at hdigits
    simp only [hexadecimal, inBase, hdigits, List.map_append, List.length_append, List.map_cons,
      List.map_nil, List.length_singleton, List.length_map, Nat.add_sub_add_right,
      List.append_assoc, hexDigit]

theorem hexadecimal_four {n : Nat} (h : n < 0x10000) :
    hexadecimal 4 n =
      [hexDigit (n / 0x1000), hexDigit (n / 0x100 % 16), hexDigit (n / 16 % 16),
        hexDigit (n % 16)] := by
  have hone (m : Nat) (hm : m < 16) : hexadecimal 1 m = [hexDigit m] := by
    simp [hexadecimal, inBase, Nat.toDigits_of_lt_base hm, hexDigit]
  rw [hexadecimal_succ (by decide), hexadecimal_succ (by decide), hexadecimal_succ (by decide),
    hone _ (by omega)]
  simp only [Nat.div_div_eq_div_mul, List.cons_append, List.nil_append]

theorem val_hexDigit_range {n : Nat} (h : n < 16) :
    0x30 ≤ (hexDigit n).val ∧ (hexDigit n).val ≤ 0x66 := by
  have hall : ∀ m : Fin 16, 0x30 ≤ (hexDigit m).val ∧ (hexDigit m).val ≤ 0x66 := by decide
  exact hall ⟨n, h⟩

end Text

namespace Json

theorem hexValue?_hexDigit {n : Nat} (h : n < 16) : hexValue? (Text.hexDigit n) = some n := by
  have hall : ∀ m : Fin 16, hexValue? (Text.hexDigit m) = some m.val := by decide
  exact hall ⟨n, h⟩

/-! ### Escapes by number -/

theorem stepString_digit {role : Role} {read : Text} {high : Option CodePoint} {value count d : Nat}
    (hd : d < 16) (hc : count < 3) :
    step (.string role read (.digits high value count)) (Text.hexDigit d) =
      .string role read (.digits high (value * 16 + d) (count + 1)) := by
  simp [step, stepString, hexValue?_hexDigit hd, Nat.ne_of_lt hc]

theorem stepString_lastDigit {role : Role} {read : Text} {high : Option CodePoint} {value d : Nat}
    (hd : d < 16) :
    step (.string role read (.digits high value 3)) (Text.hexDigit d) =
      completeEscape role read high (CodePoint.ofNat (value * 16 + d)) := by
  simp [step, stepString, hexValue?_hexDigit hd]

theorem run_digits {n : Nat} (h : n < 0x10000) (role : Role) (read : Text)
    (high : Option CodePoint) :
    run (.string role read (.digits high 0 0)) (Text.hexadecimal 4 n) =
      completeEscape role read high (CodePoint.ofNat n) := by
  have hsum : (((0 * 16 + n / 0x1000) * 16 + n / 0x100 % 16) * 16 + n / 16 % 16) * 16 + n % 16 =
      n := by omega
  rw [Text.hexadecimal_four h, run_cons, stepString_digit (by omega) (by decide), run_cons,
    stepString_digit (by omega) (by decide), run_cons, stepString_digit (by omega) (by decide),
    run_cons, stepString_lastDigit (by omega), hsum, run_nil]

/-- Behind the backslash, an escape by number comes to its code point. -/
theorem run_unitEscape_tail {n : Nat} (h : n < 0x10000) (role : Role) (read : Text)
    (high : Option CodePoint) :
    run (.string role read (.afterBackslash high))
        (CodePoint.ofChar 'u' :: Text.hexadecimal 4 n) =
      completeEscape role read high (CodePoint.ofNat n) := by
  rw [run_cons]
  exact run_digits h role read high

/-! ### One code point -/

/-- A state in which a string has been read whose code points stand last first in `read`. The last
one may have been written by number, and is then still held back. -/
def Reads (role : Role) (read : Text) (s : State) : Prop :=
  s = .string role read .plain ∨
    ∃ c rest, read = c :: rest ∧ s = .string role rest (.escaped c)

theorem reads_plain (role : Role) (read : Text) : Reads role read (.string role read .plain) :=
  Or.inl rfl

theorem reads_escaped (role : Role) (c : CodePoint) (read : Text) :
    Reads role (c :: read) (.string role read (.escaped c)) :=
  Or.inr ⟨c, read, rfl, rfl⟩

theorem reads_unescaped {role : Role} {read : Text} {s : State} (hs : Reads role read s)
    {c : CodePoint} (hquote : c ≠ Text.quotationMark) (hback : c ≠ Text.backslash)
    (hcontrol : 0x20 ≤ c.val) : Reads role (c :: read) (step s c) := by
  have hplain (read : Text) : stepPlain role read c = .string role (c :: read) .plain := by
    have hlow : ¬ c.val < 0x20 := by omega
    change (if c = Text.quotationMark then _ else if c = Text.backslash then _ else _) = _
    rw [if_neg hquote, if_neg hback, if_neg hlow]
  rcases hs with rfl | ⟨e, rest, rfl, rfl⟩
  · exact Or.inl (hplain read)
  · left
    change (if e.IsHighSurrogate ∧ c = Text.backslash then _ else stepPlain role (e :: rest) c) = _
    rw [if_neg fun h => hback h.2, hplain]

/-- After a backslash a high surrogate that was held back still waits, and it alone. -/
theorem step_backslash {role : Role} {read : Text} {s : State} (hs : Reads role read s) :
    ∃ high rest, step s Text.backslash = .string role rest (.afterBackslash high) ∧
      flush high rest = read ∧ ∀ h, high = some h → h.IsHighSurrogate ∧ read.head? = some h := by
  rcases hs with rfl | ⟨e, rest, rfl, rfl⟩
  · exact ⟨none, read, rfl, rfl, fun h hh => nomatch hh⟩
  · by_cases he : e.IsHighSurrogate
    · refine ⟨some e, rest, ?_, rfl, fun h hh => ?_⟩
      · change (if e.IsHighSurrogate ∧ Text.backslash = Text.backslash then _ else _) = _
        rw [if_pos ⟨he, rfl⟩]
      · obtain rfl : e = h := Option.some.inj hh
        exact ⟨he, rfl⟩
    · refine ⟨none, e :: rest, ?_, rfl, fun h hh => nomatch hh⟩
      change (if e.IsHighSurrogate ∧ Text.backslash = Text.backslash then _
        else stepPlain role (e :: rest) Text.backslash) = _
      rw [if_neg fun h => he h.1]
      rfl

theorem reads_simpleEscape {role : Role} {read : Text} {s : State} (hs : Reads role read s)
    (letter : CodePoint) {c : CodePoint} (hu : letter ≠ CodePoint.ofChar 'u')
    (hc : simpleEscape? letter = some c) :
    Reads role (c :: read) (run s [Text.backslash, letter]) := by
  obtain ⟨high, rest, hstep, hflush, -⟩ := step_backslash hs
  rw [run_cons, hstep, run_cons, run_nil]
  left
  simp only [step, stepString, if_neg hu, hc, hflush]

theorem reads_unitEscape {role : Role} {read : Text} {s : State} (hs : Reads role read s)
    {c : CodePoint} (hc : c.val < 0x10000)
    (hpair : ∀ e ∈ read.head?, e.IsHighSurrogate → ¬ c.IsLowSurrogate) :
    Reads role (c :: read) (run s (unitEscape c.val)) := by
  have hof : CodePoint.ofNat c.val = c := Fin.ext (CodePoint.val_ofNat c.isLt)
  obtain ⟨high, rest, hstep, hflush, hhigh⟩ := step_backslash hs
  rw [unitEscape, run_cons, hstep, run_unitEscape_tail hc, hof]
  cases high with
  | none =>
    obtain rfl : rest = read := hflush
    exact reads_escaped role c rest
  | some h =>
    obtain ⟨hh, hhead⟩ := hhigh h rfl
    obtain rfl : h :: rest = read := hflush
    rw [completeEscape, if_neg (hpair h hhead hh)]
    exact reads_escaped role c (h :: rest)

/-- The two units of a code point beyond 0xFFFF join, whatever waits before them. -/
theorem reads_surrogateEscapes {role : Role} {read : Text} {s : State} (hs : Reads role read s)
    {c : CodePoint} (hc : 0x10000 ≤ c.val) :
    Reads role (c :: read) (run s (unitEscape (0xD800 + (c.val - 0x10000) / 0x400) ++
      unitEscape (0xDC00 + (c.val - 0x10000) % 0x400))) := by
  have hlt := c.isLt
  obtain ⟨upper, hupper⟩ : ∃ upper, upper = 0xD800 + (c.val - 0x10000) / 0x400 := ⟨_, rfl⟩
  obtain ⟨lower, hlower⟩ : ∃ lower, lower = 0xDC00 + (c.val - 0x10000) % 0x400 := ⟨_, rfl⟩
  have hval : (CodePoint.ofNat upper).val = upper := CodePoint.val_ofNat (by omega)
  have hval' : (CodePoint.ofNat lower).val = lower := CodePoint.val_ofNat (by omega)
  have hhigh : (CodePoint.ofNat upper).IsHighSurrogate := by
    unfold CodePoint.IsHighSurrogate
    omega
  have hlow : (CodePoint.ofNat lower).IsLowSurrogate := by
    unfold CodePoint.IsLowSurrogate
    omega
  have hnot : ¬ (CodePoint.ofNat upper).IsLowSurrogate := by
    unfold CodePoint.IsLowSurrogate
    omega
  have hjoin : joinSurrogates (CodePoint.ofNat upper) (CodePoint.ofNat lower) = c := by
    have hsum : 0x10000 + (upper - 0xD800) * 0x400 + (lower - 0xDC00) = c.val := by omega
    unfold joinSurrogates
    rw [hval, hval', hsum]
    exact Fin.ext (CodePoint.val_ofNat hlt)
  have hfirst : run s (unitEscape upper) =
      .string role read (.escaped (CodePoint.ofNat upper)) := by
    obtain ⟨high, rest, hstep, hflush, -⟩ := step_backslash hs
    rw [unitEscape, run_cons, hstep, run_unitEscape_tail (by omega)]
    cases high with
    | none =>
      obtain rfl : rest = read := hflush
      rfl
    | some h =>
      obtain rfl : h :: rest = read := hflush
      rw [completeEscape, if_neg hnot]
  have hwait : step (.string role read (.escaped (CodePoint.ofNat upper))) Text.backslash =
      .string role read (.afterBackslash (some (CodePoint.ofNat upper))) := by
    change (if (CodePoint.ofNat upper).IsHighSurrogate ∧ Text.backslash = Text.backslash
      then _ else _) = _
    rw [if_pos ⟨hhigh, rfl⟩]
  rw [← hupper, ← hlower, run_append, hfirst, unitEscape, run_cons, hwait,
    run_unitEscape_tail (by omega), completeEscape, if_pos hlow, hjoin]
  exact reads_escaped role c read

/-- What a code point is written as reads as that code point, unless it is a low surrogate behind
a high one. -/
theorem reads_encodePoint {role : Role} {read : Text} {s : State} (hs : Reads role read s)
    (c : CodePoint) (hpair : ∀ e ∈ read.head?, e.IsHighSurrogate → ¬ c.IsLowSurrogate) :
    Reads role (c :: read) (run s (encodePoint c)) := by
  unfold encodePoint
  split_ifs with hmark hfeed hreturn htab hbackspace hform hascii hunit
  · rcases hmark with rfl | rfl
    · exact reads_simpleEscape hs _ (by decide) (by decide)
    · exact reads_simpleEscape hs _ (by decide) (by decide)
  · subst hfeed
    exact reads_simpleEscape hs 'n' (by decide) (by decide)
  · subst hreturn
    exact reads_simpleEscape hs 'r' (by decide) (by decide)
  · subst htab
    exact reads_simpleEscape hs 't' (by decide) (by decide)
  · obtain rfl : c = CodePoint.ofChar '\x08' := Fin.ext hbackspace
    exact reads_simpleEscape hs 'b' (by decide) (by decide)
  · obtain rfl : c = CodePoint.ofChar '\x0c' := Fin.ext hform
    exact reads_simpleEscape hs 'f' (by decide) (by decide)
  · exact reads_unescaped hs (fun h => hmark (Or.inl h)) (fun h => hmark (Or.inr h)) hascii.1
  · exact reads_unitEscape hs hunit hpair
  · exact reads_surrogateEscapes hs (by omega)

/-! ### Whole texts -/

theorem reads_encodePoints {role : Role} {t read : Text} {s : State} (hs : Reads role read s)
    (ht : Text.Unpaired (read.head?.toList ++ t)) :
    Reads role (t.reverse ++ read) (run s (t.flatMap encodePoint)) := by
  induction t generalizing read s with
  | nil => exact hs
  | cons c t ih =>
    have hpair : ∀ e ∈ read.head?, e.IsHighSurrogate → ¬ c.IsLowSurrogate := by
      intro e he
      rw [Option.mem_def.mp he] at ht
      exact (List.isChain_cons_cons.mp ht).1
    have htail : Text.Unpaired (c :: t) := by
      cases hread : read.head? with
      | none =>
        rw [hread] at ht
        exact ht
      | some e =>
        rw [hread] at ht
        exact (List.isChain_cons_cons.mp ht).2
    have hnext := ih (reads_encodePoint hs c hpair) htail
    rw [List.flatMap_cons, run_append, List.reverse_cons, List.append_assoc]
    exact hnext

theorem step_close {role : Role} {read : Text} {s : State} (hs : Reads role read s) :
    step s Text.quotationMark = role.close read := by
  rcases hs with rfl | ⟨e, rest, rfl, rfl⟩
  · rfl
  · have hne : Text.quotationMark ≠ Text.backslash := by decide
    change (if e.IsHighSurrogate ∧ Text.quotationMark = Text.backslash then _
      else stepPlain role (e :: rest) Text.quotationMark) = _
    rw [if_neg fun h => hne h.2]
    rfl

/-- Behind its opening mark, a text without pairs of surrogates comes back. -/
theorem run_encodeText_tail (role : Role) {t : Text} (ht : t.Unpaired) :
    run (.string role [] .plain) (t.flatMap encodePoint ++ [Text.quotationMark]) =
      role.close t.reverse := by
  have hread := reads_encodePoints (reads_plain role []) (t := t) ht
  rw [run_append, run_cons, run_nil, step_close hread, List.append_nil]

/-! ### What escapes are made of -/

end Json

/-- A text of printable ASCII characters alone. -/
def Text.PrintableAscii (t : Text) : Prop := ∀ c ∈ t, 0x20 ≤ c.val ∧ c.val ≤ 0x7E

namespace Text

instance (t : Text) : Decidable t.PrintableAscii :=
  List.decidableBAll (fun c : CodePoint => 0x20 ≤ c.val ∧ c.val ≤ 0x7E) t

theorem PrintableAscii.append {s t : Text} (hs : s.PrintableAscii) (ht : t.PrintableAscii) :
    (s ++ t).PrintableAscii := by
  intro c hc
  rcases List.mem_append.mp hc with hc | hc
  · exact hs c hc
  · exact ht c hc

theorem PrintableAscii.lineFeed_notMem {t : Text} (h : t.PrintableAscii) : lineFeed ∉ t :=
  fun hm => absurd (h lineFeed hm).1 (by decide)

theorem PrintableAscii.carriageReturn_notMem {t : Text} (h : t.PrintableAscii) :
    carriageReturn ∉ t :=
  fun hm => absurd (h carriageReturn hm).1 (by decide)

theorem printableAscii_hexadecimal {n : Nat} (h : n < 0x10000) :
    (hexadecimal 4 n).PrintableAscii := by
  intro c hc
  have hdigit (d : Nat) (hd : d < 16) (heq : c = hexDigit d) : 0x20 ≤ c.val ∧ c.val ≤ 0x7E := by
    have hrange := val_hexDigit_range hd
    rw [heq]
    omega
  rw [hexadecimal_four h] at hc
  simp only [List.mem_cons, List.not_mem_nil, or_false] at hc
  rcases hc with hc | hc | hc | hc
  · exact hdigit _ (by omega) hc
  · exact hdigit _ (by omega) hc
  · exact hdigit _ (by omega) hc
  · exact hdigit _ (by omega) hc

end Text

namespace Json

theorem printableAscii_unitEscape {n : Nat} (h : n < 0x10000) : (unitEscape n).PrintableAscii := by
  have hfront : Text.PrintableAscii [Text.backslash, CodePoint.ofChar 'u'] := by decide
  exact hfront.append (Text.printableAscii_hexadecimal h)

theorem printableAscii_encodePoint (c : CodePoint) : (encodePoint c).PrintableAscii := by
  unfold encodePoint
  split_ifs with hmark _ _ _ _ _ hascii hunit
  · rcases hmark with rfl | rfl <;> decide
  · decide
  · decide
  · decide
  · decide
  · decide
  · intro d hd
    obtain rfl := List.mem_singleton.mp hd
    omega
  · exact printableAscii_unitEscape hunit
  · have hlt := c.isLt
    exact (printableAscii_unitEscape (by omega)).append (printableAscii_unitEscape (by omega))

theorem printableAscii_encodeText (t : Text) : (encodeText t).PrintableAscii := by
  have hmark : Text.PrintableAscii [Text.quotationMark] := by decide
  have hpoints : Text.PrintableAscii (t.flatMap encodePoint) := by
    intro d hd
    obtain ⟨c, -, hc⟩ := List.mem_flatMap.mp hd
    exact printableAscii_encodePoint c d hc
  exact (hmark.append hpoints).append hmark

end Json

end TargetHelp
