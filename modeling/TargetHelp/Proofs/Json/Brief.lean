import TargetHelp.Diagnostics.Trace
import TargetHelp.Proofs.Json.Escape

/-!
# Values on one short line

A displayed value is printable throughout: texts and keys are quoted, which leaves no code point in
them that is not printable, and all else is written in ASCII. So is a brief one, which is a part of
a displayed value or the count of its items, and it is short unless there are more items than any
list can have. It is the displayed value itself just if that is short and not a list of many items.
-/

set_option autoImplicit false
set_option relaxedAutoImplicit false

namespace TargetHelp

namespace Text

/-! ### Printable texts -/

/-- All code points are printable. -/
def Printable (t : Text) : Prop := ∀ c ∈ t, isPrintable c = true

theorem PrintableAscii.printable {t : Text} (h : t.PrintableAscii) : t.Printable := by
  intro c hc
  obtain ⟨hlow, hhigh⟩ := h c hc
  unfold isPrintable
  rw [if_pos (by omega), decide_eq_true hlow, decide_eq_true (by omega)]
  rfl

namespace Printable

theorem append {s t : Text} (hs : s.Printable) (ht : t.Printable) : (s ++ t).Printable :=
  List.forall_mem_append.mpr ⟨hs, ht⟩

theorem cons {c : CodePoint} {t : Text} (hc : isPrintable c = true) (ht : t.Printable) :
    Text.Printable (c :: t) :=
  List.forall_mem_cons.mpr ⟨hc, ht⟩

theorem of_subset {s t : Text} (ht : t.Printable) (h : s ⊆ t) : s.Printable :=
  fun c hc => ht c (h hc)

theorem take {t : Text} (h : t.Printable) (n : Nat) : Text.Printable (t.take n) :=
  h.of_subset (List.take_subset n t)

theorem drop {t : Text} (h : t.Printable) (n : Nat) : Text.Printable (t.drop n) :=
  h.of_subset (List.drop_subset n t)

theorem join {sep : Text} {ts : List Text} (hsep : sep.Printable)
    (h : ∀ t ∈ ts, Text.Printable t) : (Text.join sep ts).Printable := by
  induction ts with
  | nil => exact List.forall_mem_nil _
  | cons t ts ih =>
    obtain ⟨ht, hts⟩ := List.forall_mem_cons.mp h
    by_cases hnil : ts = []
    · rw [hnil]
      exact ht
    · rw [join_cons hnil]
      exact (ht.append hsep).append (ih hts)

/-- Printable texts in a row between two brackets. -/
theorem enclose {before after : Text} {ts : List Text} (hbefore : before.PrintableAscii)
    (hafter : after.PrintableAscii) (h : ∀ t ∈ ts, Text.Printable t) :
    (before ++ Text.join ", " ts ++ after).Printable := by
  have hsep : Text.Printable ", " := PrintableAscii.printable (by decide)
  exact (hbefore.printable.append (join hsep h)).append hafter.printable

/-- A printable text has no control character in it, line ends among them. -/
theorem no_control {t : Text} (h : t.Printable) :
    ∀ c ∈ t, 0x20 ≤ c.val ∧ c.val ≠ 0x7F := by
  intro c hc
  by_contra hcontrol
  have hfalse := isPrintable_eq_false_of_control (c := c) (by omega)
  exact Bool.false_ne_true (hfalse.symm.trans (h c hc))

end Printable

/-! ### Digits -/

theorem mem_toDigits {base n : Nat} (hbase : 1 < base) {c : Char} (h : c ∈ Nat.toDigits base n) :
    ∃ d < base, c = Nat.digitChar d := by
  induction n using Nat.strongRecOn with
  | ind n ih =>
    rw [Nat.toDigits_eq_if hbase] at h
    split at h
    · rename_i hn
      exact ⟨n, hn, List.mem_singleton.mp h⟩
    · rcases List.mem_append.mp h with h | h
      · exact ih (n / base) (Nat.div_lt_self (by omega) hbase) h
      · exact ⟨n % base, Nat.mod_lt n (by omega), List.mem_singleton.mp h⟩

theorem printable_inBase {base : Nat} (hbase : 1 < base) (hmost : base ≤ 16) (n : Nat) :
    (inBase base n).Printable := by
  have hdigits : ∀ d < 16, isPrintable (CodePoint.ofChar (Nat.digitChar d)) = true := by decide
  intro c hc
  obtain ⟨digit, hdigit, rfl⟩ := List.mem_map.mp hc
  obtain ⟨d, hd, rfl⟩ := mem_toDigits hbase hdigit
  exact hdigits d (by omega)

theorem printable_decimal (n : Nat) : (decimal n).Printable :=
  printable_inBase (by decide) (by decide) n

theorem printable_zeros (n : Nat) : (Binary64.zeros n).Printable := by
  intro c hc
  rw [(List.mem_replicate.mp hc).2]
  decide

theorem printable_hexadecimal (width n : Nat) : (hexadecimal width n).Printable :=
  (printable_zeros _).append (printable_inBase (by decide) (by decide) n)

theorem printable_signedDecimal (n : Int) : (signedDecimal n).Printable := by
  cases n with
  | ofNat n => exact printable_decimal n
  | negSucc n => exact .cons (by decide) (printable_decimal (n + 1))

/-! ### Quoted texts -/

theorem printable_numericEscape (c : CodePoint) : (numericEscape c).Printable := by
  unfold numericEscape
  split_ifs
  all_goals exact .cons (by decide) (.cons (by decide) (printable_hexadecimal _ _))

theorem printable_quotePoint {quote : CodePoint} (hquote : isPrintable quote = true)
    (c : CodePoint) : (quotePoint quote c).Printable := by
  have hescape {d : CodePoint} (hd : isPrintable d = true) : Text.Printable [backslash, d] :=
    .cons (by decide) (.cons hd (List.forall_mem_nil _))
  unfold quotePoint
  split_ifs with hmark _ _ _ hprintable
  · rcases hmark with rfl | rfl
    · exact hescape hquote
    · exact hescape (by decide)
  · exact hescape (by decide)
  · exact hescape (by decide)
  · exact hescape (by decide)
  · exact .cons hprintable (List.forall_mem_nil _)
  · exact printable_numericEscape c

/-- A quoted text is printable, whatever it quotes. -/
theorem printable_quoted (t : Text) : (quoted t).Printable := by
  have hmark : isPrintable (quoteMark t) = true := by
    unfold quoteMark
    split_ifs <;> decide
  have hpoints : Text.Printable (t.flatMap (quotePoint (quoteMark t))) := by
    intro d hd
    obtain ⟨c, -, hc⟩ := List.mem_flatMap.mp hd
    exact printable_quotePoint hmark c d hc
  exact (hpoints.cons hmark).append (.cons hmark (List.forall_mem_nil _))

end Text

/-! ### Numbers -/

namespace Binary64

theorem printable_sign (negative : Bool) : (sign negative).Printable := by
  cases negative
  · exact Text.PrintableAscii.printable (by decide)
  · exact Text.PrintableAscii.printable (by decide)

theorem printable_dropTrailingZeros {digits : Text} (h : digits.Printable) :
    (dropTrailingZeros digits).Printable := by
  refine h.of_subset fun c hc => ?_
  have hmem := List.dropWhile_subset _ (List.mem_reverse.mp hc)
  exact List.mem_reverse.mp hmem

theorem printable_writePoint {digits : Text} (h : digits.Printable) (point : Int) :
    (writePoint digits point).Printable := by
  have hpoint : Text.isPrintable '.' = true := by decide
  have hmark : Text.isPrintable 'e' = true := by decide
  unfold writePoint
  split_ifs
  · refine Text.Printable.append ((h.take 1).append ?_) (.cons hmark (.cons ?_ ?_))
    · have hrest := h.drop 1
      split
      · exact List.forall_mem_nil _
      · exact .cons hpoint hrest
    · split <;> decide
    · exact (Text.printable_zeros _).append (Text.printable_decimal _)
  · exact (Text.Printable.append (Text.PrintableAscii.printable (by decide))
      (Text.printable_zeros _)).append h
  · exact (h.append (Text.printable_zeros _)).append (Text.PrintableAscii.printable (by decide))
  · exact (h.take _).append (.cons hpoint (h.drop _))

theorem printable_written {nanName infinityName : Text} (hnan : nanName.Printable)
    (hinfinity : infinityName.Printable) (x : Binary64) :
    (x.written nanName infinityName).Printable := by
  cases x with
  | nan => exact hnan
  | infinite negative => exact (printable_sign negative).append hinfinity
  | finite negative mantissa exponent =>
    unfold written
    dsimp only
    split_ifs
    · exact (printable_sign negative).append (Text.PrintableAscii.printable (by decide))
    · rcases shortest mantissa exponent with ⟨digits, power⟩
      have hdigits := printable_dropTrailingZeros (Text.printable_decimal digits)
      exact (printable_sign negative).append (printable_writePoint hdigits _)

end Binary64

namespace Json

/-! ### Displayed values -/

mutual

/-- A displayed value is printable. -/
theorem printable_display : (v : Json) → v.display.Printable
  | .null => Text.PrintableAscii.printable (by decide)
  | .bool true => Text.PrintableAscii.printable (by decide)
  | .bool false => Text.PrintableAscii.printable (by decide)
  | .int value => Text.printable_signedDecimal value
  | .float value => Binary64.printable_written (Text.PrintableAscii.printable (by decide))
      (Text.PrintableAscii.printable (by decide)) value
  | .str value => Text.printable_quoted value
  | .arr items => .enclose (by decide) (by decide) (printable_displayItems items)
  | .obj fields => .enclose (by decide) (by decide) (printable_displayFields fields)

theorem printable_displayItems : (items : List Json) → ∀ t ∈ displayItems items, Text.Printable t
  | [] => List.forall_mem_nil _
  | item :: items =>
    List.forall_mem_cons.mpr ⟨printable_display item, printable_displayItems items⟩

theorem printable_displayFields :
    (fields : List (Text × Json)) → ∀ t ∈ displayFields fields, Text.Printable t
  | [] => List.forall_mem_nil _
  | (key, value) :: fields => by
    have hcolon : Text.Printable ": " := Text.PrintableAscii.printable (by decide)
    exact List.forall_mem_cons.mpr ⟨((Text.printable_quoted key).append hcolon).append
      (printable_display value), printable_displayFields fields⟩

end

theorem comma_mem_display {items : List Json} (h : 1 < items.length) :
    CodePoint.ofChar ',' ∈ (arr items).display := by
  match items with
  | first :: second :: items =>
    have hjoin : Text.join ", " (displayItems (first :: second :: items)) =
        first.display ++ (", " : Text) ++ Text.join ", " (displayItems (second :: items)) :=
      Text.join_cons (List.cons_ne_nil _ _)
    rw [display, hjoin]
    have hsep : CodePoint.ofChar ',' ∈ (", " : Text) := by decide
    exact List.mem_append_left _ (List.mem_append_right _
      (List.mem_append_left _ (List.mem_append_right _ hsep)))

end Json

/-! ### Brief texts -/

namespace Text

theorem length_brief_of_lt {t : Text} (h : maxBrief < t.length) : t.brief.length = maxBrief := by
  unfold brief
  rw [if_pos h, List.length_append, List.length_take]
  have hdots : (ofString "...").length = 3 := by decide
  have hfifty : maxBrief = 50 := rfl
  omega

theorem length_brief_le (t : Text) : t.brief.length ≤ maxBrief := by
  by_cases h : maxBrief < t.length
  · exact (length_brief_of_lt h).le
  · unfold brief
    rw [if_neg h]
    exact not_lt.mp h

/-- A text that is short enough is its own brief text, and no other is. -/
theorem brief_eq_self_iff {t : Text} : t.brief = t ↔ t.length ≤ maxBrief := by
  constructor
  · intro h
    rw [← h]
    exact length_brief_le t
  · intro h
    exact if_neg (not_lt.mpr h)

theorem Printable.brief {t : Text} (h : t.Printable) : t.brief.Printable := by
  unfold Text.brief
  split
  · exact (h.take _).append (PrintableAscii.printable (by decide))
  · exact h

theorem length_briefCount_le {count : Nat} (h : count < Nat.pow 10 36) :
    (briefCount count).length ≤ maxBrief := by
  have hdigits : (decimal count).length ≤ 36 := by
    unfold decimal inBase
    rw [List.length_map]
    exact (Nat.length_toDigits_le_iff (by decide) (by decide)).mpr h
  unfold briefCount
  rw [List.length_append, List.length_append]
  have hfront : (ofString "[...").length = 4 := by decide
  have hback : (ofString " items...]").length = 10 := by decide
  have hfifty : maxBrief = 50 := rfl
  omega

theorem printable_briefCount (count : Nat) : (briefCount count).Printable := by
  have hfront : Text.Printable "[..." := PrintableAscii.printable (by decide)
  have hback : Text.Printable " items...]" := PrintableAscii.printable (by decide)
  exact (hfront.append (printable_decimal count)).append hback

theorem comma_notMem_briefCount (count : Nat) : CodePoint.ofChar ',' ∉ briefCount count := by
  have hdigits : CodePoint.ofChar ',' ∉ decimal count := by
    intro h
    obtain ⟨digit, hdigit, heq⟩ := List.mem_map.mp h
    obtain ⟨d, hd, rfl⟩ := mem_toDigits (by decide) hdigit
    have hnone : ∀ d < 10, CodePoint.ofChar (Nat.digitChar d) ≠ CodePoint.ofChar ',' := by decide
    exact hnone d hd heq
  unfold briefCount
  rw [List.mem_append, List.mem_append, not_or, not_or]
  exact ⟨⟨by decide, hdigits⟩, by decide⟩

end Text

namespace Json

theorem brief_of_items_le {v : Json} (h : v.items.length ≤ 3) : v.brief = v.display.brief := by
  cases v with
  | arr items => exact if_neg (not_lt.mpr h)
  | _ => rfl

/-- A list of many items is shown by their number, which is not how it is displayed. -/
theorem brief_of_lt_items {v : Json} (h : 3 < v.items.length) :
    v.brief = Text.briefCount v.items.length ∧ v.brief ≠ v.display := by
  cases v with
  | arr items =>
    have hbrief : (arr items).brief = Text.briefCount items.length := if_pos h
    refine ⟨hbrief, fun heq => ?_⟩
    have hmany : 3 < items.length := h
    have hcomma : CodePoint.ofChar ',' ∈ (arr items).display := comma_mem_display (by omega)
    rw [← heq, hbrief] at hcomma
    exact Text.comma_notMem_briefCount items.length hcomma
  | _ => exact absurd h (Nat.not_lt_zero 3)

/-- A brief value has at most fifty code points, none of which is a line feed, a carriage return or
another control character, as long as a list has no more items than thirty-six digits count. It is
the whole displayed value just if that has at most fifty code points itself and the value is not a
list of more than three items. -/
theorem brief_spec (v : Json) (h : v.items.length < Nat.pow 10 36) :
    v.brief.length ≤ 50 ∧ (∀ c ∈ v.brief, 0x20 ≤ c.val ∧ c.val ≠ 0x7F) ∧
    (v.brief = v.display ↔ v.items.length ≤ 3 ∧ v.display.length ≤ 50) := by
  by_cases hfew : v.items.length ≤ 3
  · rw [brief_of_items_le hfew]
    refine ⟨Text.length_brief_le _, (printable_display v).brief.no_control, ?_⟩
    rw [Text.brief_eq_self_iff]
    exact ⟨fun hshort => ⟨hfew, hshort⟩, And.right⟩
  · obtain ⟨hbrief, hne⟩ := brief_of_lt_items (not_le.mp hfew)
    refine ⟨?_, ?_, fun heq => absurd heq hne, fun hboth => absurd hboth.1 hfew⟩
    · rw [hbrief]
      exact Text.length_briefCount_le h
    · rw [hbrief]
      exact (Text.printable_briefCount _).no_control

/-- An object with an apostrophe and line ends in it, texts that are shown by fifty and by fifty-one
code points, and lists of three and of four items. -/
theorem brief_spec_boundary :
    let nested : Json := .obj [("it's\n", .arr [.str "\x07\r", .null])]
    let text (n : Nat) : Json := .str (List.replicate n 'a')
    let list (n : Nat) : Json := .arr (List.replicate n .null)
    (nested.brief = ("\x7b\x22it's\\n\x22: ['\\x07\\r', None]\x7d" : Text) ∧
      ∀ c ∈ nested.brief, 0x20 ≤ c.val ∧ c.val ≠ 0x7F) ∧
    ((text 48).brief = (text 48).display ∧ (text 49).brief ≠ (text 49).display ∧
      (text 49).brief.length ≤ 50) ∧
    (list 3).brief = (list 3).display ∧ (list 4).brief ≠ (list 4).display := by
  intro nested text list
  obtain ⟨-, hcontrol, -⟩ := brief_spec nested (by decide)
  obtain ⟨-, -, hshort⟩ := brief_spec (text 48) (by decide)
  obtain ⟨hlength, -, hlong⟩ := brief_spec (text 49) (by decide)
  obtain ⟨-, -, hfew⟩ := brief_spec (list 3) (by decide)
  obtain ⟨-, -, hmany⟩ := brief_spec (list 4) (by decide)
  exact ⟨⟨by decide +kernel, hcontrol⟩,
    ⟨hshort.mpr (by decide +kernel), mt hlong.mp (by decide +kernel), hlength⟩,
    hfew.mpr (by decide +kernel), mt hmany.mp (by decide +kernel)⟩

end Json

end TargetHelp
