import TargetHelp.Proofs.Text.Pieces
import TargetHelp.Text.Decimal
import Mathlib.Data.List.DropRight
import Mathlib.Data.Nat.Digits.Defs

/-!
# Integer literals

A literal is a sign, if any, and digits of any script between blanks, where an underscore may stand
between two digits. `IsInteger` says so by the parts that a text is put together from, and the
reader reads a text as an integer if and only if it is a literal of that integer
(`readInteger?_eq_some_iff`). A written integer is a literal of itself, whatever blanks are put
around it, unless it is too long to be read.
-/

set_option autoImplicit false
set_option relaxedAutoImplicit false

namespace TargetHelp.Text

/-! ### What stands between blanks -/

/-- A text without the code points of a class at its two ends. -/
structure IsTrimmed (p : CodePoint → Bool) (t core : Text) : Prop where
  surrounded : ∃ before after, t = before ++ core ++ after ∧
    (∀ c ∈ before, p c = true) ∧ ∀ c ∈ after, p c = true
  first : ∀ c ∈ core.head?, p c = false
  last : ∀ c ∈ core.getLast?, p c = false

section Trim

variable {p : CodePoint → Bool}

theorem head?_dropWhile (t : Text) : ∀ c ∈ (t.dropWhile p).head?, p c = false := by
  intro c hc
  have hhead := List.head?_dropWhile_not p t
  rw [hc] at hhead
  exact hhead

theorem dropWhile_of_head? {t : Text} (h : ∀ c ∈ t.head?, p c = false) : t.dropWhile p = t := by
  cases t with
  | nil => rfl
  | cons c t => exact List.dropWhile_cons_of_neg (by simp [h c rfl])

theorem isTrimmed_trim (p : CodePoint → Bool) (t : Text) : IsTrimmed p t (trim p t) := by
  have hback : trim p t ++ (t.dropWhile p).rtakeWhile p = t.dropWhile p :=
    List.rdropWhile_append_rtakeWhile
  refine ⟨⟨t.takeWhile p, (t.dropWhile p).rtakeWhile p, ?_, ?_, ?_⟩, ?_, ?_⟩
  · rw [List.append_assoc, hback, List.takeWhile_append_dropWhile]
  · exact fun c hc => List.mem_takeWhile_imp hc
  · exact fun c hc => List.mem_rtakeWhile_imp hc
  · intro c hc
    refine head?_dropWhile t c ?_
    rw [← hback, List.head?_append, hc]
    rfl
  · intro c hc
    unfold trim at hc
    rw [List.getLast?_reverse] at hc
    exact head?_dropWhile _ c hc

theorem IsTrimmed.trim_eq {t core : Text} (h : IsTrimmed p t core) : trim p t = core := by
  obtain ⟨before, after, rfl, hbefore, hafter⟩ := h.surrounded
  unfold trim
  rw [List.append_assoc, List.dropWhile_append_of_pos hbefore]
  by_cases hcore : core = []
  · subst hcore
    rw [List.nil_append, List.dropWhile_eq_nil_iff.mpr hafter]
    rfl
  · have hhead : ∀ c ∈ (core ++ after).head?, p c = false := by
      rw [List.head?_append_of_ne_nil _ hcore]
      exact h.first
    have hlast : ∀ c ∈ core.reverse.head?, p c = false := by
      rw [List.head?_reverse]
      exact h.last
    have hreverse : ∀ c ∈ after.reverse, p c = true := fun c hc =>
      hafter c (List.mem_reverse.mp hc)
    rw [dropWhile_of_head? hhead, List.reverse_append, List.dropWhile_append_of_pos hreverse,
      dropWhile_of_head? hlast, List.reverse_reverse]

/-- Blanks at the ends make no difference. -/
theorem IsTrimmed.surround {t core before after : Text} (h : IsTrimmed p t core)
    (hbefore : ∀ c ∈ before, p c = true) (hafter : ∀ c ∈ after, p c = true) :
    IsTrimmed p (before ++ t ++ after) core := by
  obtain ⟨front, back, rfl, hfront, hback⟩ := h.surrounded
  refine ⟨⟨before ++ front, back ++ after, by simp only [List.append_assoc], ?_, ?_⟩,
    h.first, h.last⟩
  · exact List.forall_mem_append.mpr ⟨hbefore, hfront⟩
  · exact List.forall_mem_append.mpr ⟨hback, hafter⟩

/-- Trimming leaves nothing of a text of blanks, and something of any other. -/
theorem IsTrimmed.eq_nil_iff {t core : Text} (h : IsTrimmed p t core) :
    core = [] ↔ ∀ c ∈ t, p c = true := by
  obtain ⟨before, after, rfl, hbefore, hafter⟩ := h.surrounded
  constructor
  · rintro rfl
    rw [List.append_nil]
    exact List.forall_mem_append.mpr ⟨hbefore, hafter⟩
  · intro hall
    cases core with
    | nil => rfl
    | cons c core =>
      have hblank : p c = true := hall c (by simp)
      exact absurd hblank (by simp [h.first c rfl])

end Trim

/-! ### Digits -/

/-- What may stand between two digits. -/
def underscore : CodePoint := '_'

/-- A text spells some digits: those of any script, in groups with one underscore between
neighbours. -/
def Spells (t : Text) (digits : List Nat) : Prop :=
  ∃ groups : List Text, groups ≠ [] ∧ join [underscore] groups = t ∧
    (∀ group ∈ groups, group ≠ []) ∧ groups.flatten.map decimalValue? = digits.map some

/-- The groups are what the underscores split the text into. -/
theorem spells_iff {t : Text} {digits : List Nat} :
    Spells t digits ↔ (∀ group ∈ splitAll underscore t, group ≠ []) ∧
      (splitAll underscore t).flatten.map decimalValue? = digits.map some := by
  constructor
  · rintro ⟨groups, hne, htext, hgroups, hdigits⟩
    have hsplit : splitAll underscore t = groups := by
      refine splitAll_eq_iff.mpr ⟨hne, htext, fun group hgroup hmem => ?_⟩
      have hvalue : decimalValue? underscore ∈ groups.flatten.map decimalValue? :=
        List.mem_map_of_mem (List.mem_flatten.mpr ⟨group, hgroup, hmem⟩)
      rw [hdigits] at hvalue
      obtain ⟨d, -, hd⟩ := List.mem_map.mp hvalue
      cases hd
    rw [hsplit]
    exact ⟨hgroups, hdigits⟩
  · rintro ⟨hgroups, hdigits⟩
    exact ⟨_, splitAll_ne_nil underscore t, join_splitAll underscore t, hgroups, hdigits⟩

/-- Groups of digits as the reader finds them: the first one may be empty behind a digit, which is
then the end of it. -/
structure Continues (afterDigit : Bool) (groups : List Text) (digits : List Nat) : Prop where
  first : [] ∈ groups.head? → afterDigit = true
  others : ∀ group ∈ groups.tail, group ≠ []
  values : groups.flatten.map decimalValue? = digits.map some

section Continues

variable {afterDigit : Bool} {groups : List Text} {digits : List Nat}

theorem continues_end : Continues afterDigit [[]] digits ↔ afterDigit = true ∧ digits = [] := by
  constructor
  · intro h
    exact ⟨h.first rfl, List.map_eq_nil_iff.mp h.values.symm⟩
  · rintro ⟨rfl, rfl⟩
    exact ⟨fun _ => rfl, List.forall_mem_nil _, rfl⟩

theorem continues_false_iff : Continues false groups digits ↔
    (∀ group ∈ groups, group ≠ []) ∧ groups.flatten.map decimalValue? = digits.map some := by
  cases groups with
  | nil =>
    exact ⟨fun h => ⟨List.forall_mem_nil _, h.values⟩, fun h => ⟨nofun, List.forall_mem_nil _, h.2⟩⟩
  | cons group groups =>
    rw [List.forall_mem_cons]
    constructor
    · intro h
      refine ⟨⟨?_, h.others⟩, h.values⟩
      rintro rfl
      cases h.first rfl
    · rintro ⟨⟨hgroup, hgroups⟩, hvalues⟩
      exact ⟨fun hfirst => absurd (Option.some.inj hfirst) hgroup, hgroups, hvalues⟩

/-- A group has ended, so a whole one begins. -/
theorem continues_next : Continues afterDigit ([] :: groups) digits ↔
    afterDigit = true ∧ Continues false groups digits := by
  rw [continues_false_iff]
  exact ⟨fun h => ⟨h.first rfl, h.others, h.values⟩, fun h => ⟨fun _ => h.1, h.2.1, h.2.2⟩⟩

/-- A digit of a group has been read. -/
theorem continues_digit {c : CodePoint} {group : Text} :
    Continues afterDigit ((c :: group) :: groups) digits ↔
      ∃ d others, decimalValue? c = some d ∧ digits = d :: others ∧
        Continues true (group :: groups) others := by
  constructor
  · intro h
    have hvalues := h.values
    rw [List.flatten_cons, List.cons_append, List.map_cons] at hvalues
    cases digits with
    | nil => cases hvalues
    | cons d others =>
      obtain ⟨hd, hothers⟩ := List.cons.inj hvalues
      exact ⟨d, others, hd, rfl, fun _ => rfl, h.others, hothers⟩
  · rintro ⟨d, others, hd, rfl, h⟩
    refine ⟨nofun, h.others, ?_⟩
    rw [List.flatten_cons, List.cons_append, List.map_cons, hd]
    exact congrArg _ h.values

end Continues

theorem digitsValue?_underscore (afterDigit : Bool) (value count : Nat) (t : Text) :
    digitsValue? afterDigit value count (underscore :: t) =
      if afterDigit = true then digitsValue? false value count t else none := by
  have hvalue : decimalValue? underscore = none := by decide
  rw [digitsValue?, hvalue]
  cases afterDigit <;> rfl

theorem digitsValue?_digit {c : CodePoint} {d : Nat} (h : decimalValue? c = some d)
    (afterDigit : Bool) (value count : Nat) (t : Text) :
    digitsValue? afterDigit value count (c :: t) =
      digitsValue? true (value * 10 + d) (count + 1) t := by
  rw [digitsValue?, h]

theorem digitsValue?_other {c : CodePoint} (h : decimalValue? c = none) (hc : c ≠ underscore)
    (afterDigit : Bool) (value count : Nat) (t : Text) :
    digitsValue? afterDigit value count (c :: t) = none := by
  rw [digitsValue?, h]
  exact if_neg fun hunderscore => hc hunderscore.2

theorem digitsValue?_eq_some_iff {afterDigit : Bool} {value count : Nat} {t : Text}
    {r : Nat × Nat} :
    digitsValue? afterDigit value count t = some r ↔
      ∃ digits, Continues afterDigit (splitAll underscore t) digits ∧
        r = (digits.foldl (fun v d => v * 10 + d) value, count + digits.length) := by
  induction t generalizing afterDigit value count with
  | nil =>
    simp only [splitAll, continues_end]
    cases afterDigit with
    | false => exact iff_of_false (by rintro ⟨⟩) (by rintro ⟨_, ⟨⟨⟩, _⟩, _⟩)
    | true =>
      constructor
      · intro h
        exact ⟨[], ⟨rfl, rfl⟩, (Option.some.inj h).symm⟩
      · rintro ⟨_, ⟨-, rfl⟩, rfl⟩
        rfl
  | cons c t ih =>
    by_cases hc : c = underscore
    · subst hc
      simp only [splitAll_cons_sep, continues_next, digitsValue?_underscore]
      cases afterDigit with
      | false => exact iff_of_false (by rintro ⟨⟩) (by rintro ⟨_, ⟨⟨⟩, _⟩, _⟩)
      | true => simpa using ih
    · obtain ⟨group, groups, hpieces⟩ :=
        List.exists_cons_of_ne_nil (splitAll_ne_nil underscore t)
      rw [hpieces] at ih
      simp only [splitAll_cons_of_ne hc hpieces, continues_digit]
      cases hvalue : decimalValue? c with
      | none =>
        rw [digitsValue?_other hvalue hc]
        exact iff_of_false (by rintro ⟨⟩) (by rintro ⟨_, ⟨_, _, ⟨⟩, _⟩, _⟩)
      | some d =>
        rw [digitsValue?_digit hvalue, ih]
        constructor
        · rintro ⟨others, hothers, rfl⟩
          refine ⟨d :: others, ⟨d, others, rfl, rfl, hothers⟩, ?_⟩
          rw [List.foldl_cons, List.length_cons, Nat.add_assoc, Nat.add_comm 1]
        · rintro ⟨_, ⟨_, others, hd, rfl, hothers⟩, rfl⟩
          obtain rfl := Option.some.inj hd
          refine ⟨others, hothers, ?_⟩
          rw [List.foldl_cons, List.length_cons, Nat.add_assoc, Nat.add_comm 1]

/-- The reader takes the digits from the left. -/
theorem foldl_eq_ofDigits (digits : List Nat) :
    digits.foldl (fun v d => v * 10 + d) 0 = Nat.ofDigits 10 digits.reverse := by
  rw [Nat.ofDigits_eq_foldr, List.foldr_reverse]
  congr 1
  funext v d
  rw [Nat.cast_id, Nat.mul_comm, Nat.add_comm]

theorem readNatural?_eq_some_iff {t : Text} {n : Nat} :
    readNatural? t = some n ↔ ∃ digits, Spells t digits ∧ digits.length ≤ maxDigits ∧
      Nat.ofDigits 10 digits.reverse = n := by
  have hread (r : Nat × Nat) : digitsValue? false 0 0 t = some r ↔
      ∃ digits, Spells t digits ∧ r = (Nat.ofDigits 10 digits.reverse, digits.length) := by
    simp only [digitsValue?_eq_some_iff, continues_false_iff, spells_iff, foldl_eq_ofDigits,
      Nat.zero_add]
  unfold readNatural?
  constructor
  · intro h
    cases hvalue : digitsValue? false 0 0 t with
    | none =>
      rw [hvalue] at h
      cases h
    | some r =>
      obtain ⟨digits, hdigits, rfl⟩ := (hread r).mp hvalue
      rw [hvalue] at h
      obtain ⟨hlength, hn⟩ := Option.ite_none_right_eq_some.mp h
      exact ⟨digits, hdigits, hlength, Option.some.inj hn⟩
  · rintro ⟨digits, hdigits, hlength, rfl⟩
    rw [(hread _).mpr ⟨digits, hdigits, rfl⟩]
    exact if_pos hlength

/-! ### The ends of what is spelled -/

theorem join_ne_nil {groups : List Text} (hne : groups ≠ []) (h : ∀ group ∈ groups, group ≠ [])
    (sep : Text) : join sep groups ≠ [] := by
  cases groups with
  | nil => exact absurd rfl hne
  | cons group groups =>
    have hgroup : group ≠ [] := h group List.mem_cons_self
    cases groups with
    | nil => exact hgroup
    | cons next groups =>
      rw [join_cons (List.cons_ne_nil next groups), List.append_assoc]
      exact List.append_ne_nil_of_left_ne_nil hgroup _

theorem mem_flatten_of_head?_join {groups : List Text} (h : ∀ group ∈ groups, group ≠ [])
    {sep : Text} : ∀ c ∈ (join sep groups).head?, c ∈ groups.flatten := by
  intro c hc
  cases groups with
  | nil => cases hc
  | cons group groups =>
    refine List.mem_append_left _ (List.mem_of_head? ?_)
    cases groups with
    | nil => exact hc
    | cons next groups =>
      rwa [join_cons (List.cons_ne_nil next groups), List.append_assoc,
        List.head?_append_of_ne_nil _ (h group List.mem_cons_self)] at hc

theorem mem_flatten_of_getLast?_join {groups : List Text} (h : ∀ group ∈ groups, group ≠ [])
    {sep : Text} : ∀ c ∈ (join sep groups).getLast?, c ∈ groups.flatten := by
  intro c hc
  induction groups with
  | nil => cases hc
  | cons group groups ih =>
    obtain ⟨-, hgroups⟩ := List.forall_mem_cons.mp h
    by_cases hlast : groups = []
    · subst hlast
      exact List.mem_append_left _ (List.mem_of_getLast? hc)
    · rw [join_cons hlast, List.getLast?_append_of_ne_nil _ (join_ne_nil hlast hgroups sep)] at hc
      exact List.mem_append_right _ (ih hgroups hc)

/-- What is spelled begins and ends with a digit. -/
theorem Spells.ends {t : Text} {digits : List Nat} (h : Spells t digits) :
    t ≠ [] ∧ (∀ c ∈ t.head?, ∃ d, decimalValue? c = some d) ∧
      ∀ c ∈ t.getLast?, ∃ d, decimalValue? c = some d := by
  obtain ⟨groups, hne, rfl, hgroups, hvalues⟩ := h
  have hdigit : ∀ c ∈ groups.flatten, ∃ d, decimalValue? c = some d := by
    intro c hc
    have hmem := List.mem_map_of_mem (f := decimalValue?) hc
    rw [hvalues] at hmem
    obtain ⟨d, -, hd⟩ := List.mem_map.mp hmem
    exact ⟨d, hd.symm⟩
  exact ⟨join_ne_nil hne hgroups _, fun c hc => hdigit c (mem_flatten_of_head?_join hgroups c hc),
    fun c hc => hdigit c (mem_flatten_of_getLast?_join hgroups c hc)⟩

/-- No digit of any script is blank. -/
theorem isBlankPoint_of_decimalValue? {c : CodePoint} {d : Nat} (h : decimalValue? c = some d) :
    isBlankPoint c = false := by
  have hruns : ∀ start ∈ decimalZeros, ∀ i < 10,
      isBlankPoint (CodePoint.ofNat (start + i)) = false := by decide +kernel
  obtain ⟨start, hstart, -⟩ := Option.map_eq_some_iff.1 h
  have hrange := List.find?_some hstart
  simp only [Bool.and_eq_true, decide_eq_true_eq] at hrange
  have hc : CodePoint.ofNat (start + (c.val - start)) = c := by
    refine Fin.ext ?_
    rw [CodePoint.val_ofNat] <;> omega
  rw [← hc]
  exact hruns start (List.mem_of_find?_eq_some hstart) (c.val - start) (by omega)

theorem isLiteralBlank_eq_false {c : CodePoint} (h : isBlankPoint c = false) :
    isLiteralBlank c = false := by
  rw [isLiteralBlank, h]
  rfl

/-! ### Literals -/

/-- What a sign makes of a number. -/
inductive Signed : Text → Nat → Int → Prop
  | none (m : Nat) : Signed [] m m
  | plus (m : Nat) : Signed [CodePoint.ofChar '+'] m m
  | minus (m : Nat) : Signed [CodePoint.ofChar '-'] m (-m)

/-- A text is a literal of an integer: a sign and the digits of its size, not too many of them,
between blanks. -/
inductive IsInteger (n : Int) : Text → Prop
  | intro {before sign body after : Text} {digits : List Nat}
      (hbefore : ∀ c ∈ before, isLiteralBlank c = true)
      (hsign : Signed sign (Nat.ofDigits 10 digits.reverse) n) (hbody : Spells body digits)
      (hlength : digits.length ≤ maxDigits) (hafter : ∀ c ∈ after, isLiteralBlank c = true) :
      IsInteger n (before ++ (sign ++ body) ++ after)

theorem Signed.ends {sign : Text} {m : Nat} {n : Int} (h : Signed sign m n) :
    ∀ c ∈ sign.head?, isBlankPoint c = false := by
  cases h with
  | none => exact nofun
  | plus => exact fun c hc => Option.some.inj hc ▸ (by decide)
  | minus => exact fun c hc => Option.some.inj hc ▸ (by decide)

/-- Nothing of a literal is taken for blanks but what stands around it. -/
theorem isTrimmed_literal {before sign body after : Text} {digits : List Nat} {m : Nat} {n : Int}
    (hbefore : ∀ c ∈ before, isLiteralBlank c = true) (hsign : Signed sign m n)
    (hbody : Spells body digits) (hafter : ∀ c ∈ after, isLiteralBlank c = true) :
    IsTrimmed isLiteralBlank (before ++ (sign ++ body) ++ after) (sign ++ body) := by
  obtain ⟨hne, hfirst, hlast⟩ := hbody.ends
  refine ⟨⟨before, after, rfl, hbefore, hafter⟩, fun c hc => isLiteralBlank_eq_false ?_,
    fun c hc => isLiteralBlank_eq_false ?_⟩
  · rw [List.head?_append] at hc
    rcases Option.or_eq_some_iff.mp hc with hc | ⟨-, hc⟩
    · exact hsign.ends c hc
    · obtain ⟨d, hd⟩ := hfirst c hc
      exact isBlankPoint_of_decimalValue? hd
  · rw [List.getLast?_append_of_ne_nil _ hne] at hc
    obtain ⟨d, hd⟩ := hlast c hc
    exact isBlankPoint_of_decimalValue? hd

theorem map_cast_eq_some_iff {m? : Option Nat} {f : Int → Int} {n : Int} :
    (m? >>= fun m => pure (m : Int)).map f = some n ↔ ∃ m : Nat, m? = some m ∧ f m = n := by
  cases m? with
  | none => exact iff_of_false (by rintro ⟨⟩) (by rintro ⟨_, ⟨⟩, _⟩)
  | some m =>
    constructor
    · exact fun h => ⟨m, rfl, Option.some.inj h⟩
    · rintro ⟨_, hm, rfl⟩
      rw [Option.some.inj hm]
      rfl

/-- The reader reads literals and nothing else. -/
theorem readInteger?_eq_some_iff {t : Text} {n : Int} :
    readInteger? t = some n ↔ IsInteger n t := by
  unfold readInteger?
  constructor
  · intro h
    have htrim := isTrimmed_trim isLiteralBlank t
    generalize trim isLiteralBlank t = core at h htrim
    obtain ⟨before, after, rfl, hbefore, hafter⟩ := htrim.surrounded
    have hliteral {sign rest : Text} {f : Int → Int} (hsign : ∀ m : Nat, Signed sign m (f m))
        (h : (readNatural? rest >>= fun m => pure (m : Int)).map f = some n) :
        IsInteger n (before ++ (sign ++ rest) ++ after) := by
      obtain ⟨m, hm, rfl⟩ := map_cast_eq_some_iff.mp h
      obtain ⟨digits, hrest, hlength, rfl⟩ := readNatural?_eq_some_iff.mp hm
      exact .intro hbefore (hsign _) hrest hlength hafter
    cases core with
    | nil => cases h
    | cons c rest =>
      dsimp only at h
      split at h
      · rename_i hminus
        exact hminus ▸ hliteral .minus h
      · split at h
        · rename_i hplus
          exact hplus ▸ hliteral .plus h
        · exact hliteral .none h
  · rintro ⟨hbefore, hsign, hbody, hlength, hafter⟩
    rw [(isTrimmed_literal hbefore hsign hbody hafter).trim_eq]
    have hread := readNatural?_eq_some_iff.mpr ⟨_, hbody, hlength, rfl⟩
    cases hsign with
    | none =>
      obtain ⟨hne, hfirst, -⟩ := hbody.ends
      obtain ⟨c, rest, rfl⟩ := List.exists_cons_of_ne_nil hne
      obtain ⟨d, hd⟩ := hfirst c rfl
      -- A digit is no sign.
      have hdigit {other : CodePoint} (hother : decimalValue? other = none) : c ≠ other := by
        rintro rfl
        cases hother.symm.trans hd
      rw [List.nil_append]
      dsimp only
      rw [if_neg (hdigit (by decide)), if_neg (hdigit (by decide))]
      exact map_cast_eq_some_iff.mpr ⟨_, hread, rfl⟩
    | plus =>
      exact map_cast_eq_some_iff.mpr ⟨_, hread, rfl⟩
    | minus =>
      exact map_cast_eq_some_iff.mpr ⟨_, hread, rfl⟩

/-! ### Written integers -/

theorem isAsciiDigit_ofChar {c : Char} (h : c.isDigit = true) :
    isAsciiDigit (CodePoint.ofChar c) = true := by
  simp only [Char.isDigit, ge_iff_le, Bool.and_eq_true, decide_eq_true_eq,
    UInt32.le_iff_toNat_le] at h
  simp only [isAsciiDigit, Bool.and_eq_true, decide_eq_true_eq]
  exact h

theorem spells_decimal (n : Nat) : ∃ digits, Spells (decimal n) digits ∧
    digits.length = (decimal n).length ∧ Nat.ofDigits 10 digits.reverse = n := by
  have hne : decimal n ≠ [] := mt List.map_eq_nil_iff.mp Nat.toDigits_ne_nil
  refine ⟨(Nat.toDigits 10 n).map fun c => c.toNat - '0'.toNat, ⟨[decimal n], ?_⟩, ?_, ?_⟩
  · refine ⟨List.cons_ne_nil _ _, rfl, List.forall_mem_singleton.mpr hne, ?_⟩
    unfold decimal inBase
    rw [List.flatten_singleton, List.map_map, List.map_map]
    refine List.map_congr_left fun c hc => ?_
    have hdigit := Nat.isDigit_of_mem_toDigits (by decide) (by decide) hc
    exact decimalValue?_of_isAsciiDigit (isAsciiDigit_ofChar hdigit)
  · unfold decimal inBase
    rw [List.length_map, List.length_map]
  · rw [← foldl_eq_ofDigits, List.foldl_map]
    have hvalue := Nat.ofDigitChars_ten_toDigits (n := n)
    rw [Nat.ofDigitChars_eq_foldl] at hvalue
    simpa only [Nat.mul_comm] using hvalue

/-- A written integer is a literal of itself. -/
theorem isInteger_signedDecimal {k : Int} (hlength : (decimal k.natAbs).length ≤ maxDigits)
    {before after : Text} (hbefore : ∀ c ∈ before, isLiteralBlank c = true)
    (hafter : ∀ c ∈ after, isLiteralBlank c = true) :
    IsInteger k (before ++ signedDecimal k ++ after) := by
  obtain ⟨digits, hspells, hcount, hvalue⟩ := spells_decimal k.natAbs
  rw [← hcount] at hlength
  cases k with
  | ofNat n =>
    have hsign : Signed [] (Nat.ofDigits 10 digits.reverse) (Int.ofNat n) := hvalue ▸ Signed.none n
    exact .intro hbefore hsign hspells hlength hafter
  | negSucc n =>
    have hsign : Signed [CodePoint.ofChar '-'] (Nat.ofDigits 10 digits.reverse) (Int.negSucc n) :=
      hvalue ▸ Signed.minus (n + 1)
    exact .intro hbefore hsign hspells hlength hafter

end TargetHelp.Text
