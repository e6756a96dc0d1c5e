/-!
# Texts

A text is a list of code points. Surrogates are code points like any other: a text read from
escapes may hold a lone one, and only the strict encoding of `Text.Utf8` refuses it. Lengths,
widths and positions count code points, and texts are ordered code point by code point, a
proper beginning first.
-/

set_option autoImplicit false
set_option relaxedAutoImplicit false

namespace TargetHelp

/-- A code point, surrogates included. -/
abbrev CodePoint := Fin 0x110000

namespace CodePoint

def ofChar (c : Char) : CodePoint :=
  ⟨c.toNat, by
    have h := c.valid
    simp only [UInt32.isValidChar, Nat.isValidChar] at h
    show c.val.toNat < 0x110000
    omega⟩

instance : Coe Char CodePoint := ⟨ofChar⟩

def IsHighSurrogate (c : CodePoint) : Prop := 0xD800 ≤ c.val ∧ c.val < 0xDC00

def IsLowSurrogate (c : CodePoint) : Prop := 0xDC00 ≤ c.val ∧ c.val < 0xE000

def IsSurrogate (c : CodePoint) : Prop := 0xD800 ≤ c.val ∧ c.val < 0xE000

instance (c : CodePoint) : Decidable c.IsHighSurrogate := inferInstanceAs (Decidable (_ ∧ _))

instance (c : CodePoint) : Decidable c.IsLowSurrogate := inferInstanceAs (Decidable (_ ∧ _))

instance (c : CodePoint) : Decidable c.IsSurrogate := inferInstanceAs (Decidable (_ ∧ _))

/-- The code point with number `n`, or the last one if there is none. -/
def ofNat (n : Nat) : CodePoint := ⟨min n 0x10FFFF, by omega⟩

theorem val_ofNat {n : Nat} (h : n < 0x110000) : (ofNat n).val = n := by
  simp only [ofNat]
  omega

theorem isSurrogate_iff (c : CodePoint) :
    c.IsSurrogate ↔ c.IsHighSurrogate ∨ c.IsLowSurrogate := by
  simp only [IsSurrogate, IsHighSurrogate, IsLowSurrogate]
  omega

end CodePoint

/-- A text, as its code points. -/
abbrev Text := List CodePoint

namespace Text

def ofString (s : String) : Text := s.toList.map CodePoint.ofChar

instance : Coe String Text := ⟨ofString⟩

/-- The line feed, the only line end a layout writes. -/
def lineFeed : CodePoint := '\n'

def carriageReturn : CodePoint := '\r'

def space : CodePoint := ' '

/-- `t` up to the first `sep` and, if there is one, what follows it. -/
def splitFirst (sep : CodePoint) : Text → Text × Option Text
  | [] => ([], none)
  | c :: t =>
    if c = sep then ([], some t)
    else
      let (front, back) := splitFirst sep t
      (c :: front, back)

/-- The pieces of a text between the occurrences of `sep`; always at least one piece. -/
def splitAll (sep : CodePoint) : Text → List Text
  | [] => [[]]
  | c :: t =>
    if c = sep then [] :: splitAll sep t
    else
      match splitAll sep t with
      | [] => [[c]]
      | piece :: pieces => (c :: piece) :: pieces

/-- The texts in order with `sep` between neighbours. -/
def join (sep : Text) : List Text → Text
  | [] => []
  | [t] => t
  | t :: ts => t ++ sep ++ join sep ts

/-- `t` followed by as many spaces as it is shorter than `width`. -/
def padRight (width : Nat) (t : Text) : Text :=
  t ++ List.replicate (width - t.length) space

/-- Every occurrence of the code point `old` replaced by the text `new`. -/
def replaceEach (old : CodePoint) (new : Text) (t : Text) : Text :=
  t.flatMap fun c => if c = old then new else [c]

def startsWith (front t : Text) : Bool := front.isPrefixOf t

/-- Whether `s` comes no later than `t` in the order of texts. -/
def atMost : Text → Text → Bool
  | [], _ => true
  | _ :: _, [] => false
  | c :: s, d :: t => c.val < d.val || (c.val == d.val && atMost s t)

/-- The texts sorted by code point order, each kept once. -/
def sortedDistinct (ts : List Text) : List Text :=
  ts.eraseDups.mergeSort atMost

/-! ### Splitting and joining -/

theorem splitAll_ne_nil (sep : CodePoint) (t : Text) : splitAll sep t ≠ [] := by
  cases t with
  | nil => simp [splitAll]
  | cons c t =>
    simp only [splitAll]
    split
    · simp
    · split <;> simp

theorem splitAll_cons_sep (sep : CodePoint) (t : Text) :
    splitAll sep (sep :: t) = [] :: splitAll sep t := by
  simp [splitAll]

theorem join_cons {sep t : Text} {ts : List Text} (h : ts ≠ []) :
    join sep (t :: ts) = t ++ sep ++ join sep ts := by
  cases ts with
  | nil => exact absurd rfl h
  | cons u us => rfl

/-- Joining the pieces with the separator gives the text back. -/
theorem join_splitAll (sep : CodePoint) (t : Text) : join [sep] (splitAll sep t) = t := by
  induction t with
  | nil => rfl
  | cons c t ih =>
    by_cases h : c = sep
    · subst h
      rw [splitAll_cons_sep, join_cons (splitAll_ne_nil c t), ih]
      rfl
    · cases hs : splitAll sep t with
      | nil => exact absurd hs (splitAll_ne_nil sep t)
      | cons piece pieces =>
        rw [hs] at ih
        simp only [splitAll, if_neg h, hs]
        cases pieces with
        | nil => simp only [join] at ih ⊢; rw [ih]
        | cons next rest =>
          rw [join_cons (List.cons_ne_nil _ _)] at ih ⊢
          rw [List.cons_append, List.cons_append, ih]

/-! ### The order of texts -/

theorem atMost_refl (t : Text) : atMost t t = true := by
  induction t with
  | nil => rfl
  | cons c t ih => simp [atMost, ih]

theorem atMost_total (s t : Text) : (atMost s t || atMost t s) = true := by
  induction s generalizing t with
  | nil => simp [atMost]
  | cons c s ih =>
    cases t with
    | nil => simp [atMost]
    | cons d t =>
      have h := ih t
      simp only [atMost, Bool.or_eq_true, Bool.and_eq_true, decide_eq_true_eq, beq_iff_eq] at h ⊢
      rcases Nat.lt_trichotomy c.val d.val with hlt | heq | hgt
      · exact Or.inl (Or.inl hlt)
      · rcases h with h | h
        · exact Or.inl (Or.inr ⟨heq, h⟩)
        · exact Or.inr (Or.inr ⟨heq.symm, h⟩)
      · exact Or.inr (Or.inl hgt)

theorem atMost_trans {s t u : Text} (hst : atMost s t = true) (htu : atMost t u = true) :
    atMost s u = true := by
  induction s generalizing t u with
  | nil => simp [atMost]
  | cons c s ih =>
    match t, u with
    | [], _ => simp [atMost] at hst
    | _ :: _, [] => simp [atMost] at htu
    | d :: t, e :: u =>
      simp only [atMost, Bool.or_eq_true, Bool.and_eq_true, decide_eq_true_eq,
        beq_iff_eq] at hst htu ⊢
      rcases hst with hst | ⟨hcd, hst⟩
      · rcases htu with htu | ⟨hde, -⟩ <;> left <;> omega
      · rcases htu with htu | ⟨hde, htu⟩
        · left; omega
        · exact Or.inr ⟨hcd.trans hde, ih hst htu⟩

theorem atMost_antisymm {s t : Text} (hst : atMost s t = true) (hts : atMost t s = true) :
    s = t := by
  induction s generalizing t with
  | nil =>
    cases t with
    | nil => rfl
    | cons d t => simp [atMost] at hts
  | cons c s ih =>
    cases t with
    | nil => simp [atMost] at hst
    | cons d t =>
      simp only [atMost, Bool.or_eq_true, Bool.and_eq_true, decide_eq_true_eq,
        beq_iff_eq] at hst hts
      rcases hst with hst | ⟨hcd, hst⟩
      · omega
      · rcases hts with hts | ⟨-, hts⟩
        · omega
        · rw [Fin.ext hcd, ih hst hts]

end Text

end TargetHelp
