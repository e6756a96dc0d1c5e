import TargetHelp.Proofs.Render.Documented
import TargetHelp.Proofs.Text.Plain
import Mathlib.Data.List.Lex

/-!
# The order of texts is that of their bytes

Texts are ordered code point by code point, their encodings byte by byte. Two code points differ
first in a byte that both of them have, and there the smaller code point has the smaller byte. So
the two orders are the same for texts that can be encoded, and comments in the stable order of their
targets are in the stable order of the bytes of their targets.
-/

set_option autoImplicit false
set_option relaxedAutoImplicit false

namespace TargetHelp

theorem Text.lex_iff_not_atMost (s t : Text) :
    List.Lex (fun c d => c.val < d.val) s t ↔ ¬ Text.atMost t s = true := by
  have hpoints : Std.Asymm fun c d : CodePoint => c.val < d.val := ⟨fun _ _ => Nat.lt_asymm⟩
  constructor
  · intro hst hle
    rcases (Text.atMost_iff t s).mp hle with rfl | hts
    · exact Std.Asymm.asymm _ _ hst hst
    · exact Std.Asymm.asymm _ _ hst hts
  · intro h
    have hle : Text.atMost s t = true :=
      ((Bool.or_eq_true _ _).mp (Text.atMost_total s t)).resolve_right h
    exact ((Text.atMost_iff s t).mp hle).resolve_left fun heq => h (heq ▸ Text.atMost_refl s)

namespace Utf8

/-! ### Code points -/

/-- Some bytes come before others in the order of bytes, whatever follows them. -/
def Precede (x y : Bytes) : Prop :=
  ∀ s t : Bytes, List.Lex (fun b c => b.toNat < c.toNat) (x ++ s) (y ++ t)

/-- The first bytes decide, or where they are equal those behind them. -/
theorem precede_cons {n m : Nat} {x y : Bytes} (hm : m < 0x100) (hle : n ≤ m)
    (htail : n = m → Precede x y) : Precede (UInt8.ofNat n :: x) (UInt8.ofNat m :: y) := by
  intro s t
  rcases Nat.lt_or_eq_of_le hle with hlt | rfl
  · refine List.Lex.rel ?_
    rw [UInt8.toNat_ofNat_of_lt' (hlt.trans hm), UInt8.toNat_ofNat_of_lt' hm]
    exact hlt
  · exact List.Lex.cons (htail rfl s t)

section

variable {n m : Nat} (h : n < m)
include h

theorem precede_cons_of_lt {x y : Bytes} (hm : m < 0x100) :
    Precede (UInt8.ofNat n :: x) (UInt8.ofNat m :: y) :=
  precede_cons hm h.le fun heq => absurd heq h.ne

/-- The last byte decides where the bits before its own are the same. -/
theorem precede_last (hsame : n / 0x40 = m / 0x40) :
    Precede [UInt8.ofNat (0x80 + n % 0x40)] [UInt8.ofNat (0x80 + m % 0x40)] :=
  precede_cons_of_lt (by omega) (by omega)

theorem precede_lastTwo (hsame : n / 0x1000 = m / 0x1000) :
    Precede [UInt8.ofNat (0x80 + n / 0x40 % 0x40), UInt8.ofNat (0x80 + n % 0x40)]
      [UInt8.ofNat (0x80 + m / 0x40 % 0x40), UInt8.ofNat (0x80 + m % 0x40)] :=
  precede_cons (by omega) (by omega) fun _ => precede_last h (by omega)

theorem precede_lastThree (hsame : n / 0x40000 = m / 0x40000) :
    Precede
      [UInt8.ofNat (0x80 + n / 0x1000 % 0x40), UInt8.ofNat (0x80 + n / 0x40 % 0x40),
        UInt8.ofNat (0x80 + n % 0x40)]
      [UInt8.ofNat (0x80 + m / 0x1000 % 0x40), UInt8.ofNat (0x80 + m / 0x40 % 0x40),
        UInt8.ofNat (0x80 + m % 0x40)] :=
  precede_cons (by omega) (by omega) fun _ => precede_lastTwo h (by omega)

end

/-- The smaller of two code points has the bytes that come first. -/
theorem precede_encodePoint {c d : CodePoint} (h : c.val < d.val) :
    Precede (encodePoint c) (encodePoint d) := by
  have hd : d.val < 0x110000 := d.isLt
  unfold encodePoint
  dsimp only
  -- Where the lengths differ, so do the first bytes. Where they are the same, the first byte holds
  -- what is left of the number before the bits of the others.
  by_cases hone : c.val < 0x80
  · rw [if_pos hone]
    split_ifs <;> exact precede_cons_of_lt (by omega) (by omega)
  · rw [if_neg hone, if_neg (by omega : ¬ d.val < 0x80)]
    by_cases htwo : c.val < 0x800
    · rw [if_pos htwo]
      split_ifs
      · exact precede_cons (by omega) (by omega) fun _ => precede_last h (by omega)
      · exact precede_cons_of_lt (by omega) (by omega)
      · exact precede_cons_of_lt (by omega) (by omega)
    · rw [if_neg htwo, if_neg (by omega : ¬ d.val < 0x800)]
      by_cases hthree : c.val < 0x10000
      · rw [if_pos hthree]
        split_ifs
        · exact precede_cons (by omega) (by omega) fun _ => precede_lastTwo h (by omega)
        · exact precede_cons_of_lt (by omega) (by omega)
      · rw [if_neg hthree, if_neg (by omega : ¬ d.val < 0x10000)]
        exact precede_cons (by omega) (by omega) fun _ => precede_lastThree h (by omega)

/-! ### Texts -/

theorem lex_flatMap_encodePoint {s t : Text} (h : List.Lex (fun c d => c.val < d.val) s t) :
    List.Lex (fun b c => b.toNat < c.toNat) (s.flatMap encodePoint) (t.flatMap encodePoint) := by
  induction h with
  | @nil c t =>
    rw [List.flatMap_cons]
    unfold encodePoint
    dsimp only
    split_ifs <;> exact List.Lex.nil
  | @cons c s t _ ih =>
    rw [List.flatMap_cons, List.flatMap_cons]
    exact List.Lex.append_left _ ih _
  | rel hlt =>
    rw [List.flatMap_cons, List.flatMap_cons]
    exact precede_encodePoint hlt _ _

/-- Bytes are ordered as the texts are that they encode. -/
theorem lex_flatMap_encodePoint_iff (s t : Text) :
    List.Lex (fun b c => b.toNat < c.toNat) (s.flatMap encodePoint) (t.flatMap encodePoint) ↔
      List.Lex (fun c d => c.val < d.val) s t := by
  have hbytes : Std.Asymm fun b c : UInt8 => b.toNat < c.toNat := ⟨fun _ _ => Nat.lt_asymm⟩
  refine ⟨fun h => (Text.lex_iff_not_atMost s t).mpr fun hle => ?_, lex_flatMap_encodePoint⟩
  rcases (Text.atMost_iff t s).mp hle with rfl | hts
  · exact Std.Asymm.asymm _ _ h h
  · exact Std.Asymm.asymm _ _ h (lex_flatMap_encodePoint hts)

theorem atMost_iff_not_lex (s t : Text) :
    Text.atMost s t = true ↔
      ¬ List.Lex (fun b c => b.toNat < c.toNat) (t.flatMap encodePoint)
        (s.flatMap encodePoint) := by
  rw [lex_flatMap_encodePoint_iff, Text.lex_iff_not_atMost, not_not]

theorem flatMap_encodePoint_inj {s t : Text} :
    s.flatMap encodePoint = t.flatMap encodePoint ↔ s = t := by
  refine ⟨fun h => ?_, fun h => h ▸ rfl⟩
  have hself := (atMost_iff_not_lex s s).mp (Text.atMost_refl s)
  refine Text.atMost_antisymm ((atMost_iff_not_lex s t).mpr ?_) ((atMost_iff_not_lex t s).mpr ?_)
  · rw [← h]
    exact hself
  · rw [← h]
    exact hself

theorem encode_of_plain {t : Text} (h : t.Plain) : encode t = .ok (t.flatMap encodePoint) := by
  unfold encode
  rw [h.surrogates?]

end Utf8

/-! ### Comments -/

/-- Some values in the order of their keys, and those of one key in the order in which they were
given. -/
structure StablySorted {α κ : Type} [DecidableEq κ] (before : κ → κ → Prop) (key : α → κ)
    (given sorted : List α) : Prop where
  perm : sorted.Perm given
  ascending : sorted.Pairwise fun x y => ¬ before (key y) (key x)
  stable : ∀ k, (sorted.filter fun x => key x = k) = given.filter fun x => key x = k

namespace Comment

/-- The comments whose targets have certain bytes are those of one target. -/
theorem filter_bytes (t : Text) (comments : List Comment) :
    (comments.filter fun c => c.target.flatMap Utf8.encodePoint = t.flatMap Utf8.encodePoint) =
      ofTarget t comments :=
  List.filter_congr fun _ _ => decide_eq_decide.mpr Utf8.flatMap_encodePoint_inj

/-- Sorting by target leaves the comments in the stable order of the bytes of their targets, which
is the only list in that order. -/
theorem stablySorted_bytes_iff (comments ordered : List Comment) :
    StablySorted (List.Lex fun b c : UInt8 => b.toNat < c.toNat)
        (fun c => c.target.flatMap Utf8.encodePoint) comments ordered ↔
      ordered = sorted comments := by
  constructor
  · intro h
    have hascending : Ascending ordered :=
      h.ascending.imp fun {c d} hcd => (Utf8.atMost_iff_not_lex c.target d.target).mpr hcd
    refine hascending.eq_of_ofTarget (ascending_sorted comments) fun t => ?_
    rw [← filter_bytes, h.stable, filter_bytes, ofTarget_sorted]
  · rintro rfl
    have hascending := (ascending_sorted comments).imp fun {c d} hcd =>
      (Utf8.atMost_iff_not_lex c.target d.target).mp hcd
    refine ⟨List.mergeSort_perm _ _, hascending, fun k => ?_⟩
    by_cases hk : ∃ t : Text, t.flatMap Utf8.encodePoint = k
    · obtain ⟨t, rfl⟩ := hk
      rw [filter_bytes, filter_bytes, ofTarget_sorted]
    · have hnone (cs : List Comment) :
          (cs.filter fun c => c.target.flatMap Utf8.encodePoint = k) = [] :=
        List.filter_eq_nil_iff.mpr fun c _ hc => hk ⟨c.target, of_decide_eq_true hc⟩
      rw [hnone, hnone]

/-- The order of code points is the order of bytes: for any two texts without surrogates, and so
also for comments, whose order by target is the stable order by the bytes of their targets. -/
theorem sorted_by_bytes {comments : List Comment} (h : ∀ c ∈ comments, c.target.Plain) :
    (∀ s t : Text, s.Plain → t.Plain → ∃ x y : Bytes,
      Utf8.encode s = .ok x ∧ Utf8.encode t = .ok y ∧
        (List.Lex (fun c d => c.val < d.val) s t ↔
          List.Lex (fun b c => b.toNat < c.toNat) x y)) ∧
      ∃ bytes : Comment → Bytes, (∀ c ∈ comments, Utf8.encode c.target = .ok (bytes c)) ∧
        ∀ ordered, StablySorted (List.Lex fun b c : UInt8 => b.toNat < c.toNat) bytes comments
          ordered ↔ ordered = sorted comments :=
  ⟨fun s t hs ht => ⟨_, _, Utf8.encode_of_plain hs, Utf8.encode_of_plain ht,
      (Utf8.lex_flatMap_encodePoint_iff s t).symm⟩,
    _, fun c hc => Utf8.encode_of_plain (h c hc), stablySorted_bytes_iff comments⟩

/-- Targets at the boundaries between the lengths of encodings, and one that another begins with. -/
theorem sorted_by_bytes_boundaries :
    let comments : List Comment := [⟨"𐀀", "4 bytes"⟩, ⟨"\u07ff", "2 bytes"⟩, ⟨"\uffff", "3 bytes"⟩,
      ⟨"\u007f\u0080", "1 byte and 2"⟩, ⟨"\u007f", "1 byte"⟩, ⟨"\u07ff", "again 2 bytes"⟩]
    (∀ c ∈ comments, c.target.Plain) ∧
      List.Lex (fun b c : UInt8 => b.toNat < c.toNat) [0xEF, 0xBF, 0xBF] [0xF0, 0x90, 0x80, 0x80] ∧
      ∃ bytes : Comment → Bytes, (∀ c ∈ comments, Utf8.encode c.target = .ok (bytes c)) ∧
        StablySorted (List.Lex fun b c : UInt8 => b.toNat < c.toNat) bytes comments
          (sorted comments) := by
  intro comments
  have hplain : ∀ c ∈ comments, c.target.Plain := by decide
  obtain ⟨horder, bytes, hbytes, hsorted⟩ := sorted_by_bytes hplain
  refine ⟨hplain, ?_, bytes, hbytes, (hsorted _).mpr rfl⟩
  obtain ⟨x, y, hx, hy, hiff⟩ := horder "\uffff" "𐀀" (by decide) (by decide)
  obtain rfl : [0xEF, 0xBF, 0xBF] = x := Except.ok.inj hx
  obtain rfl : [0xF0, 0x90, 0x80, 0x80] = y := Except.ok.inj hy
  exact hiff.mp (List.Lex.rel (by decide))

end Comment

end TargetHelp
