import TargetHelp.Json.Use
import Mathlib.Tactic.Ring

/-!
# Equal values are interchangeable

Values that can be looked up by are equal to the same others if they are equal to one another:
texts and null are equal to themselves alone, and numbers to those of the same amount, whose
quotients have positive denominators. A value that is equal to any is equal to itself, so it is
found again once it has been kept.
-/

set_option autoImplicit false
set_option relaxedAutoImplicit false

namespace TargetHelp

namespace Amount

/-- A quotient has a positive denominator. -/
def Proper : Amount → Prop
  | quotient _ den => 0 < den
  | _ => True

theorem proper_ofBinary (x : Binary64) : (ofBinary x).Proper := by
  cases x with
  | nan => trivial
  | infinite negative => trivial
  | finite negative mantissa exponent =>
    change 0 < (Binary64.ratio mantissa 2 exponent).2
    unfold Binary64.ratio
    split
    · exact Nat.pow_pos (by decide)
    · exact Nat.one_pos

theorem same_self {x y : Amount} (h : x.same y = true) : y.same y = true := by
  cases x <;> cases y <;> first | cases h | exact beq_self_eq_true _

theorem mul_eq_mul_congr {num num' den den' : Int} (hden : den ≠ 0) (hden' : den' ≠ 0)
    (h : num * den' = num' * den) (k d : Int) : k * den = num * d ↔ k * den' = num' * d := by
  constructor
  · intro hk
    refine mul_right_cancel₀ hden ?_
    calc k * den' * den = k * den * den' := by ring
      _ = num * den' * d := by rw [hk]; ring
      _ = num' * d * den := by rw [h]; ring
  · intro hk
    refine mul_right_cancel₀ hden' ?_
    calc k * den * den' = k * den' * den := by ring
      _ = num' * den * d := by rw [hk]; ring
      _ = num * d * den' := by rw [← h]; ring

/-- Equal amounts are equal to the same others. -/
theorem same_congr {x y : Amount} (hx : x.Proper) (hy : y.Proper) (h : x.same y = true)
    (z : Amount) : z.same x = z.same y := by
  match x, y, h with
  | infinite negative, infinite other, h =>
    obtain rfl : negative = other := eq_of_beq h
    rfl
  | quotient num den, quotient num' den', h =>
    cases z with
    | none => rfl
    | infinite negative => rfl
    | quotient k d =>
      have hden : (den : Int) ≠ 0 := Int.natCast_ne_zero.mpr (Nat.ne_of_gt hx)
      have hden' : (den' : Int) ≠ 0 := Int.natCast_ne_zero.mpr (Nat.ne_of_gt hy)
      refine Bool.eq_iff_iff.mpr ?_
      simp only [same, beq_iff_eq]
      exact mul_eq_mul_congr hden hden' (eq_of_beq h) k d

end Amount

namespace Json

theorem proper_of_amount? {a : Json} {x : Amount} (h : a.amount? = some x) : x.Proper := by
  cases a with
  | bool b =>
    obtain rfl := Option.some.inj h
    exact Nat.one_pos
  | int n =>
    obtain rfl := Option.some.inj h
    exact Nat.one_pos
  | float x =>
    obtain rfl := Option.some.inj h
    exact Amount.proper_ofBinary x
  | _ => cases h

/-- A value that can be looked up by is null, a text or a number. -/
theorem sort_of_checkKey {b : Json} (h : b.checkKey = .ok ()) :
    b = null ∨ (∃ t, b = str t) ∨ ∃ y, b.amount? = some y := by
  cases b with
  | null => exact Or.inl rfl
  | str t => exact Or.inr (Or.inl ⟨t, rfl⟩)
  | arr items => cases h
  | obj fields => cases h
  | _ => exact Or.inr (Or.inr ⟨_, rfl⟩)

theorem same_null (a : Json) : same a null = true ↔ a = null := by
  cases a <;> simp [same, amount?, integer?]

theorem same_str_iff (a : Json) (t : Text) : same a (str t) = true ↔ a = str t := by
  cases a <;> simp [same, amount?, integer?]

/-- A number is equal to the numbers of the same amount. -/
theorem same_of_amount? (a : Json) {b : Json} {y : Amount} (hb : b.amount? = some y) :
    same a b = (a.amount?.map fun x => x.same y).getD false := by
  cases b with
  | bool b =>
    obtain rfl := Option.some.inj hb
    cases a <;> simp [same, amount?, integer?]
  | int n =>
    obtain rfl := Option.some.inj hb
    cases a <;> simp [same, amount?, integer?]
  | float x =>
    obtain rfl := Option.some.inj hb
    cases a <;> simp [same, amount?, integer?]
  | _ => cases hb

theorem exists_amount_of_same {a b : Json} {y : Amount} (hb : b.amount? = some y)
    (h : same a b = true) : ∃ x, a.amount? = some x ∧ x.same y = true := by
  rw [same_of_amount? a hb] at h
  cases ha : a.amount? with
  | none =>
    rw [ha] at h
    cases h
  | some x =>
    rw [ha] at h
    exact ⟨x, rfl, h⟩

/-- Equal values are equal to the same others, if they can be looked up by. -/
theorem same_congr {a b : Json} (hb : b.checkKey = .ok ()) (h : same a b = true) (c : Json) :
    same c a = same c b := by
  obtain rfl | ⟨t, rfl⟩ | ⟨y, hy⟩ := sort_of_checkKey hb
  · rw [(same_null a).mp h]
  · rw [(same_str_iff a t).mp h]
  · obtain ⟨x, hx, hxy⟩ := exists_amount_of_same hy h
    rw [same_of_amount? c hx, same_of_amount? c hy]
    cases c.amount? with
    | none => rfl
    | some z => exact Amount.same_congr (proper_of_amount? hx) (proper_of_amount? hy) hxy z

theorem same_self_of_same {a b : Json} (hb : b.checkKey = .ok ()) (h : same a b = true) :
    same b b = true := by
  obtain rfl | ⟨t, rfl⟩ | ⟨y, hy⟩ := sort_of_checkKey hb
  · exact (same_null null).mpr rfl
  · exact (same_str_iff (str t) t).mpr rfl
  · obtain ⟨x, -, hxy⟩ := exists_amount_of_same hy h
    rw [same_of_amount? b hy, hy]
    exact Amount.same_self hxy

/-- What is equal to a value that can be looked up by can be looked up by. -/
theorem checkKey_of_same {a b : Json} (hb : b.checkKey = .ok ()) (h : same a b = true) :
    a.checkKey = .ok () := by
  obtain rfl | ⟨t, rfl⟩ | ⟨y, hy⟩ := sort_of_checkKey hb
  · rw [(same_null a).mp h]
    rfl
  · rw [(same_str_iff a t).mp h]
    rfl
  · obtain ⟨x, hx, -⟩ := exists_amount_of_same hy h
    cases a <;> first | rfl | cases hx

/-- A value that is equal to itself and can be looked up by is equal both ways. -/
theorem same_comm_of_same {a b : Json} (hb : b.checkKey = .ok ()) (h : same a b = true) :
    same b a = true :=
  (same_congr hb h b).trans (same_self_of_same hb h)

/-- Among values no two of which are equal, a value is equal to at most one. -/
theorem countP_same_le_one {values : List Json} (hkeys : ∀ b ∈ values, b.checkKey = .ok ())
    (hdistinct : values.Pairwise fun earlier later => same later earlier = false) (a : Json) :
    values.countP (same a) ≤ 1 := by
  induction values with
  | nil => exact Nat.zero_le 1
  | cons b values ih =>
    obtain ⟨hb, hrest⟩ := List.forall_mem_cons.mp hkeys
    obtain ⟨hfirst, hpairs⟩ := List.pairwise_cons.mp hdistinct
    cases hab : same a b with
    | false =>
      rw [List.countP_cons_of_neg (by rw [hab]; exact Bool.false_ne_true)]
      exact ih hrest hpairs
    | true =>
      have hnone : values.countP (same a) = 0 := by
        refine List.countP_eq_zero.mpr fun c hc hac => ?_
        have hcb : same c b = true := by
          rw [← same_congr hb hab]
          exact same_comm_of_same (hrest c hc) hac
        exact Bool.false_ne_true ((hfirst c hc).symm.trans hcb)
      rw [List.countP_cons_of_pos hab, hnone]

end Json

end TargetHelp
