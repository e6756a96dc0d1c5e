import TargetHelp.Proofs.Json.Digits
import TargetHelp.Proofs.Text.Plain

/-!
# No pair of surrogates is read

An escaped high surrogate joins an escaped low one, and a text without surrogates of its own has no
other way to one. So wherever the reader stands, no high surrogate is right in front of a low one
in the string it is reading: while a high one might still join, it waits outside of what has been
read, and an escaped low one that finds it waiting takes it along. `State.Unpaired` says so of the
state, with the strings in open containers, and `unpaired_of_read` of the value of a whole text.
-/

set_option autoImplicit false
set_option relaxedAutoImplicit false

namespace TargetHelp

namespace Text

/-! ### Texts read backwards -/

theorem unpaired_reverse_cons {c : CodePoint} {read : Text} :
    Text.Unpaired (c :: read).reverse ↔
      (∀ d ∈ read.head?, d.IsHighSurrogate → ¬ c.IsLowSurrogate) ∧
      Text.Unpaired read.reverse := by
  unfold Text.Unpaired
  rw [List.isChain_reverse, List.isChain_reverse, List.isChain_cons]

/-- What has been read, last first, has no pair and pairs with nothing that may follow. -/
def Settled (read : Text) : Prop :=
  Text.Unpaired read.reverse ∧ ∀ c ∈ read.head?, ¬ c.IsHighSurrogate

theorem settled_nil : Settled [] := by
  constructor
  · exact .nil
  · intro c hc
    cases hc

theorem settled_cons {c : CodePoint} {read : Text} (hc : ¬ c.IsSurrogate)
    (hread : Text.Unpaired read.reverse) : Settled (c :: read) := by
  rw [CodePoint.isSurrogate_iff, not_or] at hc
  constructor
  · rw [unpaired_reverse_cons]
    exact ⟨fun _ _ _ => hc.2, hread⟩
  · intro d hd
    obtain rfl : c = d := Option.some.inj hd
    exact hc.1

theorem Settled.cons {read : Text} (h : Settled read) (c : CodePoint) :
    Text.Unpaired (c :: read).reverse := by
  rw [unpaired_reverse_cons]
  exact ⟨fun d hd hhigh => absurd hhigh (h.2 d hd), h.1⟩

end Text

namespace Json

/-! ### What holds no pair -/

/-- No text in a value, keys included, has a high surrogate right in front of a low one. -/
inductive Unpaired : Json → Prop where
  | null : Unpaired .null
  | bool (value : Bool) : Unpaired (.bool value)
  | int (value : Int) : Unpaired (.int value)
  | float (value : Binary64) : Unpaired (.float value)
  | str {value : Text} (h : value.Unpaired) : Unpaired (.str value)
  | arr {items : List Json} (h : ∀ item ∈ items, Unpaired item) : Unpaired (.arr items)
  | obj {fields : Fields Json} (hkeys : ∀ field ∈ fields, field.1.Unpaired)
    (hvalues : ∀ field ∈ fields, Unpaired field.2) : Unpaired (.obj fields)

theorem unpaired_set {fields : Fields Json} (h : Unpaired (.obj fields)) {key : Text}
    (hkey : key.Unpaired) {value : Json} (hvalue : value.Unpaired) :
    Unpaired (.obj (fields.set key value)) := by
  obtain ⟨hkeys, hvalues⟩ : (∀ field ∈ fields, field.1.Unpaired) ∧
      ∀ field ∈ fields, Unpaired field.2 := by
    cases h with
    | obj hkeys hvalues => exact ⟨hkeys, hvalues⟩
  have hmem : ∀ field ∈ fields.set key value, field.1.Unpaired ∧ Unpaired field.2 := by
    clear h
    induction fields with
    | nil =>
      intro field hfield
      obtain rfl : field = (key, value) := List.mem_singleton.mp hfield
      exact ⟨hkey, hvalue⟩
    | cons first rest ih =>
      rw [List.forall_mem_cons] at hkeys hvalues
      intro field hfield
      unfold Fields.set at hfield
      split_ifs at hfield with heq
      · rcases List.mem_cons.mp hfield with rfl | hrest
        · exact ⟨hkeys.1, hvalue⟩
        · exact ⟨hkeys.2 field hrest, hvalues.2 field hrest⟩
      · rcases List.mem_cons.mp hfield with rfl | hrest
        · exact ⟨hkeys.1, hvalues.1⟩
        · exact ih hkeys.2 hvalues.2 field hrest
  exact .obj (fun field hfield => (hmem field hfield).1) fun field hfield => (hmem field hfield).2

theorem unpaired_obj_nil : Unpaired (.obj []) :=
  .obj (List.forall_mem_nil _) (List.forall_mem_nil _)

/-- What an open container already holds. -/
def Frame.Unpaired : Frame → Prop
  | .array items => ∀ item ∈ items, item.Unpaired
  | .object fields key => Json.Unpaired (.obj fields) ∧ key.Unpaired

def Unpaireds (stack : List Frame) : Prop := ∀ frame ∈ stack, frame.Unpaired

def Role.Unpaired : Role → Prop
  | .value stack => Unpaireds stack
  | .key stack fields => Unpaireds stack ∧ Json.Unpaired (.obj fields)

/-- Of a string only its last code point may still pair with the next one, and only where the
reader is past it or holds it back. -/
def StringState.Unpaired (read : Text) : StringState → Prop
  | .plain | .afterBackslash none | .digits none _ _ => Text.Settled read
  | .afterBackslash (some h) | .digits (some h) _ _ => Text.Unpaired (h :: read).reverse
  | .escaped c => Text.Unpaired (c :: read).reverse

def State.Unpaired : State → Prop
  | .start | .failed _ => True
  | .value stack _ | .number stack _ _ => Unpaireds stack
  | .key stack fields _ => Unpaireds stack ∧ Json.Unpaired (.obj fields)
  | .colon stack fields name => Unpaireds stack ∧ Json.Unpaired (.obj fields) ∧ name.Unpaired
  | .after stack v | .word stack _ v => Unpaireds stack ∧ v.Unpaired
  | .string role read place => role.Unpaired ∧ place.Unpaired read

/-! ### Complete values -/

theorem unpaired_stepAfter {stack : List Frame} (hstack : Unpaireds stack) {value : Json}
    (hvalue : value.Unpaired) (c : CodePoint) : (stepAfter stack value c).Unpaired := by
  unfold stepAfter
  by_cases hspace : isSpace c = true
  · rw [if_pos hspace]
    exact ⟨hstack, hvalue⟩
  · rw [if_neg hspace]
    cases stack with
    | nil => trivial
    | cons frame outer =>
      obtain ⟨hframe, houter⟩ := List.forall_mem_cons.mp hstack
      cases frame with
      | array items =>
        have hitems : ∀ item ∈ value :: items, item.Unpaired :=
          List.forall_mem_cons.mpr ⟨hvalue, hframe⟩
        dsimp only
        split_ifs
        · exact List.forall_mem_cons.mpr ⟨hitems, houter⟩
        · exact ⟨houter, .arr fun item hitem => hitems item (List.mem_reverse.mp hitem)⟩
        · trivial
      | object fields key =>
        have hfields := unpaired_set hframe.1 hframe.2 hvalue
        dsimp only
        split_ifs
        · exact ⟨houter, hfields⟩
        · exact ⟨houter, hfields⟩
        · trivial

theorem unpaired_of_value {n : Numeral} {isInteger : Bool} {value : Json}
    (h : n.value isInteger = .ok value) : value.Unpaired := by
  unfold Numeral.value at h
  split_ifs at h
  · obtain rfl := Except.ok.inj h
    exact .int _
  · obtain rfl := Except.ok.inj h
    exact .float _

theorem unpaired_endNumber {stack : List Frame} (hstack : Unpaireds stack) (place : NumberState)
    (n : Numeral) (next : CodePoint) : (endNumber stack place n next).Unpaired := by
  rcases endNumber_cases stack place n next with
    hend | ⟨isInteger, error, -, hend⟩ | ⟨isInteger, value, c, hvalue, hend⟩
  · rw [hend]
    trivial
  · rw [hend]
    trivial
  · rw [hend]
    exact unpaired_stepAfter hstack (unpaired_of_value hvalue) c

/-! ### Strings -/

theorem Role.unpaired_close {role : Role} (hrole : role.Unpaired) {read : Text}
    (hread : Text.Unpaired read.reverse) : (role.close read).Unpaired := by
  cases role with
  | value stack => exact ⟨hrole, .str hread⟩
  | key stack fields => exact ⟨hrole.1, hrole.2, hread⟩

theorem unpaired_stepPlain {role : Role} (hrole : role.Unpaired) {read : Text}
    (hread : Text.Settled read) {c : CodePoint} (hc : ¬ c.IsSurrogate) :
    (stepPlain role read c).Unpaired := by
  unfold stepPlain
  split_ifs
  · exact Role.unpaired_close hrole hread.1
  · exact ⟨hrole, hread⟩
  · trivial
  · exact ⟨hrole, Text.settled_cons hc hread.1⟩

theorem not_isSurrogate_of_simpleEscape? {c e : CodePoint} (h : simpleEscape? c = some e) :
    ¬ e.IsSurrogate := by
  unfold simpleEscape? at h
  split_ifs at h with hquote hback hslash
  all_goals obtain rfl := Option.some.inj h
  · rw [hquote]
    decide
  · rw [hback]
    decide
  · rw [hslash]
    decide
  all_goals decide

/-- Two surrogates that join are a code point beyond all of them. -/
theorem not_isSurrogate_joinSurrogates (high low : CodePoint) :
    ¬ (joinSurrogates high low).IsSurrogate := by
  unfold joinSurrogates CodePoint.ofNat CodePoint.IsSurrogate
  dsimp only
  omega

theorem unpaired_completeEscape {role : Role} (hrole : role.Unpaired) {read : Text}
    {high : Option CodePoint} {value count : Nat}
    (hread : StringState.Unpaired read (.digits high value count)) (c : CodePoint) :
    (completeEscape role read high c).Unpaired := by
  cases high with
  | none =>
    have hsettled : Text.Settled read := hread
    exact ⟨hrole, hsettled.cons c⟩
  | some h =>
    have hwaiting : Text.Unpaired (h :: read).reverse := hread
    unfold completeEscape
    dsimp only
    by_cases hlow : c.IsLowSurrogate
    · rw [if_pos hlow]
      have hrest := (Text.unpaired_reverse_cons.mp hwaiting).2
      exact ⟨hrole, (Text.settled_cons (not_isSurrogate_joinSurrogates h c) hrest).1⟩
    · rw [if_neg hlow]
      exact ⟨hrole, Text.unpaired_reverse_cons.mpr ⟨fun _ _ _ => hlow, hwaiting⟩⟩

theorem unpaired_stepString {role : Role} (hrole : role.Unpaired) {read : Text}
    {place : StringState} (hread : place.Unpaired read) {c : CodePoint} (hc : ¬ c.IsSurrogate) :
    (stepString role read place c).Unpaired := by
  unfold stepString
  cases place with
  | plain => exact unpaired_stepPlain hrole hread hc
  | afterBackslash high =>
    have hflush : Text.Unpaired (flush high read).reverse := by
      cases high with
      | none => exact hread.1
      | some h => exact hread
    dsimp only
    split_ifs
    · cases high with
      | none => exact ⟨hrole, hread⟩
      | some h => exact ⟨hrole, hread⟩
    · cases he : simpleEscape? c with
      | none => trivial
      | some e =>
        exact ⟨hrole, Text.settled_cons (not_isSurrogate_of_simpleEscape? he) hflush⟩
  | digits high value count =>
    dsimp only
    cases hexValue? c with
    | none => trivial
    | some d =>
      dsimp only
      split_ifs
      · exact unpaired_completeEscape hrole hread _
      · cases high with
        | none => exact ⟨hrole, hread⟩
        | some h => exact ⟨hrole, hread⟩
  | escaped e =>
    dsimp only
    by_cases hwaits : e.IsHighSurrogate ∧ c = '\x5c'
    · rw [if_pos hwaits]
      exact ⟨hrole, hread⟩
    · rw [if_neg hwaits]
      -- Behind `e` comes the closing mark, a backslash or a code point of the text itself, and a
      -- backslash only if `e` is not high.
      unfold stepPlain
      split_ifs with _ hback
      · exact Role.unpaired_close hrole hread
      · refine ⟨hrole, hread, fun d hd => ?_⟩
        obtain rfl : e = d := Option.some.inj hd
        exact fun hhigh => hwaits ⟨hhigh, hback⟩
      · trivial
      · exact ⟨hrole, Text.settled_cons hc hread⟩

/-! ### One step -/

theorem unpaired_stepNumber {stack : List Frame} (hstack : Unpaireds stack) (place : NumberState)
    (n : Numeral) (c : CodePoint) : (stepNumber stack place n c).Unpaired := by
  unfold stepNumber
  cases place with
  | minus =>
    dsimp only
    split_ifs
    · exact ⟨hstack, .float _⟩
    · exact hstack
    · exact hstack
    · trivial
  | _ =>
    dsimp only
    split_ifs <;>
      first
        | exact hstack
        | exact unpaired_endNumber hstack _ n c

theorem unpaired_stepValue {stack : List Frame} (hstack : Unpaireds stack) (opened : Bool)
    (c : CodePoint) : (stepValue stack opened c).Unpaired := by
  have hempty : Unpaireds (.array [] :: stack) :=
    List.forall_mem_cons.mpr ⟨List.forall_mem_nil _, hstack⟩
  have hite {p : Prop} [Decidable p] {s rest : State} (hs : s.Unpaired) (hrest : rest.Unpaired) :
      (if p then s else rest).Unpaired := by
    split_ifs
    · exact hs
    · exact hrest
  unfold stepValue
  refine hite hstack (hite ⟨hstack, Text.settled_nil⟩ ?_)
  refine hite (hite trivial ⟨hstack, unpaired_obj_nil⟩) (hite (hite trivial hempty) ?_)
  refine hite ⟨hstack, .null⟩ (hite ⟨hstack, .bool _⟩ (hite ⟨hstack, .bool _⟩ ?_))
  refine hite ⟨hstack, .float _⟩ (hite ⟨hstack, .float _⟩ ?_)
  refine hite hstack (hite hstack (hite hstack ?_))
  split
  · exact hite ⟨(List.forall_mem_cons.mp hstack).2, .arr (List.forall_mem_nil _)⟩ trivial
  · trivial

theorem unpaired_stepKey {stack : List Frame} (hstack : Unpaireds stack) {fields : Fields Json}
    (hfields : Unpaired (.obj fields)) (opened : Bool) (c : CodePoint) :
    (stepKey stack fields opened c).Unpaired := by
  unfold stepKey
  split_ifs
  · exact ⟨hstack, hfields⟩
  · exact ⟨⟨hstack, hfields⟩, Text.settled_nil⟩
  · exact ⟨hstack, unpaired_obj_nil⟩
  · trivial

theorem unpaired_stepWord {stack : List Frame} (hstack : Unpaireds stack) (rest : Text)
    {value : Json} (hvalue : value.Unpaired) (c : CodePoint) :
    (stepWord stack rest value c).Unpaired := by
  unfold stepWord
  split
  · trivial
  · split_ifs
    · exact ⟨hstack, hvalue⟩
    · trivial
  · split_ifs
    · exact ⟨hstack, hvalue⟩
    · trivial

theorem unpaired_step {s : State} (hs : s.Unpaired) {c : CodePoint} (hc : ¬ c.IsSurrogate) :
    (step s c).Unpaired := by
  cases s with
  | start =>
    unfold step
    dsimp only
    split_ifs
    · trivial
    · exact unpaired_stepValue (List.forall_mem_nil _) false c
  | value stack opened => exact unpaired_stepValue hs opened c
  | key stack fields opened => exact unpaired_stepKey hs.1 hs.2 opened c
  | colon stack fields key =>
    unfold step
    dsimp only
    split_ifs
    · exact hs
    · exact List.forall_mem_cons.mpr ⟨hs.2, hs.1⟩
    · trivial
  | after stack value => exact unpaired_stepAfter hs.1 hs.2 c
  | string role read place => exact unpaired_stepString hs.1 hs.2 hc
  | number stack place n => exact unpaired_stepNumber hs place n c
  | word stack rest value => exact unpaired_stepWord hs.1 rest hs.2 c
  | failed error => trivial

/-! ### A whole text -/

theorem unpaired_run {s : State} (hs : s.Unpaired) {t : Text} (ht : t.Plain) :
    (run s t).Unpaired := by
  induction t generalizing s with
  | nil => exact hs
  | cons c t ih =>
    obtain ⟨hc, ht⟩ := List.forall_mem_cons.mp ht
    rw [run_cons]
    exact ih (unpaired_step hs hc) ht

theorem unpaired_of_finishAfter {stack : List Frame} {value v : Json} (hvalue : value.Unpaired)
    (h : finishAfter stack value = .ok v) : v.Unpaired := by
  cases stack with
  | nil =>
    obtain rfl := Except.ok.inj h
    exact hvalue
  | cons frame outer => cases h

theorem unpaired_of_finish {s : State} (hs : s.Unpaired) {v : Json} (h : finish s = .ok v) :
    v.Unpaired := by
  cases s with
  | after stack value => exact unpaired_of_finishAfter hs.2 h
  | number stack place n =>
    have hend := unpaired_endNumber hs place n ' '
    unfold finish at h
    dsimp only at h
    split at h
    · rename_i outer value heq
      rw [heq] at hend
      exact unpaired_of_finishAfter hend.2 h
    · cases h
    · cases h
  | string role read place => cases place <;> cases h
  | _ => cases h

/-- A text without surrogates, whatever its escapes stand for, is read as a value in which no high
surrogate is right in front of a low one. -/
theorem unpaired_of_read {t : Text} (ht : t.Plain) {v : Json} (h : read t = .ok v) :
    v.Unpaired := by
  have hstart : State.start.Unpaired := trivial
  exact unpaired_of_finish (unpaired_run hstart ht) h

end Json

end TargetHelp
