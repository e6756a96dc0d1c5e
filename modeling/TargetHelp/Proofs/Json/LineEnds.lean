import TargetHelp.Proofs.Json.Members
import TargetHelp.Text.Line

/-!
# What the reader makes of a line end

Wherever the reader stands, a carriage return takes it to where a line feed takes it, and a line
feed behind that moves it no further: between values both are spaces, a number ends at both, and in
a string or in a word both are the same fault. So a text is read alike with a carriage return in
front of its last line feed and without.
-/

set_option autoImplicit false
set_option relaxedAutoImplicit false

namespace TargetHelp.Json

/-! ### Words -/

/-- What is still to come of a word has no spaces in it. -/
def State.Spells : State → Prop
  | word _ rest _ => rest.any isSpace = false
  | _ => True

theorem spells_ite {p : Prop} [Decidable p] {s s' : State} (h : s.Spells) (h' : s'.Spells) :
    (if p then s else s').Spells := by
  split
  · exact h
  · exact h'

theorem spells_stepAfter (stack : List Frame) (v : Json) (c : CodePoint) :
    (stepAfter stack v c).Spells := by
  refine spells_ite trivial ?_
  match stack with
  | [] => trivial
  | .array items :: stack => exact spells_ite trivial (spells_ite trivial trivial)
  | .object fields key :: stack => exact spells_ite trivial (spells_ite trivial trivial)

theorem spells_stepValue (stack : List Frame) (opened : Bool) (c : CodePoint) :
    (stepValue stack opened c).Spells := by
  have hword {rest : Text} {v : Json} (h : rest.any isSpace = false) :
      (State.word stack rest v).Spells := h
  refine spells_ite trivial (spells_ite trivial ?_)
  refine spells_ite (spells_ite trivial trivial) (spells_ite (spells_ite trivial trivial) ?_)
  refine spells_ite (hword rfl) (spells_ite (hword rfl) (spells_ite (hword rfl) ?_))
  refine spells_ite (hword rfl) (spells_ite (hword rfl) ?_)
  refine spells_ite trivial (spells_ite trivial (spells_ite trivial ?_))
  match opened, stack with
  | true, .array _ :: stack => exact spells_ite trivial trivial
  | true, .object _ _ :: _ => trivial
  | true, [] => trivial
  | false, _ => trivial

theorem spells_closeNumber (isInteger : Bool) (stack : List Frame) (n : Numeral)
    (c : CodePoint) : (closeNumber isInteger stack n c).Spells := by
  unfold closeNumber
  cases n.value isInteger with
  | error error => trivial
  | ok v => exact spells_stepAfter stack v c

theorem spells_endNumber (stack : List Frame) (place : NumberState) (n : Numeral)
    (c : CodePoint) : (endNumber stack place n c).Spells := by
  cases place with
  | minus => trivial
  | zero => exact spells_closeNumber true stack n c
  | whole => exact spells_closeNumber true stack n c
  | point => exact spells_closeNumber true stack n '.'
  | mark => exact spells_closeNumber (n.fractionCount = 0) stack n 'e'
  | markSign => exact spells_closeNumber (n.fractionCount = 0) stack n 'e'
  | fraction => exact spells_closeNumber false stack n c
  | exponent => exact spells_closeNumber false stack n c

theorem spells_stepNumber (stack : List Frame) (place : NumberState) (n : Numeral)
    (c : CodePoint) : (stepNumber stack place n c).Spells := by
  have hend := spells_endNumber stack place n c
  cases place with
  | minus =>
    have hword : (State.word stack infinityTail (.float (.infinite true))).Spells := rfl
    exact spells_ite hword (spells_ite trivial (spells_ite trivial trivial))
  | zero => exact spells_ite trivial (spells_ite trivial hend)
  | whole => exact spells_ite trivial (spells_ite trivial (spells_ite trivial hend))
  | point => exact spells_ite trivial hend
  | fraction => exact spells_ite trivial (spells_ite trivial hend)
  | mark => exact spells_ite trivial (spells_ite trivial (spells_ite trivial hend))
  | markSign => exact spells_ite trivial hend
  | exponent => exact spells_ite trivial hend

theorem spells_stepString (role : Role) (read : Text) (place : StringState) (c : CodePoint) :
    (stepString role read place c).Spells := by
  have hclose (read : Text) : (role.close read).Spells := by cases role <;> trivial
  have hplain (read : Text) : (stepPlain role read c).Spells :=
    spells_ite (hclose read) (spells_ite trivial (spells_ite trivial trivial))
  cases place with
  | plain => exact hplain read
  | afterBackslash high =>
    refine spells_ite trivial ?_
    cases simpleEscape? c <;> trivial
  | digits high value count =>
    unfold stepString
    dsimp only
    cases hexValue? c with
    | none => trivial
    | some d =>
      refine spells_ite ?_ trivial
      cases high with
      | none => trivial
      | some h => exact spells_ite trivial trivial
  | escaped e => exact spells_ite trivial (hplain _)

theorem spells_stepWord {stack : List Frame} {rest : Text} {v : Json}
    (h : rest.any isSpace = false) (c : CodePoint) : (stepWord stack rest v c).Spells := by
  match rest with
  | [] => trivial
  | [_] => exact spells_ite trivial trivial
  | _ :: d :: rest =>
    rw [List.any_cons, Bool.or_eq_false_iff] at h
    exact spells_ite h.2 trivial

theorem spells_step {s : State} (h : s.Spells) (c : CodePoint) : (step s c).Spells := by
  cases s with
  | start => exact spells_ite trivial (spells_stepValue [] false c)
  | value stack opened => exact spells_stepValue stack opened c
  | key stack fields opened =>
    exact spells_ite trivial (spells_ite trivial (spells_ite trivial trivial))
  | colon stack fields name => exact spells_ite trivial (spells_ite trivial trivial)
  | after stack v => exact spells_stepAfter stack v c
  | string role read place => exact spells_stepString role read place c
  | number stack place n => exact spells_stepNumber stack place n c
  | word stack rest v => exact spells_stepWord h c
  | failed error => trivial

theorem spells_run {s : State} (h : s.Spells) (t : Text) : (run s t).Spells := by
  induction t generalizing s with
  | nil => exact h
  | cons c t ih => exact ih (spells_step h c)

/-! ### Line ends -/

/-- Both code points of a line end take the reader to one state, where spaces leave it. -/
def State.EndsLine (s : State) : Prop :=
  ∃ r : State, Rests r ∧ step s Text.carriageReturn = r ∧ step s Text.lineFeed = r

theorem rests_failed (error : ReadError) : Rests (.failed error) := fun _ _ => rfl

/-- A number that is complete before a line end rests behind it. -/
theorem endsLine_closeNumber (isInteger : Bool) (stack : List Frame) (n : Numeral) :
    ∃ r : State, Rests r ∧ closeNumber isInteger stack n Text.carriageReturn = r ∧
      closeNumber isInteger stack n Text.lineFeed = r := by
  unfold closeNumber
  cases n.value isInteger with
  | error error => exact ⟨_, rests_failed error, rfl, rfl⟩
  | ok v => exact ⟨_, rests_after stack v, rfl, rfl⟩

/-- A point or a mark that is left over behind a number is a fault. -/
theorem rests_closeNumber (isInteger : Bool) (stack : List Frame) (n : Numeral) {c : CodePoint}
    (hc : c = '.' ∨ c = 'e') : Rests (closeNumber isInteger stack n c) := by
  unfold closeNumber
  cases n.value isInteger with
  | error error => exact rests_failed error
  | ok v =>
    match stack with
    | [] => rcases hc with rfl | rfl <;> exact rests_failed _
    | .array _ :: _ => rcases hc with rfl | rfl <;> exact rests_failed _
    | .object _ _ :: _ => rcases hc with rfl | rfl <;> exact rests_failed _

theorem endsLine_number (stack : List Frame) (place : NumberState) (n : Numeral) :
    (State.number stack place n).EndsLine := by
  cases place with
  | minus => exact ⟨_, rests_failed (.invalid .expectingValue), rfl, rfl⟩
  | zero => exact endsLine_closeNumber true stack n
  | whole => exact endsLine_closeNumber true stack n
  | fraction => exact endsLine_closeNumber false stack n
  | exponent => exact endsLine_closeNumber false stack n
  | point => exact ⟨_, rests_closeNumber true stack n (Or.inl rfl), rfl, rfl⟩
  | mark => exact ⟨_, rests_closeNumber (n.fractionCount = 0) stack n (Or.inr rfl), rfl, rfl⟩
  | markSign => exact ⟨_, rests_closeNumber (n.fractionCount = 0) stack n (Or.inr rfl), rfl, rfl⟩

theorem endsLine_string (role : Role) (read : Text) (place : StringState) :
    (State.string role read place).EndsLine := by
  have hcontrol (read : Text) : ∃ r : State, Rests r ∧ stepPlain role read Text.carriageReturn = r ∧
      stepPlain role read Text.lineFeed = r :=
    ⟨_, rests_failed (.invalid .controlCharacter), rfl, rfl⟩
  cases place with
  | plain => exact hcontrol read
  | afterBackslash high => exact ⟨_, rests_failed (.invalid .badEscape), rfl, rfl⟩
  | digits high value count => exact ⟨_, rests_failed (.invalid .badUnicodeEscape), rfl, rfl⟩
  | escaped e =>
    obtain ⟨r, hrests, hreturn, hfeed⟩ := hcontrol (e :: read)
    exact ⟨r, hrests, (if_neg fun h => nomatch h.2).trans hreturn,
      (if_neg fun h => nomatch h.2).trans hfeed⟩

theorem endsLine_word (stack : List Frame) {rest : Text} (v : Json)
    (h : rest.any isSpace = false) : (State.word stack rest v).EndsLine := by
  have hne {d : CodePoint} (hd : d ∈ rest) {c : CodePoint} (hc : isSpace c = true) : c ≠ d := by
    intro heq
    rw [List.any_eq_false] at h
    exact h d hd (heq ▸ hc)
  refine ⟨_, rests_failed (.invalid .expectingValue), ?_⟩
  match rest with
  | [] => exact ⟨rfl, rfl⟩
  | [d] => exact ⟨if_neg (hne List.mem_cons_self rfl), if_neg (hne List.mem_cons_self rfl)⟩
  | d :: _ :: _ => exact ⟨if_neg (hne List.mem_cons_self rfl), if_neg (hne List.mem_cons_self rfl)⟩

theorem State.Spells.endsLine {s : State} (h : s.Spells) : s.EndsLine := by
  cases s with
  | start => exact ⟨_, rests_value [] false, rfl, rfl⟩
  | value stack opened => exact ⟨_, rests_value stack opened, rfl, rfl⟩
  | key stack fields opened => exact ⟨_, rests_key stack fields opened, rfl, rfl⟩
  | colon stack fields name => exact ⟨.colon stack fields name, fun _ hc => if_pos hc, rfl, rfl⟩
  | after stack v => exact ⟨_, rests_after stack v, rfl, rfl⟩
  | string role read place => exact endsLine_string role read place
  | number stack place n => exact endsLine_number stack place n
  | word stack rest v => exact endsLine_word stack v h
  | failed error => exact ⟨_, rests_failed error, rfl, rfl⟩

/-- A line that ends with a carriage return and a line feed is read like one that ends with the line
feed. -/
theorem read_lineEnd (body : Text) :
    read (body ++ [Text.carriageReturn, Text.lineFeed]) = read (body ++ [Text.lineFeed]) := by
  have hstart : State.start.Spells := trivial
  obtain ⟨r, hrests, hreturn, hfeed⟩ := (spells_run hstart body).endsLine
  have hboth : run (run .start body) [Text.carriageReturn, Text.lineFeed] = r := by
    rw [run_cons, hreturn]
    exact hrests Text.lineFeed rfl
  unfold read
  rw [run_append, run_append, hboth, run_cons, hfeed, run_nil]

end TargetHelp.Json
