import TargetHelp.Proofs.Json.Object

/-!
# The members of an object

A value that is read on its own is read in the same way inside containers, unless these nest too
deep: the reader never looks at what its stack stands on before the value is complete. So the text
of an object is read member by member, and of several members with one key the last counts.
-/

set_option autoImplicit false
set_option relaxedAutoImplicit false

namespace TargetHelp.Json

variable {outer : List Frame}

/-! ### Standing on more frames -/

def Role.over (outer : List Frame) : Role → Role
  | value stack => value (stack ++ outer)
  | key stack fields => key (stack ++ outer) fields

/-- The state with more frames below its stack. The start of a text is the place before a value. -/
def State.over (outer : List Frame) : State → State
  | start => value outer false
  | value stack opened => value (stack ++ outer) opened
  | key stack fields opened => key (stack ++ outer) fields opened
  | colon stack fields name => colon (stack ++ outer) fields name
  | after stack v => after (stack ++ outer) v
  | string role read place => string (role.over outer) read place
  | number stack place n => number (stack ++ outer) place n
  | word stack rest v => word (stack ++ outer) rest v
  | failed error => failed error

/-- Over more frames the reader is where it is without them, unless it has failed without them or
containers nest too deep with them. -/
def Lifts (outer : List Frame) (s lifted : State) : Prop :=
  (∃ error, s = .failed error) ∨ (∃ container, lifted = .failed (.tooDeep container)) ∨
    lifted = s.over outer

theorem Lifts.over (s : State) : Lifts outer s (s.over outer) := Or.inr (Or.inr rfl)

theorem Lifts.failed (error : ReadError) (lifted : State) : Lifts outer (.failed error) lifted :=
  Or.inl ⟨error, rfl⟩

theorem Lifts.ite {p : Prop} [Decidable p] {s s' lifted lifted' : State} (h : Lifts outer s lifted)
    (h' : Lifts outer s' lifted') :
    Lifts outer (if p then s else s') (if p then lifted else lifted') := by
  split
  · exact h
  · exact h'

theorem lifts_stepAfter (stack : List Frame) (v : Json) (c : CodePoint) :
    Lifts outer (stepAfter stack v c) (stepAfter (stack ++ outer) v c) := by
  refine Lifts.ite (.over (.after stack v)) ?_
  match stack with
  | [] => exact .failed _ _
  | .array items :: stack =>
    exact .ite (.over (.value (.array (v :: items) :: stack) false))
      (.ite (.over (.after stack _)) (.failed _ _))
  | .object fields key :: stack =>
    exact .ite (.over (.key stack _ false)) (.ite (.over (.after stack _)) (.failed _ _))

/-- The value of a number is complete before a code point. -/
def closeNumber (isInteger : Bool) (stack : List Frame) (n : Numeral) (c : CodePoint) : State :=
  match n.value isInteger with
  | .error error => .failed error
  | .ok v => stepAfter stack v c

theorem lifts_closeNumber (isInteger : Bool) (stack : List Frame) (n : Numeral) (c : CodePoint) :
    Lifts outer (closeNumber isInteger stack n c) (closeNumber isInteger (stack ++ outer) n c) := by
  unfold closeNumber
  cases n.value isInteger with
  | error error => exact .failed _ _
  | ok v => exact lifts_stepAfter stack v c

theorem lifts_endNumber (stack : List Frame) (place : NumberState) (n : Numeral) (c : CodePoint) :
    Lifts outer (endNumber stack place n c) (endNumber (stack ++ outer) place n c) := by
  cases place with
  | minus => exact .failed _ _
  | zero => exact lifts_closeNumber true stack n c
  | whole => exact lifts_closeNumber true stack n c
  | point => exact lifts_closeNumber true stack n (CodePoint.ofChar '.')
  | fraction => exact lifts_closeNumber false stack n c
  | mark => exact lifts_closeNumber (n.fractionCount = 0) stack n (CodePoint.ofChar 'e')
  | markSign => exact lifts_closeNumber (n.fractionCount = 0) stack n (CodePoint.ofChar 'e')
  | exponent => exact lifts_closeNumber false stack n c

theorem lifts_stepNumber (stack : List Frame) (place : NumberState) (n : Numeral) (c : CodePoint) :
    Lifts outer (stepNumber stack place n c) (stepNumber (stack ++ outer) place n c) := by
  have hnumber {place : NumberState} {n : Numeral} :
      Lifts outer (.number stack place n) (.number (stack ++ outer) place n) := .over _
  have hend {place : NumberState} :
      Lifts outer (endNumber stack place n c) (endNumber (stack ++ outer) place n c) :=
    lifts_endNumber stack place n c
  cases place with
  | minus =>
    exact .ite (.over (.word stack _ _)) (.ite hnumber (.ite hnumber (.failed _ _)))
  | zero => exact .ite hnumber (.ite hnumber hend)
  | whole => exact .ite hnumber (.ite hnumber (.ite hnumber hend))
  | point => exact .ite hnumber hend
  | fraction => exact .ite hnumber (.ite hnumber hend)
  | mark => exact .ite hnumber (.ite hnumber (.ite hnumber hend))
  | markSign => exact .ite hnumber hend
  | exponent => exact .ite hnumber hend

theorem lifts_stepWord (stack : List Frame) (rest : Text) (v : Json) (c : CodePoint) :
    Lifts outer (stepWord stack rest v c) (stepWord (stack ++ outer) rest v c) := by
  match rest with
  | [] => exact .failed _ _
  | [_] => exact .ite (.over (.after stack v)) (.failed _ _)
  | _ :: d :: rest => exact .ite (.over (.word stack (d :: rest) v)) (.failed _ _)

/-- Only where a container is opened the frames below count. -/
theorem Lifts.opened {stack : List Frame} {container : Container} {s lifted : State}
    (h : Lifts outer s lifted) :
    Lifts outer (if maxDepth ≤ stack.length then .failed (.tooDeep container) else s)
      (if maxDepth ≤ (stack ++ outer).length then .failed (.tooDeep container) else lifted) := by
  split
  · exact .failed _ _
  · split
    · exact Or.inr (Or.inl ⟨container, rfl⟩)
    · exact h

theorem lifts_stepValue (stack : List Frame) (opened : Bool) (c : CodePoint) :
    Lifts outer (stepValue stack opened c) (stepValue (stack ++ outer) opened c) := by
  have hword {rest : Text} {v : Json} :
      Lifts outer (.word stack rest v) (.word (stack ++ outer) rest v) := .over _
  have hnumber {place : NumberState} {n : Numeral} :
      Lifts outer (.number stack place n) (.number (stack ++ outer) place n) := .over _
  refine .ite (.over (.value stack opened)) (.ite (.over (.string (.value stack) [] .plain)) ?_)
  -- A container is opened: here alone the frames are counted.
  refine .ite (.opened (.over (.key stack [] true))) ?_
  refine .ite (.opened (.over (.value (.array [] :: stack) true))) ?_
  refine .ite hword (.ite hword (.ite hword (.ite hword (.ite hword ?_))))
  refine .ite hnumber (.ite hnumber (.ite hnumber ?_))
  match opened, stack with
  | true, .array _ :: stack => exact .ite (.over (.after stack _)) (.failed _ _)
  | true, .object _ _ :: _ => exact .failed _ _
  | true, [] => exact .failed _ _
  | false, _ => exact .failed _ _

theorem lifts_stepKey (stack : List Frame) (fields : Fields Json) (opened : Bool) (c : CodePoint) :
    Lifts outer (stepKey stack fields opened c) (stepKey (stack ++ outer) fields opened c) :=
  .ite (.over (.key stack fields opened)) (.ite (.over (.string (.key stack fields) [] .plain))
    (.ite (.over (.after stack _)) (.failed _ _)))

theorem Role.close_over (role : Role) (read : Text) :
    (role.over outer).close read = (role.close read).over outer := by
  cases role <;> rfl

theorem lifts_stepString (role : Role) (read : Text) (place : StringState) (c : CodePoint) :
    Lifts outer (stepString role read place c) (stepString (role.over outer) read place c) := by
  have hstring {read : Text} {place : StringState} :
      Lifts outer (.string role read place) (.string (role.over outer) read place) := .over _
  have hplain (read : Text) :
      Lifts outer (stepPlain role read c) (stepPlain (role.over outer) read c) := by
    refine .ite ?_ (.ite hstring (.ite (.failed _ _) hstring))
    rw [Role.close_over]
    exact .over _
  cases place with
  | plain => exact hplain read
  | afterBackslash high =>
    refine .ite hstring ?_
    cases simpleEscape? c with
    | none => exact .failed _ _
    | some e => exact hstring
  | digits high value count =>
    unfold stepString
    dsimp only
    cases hexValue? c with
    | none => exact .failed _ _
    | some d =>
      refine .ite ?_ hstring
      cases high with
      | none => exact hstring
      | some h => exact .ite hstring hstring
  | escaped e => exact .ite hstring (hplain (e :: read))

/-- One code point is read over more frames as it is without them. -/
theorem lifts_step (s : State) (c : CodePoint) :
    Lifts outer (step s c) (step (s.over outer) c) := by
  cases s with
  | start =>
    change Lifts outer (if c = byteOrderMark then _ else stepValue [] false c)
      (stepValue outer false c)
    split
    · exact .failed _ _
    · exact lifts_stepValue [] false c
  | value stack opened => exact lifts_stepValue stack opened c
  | key stack fields opened => exact lifts_stepKey stack fields opened c
  | colon stack fields name =>
    exact .ite (.over (.colon stack fields name))
      (.ite (.over (.value (.object fields name :: stack) false)) (.failed _ _))
  | after stack v => exact lifts_stepAfter stack v c
  | string role read place => exact lifts_stepString role read place c
  | number stack place n => exact lifts_stepNumber stack place n c
  | word stack rest v => exact lifts_stepWord stack rest v c
  | failed error => exact .failed error _

theorem Lifts.step {s lifted : State} (h : Lifts outer s lifted) (c : CodePoint) :
    Lifts outer (Json.step s c) (Json.step lifted c) := by
  rcases h with ⟨error, rfl⟩ | ⟨container, rfl⟩ | rfl
  · exact .failed error _
  · exact Or.inr (Or.inl ⟨container, rfl⟩)
  · exact lifts_step s c

/-- A text is read over more frames as it is without them. -/
theorem Lifts.run {s lifted : State} (h : Lifts outer s lifted) (t : Text) :
    Lifts outer (Json.run s t) (Json.run lifted t) := by
  induction t generalizing s lifted with
  | nil => exact h
  | cons c t ih => exact ih (h.step c)

/-! ### Values -/

theorem stack_of_finishAfter {stack : List Frame} {v w : Json} (h : finishAfter stack v = .ok w) :
    stack = [] ∧ v = w := by
  cases stack with
  | nil => exact ⟨rfl, Except.ok.inj h⟩
  | cons frame stack => cases h

/-- What the reader has at the end of a text behind a number that is closed there. -/
def finishClosed : State → Except ReadError Json
  | .after stack v => finishAfter stack v
  | .failed error => .error error
  | _ => .error (.invalid .expectingValue)

/-- A number that is complete before a space is complete before any code point that ends it. -/
theorem closed_of_finish {stack : List Frame} {n : Numeral} {isInteger : Bool} {w : Json}
    (h : finishClosed (closeNumber isInteger stack n (CodePoint.ofChar ' ')) = .ok w) :
    stack = [] ∧ ∀ (stack : List Frame) (c : CodePoint),
      closeNumber isInteger stack n c = stepAfter stack w c := by
  unfold closeNumber at h ⊢
  cases hvalue : n.value isInteger with
  | error error =>
    rw [hvalue] at h
    cases h
  | ok v =>
    rw [hvalue] at h
    obtain ⟨hstack, rfl⟩ : stack = [] ∧ v = w := stack_of_finishAfter h
    exact ⟨hstack, fun _ _ => rfl⟩

/-- What is left over of a number may not follow it. -/
theorem finish_leftOver {stack : List Frame} {n : Numeral} {isInteger : Bool} {w : Json}
    {c : CodePoint} (hc : c = CodePoint.ofChar '.' ∨ c = CodePoint.ofChar 'e') :
    finishClosed (closeNumber isInteger stack n c) ≠ .ok w := by
  unfold closeNumber
  cases n.value isInteger with
  | error error => exact fun h => nomatch h
  | ok v =>
    rcases hc with rfl | rfl <;> match stack with
      | [] => exact fun h => nomatch h
      | .array _ :: _ => exact fun h => nomatch h
      | .object _ _ :: _ => exact fun h => nomatch h

theorem number_of_finish {stack : List Frame} {place : NumberState} {n : Numeral} {w : Json}
    (h : finish (.number stack place n) = .ok w) :
    stack = [] ∧ ∀ (stack : List Frame) (c : CodePoint),
      endNumber stack place n c = stepAfter stack w c := by
  have hfinish : finishClosed (endNumber stack place n (CodePoint.ofChar ' ')) = .ok w := h
  cases place with
  | minus => cases hfinish
  | zero => exact closed_of_finish hfinish
  | whole => exact closed_of_finish hfinish
  | point => exact absurd hfinish (finish_leftOver (Or.inl rfl))
  | fraction =>
    have hclosed : finishClosed (closeNumber false stack n (CodePoint.ofChar ' ')) = .ok w :=
      hfinish
    exact closed_of_finish hclosed
  | mark => exact absurd hfinish (finish_leftOver (Or.inr rfl))
  | markSign => exact absurd hfinish (finish_leftOver (Or.inr rfl))
  | exponent =>
    have hclosed : finishClosed (closeNumber false stack n (CodePoint.ofChar ' ')) = .ok w :=
      hfinish
    exact closed_of_finish hclosed

/-- A value that is complete at the end of a text is complete before what may follow it in an
object. -/
theorem step_of_finish {s : State} {w : Json} (h : finish s = .ok w) {c : CodePoint}
    (hc : c = CodePoint.ofChar ',' ∨ c = CodePoint.ofChar '\x7d') :
    step (s.over outer) c = stepAfter outer w c := by
  cases s with
  | after stack v =>
    obtain ⟨rfl, rfl⟩ := stack_of_finishAfter h
    rfl
  | number stack place n =>
    obtain ⟨rfl, hend⟩ := number_of_finish h
    have hstep : stepNumber outer place n c = endNumber outer place n c := by
      rcases hc with rfl | rfl <;> cases place <;> rfl
    exact hstep.trans (hend outer c)
  | string role read place => cases place <;> cases h
  | _ => cases h

/-- A value is read inside containers as it is read on its own, unless they nest too deep. -/
theorem run_value {t : Text} {w : Json} (h : read t = .ok w) {c : CodePoint}
    (hc : c = CodePoint.ofChar ',' ∨ c = CodePoint.ofChar '\x7d') (outer : List Frame) :
    run (.value outer false) (t ++ [c]) = stepAfter outer w c ∨
      ∃ container, run (.value outer false) (t ++ [c]) = .failed (.tooDeep container) := by
  have hlifts : Lifts outer (run .start t) (run (.value outer false) t) :=
    Lifts.run (.over .start) t
  rw [run_append]
  rcases hlifts with ⟨error, hfailed⟩ | ⟨container, hdeep⟩ | hover
  · rw [read, hfailed] at h
    cases h
  · exact Or.inr ⟨container, by rw [hdeep]; rfl⟩
  · exact Or.inl (by rw [hover]; exact step_of_finish h hc)

/-! ### Keys -/

/-- The reader is in a string, or behind it: in one state for a value, in the other for a key. -/
inductive Names (stack : List Frame) (fields : Fields Json) : State → State → Prop
  | failed (error : ReadError) (s : State) : Names stack fields (.failed error) s
  | string (read : Text) (place : StringState) :
      Names stack fields (.string (.value []) read place) (.string (.key stack fields) read place)
  | complete (t : Text) : Names stack fields (.after [] (.str t)) (.colon stack fields t)

section Keys

variable {stack : List Frame} {fields : Fields Json}

theorem Names.ite {p : Prop} [Decidable p] {s s' named named' : State}
    (h : Names stack fields s named) (h' : Names stack fields s' named') :
    Names stack fields (if p then s else s') (if p then named else named') := by
  split
  · exact h
  · exact h'

theorem names_stepPlain (read : Text) (c : CodePoint) :
    Names stack fields (stepPlain (.value []) read c) (stepPlain (.key stack fields) read c) :=
  .ite (.complete read.reverse) (.ite (.string _ _) (.ite (.failed _ _) (.string _ _)))

theorem names_stepString (read : Text) (place : StringState) (c : CodePoint) :
    Names stack fields (stepString (.value []) read place c)
      (stepString (.key stack fields) read place c) := by
  cases place with
  | plain => exact names_stepPlain read c
  | afterBackslash high =>
    refine .ite (.string _ _) ?_
    cases simpleEscape? c with
    | none => exact .failed _ _
    | some e => exact .string _ _
  | digits high value count =>
    unfold stepString
    dsimp only
    cases hexValue? c with
    | none => exact .failed _ _
    | some d =>
      refine .ite ?_ (.string _ _)
      cases high with
      | none => exact .string _ _
      | some h => exact .ite (.string _ _) (.string _ _)
  | escaped e => exact .ite (.string _ _) (names_stepPlain (e :: read) c)

theorem Names.step {s named : State} (h : Names stack fields s named) (c : CodePoint) :
    Names stack fields (Json.step s c) (Json.step named c) := by
  cases h with
  | failed error named => exact .failed error _
  | string read place => exact names_stepString read place c
  | complete t =>
    change Names stack fields (if isSpace c then _ else _) (if isSpace c then _ else _)
    exact .ite (.complete t) (.failed _ _)

theorem Names.run {s named : State} (h : Names stack fields s named) (t : Text) :
    Names stack fields (Json.run s t) (Json.run named t) := by
  induction t generalizing s named with
  | nil => exact h
  | cons c t ih => exact ih (h.step c)

/-- A key is read as the text that it is on its own. -/
theorem run_key_of_read {body key : Text}
    (h : read (CodePoint.ofChar '\x22' :: body) = .ok (.str key)) (stack : List Frame)
    (fields : Fields Json) (opened : Bool) :
    run (.key stack fields opened) (CodePoint.ofChar '\x22' :: body) = .colon stack fields key := by
  have hnames : Names stack fields (run .start (CodePoint.ofChar '\x22' :: body))
      (run (.key stack fields opened) (CodePoint.ofChar '\x22' :: body)) :=
    Names.run (.string [] .plain) body
  rw [read] at h
  generalize run .start (CodePoint.ofChar '\x22' :: body) = s at h hnames
  generalize run (.key stack fields opened) (CodePoint.ofChar '\x22' :: body) = named at hnames ⊢
  cases hnames with
  | failed error named => cases h
  | string read place => cases place <;> cases h
  | complete t =>
    obtain rfl : t = key := Json.str.inj (Except.ok.inj h)
    rfl

end Keys

/-! ### Objects -/

/-- A member of an object as it is written: spaces, a key from behind its first quotation mark on,
and a value, which both may be surrounded by spaces. -/
structure Member where
  gap : Text
  body : Text
  key : Text
  written : Text
  value : Json

namespace Member

def text (m : Member) : Text :=
  m.gap ++ CodePoint.ofChar '\x22' :: m.body ++ CodePoint.ofChar ':' :: m.written

/-- The key and the value are what their texts are read as on their own. -/
structure Reads (m : Member) : Prop where
  gap : ∀ c ∈ m.gap, isSpace c = true
  key : read (CodePoint.ofChar '\x22' :: m.body) = .ok (.str m.key)
  value : read m.written = .ok m.value

/-- The keys of some members with their values. -/
def entries (members : List Member) : Fields Json := members.map fun m => (m.key, m.value)

end Member

/-- The text of an object with some members. -/
def objectText (before after : Text) (members : List Member) : Text :=
  before ++ CodePoint.ofChar '\x7b' :: Text.join "," (members.map Member.text) ++
    CodePoint.ofChar '\x7d' :: after

/-- A state that spaces do not change. -/
def Rests (s : State) : Prop := ∀ c, isSpace c = true → step s c = s

theorem rests_value (stack : List Frame) (opened : Bool) : Rests (.value stack opened) := by
  intro c hc
  change stepValue stack opened c = _
  unfold stepValue
  exact if_pos hc

theorem rests_key (stack : List Frame) (fields : Fields Json) (opened : Bool) :
    Rests (.key stack fields opened) := by
  intro c hc
  change stepKey stack fields opened c = _
  unfold stepKey
  exact if_pos hc

theorem rests_after (stack : List Frame) (v : Json) : Rests (.after stack v) := by
  intro c hc
  change stepAfter stack v c = _
  unfold stepAfter
  exact if_pos hc

theorem Rests.run {s : State} (hs : Rests s) {gap : Text} (hgap : ∀ c ∈ gap, isSpace c = true) :
    Json.run s gap = s := by
  induction gap with
  | nil => rfl
  | cons c gap ih =>
    obtain ⟨hc, hrest⟩ := List.forall_mem_cons.mp hgap
    rw [run_cons, hs c hc, ih hrest]

/-- An object may open a text behind some spaces. -/
theorem run_open {gap : Text} (hgap : ∀ c ∈ gap, isSpace c = true) :
    run .start (gap ++ [CodePoint.ofChar '\x7b']) = .key [] [] true := by
  cases gap with
  | nil => rfl
  | cons c gap =>
    obtain ⟨hc, hrest⟩ := List.forall_mem_cons.mp hgap
    have hmark : c ≠ byteOrderMark := by
      rintro rfl
      exact absurd hc (by decide)
    have hstart : step .start c = .value [] false :=
      (if_neg hmark).trans (rests_value [] false c hc)
    rw [List.cons_append, run_cons, hstart, run_append, (rests_value [] false).run hrest]
    rfl

/-- A member is read up to what ends it, unless its value nests too deep. -/
theorem run_member {m : Member} (h : m.Reads) {c : CodePoint}
    (hc : c = CodePoint.ofChar ',' ∨ c = CodePoint.ofChar '\x7d') (stack : List Frame)
    (fields : Fields Json) (opened : Bool) :
    run (.key stack fields opened) (m.text ++ [c]) =
        stepAfter (.object fields m.key :: stack) m.value c ∨
      ∃ container,
        run (.key stack fields opened) (m.text ++ [c]) = .failed (.tooDeep container) := by
  have hspaces : run (.key stack fields opened) m.gap = .key stack fields opened :=
    (rests_key stack fields opened).run h.gap
  have htext : m.text ++ [c] = m.gap ++ (CodePoint.ofChar '\x22' :: m.body ++
      (CodePoint.ofChar ':' :: (m.written ++ [c]))) := by
    unfold Member.text
    simp only [List.append_assoc, List.cons_append]
  rw [htext, run_append, hspaces, run_append, run_key_of_read h.key]
  exact run_value h.value hc _

/-- Members are read one by one, and each sets its key. -/
theorem run_members {m : Member} {more : List Member} (h : ∀ n ∈ m :: more, n.Reads)
    (stack : List Frame) (fields : Fields Json) (opened : Bool) :
    let t := Text.join "," ((m :: more).map Member.text) ++ [CodePoint.ofChar '\x7d']
    run (.key stack fields opened) t =
        .after stack (.obj (setAll fields (Member.entries (m :: more)))) ∨
      ∃ container, run (.key stack fields opened) t = .failed (.tooDeep container) := by
  induction more generalizing m fields opened with
  | nil => exact run_member (h m List.mem_cons_self) (Or.inr rfl) stack fields opened
  | cons next more ih =>
    obtain ⟨hm, hrest⟩ := List.forall_mem_cons.mp h
    have htext : Text.join "," ((m :: next :: more).map Member.text) ++ [CodePoint.ofChar '\x7d'] =
        (m.text ++ [CodePoint.ofChar ',']) ++
          (Text.join "," ((next :: more).map Member.text) ++ [CodePoint.ofChar '\x7d']) := by
      rw [List.map_cons, Text.join_cons (by simp)]
      simp only [List.append_assoc]
      rfl
    dsimp only
    rw [htext, run_append]
    rcases run_member hm (Or.inl rfl) stack fields opened with hmember | ⟨container, hdeep⟩
    · -- The comma sets the key, and the next one is not the first any more.
      rw [hmember]
      exact ih hrest (fields.set m.key m.value) false
    · rw [hdeep, run_failed]
      exact Or.inr ⟨container, rfl⟩

/-- The value of the last of the entries with a key. -/
def last? (key : Text) (entries : Fields Json) : Option Json :=
  (entries.reverse.find? fun entry => entry.1 = key).map Prod.snd

theorem last?_cons (key : Text) (entry : Text × Json) (entries : Fields Json) :
    last? key (entry :: entries) =
      (last? key entries).or (if entry.1 = key then some entry.2 else none) := by
  unfold last?
  rw [List.reverse_cons, List.find?_append, Option.map_or, List.find?_singleton]
  by_cases hkey : entry.1 = key
  · rw [if_pos hkey, if_pos (decide_eq_true hkey)]
    rfl
  · rw [if_neg hkey, if_neg (by simpa using hkey)]
    rfl

theorem get?_setAll (fields more : Fields Json) (key : Text) :
    Fields.get? key (setAll fields more) = (last? key more).or (Fields.get? key fields) := by
  induction more generalizing fields with
  | nil => rfl
  | cons entry more ih =>
    change Fields.get? key (setAll (fields.set entry.1 entry.2) more) = _
    rw [ih, last?_cons, Option.or_assoc]
    by_cases hkey : entry.1 = key
    · rw [if_pos hkey, ← hkey, Fields.get?_set_self]
      rfl
    · rw [if_neg hkey, Fields.get?_set_of_ne (Ne.symm hkey), Option.none_or]

/-- The text of an object is read as an object in which the last member with a key counts, unless
containers nest too deep. -/
theorem read_objectText {before after : Text} {members : List Member} (hne : members ≠ [])
    (hbefore : ∀ c ∈ before, isSpace c = true) (hafter : ∀ c ∈ after, isSpace c = true)
    (h : ∀ m ∈ members, m.Reads) :
    (∃ container, read (objectText before after members) = .error (.tooDeep container)) ∨
      ∃ fields, read (objectText before after members) = .ok (.obj fields) ∧
        ∀ key, Fields.get? key fields = last? key (Member.entries members) := by
  obtain ⟨m, more, rfl⟩ := List.exists_cons_of_ne_nil hne
  have htext : objectText before after (m :: more) = (before ++ [CodePoint.ofChar '\x7b']) ++
      ((Text.join "," ((m :: more).map Member.text) ++ [CodePoint.ofChar '\x7d']) ++ after) := by
    unfold objectText
    simp only [List.append_assoc, List.cons_append, List.nil_append]
  rw [htext, read, run_append, run_open hbefore, run_append]
  rcases run_members h [] [] true with hmembers | ⟨container, hdeep⟩
  · rw [hmembers, (rests_after [] _).run hafter]
    refine Or.inr ⟨_, rfl, fun key => ?_⟩
    rw [get?_setAll, Fields.get?_nil, Option.or_none]
  · rw [hdeep, run_failed]
    exact Or.inl ⟨container, rfl⟩

end TargetHelp.Json
