import TargetHelp.Fault
import TargetHelp.Proofs.Text.Literal

/-!
# The grammar of channel specifications

A specification is a name, blanks around it aside, and behind the first colon a level, which may be
missing or empty. `Spec.IsWritten` says so, and `Spec.Fails` which of the two parts a text that is
no specification fails at. Every text is one or the other, and the reader tells which
(`Spec.parse_eq_ok_iff`, `Spec.parse_eq_error_iff`). Blanks are white space, but around a level the
four information separators are not.
-/

set_option autoImplicit false
set_option relaxedAutoImplicit false

namespace TargetHelp.Channel

/-- The level that may stand behind a name: a literal, or zero if there is nothing. -/
inductive IsLevel : Option Text → Int → Prop
  | absent : IsLevel none 0
  | empty : IsLevel (some []) 0
  | literal {written : Text} {n : Int} (h : Text.IsInteger n written) : IsLevel (some written) n

namespace Spec

/-- A text is a specification: up to the first colon it is the name, which is not blank, and behind
the colon the level. -/
inductive IsWritten (spec : Spec) (written : Text) : Prop
  | intro {front : Text} {level? : Option Text}
      (hsplit : Text.SplitsFirst ':' written front level?)
      (hname : Text.IsTrimmed Text.isBlankPoint front spec.name)
      (hblank : ∃ c ∈ front, Text.isBlankPoint c = false) (hlevel : IsLevel level? spec.level)

/-- A text fails to be a specification: there is no name, or no level behind the name. -/
inductive Fails (written : Text) : SpecError → Prop
  | name {front : Text} {level? : Option Text}
      (hsplit : Text.SplitsFirst ':' written front level?)
      (hblank : ∀ c ∈ front, Text.isBlankPoint c = true) : Fails written (.emptyName written)
  | level {front name level : Text} (hsplit : Text.SplitsFirst ':' written front (some level))
      (hname : Text.IsTrimmed Text.isBlankPoint front name)
      (hblank : ∃ c ∈ front, Text.isBlankPoint c = false) (hlevel : ∀ n, ¬ IsLevel (some level) n) :
      Fails written (.invalidLevel level name)

variable {written name : Text} {level? : Option Text} {spec : Spec} {error : SpecError}

/-! ### Levels -/

theorem readLevel_of_ne_nil {level : Text} (h : level ≠ []) (name : Text) :
    readLevel name (some level) =
      (Text.readInteger? level).elim (.error (.invalidLevel level name)) .ok := by
  obtain ⟨c, level, rfl⟩ := List.exists_cons_of_ne_nil h
  rw [readLevel]
  · cases Text.readInteger? (c :: level) <;> rfl
  · exact h

theorem readLevel_of_isLevel {n : Int} (h : IsLevel level? n) (name : Text) :
    readLevel name level? = .ok n := by
  cases h with
  | absent => rfl
  | empty => rfl
  | literal hliteral =>
    have hread := Text.readInteger?_eq_some_iff.mpr hliteral
    have hne : ∀ {t : Text}, Text.readInteger? t = some n → t ≠ [] := by
      rintro _ hread rfl
      cases hread
    rw [readLevel_of_ne_nil (hne hread), hread]
    rfl

theorem readLevel_of_not_isLevel {level : Text} (h : ∀ n, ¬ IsLevel (some level) n) (name : Text) :
    readLevel name (some level) = .error (.invalidLevel level name) := by
  have hne : level ≠ [] := by
    rintro rfl
    exact h 0 .empty
  rw [readLevel_of_ne_nil hne]
  cases hread : Text.readInteger? level with
  | none => rfl
  | some n => exact absurd (.literal (Text.readInteger?_eq_some_iff.mp hread)) (h n)

/-! ### Specifications -/

theorem parse_of_splitsFirst {front core : Text} (h : Text.SplitsFirst ':' written front level?)
    (hname : Text.IsTrimmed Text.isBlankPoint front core) :
    parse written =
      if core.isEmpty then .error (.emptyName written)
      else readLevel core level? >>= fun level => .ok ⟨core, level⟩ := by
  unfold parse
  rw [Text.splitFirst_eq_iff.mpr h, ← hname.trim_eq]
  rfl

/-- A name that is not blank is not empty without the blanks. -/
theorem isEmpty_of_exists {front core : Text} (hname : Text.IsTrimmed Text.isBlankPoint front core)
    (h : ∃ c ∈ front, Text.isBlankPoint c = false) : core.isEmpty = false := by
  obtain ⟨c, hc, hpoint⟩ := h
  rw [List.isEmpty_eq_false_iff]
  exact fun hcore => absurd (hname.eq_nil_iff.mp hcore c hc) (by simp [hpoint])

theorem IsWritten.parse (h : spec.IsWritten written) : parse written = .ok spec := by
  obtain ⟨hsplit, hname, hblank, hlevel⟩ := h
  rw [parse_of_splitsFirst hsplit hname, isEmpty_of_exists hname hblank,
    readLevel_of_isLevel hlevel]
  rfl

theorem Fails.parse (h : Fails written error) : Spec.parse written = .error error := by
  cases h with
  | @name front level? hsplit hblank =>
    have hname := Text.isTrimmed_trim Text.isBlankPoint front
    rw [parse_of_splitsFirst hsplit hname, hname.eq_nil_iff.mpr hblank]
    rfl
  | level hsplit hname hblank hlevel =>
    rw [parse_of_splitsFirst hsplit hname, isEmpty_of_exists hname hblank,
      readLevel_of_not_isLevel hlevel]
    rfl

/-- Every text is a specification or fails to be one. -/
theorem isWritten_or_fails (written : Text) :
    (∃ spec : Spec, spec.IsWritten written) ∨ ∃ error, Fails written error := by
  have hsplit := Text.splitFirst_eq_iff.mp (Prod.mk.eta (p := Text.splitFirst ':' written)).symm
  generalize (Text.splitFirst ':' written).1 = front at hsplit
  generalize (Text.splitFirst ':' written).2 = level? at hsplit
  have hname := Text.isTrimmed_trim Text.isBlankPoint front
  by_cases hblank : ∀ c ∈ front, Text.isBlankPoint c = true
  · exact .inr ⟨_, .name hsplit hblank⟩
  · have hexists : ∃ c ∈ front, Text.isBlankPoint c = false := by simpa using hblank
    by_cases hlevel : ∃ n, IsLevel level? n
    · obtain ⟨n, hlevel⟩ := hlevel
      exact .inl ⟨⟨_, n⟩, .intro hsplit hname hexists hlevel⟩
    · cases level? with
      | none => exact absurd ⟨0, .absent⟩ hlevel
      | some level =>
        exact .inr ⟨_, .level hsplit hname hexists fun n hn => hlevel ⟨n, hn⟩⟩

theorem parse_eq_ok_iff : parse written = .ok spec ↔ spec.IsWritten written := by
  refine ⟨fun h => ?_, IsWritten.parse⟩
  obtain ⟨other, hother⟩ | ⟨error, herror⟩ := isWritten_or_fails written
  · exact Except.ok.inj (hother.parse.symm.trans h) ▸ hother
  · exact nomatch herror.parse.symm.trans h

theorem parse_eq_error_iff : parse written = .error error ↔ Fails written error := by
  refine ⟨fun h => ?_, Fails.parse⟩
  obtain ⟨other, hother⟩ | ⟨first, hfirst⟩ := isWritten_or_fails written
  · exact nomatch hother.parse.symm.trans h
  · exact Except.error.inj (hfirst.parse.symm.trans h) ▸ hfirst

theorem colon_notMem_of_blank {t : Text} (h : ∀ c ∈ t, Text.isBlankPoint c = true) :
    CodePoint.ofChar ':' ∉ t := by
  intro hcolon
  have hpoint : Text.isBlankPoint ':' = false := by decide
  exact absurd (h _ hcolon) (by simp [hpoint])

/-- A name and a written level with a colon between them, and blanks around both. -/
theorem isWritten_of_signedDecimal {name : Text} (hcolon : CodePoint.ofChar ':' ∉ name)
    (hname : ∃ c ∈ name, Text.isBlankPoint c = false) {k : Int}
    (hlength : (Text.decimal k.natAbs).length ≤ Text.maxDigits) {before after front back : Text}
    (hbefore : ∀ c ∈ before, Text.isBlankPoint c = true)
    (hafter : ∀ c ∈ after, Text.isBlankPoint c = true)
    (hfront : ∀ c ∈ front, Text.isLiteralBlank c = true)
    (hback : ∀ c ∈ back, Text.isLiteralBlank c = true) :
    IsWritten ⟨Text.strip name, k⟩ (before ++ name ++ after ++
      CodePoint.ofChar ':' :: (front ++ Text.signedDecimal k ++ back)) := by
  have hsurrounded : CodePoint.ofChar ':' ∉ before ++ name ++ after := by
    simp only [List.mem_append, not_or]
    exact ⟨⟨colon_notMem_of_blank hbefore, hcolon⟩, colon_notMem_of_blank hafter⟩
  obtain ⟨c, hc, hpoint⟩ := hname
  have hmem : c ∈ before ++ name ++ after :=
    List.mem_append_left _ (List.mem_append_right _ hc)
  have hliteral := Text.isInteger_signedDecimal hlength hfront hback
  exact .intro (.parts hsurrounded _) ((Text.isTrimmed_trim _ name).surround hbefore hafter)
    ⟨c, hmem, hpoint⟩ (.literal hliteral)

/-- A text is read if and only if it is a specification, and comes to what it specifies; any other
text is refused, as a bad value, for what it fails at. A name without a colon that is not blank and
a level of no more digits than can be read come back from the text that is made of them with a colon
in between, whatever blanks are put around the two. -/
theorem parse_grammar :
    (∀ written : Text,
      (∀ spec : Spec, Spec.parse written = .ok spec ↔ spec.IsWritten written) ∧
      (∀ error : SpecError, Spec.parse written = .error error ↔ Fails written error) ∧
      ((∀ spec : Spec, ¬ spec.IsWritten written) ↔
        ∃ error, Spec.parse written = .error error ∧ (Fault.channel error).kind = .value)) ∧
    ∀ (name : Text) (k : Int), CodePoint.ofChar ':' ∉ name →
      (∃ c ∈ name, Text.isBlankPoint c = false) →
      (Text.decimal k.natAbs).length ≤ Text.maxDigits →
      ∀ before after front back : Text, (∀ c ∈ before, Text.isBlankPoint c = true) →
        (∀ c ∈ after, Text.isBlankPoint c = true) → (∀ c ∈ front, Text.isLiteralBlank c = true) →
        (∀ c ∈ back, Text.isLiteralBlank c = true) →
        Spec.parse (before ++ name ++ after ++
            CodePoint.ofChar ':' :: (front ++ Text.signedDecimal k ++ back)) =
          .ok ⟨Text.strip name, k⟩ := by
  refine ⟨fun written => ⟨fun spec => parse_eq_ok_iff, fun error => parse_eq_error_iff, ?_⟩, ?_⟩
  · constructor
    · intro hnot
      obtain ⟨spec, hspec⟩ | ⟨error, herror⟩ := isWritten_or_fails written
      · exact absurd hspec (hnot spec)
      · exact ⟨error, herror.parse, rfl⟩
    · rintro ⟨error, herror, -⟩ spec hspec
      exact nomatch hspec.parse.symm.trans herror
  · intro name k hcolon hname hlength before after front back hbefore hafter hfront hback
    exact (isWritten_of_signedDecimal hcolon hname hlength hbefore hafter hfront hback).parse

/-- A name with a blank inside and blanks of several kinds around it and its level. -/
theorem parse_grammar_padded :
    Spec.parse "\x1c two words\t:\u00a0-120\n" = .ok ⟨"two words", -120⟩ := by
  refine parse_grammar.2 " two words" (-120) (by decide) ?_ (by decide) [0x1C] "\t" "\u00a0" "\n"
    (List.all_eq_true.mp rfl) (List.all_eq_true.mp rfl) (List.all_eq_true.mp rfl)
    (List.all_eq_true.mp rfl)
  exact ⟨'t', by decide, by decide⟩

/-- An information separator is white space, and yet no level is found behind it. -/
theorem parse_behind_separator :
    Spec.parse "a:\x1c1" = .error (.invalidLevel "\x1c1" "a") ∧
    ¬ ∀ (name front : Text) (k : Int), CodePoint.ofChar ':' ∉ name →
      (∃ c ∈ name, Text.isBlankPoint c = false) →
      (Text.decimal k.natAbs).length ≤ Text.maxDigits →
      (∀ c ∈ front, Text.isBlankPoint c = true) →
      Spec.parse (name ++ CodePoint.ofChar ':' :: (front ++ Text.signedDecimal k)) =
        .ok ⟨Text.strip name, k⟩ := by
  refine ⟨by decide, fun h => ?_⟩
  have hread := h "a" "\x1c" 1 (by decide) ⟨'a', by decide, by decide⟩ (by decide)
    (List.all_eq_true.mp rfl)
  revert hread
  decide

end Spec

end TargetHelp.Channel
