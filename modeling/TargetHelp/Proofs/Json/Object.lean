import TargetHelp.Proofs.Json.Escape

/-!
# Reading objects back

A value reads back if the reader, wherever it expects a value, has that value complete behind what
it is written as. Texts without pairs of surrogates do, and so does an object of such values under
such keys, as long as no key stands twice.
-/

set_option autoImplicit false
set_option relaxedAutoImplicit false

namespace TargetHelp.Json

/-- Behind what it is written as, the value is complete, in whatever containers it stands. -/
def ReadsBack (v : Json) : Prop :=
  ∀ (stack : List Frame) (opened : Bool), run (.value stack opened) v.encode = .after stack v

theorem readsBack_str {t : Text} (ht : t.Unpaired) : ReadsBack (.str t) := by
  intro stack opened
  have hclose := run_encodeText_tail (.value stack) ht
  rw [encode, encodeText, List.cons_append, run_cons]
  change run (.string (.value stack) [] .plain) _ = _
  rw [hclose, Role.close, List.reverse_reverse]

theorem readsBack_bool (b : Bool) : ReadsBack (.bool b) := by
  intro stack opened
  cases b <;> rfl

/-! ### Fields -/

theorem run_key {key : Text} (hkey : key.Unpaired) (stack : List Frame) (fields : Fields Json)
    (opened : Bool) :
    run (.key stack fields opened) (encodeText key) = .colon stack fields key := by
  have hclose := run_encodeText_tail (.key stack fields) hkey
  rw [encodeText, List.cons_append, run_cons]
  change run (.string (.key stack fields) [] .plain) _ = _
  rw [hclose, Role.close, List.reverse_reverse]

theorem run_field {key : Text} {v : Json} (hkey : key.Unpaired) (hv : v.ReadsBack)
    (stack : List Frame) (fields : Fields Json) (opened : Bool) :
    run (.key stack fields opened) (encodeText key ++ ": " ++ v.encode) =
      .after (.object fields key :: stack) v := by
  have hcolon : run (.colon stack fields key) ": " = .value (.object fields key :: stack) false :=
    rfl
  rw [run_append, run_append, run_key hkey, hcolon, hv]

/-- Fields set one after the other. -/
def setAll (fields more : Fields Json) : Fields Json :=
  more.foldl (fun fields field => fields.set field.1 field.2) fields

theorem set_of_notMem {fields : Fields Json} {key : Text} (h : key ∉ fields.keys) (v : Json) :
    fields.set key v = fields ++ [(key, v)] := by
  induction fields with
  | nil => rfl
  | cons field fields ih =>
    have hne : field.1 ≠ key := fun heq => h (by simp [Fields.keys, heq])
    have hrest : key ∉ Fields.keys fields := fun hm => h (List.mem_cons_of_mem field.1 hm)
    rw [Fields.set, if_neg hne, ih hrest]
    rfl

/-- Fields under new keys that differ from one another are added at the end. -/
theorem setAll_eq_append {fields more : Fields Json} (h : (fields ++ more).keys.Nodup) :
    setAll fields more = fields ++ more := by
  induction more generalizing fields with
  | nil => exact (List.append_nil fields).symm
  | cons field more ih =>
    have hkeys : (Fields.keys fields ++ field.1 :: Fields.keys more).Nodup := by
      simpa only [Fields.keys, List.map_append, List.map_cons] using h
    have hnew : field.1 ∉ Fields.keys fields := fun hm =>
      (List.nodup_append.mp hkeys).2.2 _ hm _ List.mem_cons_self rfl
    have hset : Fields.set field.1 field.2 fields = fields ++ [field] := set_of_notMem hnew field.2
    have hassoc : (fields ++ [field]) ++ more = fields ++ field :: more := by
      rw [List.append_assoc, List.singleton_append]
    change setAll (Fields.set field.1 field.2 fields) more = _
    rw [hset, ih (by rw [hassoc]; exact h), hassoc]

/-- Fields that may follow one another in an object which comes back. -/
def FieldsReadBack (fields : Fields Json) : Prop :=
  ∀ field ∈ fields, field.1.Unpaired ∧ field.2.ReadsBack

theorem run_fields {field : Text × Json} {more : Fields Json}
    (h : FieldsReadBack (field :: more)) (stack : List Frame) (read : Fields Json)
    (opened : Bool) :
    run (.key stack read opened)
        (Text.join ", " (encodeFields (field :: more)) ++ [CodePoint.ofChar '\x7d']) =
      .after stack (.obj (setAll read (field :: more))) := by
  induction more generalizing field read opened with
  | nil =>
    obtain ⟨hkey, hv⟩ := h field List.mem_cons_self
    obtain ⟨key, v⟩ := field
    change run _ ((encodeText key ++ ": " ++ v.encode) ++ _) = _
    rw [run_append, run_field hkey hv]
    rfl
  | cons next more ih =>
    obtain ⟨hkey, hv⟩ := h field List.mem_cons_self
    obtain ⟨key, v⟩ := field
    have hrest : FieldsReadBack (next :: more) :=
      fun other hm => h other (List.mem_cons_of_mem _ hm)
    have hcomma : run (.after (.object read key :: stack) v) ", " =
        .key stack (read.set key v) false := rfl
    have hne : encodeFields (next :: more) ≠ [] := by simp [encodeFields]
    change run _ (Text.join ", " ((encodeText key ++ ": " ++ v.encode) ::
      encodeFields (next :: more)) ++ _) = _
    rw [Text.join_cons hne, List.append_assoc, List.append_assoc, run_append, run_field hkey hv,
      run_append, hcomma, ih hrest]
    rfl

/-! ### Objects -/

theorem run_obj {field : Text × Json} {more : Fields Json} (h : FieldsReadBack (field :: more))
    (hkeys : (Fields.keys (field :: more)).Nodup) (stack : List Frame)
    (hdepth : stack.length < maxDepth) (opened : Bool) :
    run (.value stack opened) (encode (.obj (field :: more))) =
      .after stack (.obj (field :: more)) := by
  have hopen : step (.value stack opened) (CodePoint.ofChar '\x7b') = .key stack [] true := by
    change (if maxDepth ≤ stack.length then _ else _) = _
    rw [if_neg (by omega)]
  rw [encode]
  change run (step (.value stack opened) (CodePoint.ofChar '\x7b'))
    (Text.join ", " (encodeFields (field :: more)) ++ [CodePoint.ofChar '\x7d']) = _
  rw [hopen, run_fields h, setAll_eq_append hkeys]
  rfl

/-- An object on a line of its own comes back, and so it does without the line end. -/
theorem read_obj {field : Text × Json} {more : Fields Json} (h : FieldsReadBack (field :: more))
    (hkeys : (Fields.keys (field :: more)).Nodup) :
    read (encode (.obj (field :: more)) ++ [Text.lineFeed]) = .ok (.obj (field :: more)) := by
  have hrun := run_obj h hkeys [] (by decide) false
  have hstart : run .start (encode (.obj (field :: more))) = .after [] (.obj (field :: more)) := by
    rw [← hrun, encode]
    rfl
  rw [read, run_append, hstart]
  rfl

theorem printableAscii_join {sep : Text} (hsep : sep.PrintableAscii) {ts : List Text}
    (h : ∀ t ∈ ts, t.PrintableAscii) : (Text.join sep ts).PrintableAscii := by
  induction ts with
  | nil => exact fun c hc => nomatch hc
  | cons t ts ih =>
    have ht := h t List.mem_cons_self
    by_cases hts : ts = []
    · subst hts
      exact ht
    · rw [Text.join_cons hts]
      exact (ht.append hsep).append (ih fun u hu => h u (List.mem_cons_of_mem t hu))

theorem printableAscii_obj {fields : Fields Json}
    (h : ∀ field ∈ fields, field.2.encode.PrintableAscii) :
    (encode (.obj fields)).PrintableAscii := by
  have hsep : Text.PrintableAscii ": " := by decide
  have hfields : ∀ t ∈ encodeFields fields, t.PrintableAscii := by
    induction fields with
    | nil => exact fun t ht => nomatch ht
    | cons field fields ih =>
      intro t ht
      rw [encodeFields] at ht
      rcases List.mem_cons.mp ht with rfl | ht
      · exact ((printableAscii_encodeText field.1).append hsep).append (h field List.mem_cons_self)
      · exact ih (fun other hm => h other (List.mem_cons_of_mem field hm)) t ht
  have hopen : Text.PrintableAscii "\x7b" := by decide
  have hclose : Text.PrintableAscii "\x7d" := by decide
  have hcomma : Text.PrintableAscii ", " := by decide
  rw [encode]
  exact (hopen.append (printableAscii_join hcomma hfields)).append hclose

end TargetHelp.Json
