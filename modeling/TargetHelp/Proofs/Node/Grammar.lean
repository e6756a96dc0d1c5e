import TargetHelp.Proofs.Node.Codec

/-!
# The grammar of node records

A form says what the records of one kind hold: for each key whether its value is a text or a truth
value, and what it is where the key is absent. A JSON value is the record of a node if and only if
it is an object that one of three forms accepts. The node has the values of the form's keys and
depends on nothing else in the object: writing it gives the object reduced to these keys.
-/

set_option autoImplicit false
set_option relaxedAutoImplicit false

namespace TargetHelp.Node

open Session (bind_eq_ok_iff)

/-! ### Forms -/

inductive FieldType where
  | text
  | flag

def FieldType.Admits : FieldType → Json → Prop
  | .text, v => ∃ t, v = .str t
  | .flag, v => ∃ b, v = .bool b

/-- A key with the type of its value, and what the value is where the key is absent. A key without
such a default has to be there. -/
structure FieldRule where
  key : Text
  type : FieldType
  default? : Option Json := none

/-- The value of a rule's key among some fields, or the default. -/
def FieldRule.value? (r : FieldRule) (fields : Fields Json) : Option Json :=
  (Fields.get? r.key fields).or r.default?

def FieldRule.IsMet (r : FieldRule) (fields : Fields Json) : Prop :=
  ∃ v, r.value? fields = some v ∧ r.type.Admits v

structure Form where
  kind : Text
  rules : List FieldRule

namespace Form

def comment : Form where
  kind := "comment"
  rules := [⟨"target", .text, some (.str [])⟩, ⟨"value", .text, none⟩]

def target : Form where
  kind := "target"
  rules := [⟨"name", .text, none⟩]

def inclusion : Form where
  kind := "include"
  rules := [⟨"path", .text, none⟩, ⟨"optional", .flag, some (.bool false)⟩]

def all : List Form := [comment, target, inclusion]

/-- The keys that a form knows. -/
def keys (form : Form) : List Text := "kind" :: form.rules.map FieldRule.key

/-- Some fields are of the kind of a form and follow its rules. -/
structure Accepts (form : Form) (fields : Fields Json) : Prop where
  kind : Fields.get? "kind" fields = some (.str form.kind)
  rules : ∀ r ∈ form.rules, r.IsMet fields

/-- Some fields reduced to the keys of a form, with its defaults for those that are absent. -/
def reduced (form : Form) (fields : Fields Json) : Fields Json :=
  ("kind", .str form.kind) :: form.rules.filterMap fun r => (r.value? fields).map (r.key, ·)

theorem all_cases {motive : Form → Prop} (comment : motive comment) (target : motive target)
    (inclusion : motive inclusion) : ∀ form ∈ all, motive form := by
  simp only [all, List.forall_mem_cons]
  exact ⟨comment, target, inclusion, List.forall_mem_nil _⟩

/-- Fields of the kind of a form are read if and only if they follow its rules, and then as their
reduction. -/
structure Describes (form : Form) (fields : Fields Json) : Prop where
  rules : ∀ n, ofFields fields = .ok n → ∀ r ∈ form.rules, r.IsMet fields
  node : (∀ r ∈ form.rules, r.IsMet fields) →
    ∃ n, ofFields fields = .ok n ∧ n.toJson = .obj (form.reduced fields)

end Form

variable {fields : Fields Json}

theorem textField_eq_ok_iff {kind key t : Text} {default? : Option Text} :
    textField fields kind key default? = .ok t ↔
      (Fields.get? key fields).or (default?.map .str) = some (.str t) := by
  unfold textField
  cases Fields.get? key fields with
  | none => cases default? <;> simp
  | some v => cases v <;> simp

/-! ### One kind of records -/

theorem describes_comment (hkind : Fields.get? "kind" fields = some (.str commentKind)) :
    Form.comment.Describes fields := by
  have hread (n : Node) : ofFields fields = .ok n ↔
      ∃ t, (Fields.get? "target" fields).or (some (.str [])) = some (.str t) ∧
        ∃ v, (Fields.get? "value" fields).or none = some (.str v) ∧
          comment ⟨t, v⟩ = n := by
    unfold ofFields
    rw [hkind]
    dsimp only [Option.getD_some]
    rw [if_pos rfl]
    simp only [bind_eq_ok_iff, textField_eq_ok_iff, pure, Except.pure, Except.ok.injEq]
    rfl
  constructor
  · intro n hn
    obtain ⟨t, ht, v, hv, -⟩ := (hread n).mp hn
    simp only [Form.comment, List.forall_mem_cons]
    exact ⟨⟨_, ht, t, rfl⟩, ⟨_, hv, v, rfl⟩, List.forall_mem_nil _⟩
  · intro hrules
    simp only [Form.comment, List.forall_mem_cons] at hrules
    obtain ⟨⟨_, ht, t, rfl⟩, ⟨_, hv, v, rfl⟩, -⟩ := hrules
    refine ⟨comment ⟨t, v⟩, (hread _).mpr ⟨t, ht, v, hv, rfl⟩, ?_⟩
    simp only [Form.reduced, Form.comment, List.filterMap_cons, ht, hv]
    rfl

theorem describes_target (hkind : Fields.get? "kind" fields = some (.str targetKind)) :
    Form.target.Describes fields := by
  have hread (n : Node) : ofFields fields = .ok n ↔
      ∃ name, (Fields.get? "name" fields).or none = some (.str name) ∧ target name = n := by
    unfold ofFields
    rw [hkind]
    dsimp only [Option.getD_some]
    rw [if_neg (by decide), if_pos rfl]
    simp only [bind_eq_ok_iff, textField_eq_ok_iff, pure, Except.pure, Except.ok.injEq]
    rfl
  constructor
  · intro n hn
    obtain ⟨name, hname, -⟩ := (hread n).mp hn
    exact List.forall_mem_singleton.mpr ⟨_, hname, name, rfl⟩
  · intro hrules
    obtain ⟨_, hname, name, rfl⟩ := List.forall_mem_singleton.mp hrules
    refine ⟨target name, (hread _).mpr ⟨name, hname, rfl⟩, ?_⟩
    simp only [Form.reduced, Form.target, List.filterMap_cons, hname]
    rfl

theorem describes_inclusion (hkind : Fields.get? "kind" fields = some (.str includeKind)) :
    Form.inclusion.Describes fields := by
  -- The key that may be absent is looked at first.
  have hread (n : Node) : ofFields fields = .ok n ↔
      ∃ isOptional, (Fields.get? "optional" fields).or (some (.bool false)) =
          some (.bool isOptional) ∧
        ∃ path, (Fields.get? "path" fields).or none = some (.str path) ∧
          «include» path isOptional = n := by
    unfold ofFields
    rw [hkind]
    dsimp only [Option.getD_some]
    rw [if_neg (by decide), if_neg (by decide), if_pos rfl]
    cases Fields.get? "optional" fields with
    | none => simp [bind_eq_ok_iff, textField_eq_ok_iff, pure, Except.pure]
    | some v => cases v <;> simp [bind_eq_ok_iff, textField_eq_ok_iff, pure, Except.pure]
  constructor
  · intro n hn
    obtain ⟨isOptional, hoptional, path, hpath, -⟩ := (hread n).mp hn
    simp only [Form.inclusion, List.forall_mem_cons]
    exact ⟨⟨_, hpath, path, rfl⟩, ⟨_, hoptional, isOptional, rfl⟩, List.forall_mem_nil _⟩
  · intro hrules
    simp only [Form.inclusion, List.forall_mem_cons] at hrules
    obtain ⟨⟨_, hpath, path, rfl⟩, ⟨_, hoptional, isOptional, rfl⟩, -⟩ := hrules
    refine ⟨«include» path isOptional, (hread _).mpr ⟨isOptional, hoptional, path, hpath, rfl⟩, ?_⟩
    simp only [Form.reduced, Form.inclusion, List.filterMap_cons, hpath, hoptional]
    rfl

/-! ### All records -/

theorem Form.describes {form : Form} (hform : form ∈ all)
    (hkind : Fields.get? "kind" fields = some (.str form.kind)) : form.Describes fields := by
  revert hkind
  exact all_cases (motive := fun form =>
    Fields.get? "kind" fields = some (.str form.kind) → form.Describes fields)
    describes_comment describes_target describes_inclusion form hform

/-- A record that is read has the kind of a form. -/
theorem exists_kind_of_ofFields {n : Node} (h : ofFields fields = .ok n) :
    ∃ form ∈ Form.all, Fields.get? "kind" fields = some (.str form.kind) := by
  unfold ofFields at h
  dsimp only at h
  cases hkind : Fields.get? "kind" fields with
  | none =>
    rw [hkind] at h
    cases h
  | some kind =>
    rw [hkind] at h
    dsimp only [Option.getD_some] at h
    split at h
    · simp only [Form.all, List.mem_cons, exists_eq_or_imp]
      split_ifs at h with hcomment htarget hinclude
      · exact Or.inl (hcomment ▸ rfl)
      · exact Or.inr (Or.inl (htarget ▸ rfl))
      · exact Or.inr (Or.inr (Or.inl (hinclude ▸ rfl)))
    · cases h

theorem exists_form_of_ofFields {n : Node} (h : ofFields fields = .ok n) :
    ∃ form ∈ Form.all, form.Accepts fields := by
  obtain ⟨form, hform, hkind⟩ := exists_kind_of_ofFields h
  exact ⟨form, hform, hkind, (Form.describes hform hkind).rules n h⟩

theorem Form.Accepts.exists_node {form : Form} (hform : form ∈ Form.all)
    (h : form.Accepts fields) :
    ∃ n, ofFields fields = .ok n ∧ n.toJson = .obj (form.reduced fields) :=
  (Form.describes hform h.kind).node h.rules

/-- What a form reads depends on the keys that it knows. -/
theorem Form.Accepts.congr {form : Form} {others : Fields Json} (h : form.Accepts fields)
    (hsame : ∀ key ∈ form.keys, Fields.get? key others = Fields.get? key fields) :
    form.Accepts others ∧ form.reduced others = form.reduced fields := by
  obtain ⟨hkind, hrules⟩ := List.forall_mem_cons.mp hsame
  have hvalue : ∀ r ∈ form.rules, r.value? others = r.value? fields := fun r hr =>
    congrArg (·.or r.default?) (hrules r.key (List.mem_map_of_mem hr))
  refine ⟨⟨hkind.trans h.kind, fun r hr => ?_⟩, ?_⟩
  · unfold FieldRule.IsMet
    rw [hvalue r hr]
    exact h.rules r hr
  · unfold Form.reduced
    refine congrArg _ (List.filterMap_congr fun r hr => ?_)
    rw [hvalue r hr]

/-- The reduction of what a form accepts has all the keys of the form and no others. -/
theorem Form.Accepts.keys_reduced {form : Form} (h : form.Accepts fields) :
    (form.reduced fields).keys = form.keys := by
  have hrules : ∀ rules : List FieldRule, (∀ r ∈ rules, r.IsMet fields) →
      Fields.keys (rules.filterMap fun r => (r.value? fields).map (r.key, ·)) =
        rules.map FieldRule.key := by
    intro rules
    induction rules with
    | nil => exact fun _ => rfl
    | cons r rules ih =>
      intro hmet
      obtain ⟨⟨v, hv, -⟩, hmet⟩ := List.forall_mem_cons.mp hmet
      rw [List.filterMap_cons, hv]
      exact congrArg _ (ih hmet)
  exact congrArg _ (hrules form.rules h.rules)

theorem toJson_injective {m n : Node} (h : m.toJson = n.toJson) : m = n := by
  have hok := congrArg ofJson h
  rw [ofJson_toJson, ofJson_toJson] at hok
  exact Except.ok.inj hok

/-- What a line comes to whose text is a JSON value that is no record. -/
theorem ofLine_of_error {v : Json} {error : RecordError} (h : ofJson v = .error error)
    {line : Text} (hline : Json.read line = .ok v) (number : Nat) :
    ofLine number line = .error (.parse error.message (some number)) := by
  unfold ofLine
  rw [hline]
  dsimp only
  rw [h]

/-- A JSON value is read as a node if and only if it is an object that one of the forms accepts;
any other is refused, and a line that holds it is so with its number. What a form accepts is read as
the node whose record is the object reduced to the keys of the form, and so is every object that
agrees with it on these keys. The record of every node is read as that node. -/
theorem ofJson_grammar :
    (∀ v : Json,
      ((∃ n, ofJson v = .ok n) ↔
        ∃ form ∈ Form.all, ∃ fields, v = .obj fields ∧ form.Accepts fields) ∧
      ((¬ ∃ form ∈ Form.all, ∃ fields, v = .obj fields ∧ form.Accepts fields) →
        ∃ error, ofJson v = .error error ∧ ∀ number line, Json.read line = .ok v →
          ofLine number line = .error (.parse error.message (some number)))) ∧
    (∀ form ∈ Form.all, ∀ fields, form.Accepts fields →
      (form.reduced fields).keys = form.keys ∧
        ∃ n, ofJson (.obj fields) = .ok n ∧ n.toJson = .obj (form.reduced fields) ∧
          ∀ others, (∀ key ∈ form.keys, Fields.get? key others = Fields.get? key fields) →
            ofJson (.obj others) = .ok n) ∧
    ∀ n : Node, ofJson n.toJson = .ok n := by
  have haccepts (v : Json) : (∃ n, ofJson v = .ok n) ↔
      ∃ form ∈ Form.all, ∃ fields, v = .obj fields ∧ form.Accepts fields := by
    constructor
    · rintro ⟨n, hn⟩
      cases v with
      | obj fields =>
        obtain ⟨form, hform, haccepts⟩ := exists_form_of_ofFields hn
        exact ⟨form, hform, fields, rfl, haccepts⟩
      | _ => cases hn
    · rintro ⟨form, hform, fields, rfl, haccepts⟩
      obtain ⟨n, hn, -⟩ := haccepts.exists_node hform
      exact ⟨n, hn⟩
  refine ⟨fun v => ⟨haccepts v, fun hnot => ?_⟩, fun form hform fields h => ?_, ofJson_toJson⟩
  · cases hv : ofJson v with
    | ok n => exact absurd ((haccepts v).mp ⟨n, hv⟩) hnot
    | error error => exact ⟨error, rfl, fun number line hline => ofLine_of_error hv hline number⟩
  · obtain ⟨n, hn, hrecord⟩ := h.exists_node hform
    refine ⟨h.keys_reduced, n, hn, hrecord, fun others hsame => ?_⟩
    -- The node that the other fields give has the same record.
    obtain ⟨hothers, hreduced⟩ := h.congr hsame
    obtain ⟨m, hm, hrecord'⟩ := hothers.exists_node hform
    rw [hreduced, ← hrecord] at hrecord'
    rw [toJson_injective hrecord'] at hm
    exact hm

/-- Keys in any order, one of no meaning, a default, and a null where a text may be left out. -/
example : ofJson (.obj [("value", .str "Builds."), ("note", .null), ("kind", .str "comment")]) =
      .ok (.comment ⟨[], "Builds."⟩) ∧
    ofJson (.obj [("kind", .str "comment"), ("target", .null), ("value", .str "Builds.")]) =
      .error (.notText "comment" "target") :=
  ⟨rfl, rfl⟩

end TargetHelp.Node
