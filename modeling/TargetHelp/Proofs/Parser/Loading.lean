import TargetHelp.Proofs.Diagnostics.Outcome
import TargetHelp.Proofs.Parser.Listing
import TargetHelp.Proofs.Text.Pieces

/-!
# Loading parsers by their specifications

A specification leads to a callable if its parts do: the module before its first colon is there, as
is every module around it, and the names behind the colon lead from it to something that can be
called. `Loading` says what loading comes to otherwise. A name that leads nowhere is a missing
member, whatever it is looked for in, so these faults are load errors. Four others break the loading
off in a way of their own: that of a module named relative to another, that of a module with more
parts in its name than the stack has room for, and those that the code of a module or a look-up
raises, unless they say that there is no such module or no such member.
-/

set_option autoImplicit false
set_option relaxedAutoImplicit false

namespace TargetHelp

open Session (bind_eq_ok_iff)

/-! ### Specifications -/

namespace Parser.Spec

/-- A text is the module and the path of a specification with a colon between them, the first. -/
structure IsWritten (spec : Spec) (written : Text) : Prop where
  text : written = spec.moduleName ++ CodePoint.ofChar ':' :: spec.path
  first : CodePoint.ofChar ':' ∉ spec.moduleName
  moduleName : spec.moduleName ≠ []
  path : spec.path ≠ []

/-- The module is named relative to another. -/
def IsRelative (spec : Spec) : Prop := ∃ rest, spec.moduleName = CodePoint.ofChar '.' :: rest

/-- Some names with dots between them are the path of a specification. -/
structure HasNames (spec : Spec) (names : List Text) : Prop where
  ne_nil : names ≠ []
  text : Text.join [CodePoint.ofChar '.'] names = spec.path
  noDot : ∀ name ∈ names, CodePoint.ofChar '.' ∉ name

theorem splitAll_path_eq_iff {spec : Spec} {names : List Text} :
    Text.splitAll '.' spec.path = names ↔ spec.HasNames names := by
  rw [Text.splitAll_eq_iff]
  exact ⟨fun ⟨hne, htext, hnoDot⟩ => ⟨hne, htext, hnoDot⟩, fun ⟨hne, htext, hnoDot⟩ =>
    ⟨hne, htext, hnoDot⟩⟩

theorem startsWith_iff {spec : Spec} :
    Text.startsWith "." spec.moduleName = true ↔ spec.IsRelative := by
  unfold Text.startsWith IsRelative
  rw [List.isPrefixOf_iff_prefix]
  exact ⟨fun ⟨rest, hrest⟩ => ⟨rest, hrest.symm⟩, fun ⟨rest, hrest⟩ => ⟨rest, hrest.symm⟩⟩

theorem IsWritten.parse {spec : Spec} {written : Text} (h : spec.IsWritten written) :
    Spec.parse written = .ok spec := by
  unfold Spec.parse
  rw [h.text, Text.splitFirst_append h.first]
  dsimp only
  rw [if_neg]
  rw [List.isEmpty_iff, List.isEmpty_iff]
  exact fun hor => hor.elim h.moduleName h.path

/-- A text that is no written specification is malformed. -/
theorem parse_of_not_isWritten {written : Text} (h : ∀ spec : Spec, ¬ spec.IsWritten written) :
    Spec.parse written = .error (.malformed written) := by
  unfold Spec.parse
  by_cases hcolon : CodePoint.ofChar ':' ∈ written
  · obtain ⟨front, back, rfl, hfront⟩ := Text.exists_first hcolon
    rw [Text.splitFirst_append hfront]
    dsimp only
    rw [if_pos]
    rw [List.isEmpty_iff, List.isEmpty_iff]
    by_cases hempty : front = []
    · exact Or.inl hempty
    · by_cases hback : back = []
      · exact Or.inr hback
      · exact absurd ⟨rfl, hfront, hempty, hback⟩ (h ⟨front, back⟩)
  · rw [Text.splitFirst_of_notMem hcolon]

theorem parse_eq_ok_iff {spec : Spec} {written : Text} :
    Spec.parse written = .ok spec ↔ spec.IsWritten written := by
  refine ⟨fun h => ?_, IsWritten.parse⟩
  by_cases hwritten : ∃ other : Spec, other.IsWritten written
  · obtain ⟨other, hother⟩ := hwritten
    obtain rfl : other = spec := Except.ok.inj (hother.parse.symm.trans h)
    exact hother
  · rw [parse_of_not_isWritten fun other hother => hwritten ⟨other, hother⟩] at h
    cases h

end Parser.Spec

namespace Catalogue

variable {catalogue : Catalogue}

/-! ### Modules -/

/-- A module is there under a name, to be imported by it. -/
structure Offers (catalogue : Catalogue) (name : Text) (m : Module) : Prop where
  found : catalogue.module? name = some m
  isOffered : m.isOffered = true
  members : ∃ members, m.members = .ok members

/-- A module is there under a dotted name, as is one under every beginning of it up to a dot. -/
structure Imports (catalogue : Catalogue) (name : Text) (m : Module) : Prop where
  offers : catalogue.Offers name m
  outer : ∀ front back, name = front ++ CodePoint.ofChar '.' :: back →
    ∃ outer, catalogue.Offers front outer

theorem Offers.name_eq {name : Text} {m : Module} (h : catalogue.Offers name m) :
    m.name = name := by
  have hname := List.find?_some (p := fun m : Module => decide (m.name = name)) h.found
  exact of_decide_eq_true hname

theorem importPart_eq_ok_iff {parent? : Option Module} {part : Text} {m : Module} :
    catalogue.importPart parent? part = .ok m ↔
      catalogue.Offers (childName parent? part) m := by
  unfold importPart
  dsimp only
  constructor
  · intro h
    split at h
    · rename_i found hfound
      obtain ⟨hmodule, hoffered⟩ := Option.filter_eq_some_iff.mp hfound
      split at h
      · rename_i members hmembers
        obtain rfl := Except.ok.inj h
        exact ⟨hmodule, hoffered, members, hmembers⟩
      · cases h
    · split at h
      · split at h <;> cases h
      · cases h
  · rintro ⟨hfound, hoffered, members, hmembers⟩
    rw [hfound, Option.filter_some, if_pos hoffered]
    dsimp only
    rw [hmembers]

/-- The module that some parts of a dotted name lead to, none if there are no parts. -/
def reach (catalogue : Catalogue) (parts : List Text) : Except ImportFault (Option Module) :=
  parts.foldlM (fun parent? part => do return some (← catalogue.importPart parent? part)) none

theorem reach_append_eq_ok_iff {parts : List Text} {part : Text} {found? : Option Module} :
    catalogue.reach (parts ++ [part]) = .ok found? ↔
      ∃ outer?, catalogue.reach parts = .ok outer? ∧
        ∃ m, catalogue.importPart outer? part = .ok m ∧ some m = found? := by
  unfold reach
  simp only [List.foldlM_append, List.foldlM_cons, List.foldlM_nil, bind_eq_ok_iff, pure,
    Except.pure, Except.ok.injEq]
  refine exists_congr fun outer? => and_congr Iff.rfl ?_
  exact ⟨fun ⟨_, ⟨m, hm, hfound⟩, hlast⟩ => ⟨m, hm, hfound.trans hlast⟩,
    fun ⟨m, hm, hfound⟩ => ⟨some m, ⟨m, hm, rfl⟩, hfound⟩⟩

theorem reach_of_notMem {name : Text} (h : CodePoint.ofChar '.' ∉ name) {m : Module} :
    catalogue.reach (Text.splitAll '.' name) = .ok (some m) ↔ catalogue.Offers name m := by
  rw [Text.splitAll_of_notMem h, ← List.nil_append [name], reach_append_eq_ok_iff]
  constructor
  · rintro ⟨outer?, houter, found, hfound, heq⟩
    obtain rfl : none = outer? := Except.ok.inj houter
    obtain rfl := Option.some.inj heq
    exact importPart_eq_ok_iff.mp hfound
  · exact fun hm => ⟨none, rfl, m, importPart_eq_ok_iff.mpr hm, rfl⟩

theorem exists_of_reach {parts : List Text} (hne : parts ≠ []) {found? : Option Module}
    (h : catalogue.reach parts = .ok found?) : ∃ m, found? = some m := by
  rw [← List.dropLast_concat_getLast hne] at h
  obtain ⟨_, -, m, -, hm⟩ := reach_append_eq_ok_iff.mp h
  exact ⟨m, hm.symm⟩

/-- What stands behind the last dot is looked for in the module before it. -/
theorem reach_splitAll_append_eq_ok_iff {front last : Text} (h : CodePoint.ofChar '.' ∉ last)
    {m : Module} :
    catalogue.reach (Text.splitAll '.' (front ++ CodePoint.ofChar '.' :: last)) = .ok (some m) ↔
      ∃ outer, catalogue.reach (Text.splitAll '.' front) = .ok (some outer) ∧
        catalogue.Offers (outer.name ++ CodePoint.ofChar '.' :: last) m := by
  rw [Text.splitAll_append, Text.splitAll_of_notMem h, reach_append_eq_ok_iff]
  constructor
  · rintro ⟨outer?, houter, found, hfound, heq⟩
    obtain ⟨outer, rfl⟩ := exists_of_reach (Text.splitAll_ne_nil _ _) houter
    obtain rfl := Option.some.inj heq
    exact ⟨outer, houter, importPart_eq_ok_iff.mp hfound⟩
  · rintro ⟨outer, houter, hm⟩
    exact ⟨some outer, houter, m, importPart_eq_ok_iff.mpr hm, rfl⟩

/-- The modules around one behind a dot are the one before the dot and those around that. -/
theorem imports_append_iff {front last : Text} (h : CodePoint.ofChar '.' ∉ last) {m : Module} :
    catalogue.Imports (front ++ CodePoint.ofChar '.' :: last) m ↔
      ∃ outer, catalogue.Imports front outer ∧
        catalogue.Offers (front ++ CodePoint.ofChar '.' :: last) m := by
  constructor
  · intro hm
    obtain ⟨outer, houter⟩ := hm.outer front last rfl
    refine ⟨outer, ⟨houter, fun begin rest hfront => ?_⟩, hm.offers⟩
    exact hm.outer begin (rest ++ CodePoint.ofChar '.' :: last) (by simp [hfront])
  · rintro ⟨outer, houter, hm⟩
    refine ⟨hm, fun begin rest hname => ?_⟩
    -- The dot of a beginning is the last one or stands before it.
    rcases List.append_eq_append_iff.mp hname with ⟨more, rfl, hlast⟩ | ⟨more, rfl, hrest⟩
    · cases more with
      | nil => exact ⟨outer, by simpa using houter.offers⟩
      | cons c more =>
        obtain ⟨rfl, rfl⟩ := List.cons.inj hlast
        exact absurd (by simp) h
    · cases more with
      | nil => exact ⟨outer, by simpa using houter.offers⟩
      | cons c more =>
        obtain ⟨rfl, -⟩ := List.cons.inj hrest
        exact houter.outer begin more rfl

theorem reach_splitAll_eq_ok_iff {name : Text} {m : Module} :
    catalogue.reach (Text.splitAll '.' name) = .ok (some m) ↔ catalogue.Imports name m := by
  induction hlength : name.length using Nat.strongRecOn generalizing name m with
  | _ length ih =>
    by_cases hdot : CodePoint.ofChar '.' ∈ name
    · obtain ⟨front, last, rfl, hlast⟩ := Text.exists_last hdot
      have hshorter : front.length < length := by
        rw [← hlength, List.length_append, List.length_cons]
        omega
      rw [reach_splitAll_append_eq_ok_iff hlast, imports_append_iff hlast]
      refine exists_congr fun outer => ?_
      rw [ih front.length hshorter rfl]
      refine and_congr_right fun houter => ?_
      rw [houter.offers.name_eq]
    · rw [reach_of_notMem hdot]
      exact ⟨fun h => ⟨h, fun front back hname => absurd (by simp [hname]) hdot⟩, Imports.offers⟩

/-- The stack has room for the parts of a dotted name. -/
def HasRoom (catalogue : Catalogue) (name : Text) : Prop :=
  (Text.splitAll '.' name).length ≤ catalogue.room

theorem importModule_of_not_hasRoom {name : Text} (h : ¬ catalogue.HasRoom name) :
    catalogue.importModule name = .error (.raised tooDeep) := by
  unfold importModule
  exact if_pos (Nat.not_le.mp h)

theorem importModule_of_hasRoom {name : Text} (h : catalogue.HasRoom name) :
    catalogue.importModule name = (catalogue.reach (Text.splitAll '.' name)).bind fun found? =>
      (match found? with
        | some m => .ok m
        | none => .error (.absent (.missing name)) : Except ImportFault Module) := by
  unfold importModule
  exact if_neg (Nat.not_lt.mpr h)

/-- A module is imported by a dotted name if and only if there is room for the parts of that, and it
and all the modules around it are there. -/
theorem importModule_eq_ok_iff {name : Text} {m : Module} :
    catalogue.importModule name = .ok m ↔
      catalogue.HasRoom name ∧ catalogue.Imports name m := by
  by_cases hroom : catalogue.HasRoom name
  · rw [importModule_of_hasRoom hroom, ← reach_splitAll_eq_ok_iff]
    refine (bind_eq_ok_iff (x := catalogue.reach (Text.splitAll '.' name))).trans ?_
    constructor
    · rintro ⟨found?, hfound, h⟩
      cases found? with
      | none => cases h
      | some found =>
        exact ⟨hroom, hfound.trans (congrArg (fun m => Except.ok (some m)) (Except.ok.inj h))⟩
    · exact fun h => ⟨some m, h.2, rfl⟩
  · rw [importModule_of_not_hasRoom hroom]
    exact ⟨fun h => (nomatch h), fun h => absurd h.1 hroom⟩

theorem importPart_eq_raised {parent? : Option Module} {part : Text} {fault : Fault}
    (h : catalogue.importPart parent? part = .error (.raised fault)) :
    ∃ m ∈ catalogue.modules, m.members = .error fault ∧ fault.isImport = false := by
  unfold importPart at h
  dsimp only at h
  split at h
  · rename_i m hfound
    obtain ⟨hmodule, -⟩ := Option.filter_eq_some_iff.mp hfound
    split at h
    · cases h
    · rename_i raised hmembers
      unfold ImportFault.ofCode at h
      split at h
      · cases h
      · rename_i hother
        cases h
        exact ⟨m, List.mem_of_find?_eq_some hmodule, hmembers, Bool.eq_false_iff.mpr hother⟩
  · split at h
    · split at h <;> cases h
    · cases h

/-- What a module raises is raised by the code of one that it consists of, if there is room for its
name. -/
theorem importModule_eq_raised {name : Text} {fault : Fault} (hroom : catalogue.HasRoom name)
    (h : catalogue.importModule name = .error (.raised fault)) :
    ∃ m ∈ catalogue.modules, m.members = .error fault ∧ fault.isImport = false := by
  have hreach {parts : List Text} {start : Option Module} (h : parts.foldlM (fun parent? part =>
      do return some (← catalogue.importPart parent? part)) start = .error (.raised fault)) :
      ∃ m ∈ catalogue.modules, m.members = .error fault ∧ fault.isImport = false := by
    induction parts generalizing start with
    | nil => cases h
    | cons part parts ih =>
      rw [List.foldlM_cons] at h
      cases hpart : catalogue.importPart start part with
      | error f =>
        rw [hpart] at h
        exact importPart_eq_raised (hpart.trans (congrArg Except.error (Except.error.inj h)))
      | ok m =>
        rw [hpart] at h
        exact ih h
  rw [importModule_of_hasRoom hroom] at h
  cases hr : catalogue.reach (Text.splitAll '.' name) with
  | error f =>
    rw [hr] at h
    exact hreach (hr.trans (congrArg Except.error (Except.error.inj h)))
  | ok found? =>
    rw [hr] at h
    cases found? with
    | none => cases h
    | some m => cases h

/-! ### Members -/

/-- Names lead from a thing to another one, each to a member of what the one before leads to. -/
inductive Leads (catalogue : Catalogue) : Thing → List Text → Thing → Prop
  | here {thing : Thing} : Leads catalogue thing [] thing
  | member {thing next found : Thing} {name : Text} {names : List Text}
      (h : catalogue.lead thing name = .ok next) (hrest : Leads catalogue next names found) :
      Leads catalogue thing (name :: names) found

theorem follow_eq_ok_iff {thing found : Thing} {names : List Text} :
    catalogue.follow thing names = .ok found ↔ catalogue.Leads thing names found := by
  unfold follow
  induction names generalizing thing with
  | nil =>
    exact ⟨fun h => Except.ok.inj h ▸ .here, fun h => by cases h; rfl⟩
  | cons name names ih =>
    rw [List.foldlM_cons, bind_eq_ok_iff]
    constructor
    · rintro ⟨next, hnext, hrest⟩
      exact .member hnext (ih.mp hrest)
    · rintro (_ | ⟨hnext, hrest⟩)
      exact ⟨_, hnext, ih.mpr hrest⟩

/-- Where names lead nowhere, some of them lead to a thing from which the next does not lead on. -/
theorem exists_of_follow_eq_error {thing : Thing} {names : List Text} {fault : Fault}
    (h : catalogue.follow thing names = .error fault) :
    ∃ front name back reached, names = front ++ name :: back ∧
      catalogue.Leads thing front reached ∧ catalogue.lead reached name = .error fault := by
  unfold follow at h
  induction names generalizing thing with
  | nil => cases h
  | cons name names ih =>
    rw [List.foldlM_cons] at h
    rcases hmember : catalogue.lead thing name with missing | next
    · rw [hmember] at h
      exact ⟨[], name, names, thing, rfl, .here, hmember.trans h⟩
    · rw [hmember] at h
      obtain ⟨front, other, back, reached, rfl, hfront, hmissing⟩ := ih h
      exact ⟨name :: front, other, back, reached, rfl, .member hmember hfront, hmissing⟩

theorem follow_eq_error {thing reached : Thing} {front : List Text} {name : Text}
    {fault : Fault} (hfront : catalogue.Leads thing front reached)
    (hmissing : catalogue.lead reached name = .error fault) (back : List Text) :
    catalogue.follow thing (front ++ name :: back) = .error fault := by
  rw [follow_append, follow_eq_ok_iff.mpr hfront]
  change (catalogue.lead reached name >>= _) = _
  rw [hmissing]
  rfl

/-! ### Missing members -/

theorem family_noMember (thing : Thing) (name : Text) :
    (catalogue.noMember thing name).family = .member := by
  unfold noMember
  split <;> rfl

theorem family_of_bind {thing found : Thing} {name : Text} {fault : Template.Fault}
    (h : catalogue.bind thing name found = .error fault) : fault.family = .member := by
  unfold bind at h
  split at h
  · split at h
    · split at h
      · cases h
      · exact Except.error.inj h ▸ family_noMember thing name
    · split at h
      · cases h
      · exact Except.error.inj h ▸ family_noMember thing name
    · cases h
    · cases h
  all_goals cases h

theorem family_of_instanceMember {thing : Thing} {name : Text} {fault : Template.Fault}
    (h : catalogue.instanceMember thing name = .error fault) : fault.family = .member := by
  unfold instanceMember at h
  split at h
  · split at h
    · exact family_of_bind h
    · cases h
  · exact family_of_bind h
  · cases h
  · exact Except.error.inj h ▸ family_noMember thing name

theorem family_of_typeMember {key name : Text} {fault : Template.Fault}
    (h : catalogue.typeMember key name = .error fault) : fault.family = .member := by
  unfold typeMember at h
  dsimp only at h
  split at h
  · split at h
    · exact family_of_bind h
    · cases h
  · exact family_of_bind h
  · cases h
  · exact Except.error.inj h ▸ family_noMember _ name

/-- A name that leads nowhere is always a missing member. -/
theorem family_of_member {thing : Thing} {name : Text} {fault : Template.Fault}
    (h : catalogue.member thing name = .error fault) : fault.family = .member := by
  unfold member at h
  split at h
  · exact family_of_typeMember h
  · split at h
    · exact family_of_instanceMember h
    · exact family_of_typeMember h
  · split at h
    · cases h
    · exact family_of_instanceMember h
  · split at h
    · cases h
    · rename_i missing hmissing
      split at h
      · exact family_of_typeMember h
      · exact family_of_instanceMember h
      · exact Except.error.inj h ▸ family_of_instanceMember hmissing
  · exact family_of_instanceMember h

/-- A look-up that raises nothing of its own finds a member or says that there is none. -/
theorem isMember_of_lead {thing : Thing} {name : Text} {fault : Fault}
    (h : catalogue.lead thing name = .error fault) (hnone : catalogue.refusal? thing name = none) :
    fault.isMember = true := by
  unfold lead at h
  rw [hnone] at h
  dsimp only at h
  cases hmember : catalogue.member thing name with
  | ok found =>
    rw [hmember] at h
    cases h
  | error missing =>
    rw [hmember] at h
    cases h
    have hkind : (Fault.template missing).kind = Kind.member := by
      unfold Fault.kind
      rw [family_of_member hmember]
      rfl
    unfold Fault.isMember
    rw [hkind]
    rfl

theorem refusal?_of_lead {thing : Thing} {name : Text} {fault : Fault}
    (h : catalogue.lead thing name = .error fault) (hother : fault.isMember = false) :
    catalogue.refusal? thing name = some fault := by
  cases hrefusal : catalogue.refusal? thing name with
  | none => exact absurd (isMember_of_lead h hrefusal) (Bool.eq_false_iff.mp hother)
  | some raised =>
    unfold lead at h
    rw [hrefusal] at h
    exact congrArg some (Except.error.inj h)

/-! ### Loading -/

/-- What loading comes to. A specification that is written as one and names no module relative to
another leads to what its names lead to from its module, if that can be called. -/
inductive Loading (catalogue : Catalogue) (written : Text) : Except Fault Thing → Prop
  | malformed (h : ∀ spec : Parser.Spec, ¬ spec.IsWritten written) :
      Loading catalogue written (.error (.load (.malformed written)))
  | relative {spec : Parser.Spec} (hspec : spec.IsWritten written) (h : spec.IsRelative) :
      Loading catalogue written (.error (.relativeModule spec.moduleName))
  | tooDeep {spec : Parser.Spec} (hspec : spec.IsWritten written) (habsolute : ¬ spec.IsRelative)
      (h : ¬ catalogue.HasRoom spec.moduleName) : Loading catalogue written (.error tooDeep)
  | notImported {spec : Parser.Spec} {error : Parser.ImportError} (hspec : spec.IsWritten written)
      (habsolute : ¬ spec.IsRelative) (h : ∀ m, ¬ catalogue.Imports spec.moduleName m)
      (herror : catalogue.importModule spec.moduleName = .error (.absent error)) :
      Loading catalogue written (.error (.load (.notImported spec.moduleName error)))
  | raised {spec : Parser.Spec} {fault : Fault} (hspec : spec.IsWritten written)
      (habsolute : ¬ spec.IsRelative) (hroom : catalogue.HasRoom spec.moduleName)
      (herror : catalogue.importModule spec.moduleName = .error (.raised fault))
      (hcode : ∃ m ∈ catalogue.modules, m.members = .error fault ∧ fault.isImport = false) :
      Loading catalogue written (.error fault)
  | noMember {spec : Parser.Spec} {m : Module} {front back : List Text} {name : Text}
      {reached : Thing} {fault : Fault} (hspec : spec.IsWritten written)
      (habsolute : ¬ spec.IsRelative) (hroom : catalogue.HasRoom spec.moduleName)
      (hmodule : catalogue.Imports spec.moduleName m)
      (hnames : spec.HasNames (front ++ name :: back))
      (hfront : catalogue.Leads (.module m.name) front reached)
      (h : catalogue.lead reached name = .error fault) (hmember : fault.isMember = true) :
      Loading catalogue written (.error (.load (.noMember spec.moduleName spec.path)))
  | refused {spec : Parser.Spec} {m : Module} {front back : List Text} {name : Text}
      {reached : Thing} {fault : Fault} (hspec : spec.IsWritten written)
      (habsolute : ¬ spec.IsRelative) (hroom : catalogue.HasRoom spec.moduleName)
      (hmodule : catalogue.Imports spec.moduleName m)
      (hnames : spec.HasNames (front ++ name :: back))
      (hfront : catalogue.Leads (.module m.name) front reached)
      (h : catalogue.refusal? reached name = some fault) (hother : fault.isMember = false) :
      Loading catalogue written (.error fault)
  | notCallable {spec : Parser.Spec} {m : Module} {names : List Text} {thing : Thing}
      (hspec : spec.IsWritten written) (habsolute : ¬ spec.IsRelative)
      (hroom : catalogue.HasRoom spec.moduleName)
      (hmodule : catalogue.Imports spec.moduleName m) (hnames : spec.HasNames names)
      (hleads : catalogue.Leads (.module m.name) names thing)
      (h : catalogue.isCallable thing = false) :
      Loading catalogue written (.error (.load (.notCallable written)))
  | loaded {spec : Parser.Spec} {m : Module} {names : List Text} {thing : Thing}
      (hspec : spec.IsWritten written) (habsolute : ¬ spec.IsRelative)
      (hroom : catalogue.HasRoom spec.moduleName)
      (hmodule : catalogue.Imports spec.moduleName m) (hnames : spec.HasNames names)
      (hleads : catalogue.Leads (.module m.name) names thing)
      (h : catalogue.isCallable thing = true) : Loading catalogue written (.ok thing)

section Load

variable {written : Text} {spec : Parser.Spec}

theorem load_of_not_isWritten (h : ∀ spec : Parser.Spec, ¬ spec.IsWritten written) :
    catalogue.load written = .error (.load (.malformed written)) := by
  unfold load
  rw [Parser.Spec.parse_of_not_isWritten h]
  rfl

theorem load_of_relative (hspec : Parser.Spec.parse written = .ok spec)
    (h : Text.startsWith "." spec.moduleName = true) :
    catalogue.load written = .error (.relativeModule spec.moduleName) := by
  unfold load
  rw [hspec]
  exact if_pos h

section Absolute

variable (hspec : Parser.Spec.parse written = .ok spec)
  (habsolute : Text.startsWith "." spec.moduleName = false)
include hspec habsolute

theorem load_of_importModule_error {error : ImportFault}
    (hmodule : catalogue.importModule spec.moduleName = .error error) :
    catalogue.load written = .error (error.toFault spec.moduleName) := by
  unfold load
  rw [hspec]
  change (if Text.startsWith "." spec.moduleName = true then _ else _) = _
  rw [habsolute, hmodule]
  rfl

variable {m : Module} (hmodule : catalogue.importModule spec.moduleName = .ok m)
include hmodule

theorem load_of_follow_error {fault : Fault}
    (hfollow : catalogue.follow (.module m.name) (Text.splitAll '.' spec.path) = .error fault) :
    catalogue.load written = if fault.isMember = true
      then .error (.load (.noMember spec.moduleName spec.path)) else .error fault := by
  unfold load
  rw [hspec]
  change (if Text.startsWith "." spec.moduleName = true then _ else _) = _
  rw [habsolute, hmodule]
  change (pure m >>= _) = _
  rw [pure_bind, hfollow]
  rfl

theorem load_of_follow_ok {thing : Thing}
    (hfollow : catalogue.follow (.module m.name) (Text.splitAll '.' spec.path) = .ok thing) :
    catalogue.load written = if catalogue.isCallable thing = true then .ok thing
      else .error (.load (.notCallable written)) := by
  unfold load
  rw [hspec]
  change (if Text.startsWith "." spec.moduleName = true then _ else _) = _
  rw [habsolute, hmodule]
  change (pure m >>= _) = _
  rw [pure_bind, hfollow]
  rfl

end Absolute

theorem loading_load (catalogue : Catalogue) (written : Text) :
    catalogue.Loading written (catalogue.load written) := by
  by_cases hwritten : ∃ spec : Parser.Spec, spec.IsWritten written
  · obtain ⟨spec, hspec⟩ := hwritten
    have hparse := hspec.parse
    by_cases hrelative : spec.IsRelative
    · rw [load_of_relative hparse (Parser.Spec.startsWith_iff.mpr hrelative)]
      exact .relative hspec hrelative
    · have habsolute : Text.startsWith "." spec.moduleName = false :=
        Bool.eq_false_iff.mpr (mt Parser.Spec.startsWith_iff.mp hrelative)
      rcases hmodule : catalogue.importModule spec.moduleName with error | m
      · rw [load_of_importModule_error hparse habsolute hmodule]
        by_cases hroom : catalogue.HasRoom spec.moduleName
        · cases error with
          | absent error =>
            refine .notImported hspec hrelative (fun m himports => ?_) hmodule
            cases (importModule_eq_ok_iff.mpr ⟨hroom, himports⟩).symm.trans hmodule
          | raised fault =>
            exact .raised hspec hrelative hroom hmodule (importModule_eq_raised hroom hmodule)
        · obtain rfl := Except.error.inj ((importModule_of_not_hasRoom hroom).symm.trans hmodule)
          exact .tooDeep hspec hrelative hroom
      · obtain ⟨hroom, himports⟩ := importModule_eq_ok_iff.mp hmodule
        have hnames := Parser.Spec.splitAll_path_eq_iff.mp (Eq.refl (Text.splitAll '.' spec.path))
        rcases hfollow : catalogue.follow (.module m.name) (Text.splitAll '.' spec.path)
          with fault | thing
        · rw [load_of_follow_error hparse habsolute hmodule hfollow]
          obtain ⟨front, name, back, reached, hsplit, hfront, hmissing⟩ :=
            exists_of_follow_eq_error hfollow
          rw [hsplit] at hnames
          split
          · rename_i hmember
            exact .noMember hspec hrelative hroom himports hnames hfront hmissing hmember
          · rename_i hother
            have hother := Bool.eq_false_iff.mpr hother
            exact .refused hspec hrelative hroom himports hnames hfront
              (refusal?_of_lead hmissing hother) hother
        · rw [load_of_follow_ok hparse habsolute hmodule hfollow]
          have hleads := follow_eq_ok_iff.mp hfollow
          split
          · rename_i hcallable
            exact .loaded hspec hrelative hroom himports hnames hleads hcallable
          · rename_i hcallable
            exact .notCallable hspec hrelative hroom himports hnames hleads
              (Bool.eq_false_iff.mpr hcallable)
  · have hnot : ∀ spec : Parser.Spec, ¬ spec.IsWritten written := fun spec hspec =>
      hwritten ⟨spec, hspec⟩
    rw [load_of_not_isWritten hnot]
    exact .malformed hnot

/-- Only one result is what loading comes to. -/
theorem Loading.eq_load {r : Except Fault Thing} (h : catalogue.Loading written r) :
    catalogue.load written = r := by
  have habsolute {spec : Parser.Spec} (h : ¬ spec.IsRelative) :
      Text.startsWith "." spec.moduleName = false :=
    Bool.eq_false_iff.mpr (mt Parser.Spec.startsWith_iff.mp h)
  have hfound {spec : Parser.Spec} {names : List Text} {m : Module} {thing : Thing}
      (hnames : spec.HasNames names) (hleads : catalogue.Leads (.module m.name) names thing) :
      catalogue.follow (.module m.name) (Text.splitAll '.' spec.path) = .ok thing := by
    rw [Parser.Spec.splitAll_path_eq_iff.mpr hnames]
    exact follow_eq_ok_iff.mpr hleads
  have hlost {spec : Parser.Spec} {m : Module} {front back : List Text} {name : Text}
      {reached : Thing} {fault : Fault} (hspec : spec.IsWritten written)
      (hrelative : ¬ spec.IsRelative) (hroom : catalogue.HasRoom spec.moduleName)
      (hmodule : catalogue.Imports spec.moduleName m)
      (hnames : spec.HasNames (front ++ name :: back))
      (hfront : catalogue.Leads (.module m.name) front reached)
      (h : catalogue.lead reached name = .error fault) :
      catalogue.load written = if fault.isMember = true
        then .error (.load (.noMember spec.moduleName spec.path)) else .error fault := by
    have hfollow := follow_eq_error hfront h back
    rw [← Parser.Spec.splitAll_path_eq_iff.mpr hnames] at hfollow
    exact load_of_follow_error hspec.parse (habsolute hrelative)
      (importModule_eq_ok_iff.mpr ⟨hroom, hmodule⟩) hfollow
  cases h with
  | malformed h => exact load_of_not_isWritten h
  | relative hspec h => exact load_of_relative hspec.parse (Parser.Spec.startsWith_iff.mpr h)
  | tooDeep hspec hrelative h =>
    exact load_of_importModule_error hspec.parse (habsolute hrelative)
      (importModule_of_not_hasRoom h)
  | notImported hspec hrelative h herror =>
    exact load_of_importModule_error hspec.parse (habsolute hrelative) herror
  | raised hspec hrelative hroom herror hcode =>
    exact load_of_importModule_error hspec.parse (habsolute hrelative) herror
  | noMember hspec hrelative hroom hmodule hnames hfront h hmember =>
    rw [hlost hspec hrelative hroom hmodule hnames hfront h]
    exact if_pos hmember
  | @refused spec m front back name reached fault hspec hrelative hroom hmodule hnames hfront h
      hother =>
    have hlead : catalogue.lead reached name = .error fault := by
      unfold lead
      rw [h]
    rw [hlost hspec hrelative hroom hmodule hnames hfront hlead]
    exact if_neg (Bool.eq_false_iff.mp hother)
  | notCallable hspec hrelative hroom hmodule hnames hleads h =>
    rw [load_of_follow_ok hspec.parse (habsolute hrelative)
      (importModule_eq_ok_iff.mpr ⟨hroom, hmodule⟩) (hfound hnames hleads), h]
    rfl
  | loaded hspec hrelative hroom hmodule hnames hleads h =>
    rw [load_of_follow_ok hspec.parse (habsolute hrelative)
      (importModule_eq_ok_iff.mpr ⟨hroom, hmodule⟩) (hfound hnames hleads)]
    exact if_pos h

/-- The code of modules and of look-ups raises nothing but that there is no such module or no such
member. -/
structure IsTame (catalogue : Catalogue) : Prop where
  modules : ∀ m ∈ catalogue.modules, ∀ fault, m.members = .error fault → fault.isImport = true
  lookUps : ∀ thing name fault, catalogue.refusal? thing name = some fault →
    fault.isMember = true

/-- What is looked for and not found is a load error, unless its module is named relative to
another, has too many parts in its name, or something else is raised on the way. -/
theorem exists_load_of_error {f : Fault} (h : catalogue.load written = .error f) :
    (∃ error, f = .load error) ∨ ∃ spec : Parser.Spec, spec.IsWritten written ∧
      (spec.IsRelative ∨ ¬ catalogue.HasRoom spec.moduleName ∨ ¬ catalogue.IsTame) := by
  have hloading := loading_load catalogue written
  rw [h] at hloading
  cases hloading with
  | relative hspec hrelative => exact Or.inr ⟨_, hspec, Or.inl hrelative⟩
  | tooDeep hspec _ hroom => exact Or.inr ⟨_, hspec, Or.inr (Or.inl hroom)⟩
  | raised hspec _ _ _ hcode =>
    obtain ⟨m, hm, hmembers, hother⟩ := hcode
    refine Or.inr ⟨_, hspec, Or.inr (Or.inr fun htame => ?_)⟩
    cases (htame.modules m hm _ hmembers).symm.trans hother
  | refused hspec _ _ _ _ _ hrefusal hother =>
    refine Or.inr ⟨_, hspec, Or.inr (Or.inr fun htame => ?_)⟩
    cases (htame.lookUps _ _ _ hrefusal).symm.trans hother
  | _ => exact Or.inl ⟨_, rfl⟩

end Load

/-- Loading comes to what `Loading` says and to nothing else. As long as the code of modules and of
look-ups raises nothing but that something is missing, it gives a callable or refuses the
specification, whatever that is, unless this names a module relative to another one or with more
parts than the stack has room for; what such specifications come to is no refusal. -/
theorem load_callable_or_refused (catalogue : Catalogue) (written : Text) :
    (∀ r, catalogue.load written = r ↔ catalogue.Loading written r) ∧
      (catalogue.IsTame →
        (∀ spec : Parser.Spec, spec.IsWritten written →
          ¬ spec.IsRelative ∧ catalogue.HasRoom spec.moduleName) →
        (∃ thing, catalogue.load written = .ok thing ∧ catalogue.isCallable thing = true) ∨
          ∃ error, catalogue.load written = .error (.load error)) ∧
      (∀ spec : Parser.Spec, spec.IsWritten written → spec.IsRelative →
        catalogue.load written = .error (.relativeModule spec.moduleName)) ∧
      ∀ spec : Parser.Spec, spec.IsWritten written → ¬ spec.IsRelative →
        ¬ catalogue.HasRoom spec.moduleName → catalogue.load written = .error tooDeep := by
  refine ⟨fun r => ⟨fun h => h ▸ loading_load catalogue written, Loading.eq_load⟩,
    fun htame hspecs => ?_, fun spec hspec hrelative => (Loading.relative hspec hrelative).eq_load,
    fun spec hspec habsolute hroom => (Loading.tooDeep hspec habsolute hroom).eq_load⟩
  rcases hload : catalogue.load written with f | thing
  · rcases exists_load_of_error hload with ⟨error, rfl⟩ | ⟨spec, hspec, hescapes⟩
    · exact Or.inr ⟨error, rfl⟩
    · obtain ⟨habsolute, hroom⟩ := hspecs spec hspec
      rcases hescapes with hrelative | hdeep | hwild
      · exact absurd hrelative habsolute
      · exact absurd hroom hdeep
      · exact absurd htame hwild
  · have hloading := loading_load catalogue written
    rw [hload] at hloading
    cases hloading with
    | loaded hspec habsolute hroom hmodule hnames hleads h => exact Or.inl ⟨thing, rfl, h⟩

/-- The code of the program and of the platform raises nothing when parsers are looked for. -/
theorem isTame_program (world : World) : (Program.catalogue world).IsTame := by
  refine ⟨fun m hm fault hfault => ?_, fun _ _ _ hrefusal => nomatch hrefusal⟩
  obtain ⟨members, hmembers⟩ := Program.importable_catalogue world m hm
  cases hmembers.symm.trans hfault

/-- A dot too many in the name of a module of the program, and a second colon. -/
theorem load_callable_or_refused_dots :
    let catalogue := Program.catalogue ⟨⟨.directory [], [], [], []⟩, [], false, builtIn⟩
    let written : Text := "mmhelp..nodestream:parse_recursive:read"
    (∀ spec : Parser.Spec, spec.IsWritten written →
        ¬ spec.IsRelative ∧ catalogue.HasRoom spec.moduleName) ∧
      ((∃ thing, catalogue.load written = .ok thing ∧ catalogue.isCallable thing = true) ∨
        ∃ error, catalogue.load written = .error (.load error)) := by
  intro catalogue written
  have hspecs : ∀ spec : Parser.Spec, spec.IsWritten written →
      ¬ spec.IsRelative ∧ catalogue.HasRoom spec.moduleName := by
    intro spec hspec
    obtain rfl : ⟨"mmhelp..nodestream", "parse_recursive:read"⟩ = spec :=
      Except.ok.inj hspec.parse
    have hroom : catalogue.room = 246 := rfl
    refine ⟨fun hrelative => ?_, ?_⟩
    · exact absurd (Parser.Spec.startsWith_iff.mpr hrelative) (by decide)
    · unfold HasRoom
      rw [hroom]
      decide
  exact ⟨hspecs, (load_callable_or_refused catalogue written).2.1 (isTame_program _) hspecs⟩

/-- A module with a dot in front breaks the loading off. -/
theorem load_leading_dot :
    let loaded := builtIn.load ".foo:bar"
    (∀ thing, loaded ≠ .ok thing) ∧ ∀ error, loaded ≠ .error (.load error) := by
  have hspec : Parser.Spec.parse ".foo:bar" = .ok ⟨".foo", "bar"⟩ := rfl
  have hload : builtIn.load ".foo:bar" = .error (.relativeModule ".foo") :=
    load_of_relative hspec rfl
  intro loaded
  exact ⟨fun thing h => (nomatch hload.symm.trans h), fun error h => (nomatch hload.symm.trans h)⟩

end Catalogue

end TargetHelp
