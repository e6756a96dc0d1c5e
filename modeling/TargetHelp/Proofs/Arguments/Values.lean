import TargetHelp.Proofs.Arguments.Request
import TargetHelp.Proofs.Node.Reencoding

/-!
# Values of a command line

Only flags that are counted give numbers to their keys; what other flags give is a text, a list or
nothing. Whatever holds of all flags of a grammar holds of those that its tokens use, so no command
line gives a number to a key that no flag counts: the path of an input is never a descriptor.
-/

set_option autoImplicit false
set_option relaxedAutoImplicit false

namespace TargetHelp

theorem Fields.mem_set {α : Type} {key : Text} {value : α} {fields : Fields α}
    {entry : Text × α} (h : entry ∈ Fields.set key value fields) :
    entry = (key, value) ∨ entry ∈ fields := by
  induction fields with
  | nil => exact Or.inl (List.mem_singleton.mp h)
  | cons field rest ih =>
    obtain ⟨k, v⟩ := field
    rw [Fields.set] at h
    split at h
    · rename_i hk
      rcases List.mem_cons.mp h with rfl | hrest
      · exact Or.inl (by rw [hk])
      · exact Or.inr (List.mem_cons_of_mem _ hrest)
    · rcases List.mem_cons.mp h with rfl | hrest
      · exact Or.inr List.mem_cons_self
      · exact (ih hrest).imp_right (List.mem_cons_of_mem _)

namespace Arguments

open Session

/-! ### Flags -/

section Flags

variable {P : Flag → Prop} {g : Grammar} (hP : ∀ flag ∈ g.flags, P flag)

/-- A flag in the form of a token has a property. -/
def Form.Has (P : Flag → Prop) : Form → Prop
  | .flag found _ _ => P found
  | _ => True

include hP

theorem has_of_mem_names {entry : Text × Flag} (h : entry ∈ g.names) : P entry.2 := by
  obtain ⟨flag, hflag, hentry⟩ := List.mem_flatMap.mp h
  obtain ⟨name, -, rfl⟩ := List.mem_map.mp hentry
  exact hP flag hflag

theorem has_of_find? {name : Text} {flag : Flag} (h : g.find? name = some flag) : P flag :=
  has_of_mem_names hP (Fields.mem_of_get? h)

theorem has_of_named? {t : Text} {form : Form} (h : named? g t = some form) : form.Has P := by
  unfold named? at h
  split at h
  · rename_i flag hfind
    obtain rfl := Option.some.inj h
    exact has_of_find? hP hfind
  · split at h
    · obtain ⟨flag, hfind, rfl⟩ := Option.map_eq_some_iff.mp h
      exact has_of_find? hP hfind
    · cases h

theorem has_of_candidates {t : Text} {candidate : Flag × Text × Option Text}
    (h : candidate ∈ candidates g t) : P candidate.1 := by
  unfold candidates longCandidates shortCandidates at h
  split at h
  · obtain ⟨⟨name, flag⟩, hmem, hsome⟩ := List.mem_filterMap.mp h
    dsimp only at hsome
    split at hsome
    · obtain rfl := Option.some.inj hsome
      exact has_of_mem_names hP hmem
    · cases hsome
  · obtain ⟨⟨name, flag⟩, hmem, hsome⟩ := List.mem_filterMap.mp h
    dsimp only at hsome
    split at hsome
    · obtain rfl := Option.some.inj hsome
      exact has_of_mem_names hP hmem
    · split at hsome
      · obtain rfl := Option.some.inj hsome
        exact has_of_mem_names hP hmem
      · cases hsome

theorem has_of_formOf {t : Text} {form : Form} (h : formOf g t = .ok form) : form.Has P := by
  unfold formOf at h
  split at h
  · obtain rfl := Except.ok.inj h
    trivial
  · cases hnamed : named? g t with
    | some found =>
      rw [hnamed] at h
      obtain rfl := Except.ok.inj h
      exact has_of_named? hP hnamed
    | none =>
      rw [hnamed] at h
      dsimp only at h
      unfold unnamedForm at h
      split at h
      · obtain rfl := Except.ok.inj h
        split <;> trivial
      · rename_i flag name value hfound
        obtain rfl := Except.ok.inj h
        have hmem : (flag, name, value) ∈ candidates g t := by
          rw [hfound]
          exact List.mem_singleton_self _
        exact has_of_candidates hP hmem
      · cases h

theorem has_of_tokens {argv : List Text} {ts : List Token} (h : tokens g argv = .ok ts) :
    ∀ token ∈ ts, token.form.Has P := by
  induction argv generalizing ts with
  | nil =>
    obtain rfl := Except.ok.inj h
    exact List.forall_mem_nil _
  | cons t rest ih =>
    rw [tokens] at h
    split at h
    · obtain rfl := Except.ok.inj h
      refine List.forall_mem_cons.mpr ⟨trivial, fun token htoken => ?_⟩
      obtain ⟨word, -, rfl⟩ := List.mem_map.mp htoken
      trivial
    · obtain ⟨form, hform, h⟩ := bind_eq_ok_iff.mp h
      obtain ⟨more, hmore, h⟩ := bind_eq_ok_iff.mp h
      obtain rfl := Except.ok.inj h
      exact List.forall_mem_cons.mpr ⟨has_of_formOf hP hform, ih hmore⟩

/-- The flags that share an argument are flags of the grammar behind the first of them. -/
theorem has_of_shared {value : Text} {flag : Flag} {isLong : Bool} {uses : List Use}
    {last? : Option Flag} (hflag : P flag) (h : shared g flag isLong value = .ok (uses, last?)) :
    (∀ use ∈ uses, P use.flag) ∧ ∀ last ∈ last?, P last := by
  have hlone {use : Use} (huse : P use.flag) :
      (∀ other ∈ [use], P (Use.flag other)) ∧ ∀ last ∈ (none : Option Flag), P last :=
    ⟨List.forall_mem_singleton.mpr huse, fun last hlast => (Option.not_mem_none last hlast).elim⟩
  induction value generalizing flag isLong uses last? with
  | nil =>
    rw [shared] at h
    split at h
    · obtain ⟨rfl, rfl⟩ := Prod.mk.inj (Except.ok.inj h)
      exact hlone hflag
    · cases h
  | cons c rest ih =>
    rw [shared] at h
    split at h
    · obtain ⟨rfl, rfl⟩ := Prod.mk.inj (Except.ok.inj h)
      exact hlone hflag
    · split at h
      · cases h
      · split at h
        · cases h
        · rename_i next hnext
          have hfound : P next := has_of_find? hP hnext
          split at h
          · obtain ⟨rfl, rfl⟩ := Prod.mk.inj (Except.ok.inj h)
            refine ⟨List.forall_mem_singleton.mpr hflag, fun last hlast => ?_⟩
            obtain rfl := Option.some.inj hlast
            exact hfound
          · split at h
            · cases h
            · rename_i more last hmore
              obtain ⟨rfl, rfl⟩ := Prod.mk.inj (Except.ok.inj h)
              obtain ⟨huses, hlast⟩ := ih hfound hmore
              exact ⟨List.forall_mem_cons.mpr ⟨hflag, huses⟩, hlast⟩

omit hP in
theorem has_of_takeNext {flag : Flag} {next? : Option Token} {use : Use} {isTaken : Bool}
    (hflag : P flag) (h : takeNext g flag next? = .ok (use, isTaken)) : P use.flag := by
  unfold takeNext at h
  split at h
  all_goals
    first
    | cases h; done
    | obtain ⟨rfl, -⟩ := Prod.mk.inj (Except.ok.inj h)
      exact hflag

theorem has_of_usesOf {flag : Flag} {name : Text} {value : Option Text} {next? : Option Token}
    {uses : List Use} {isTaken : Bool} (hflag : P flag)
    (h : usesOf g flag name value next? = .ok (uses, isTaken)) : ∀ use ∈ uses, P use.flag := by
  unfold usesOf at h
  cases value with
  | none =>
    obtain ⟨⟨use, taken⟩, htake, h⟩ := bind_eq_ok_iff.mp h
    obtain ⟨rfl, -⟩ := Prod.mk.inj (Except.ok.inj h)
    exact List.forall_mem_singleton.mpr (has_of_takeNext hflag htake)
  | some value =>
    obtain ⟨⟨found, last?⟩, hshared, h⟩ := bind_eq_ok_iff.mp h
    obtain ⟨hfound, hlast⟩ := has_of_shared hP hflag hshared
    cases last? with
    | none =>
      obtain ⟨rfl, -⟩ := Prod.mk.inj (Except.ok.inj h)
      exact hfound
    | some last =>
      obtain ⟨⟨use, taken⟩, htake, h⟩ := bind_eq_ok_iff.mp h
      obtain ⟨rfl, -⟩ := Prod.mk.inj (Except.ok.inj h)
      have huse : P use.flag := has_of_takeNext (hlast last rfl) htake
      exact List.forall_mem_append.mpr ⟨hfound, List.forall_mem_singleton.mpr huse⟩

end Flags

/-! ### Readings -/

/-- A value that is no number: a text, a list or nothing. -/
inductive IsWritten : Json → Prop
  | null : IsWritten .null
  | text (t : Text) : IsWritten (.str t)
  | list (items : List Json) : IsWritten (.arr items)

/-- Every value of a key is written. -/
def Writes (key : Text) (values : Fields Json) : Prop :=
  ∀ value, (key, value) ∈ values → IsWritten value

variable {key : Text}

theorem Writes.isWritten {values : Fields Json} (h : Writes key values) :
    IsWritten ((Fields.get? key values).getD .null) := by
  cases hget : Fields.get? key values with
  | none => exact .null
  | some value => exact h value (Fields.mem_of_get? hget)

theorem Writes.set {values : Fields Json} (h : Writes key values) {other : Text} {value : Json}
    (hvalue : key = other → IsWritten value) : Writes key (Fields.set other value values) := by
  intro found hfound
  rcases Fields.mem_set hfound with heq | hmem
  · obtain ⟨hkey, rfl⟩ := Prod.mk.inj heq
    exact hvalue hkey
  · exact h found hmem

theorem Writes.cons {other : Text} {value : Json} (hvalue : key = other → IsWritten value)
    {values : Fields Json} (h : Writes key values) : Writes key ((other, value) :: values) := by
  intro found hfound
  rcases List.mem_cons.mp hfound with heq | hmem
  · obtain ⟨hkey, rfl⟩ := Prod.mk.inj heq
    exact hvalue hkey
  · exact h found hmem

theorem Writes.of_cons {entry : Text × Json} {values : Fields Json}
    (h : Writes key (entry :: values)) :
    (key = entry.1 → IsWritten entry.2) ∧ Writes key values := by
  refine ⟨fun hkey => h entry.2 ?_, fun value hvalue => h value (List.mem_cons_of_mem _ hvalue)⟩
  rw [hkey]
  exact List.mem_cons_self

theorem writes_nil (key : Text) : Writes key [] := fun _ h => nomatch h

theorem Writes.setAll {values more : Fields Json} (h : Writes key values)
    (hmore : Writes key more) :
    Writes key (more.foldl (fun values (key, value) => Fields.set key value values) values) := by
  induction more generalizing values with
  | nil => exact h
  | cons entry more ih =>
    obtain ⟨hentry, hrest⟩ := hmore.of_cons
    exact ih (h.set hentry) hrest

/-- No flag of a grammar counts under a key, and the defaults of the key are written. -/
structure Grammar.Writes (g : Grammar) (key : Text) : Prop where
  flags : ∀ flag ∈ g.flags, flag.action ≠ .count key
  defaults : Arguments.Writes key g.defaults

section Readings

variable {g : Grammar}

/-- A flag that does not count gives a written value to its key. -/
theorem writes_apply {r after : Read} {use : Use} (hr : Writes key r.values)
    (huse : use.flag.action ≠ .count key) (h : Use.apply g r use = .ok after) :
    Writes key after.values := by
  obtain ⟨flag, value?⟩ := use
  unfold Use.apply at h
  dsimp only at h huse
  cases haction : flag.action with
  | count other =>
    rw [haction] at h
    obtain rfl := Except.ok.inj h
    have hne : key ≠ other := fun heq => huse (heq ▸ haction)
    unfold Read.increment
    split <;> exact hr.set fun heq => absurd heq hne
  | collect other =>
    rw [haction] at h
    obtain rfl := Except.ok.inj h
    unfold Read.collect
    split <;> exact hr.set fun _ => .list _
  | store other =>
    rw [haction] at h
    obtain rfl := Except.ok.inj h
    refine hr.set fun _ => ?_
    split
    · exact .list []
    · cases value? with
      | none => exact .null
      | some t => exact .text t
  | showHelp =>
    rw [haction] at h
    cases h
  | showVersion =>
    rw [haction] at h
    cases h

theorem writes_uses {uses : List Use} (huses : ∀ use ∈ uses, use.flag.action ≠ .count key)
    {r after : Read} (hr : Writes key r.values) (h : uses.foldlM (Use.apply g) r = .ok after) :
    Writes key after.values := by
  induction uses generalizing r with
  | nil =>
    obtain rfl := Except.ok.inj h
    exact hr
  | cons use uses ih =>
    obtain ⟨huse, hrest⟩ := List.forall_mem_cons.mp huses
    obtain ⟨middle, hmiddle, h⟩ := bind_eq_ok_iff.mp h
    exact ih hrest (writes_apply hr huse hmiddle) h

theorem writes_fill {r : Read} (hr : Writes key r.values) (other : Text) (token : Token)
    (next? : Option Token) : Writes key (fill r other token next?).1.values := by
  unfold fill
  split
  · exact hr.set fun _ => .text _
  · exact hr
  · exact hr.set fun _ => .text _
  · exact hr.set fun _ => .text _

theorem writes_step (hg : g.Writes key) {r after : Read} (hr : Writes key r.values)
    {token : Token} (htoken : token.form.Has fun flag => flag.action ≠ .count key)
    {next? : Option Token} {isTaken : Bool} (h : step g r token next? = .ok (after, isTaken)) :
    Writes key after.values := by
  unfold step at h
  split at h
  · rename_i flag name value hform
    rw [hform] at htoken
    obtain ⟨⟨uses, taken⟩, huses, h⟩ := bind_eq_ok_iff.mp h
    obtain ⟨found, hfound, h⟩ := bind_eq_ok_iff.mp h
    obtain ⟨rfl, -⟩ := Prod.mk.inj (Except.ok.inj h)
    exact writes_uses (has_of_usesOf hg.flags htoken huses) hr hfound
  · obtain ⟨rfl, -⟩ := Prod.mk.inj (Except.ok.inj h)
    exact hr
  all_goals
    split at h
    · split at h
      · obtain ⟨rfl, -⟩ := Prod.mk.inj (Except.ok.inj h)
        exact hr
      · rename_i other _ _
        obtain rfl := congrArg Prod.fst (Except.ok.inj h)
        exact writes_fill hr _ token next?
    · obtain ⟨rfl, -⟩ := Prod.mk.inj (Except.ok.inj h)
      exact hr

variable {commands : List Command}

/-- The commands read written values. -/
def WriteCommands (key : Text) (commands : List Command) : Prop :=
  ∀ command ∈ commands, ∀ argv r, command.2 argv = .ok r → Writes key r.values

theorem writes_readCommand (hcommands : WriteCommands key commands) {r after : Read}
    (hr : Writes key r.values) {name : Text} {argv : List Text}
    (h : readCommand g commands r name argv = .ok after) : Writes key after.values := by
  unfold readCommand at h
  split at h
  · cases h
  · rename_i read hread
    obtain ⟨inner, hinner, h⟩ := bind_eq_ok_iff.mp h
    obtain rfl := Except.ok.inj h
    have hwrites : Writes key inner.values :=
      hcommands (name, read) (Fields.mem_of_get? hread) argv inner hinner
    exact Writes.setAll (hr.set fun _ => .text name) hwrites

theorem writes_readTokens (hg : g.Writes key) (hcommands : WriteCommands key commands)
    {ts : List Token} (hts : ∀ token ∈ ts, token.form.Has fun flag => flag.action ≠ .count key)
    {r after : Read} (hr : Writes key r.values) {isTaken : Bool}
    (h : readTokens g commands r isTaken ts = .ok after) : Writes key after.values := by
  induction ts generalizing r isTaken with
  | nil =>
    obtain rfl := Except.ok.inj h
    exact hr
  | cons token rest ih =>
    obtain ⟨htoken, hrest⟩ := List.forall_mem_cons.mp hts
    cases isTaken with
    | true => exact ih hrest hr h
    | false =>
      rw [readTokens] at h
      split at h
      · exact writes_readCommand hcommands hr h
      · split at h
        · cases h
        · rename_i hstep
          exact ih hrest (writes_step hg hr htoken hstep) h

theorem writes_readKnown (hg : g.Writes key) (hcommands : WriteCommands key commands)
    {argv : List Text} {r : Read} (h : readKnown g commands argv = .ok r) :
    Writes key r.values := by
  unfold readKnown at h
  split at h
  · cases h
  · rename_i ts hts
    exact writes_readTokens hg hcommands (has_of_tokens hg.flags hts) hg.defaults h

end Readings

/-! ### Command lines of the program -/

/-- No flag counts under the key for the path of the input. -/
theorem writes_file_grammars :
    globalGrammar.Writes "file" ∧ mainGrammar.Writes "file" ∧ listGrammar.Writes "file" ∧
      describeGrammar.Writes "file" := by
  have hcommand : Writes "file" [(commandKey, .null)] := (writes_nil _).cons fun _ => .null
  have htarget : Writes "file" [(targetKey, .null)] := (writes_nil _).cons fun _ => .null
  have hglobal {rest : Fields Json} (hrest : Writes "file" rest) :
      Writes "file" (globalDefaults ++ rest) :=
    .cons (fun h => absurd h (by decide)) (.cons (fun h => absurd h (by decide))
      (.cons (fun _ => .null) (.cons (fun _ => .null) hrest)))
  have hsource {rest : Fields Json} (hrest : Writes "file" rest) :
      Writes "file" (sourceDefaults ++ rest) :=
    .cons (fun _ => .null) (.cons (fun _ => .null) (.cons (fun _ => .null) hrest))
  exact ⟨⟨by decide, hglobal (writes_nil _)⟩, ⟨by decide, hglobal hcommand⟩,
    ⟨by decide, hsource (writes_nil _)⟩, ⟨by decide, hsource htarget⟩⟩

/-- No command line gives a number as the path of the input. -/
theorem writes_file_readMain {argv : List Text} {values : Fields Json}
    (h : readMain argv = .ok values) : Writes "file" values := by
  obtain ⟨-, hmain, hlist, hdescribe⟩ := writes_file_grammars
  have hnothing : WriteCommands "file" [] := List.forall_mem_nil _
  have hcommands : WriteCommands "file" commands :=
    List.forall_mem_cons.mpr ⟨fun _ _ hread => writes_readKnown hlist hnothing hread,
      List.forall_mem_singleton.mpr fun _ _ hread => writes_readKnown hdescribe hnothing hread⟩
  unfold readMain readAll at h
  split at h
  · cases h
  · rename_i r hread
    split at h
    · obtain rfl := Except.ok.inj h
      exact writes_readKnown hmain hcommands hread
    · cases h

theorem writes_file_readGlobal {argv : List Text} {r : Read} (h : readGlobal argv = .ok r) :
    Writes "file" r.values :=
  writes_readKnown writes_file_grammars.1 (List.forall_mem_nil _) h

end Arguments

end TargetHelp
