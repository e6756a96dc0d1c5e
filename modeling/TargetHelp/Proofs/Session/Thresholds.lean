import TargetHelp.Proofs.Diagnostics.Outcome
import TargetHelp.Proofs.Json.Same
import Mathlib.Data.List.TakeWhile

/-!
# Thresholds of a new manager

A new manager starts from the channels that are to be silent and goes through the specifications one
by one, so what counts for a channel is the last specification of it, or else whether it is to be
silent, or else the overall verbosity.
-/

set_option autoImplicit false
set_option relaxedAutoImplicit false

namespace TargetHelp

/-! ### Tables -/

namespace Json

theorem same_str_left_iff (t : Text) (a : Json) : same (str t) a = true ↔ a = str t := by
  cases a with
  | str s =>
    rw [same, beq_iff_eq, str.injEq]
    exact eq_comm
  | _ => simp [same, amount?, integer?]

namespace Table

variable {α : Type}

theorem get?_cons (key k : Json) (v : α) (rest : Table α) :
    get? key ((k, v) :: rest) = if same k key then some v else get? key rest := by
  unfold get?
  rw [List.find?_cons]
  dsimp only
  cases same k key <;> rfl

/-- A text is looked up past all that is set for other keys. -/
theorem get?_set_str (t : Text) (key : Json) (value : α) (table : Table α) :
    get? (.str t) (set key value table) =
      if same key (.str t) then some value else get? (.str t) table := by
  induction table with
  | nil => exact get?_cons _ _ _ _
  | cons entry rest ih =>
    obtain ⟨k, v⟩ := entry
    rw [set]
    by_cases hk : same k (.str t) = true
    · obtain rfl := (same_str_iff k t).mp hk
      have hsame : same (.str t) key = same key (.str t) :=
        Bool.eq_iff_iff.mpr ((same_str_left_iff t key).trans (same_str_iff key t).symm)
      rw [hsame]
      split
      · rw [get?_cons, if_pos hk]
      · rw [get?_cons, get?_cons, if_pos hk, if_pos hk]
    · by_cases hkey : same k key = true
      · have hne : ¬ same key (.str t) = true := by
          intro hother
          obtain rfl := (same_str_iff key t).mp hother
          exact hk hkey
        rw [if_pos hkey, get?_cons, get?_cons, if_neg hk, if_neg hk, if_neg hne]
      · rw [if_neg hkey, get?_cons, get?_cons, if_neg hk, if_neg hk, ih]

theorem get?_map {β : Type} (key : Json) (change : α → β) (table : Table α) :
    get? key (table.map fun entry => (entry.1, change entry.2)) = (get? key table).map change := by
  induction table with
  | nil => rfl
  | cons entry rest ih =>
    obtain ⟨k, v⟩ := entry
    rw [List.map_cons, get?_cons, get?_cons, ih]
    split <;> rfl

end Table

end Json

/-! ### Specifications -/

/-- The level that the last specification of a channel sets for it, if there is one. -/
def Channel.levelOf? (channel : Text) (specs : List Text) : Option Int :=
  ((specs.filterMap fun spec => (Spec.parse spec).toOption).reverse.find? fun spec =>
    spec.name = channel).map Spec.level

theorem Channel.levelOf?_cons {spec : Text} {parsed : Spec} (h : Spec.parse spec = .ok parsed)
    (channel : Text) (specs : List Text) :
    levelOf? channel (spec :: specs) =
      (levelOf? channel specs).or (if parsed.name = channel then some parsed.level else none) := by
  unfold levelOf?
  have hcons : ((spec :: specs).filterMap fun spec => (Spec.parse spec).toOption) =
      parsed :: specs.filterMap fun spec => (Spec.parse spec).toOption :=
    List.filterMap_cons_some (by rw [h]; rfl)
  rw [hcons, List.reverse_cons, List.find?_append, Option.map_or, List.find?_singleton]
  by_cases hname : parsed.name = channel
  · rw [if_pos hname, if_pos (decide_eq_true hname)]
    rfl
  · rw [if_neg hname, if_neg (by simpa using hname)]
    rfl

/-- A channel that no specification names has no level of its own from them. -/
theorem Channel.levelOf?_eq_none {channel : Text} {specs : List Text}
    (h : ∀ spec ∈ specs, ∀ parsed, Spec.parse spec = .ok parsed → parsed.name ≠ channel) :
    levelOf? channel specs = none := by
  refine Option.map_eq_none_iff.mpr (List.find?_eq_none.mpr fun parsed hparsed hname => ?_)
  obtain ⟨spec, hspec, hsome⟩ := List.mem_filterMap.mp (List.mem_reverse.mp hparsed)
  cases hread : Spec.parse spec with
  | error error =>
    rw [hread] at hsome
    cases hsome
  | ok found =>
    rw [hread] at hsome
    obtain rfl : found = parsed := Option.some.inj hsome
    exact h spec hspec found hread (of_decide_eq_true hname)

namespace Session

theorem get?_silent (channel : Text) (optIn : List Json) (table : Json.Table Int) :
    Json.Table.get? (.str channel)
        (optIn.foldl (fun overrides name => Json.Table.set name Level.minimal overrides) table) =
      if optIn.any fun name => Json.same name (.str channel) then some Level.minimal
      else Json.Table.get? (.str channel) table := by
  induction optIn generalizing table with
  | nil => rfl
  | cons name optIn ih =>
    rw [List.foldl_cons, ih, Json.Table.get?_set_str, List.any_cons]
    cases Json.same name (.str channel) with
    | false => rfl
    | true => exact ite_self _

theorem get?_foldlM {specs : List Text} {table overrides : Json.Table Int}
    (h : specs.foldlM (fun overrides spec => do
      let spec ← Channel.Spec.parse spec
      return Json.Table.set (.str spec.name) spec.level overrides) table = .ok overrides)
    (channel : Text) :
    Json.Table.get? (.str channel) overrides =
      (Channel.levelOf? channel specs).or (Json.Table.get? (.str channel) table) := by
  induction specs generalizing table with
  | nil =>
    obtain rfl : table = overrides := Except.ok.inj h
    rfl
  | cons spec specs ih =>
    rw [List.foldlM_cons] at h
    obtain ⟨next, hnext, h⟩ := bind_eq_ok_iff.mp h
    obtain ⟨parsed, hparsed, hset⟩ := bind_eq_ok_iff.mp hnext
    obtain rfl : Json.Table.set (.str parsed.name) parsed.level table = next := Except.ok.inj hset
    rw [ih h, Json.Table.get?_set_str, Channel.levelOf?_cons hparsed, Option.or_assoc]
    by_cases hname : parsed.name = channel
    · rw [if_pos hname, if_pos ((Json.same_str_iff _ _).mpr (congrArg Json.str hname))]
      rfl
    · rw [if_neg hname, if_neg fun hsame =>
        hname (Json.str.inj ((Json.same_str_iff _ _).mp hsame)), Option.none_or]

theorem foldlM_of_parse {specs : List Text}
    (h : ∀ spec ∈ specs, ∃ parsed, Channel.Spec.parse spec = .ok parsed) (table : Json.Table Int) :
    ∃ overrides, specs.foldlM (fun overrides spec => do
      let spec ← Channel.Spec.parse spec
      return Json.Table.set (.str spec.name) spec.level overrides) table = .ok overrides := by
  induction specs generalizing table with
  | nil => exact ⟨table, rfl⟩
  | cons spec specs ih =>
    obtain ⟨⟨parsed, hparsed⟩, hrest⟩ := List.forall_mem_cons.mp h
    rw [List.foldlM_cons, hparsed]
    exact ih hrest _

/-- Specifications that can be read put a manager in charge. -/
theorem exists_managerOf (channels : Channel.Table) (verbosity : Threshold) {specs : List Text}
    (h : ∀ spec ∈ specs, ∃ parsed, Channel.Spec.parse spec = .ok parsed)
    (destination : Destination) :
    ∃ manager, managerOf channels verbosity specs destination = .ok manager := by
  obtain ⟨overrides, hoverrides⟩ := foldlM_of_parse h
    (channels.optIn.foldl (fun overrides name => Json.Table.set name Level.minimal overrides) [])
  unfold managerOf overridesOf
  dsimp only
  rw [hoverrides]
  exact ⟨_, rfl⟩

/-- A new manager has the thresholds that its specifications set, as levels. -/
theorem managerOf_eq_ok {channels : Channel.Table} {verbosity : Threshold} {specs : List Text}
    {destination : Destination} {manager : Manager}
    (h : managerOf channels verbosity specs destination = .ok manager) :
    ∃ overrides, overridesOf channels.optIn specs = .ok overrides ∧
      manager = ⟨verbosity, overrides.map fun entry => (entry.1, .level entry.2), destination,
        []⟩ := by
  obtain ⟨overrides, hoverrides, hmanager⟩ := bind_eq_ok_iff.mp h
  refine ⟨overrides, ?_, (Except.ok.inj hmanager).symm⟩
  cases hread : overridesOf channels.optIn specs with
  | error error =>
    rw [hread] at hoverrides
    cases hoverrides
  | ok found =>
    rw [hread] at hoverrides
    exact congrArg Except.ok (Except.ok.inj hoverrides)

/-- The threshold of a channel under a new manager. -/
theorem threshold_of_managerOf {channels : Channel.Table} {verbosity : Threshold}
    {specs : List Text} {destination : Destination} {manager : Manager}
    (h : managerOf channels verbosity specs destination = .ok manager) (channel : Text) :
    manager.threshold channel =
      (((Channel.levelOf? channel specs).or
        (if channels.optIn.any fun name => Json.same name (.str channel) then some Level.minimal
          else none)).map Threshold.level).getD verbosity := by
  obtain ⟨overrides, hoverrides, rfl⟩ := managerOf_eq_ok h
  have hget := (get?_foldlM hoverrides channel).trans
    (congrArg _ (get?_silent channel channels.optIn []))
  have hmap := Json.Table.get?_map (.str channel) Threshold.level overrides
  rw [hget] at hmap
  unfold Manager.threshold
  exact congrArg (fun found => Option.getD found verbosity) hmap

theorem outcome_start {s : Session} {verbosity : Int} {specs : List Text}
    {destination : Destination} {manager : Manager}
    (h : managerOf s.channels verbosity specs destination = .ok manager) :
    outcome (start verbosity specs destination) s = (.ok (), s.withManager manager) := by
  unfold start
  rw [outcome_bind, outcome_get]
  dsimp only
  rw [outcome_bind, outcome_attempt, h]
  rfl

theorem outcome_start_of_error {s : Session} {verbosity : Int} {specs : List Text}
    {destination : Destination} {f : Fault}
    (h : managerOf s.channels verbosity specs destination = .error f) :
    outcome (start verbosity specs destination) s = (.error f, s) := by
  unfold start
  rw [outcome_bind, outcome_get]
  dsimp only
  rw [outcome_bind, outcome_attempt, h]

/-- Specifications that are given as values, but are all texts, are what a manager is made for. -/
theorem outcome_startGiven_texts (verbosity : Threshold) (specs : List Text)
    (destination : Destination)
    (s : Session) :
    outcome (startGiven verbosity (.arr (specs.map .str)) destination) s =
      outcome (attempt (managerOf s.channels verbosity specs destination) >>= install) s := by
  have hgiven : (if (Json.arr (specs.map .str)).isGiven then (Json.arr (specs.map .str)).parts
      else .ok []) = .ok (specs.map .str) := by
    cases specs <;> rfl
  have htexts : ((specs.map Json.str).takeWhile fun spec => spec.text?.isSome).filterMap
      Json.text? = specs := by
    rw [List.takeWhile_eq_self_iff.mpr (by simp [Json.text?]), List.filterMap_map]
    exact List.filterMap_some
  have hend : (specs.map Json.str)[specs.length]? = none := by simp
  unfold startGiven
  rw [hgiven, outcome_bind, outcome_attempt]
  change outcome (get >>= _) s = _
  rw [outcome_bind, outcome_get]
  dsimp only
  rw [htexts, hend]

/-- A new manager is in charge only if its specifications can be read. -/
theorem managerOf_of_start {s s' : Session} {verbosity : Int} {specs : List Text}
    {destination : Destination}
    (h : outcome (start verbosity specs destination) s = (.ok (), s')) :
    managerOf s.channels verbosity specs destination = .ok s'.manager := by
  cases hmanager : managerOf s.channels verbosity specs destination with
  | ok manager =>
    rw [outcome_start hmanager] at h
    cases h
    rfl
  | error f => cases (outcome_start_of_error hmanager).symm.trans h

end Session

end TargetHelp
