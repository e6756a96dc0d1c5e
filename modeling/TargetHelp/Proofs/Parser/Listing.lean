import TargetHelp.Program

/-!
# Listed modules can be imported

A listing begins modules without members and adds members to them, and no word of it does anything
else to a module. So the code of a module that has been listed never raises anything, whatever the
listing says, and no module of the program or of the platform is there without being importable.
-/

set_option autoImplicit false
set_option relaxedAutoImplicit false

namespace TargetHelp

/-- The code of no module raises anything. -/
def Catalogue.IsImportable (catalogue : Catalogue) : Prop :=
  ∀ m ∈ catalogue.modules, ∃ members, m.members = .ok members

namespace Listing

variable {state : State} {replies : Replies}

/-! ### States -/

namespace State

variable (h : state.catalogue.IsImportable)
include h

theorem importable_enter (name : Text) (isOffered : Bool) :
    (state.enter name isOffered).catalogue.IsImportable := by
  unfold enter
  dsimp only
  split
  · exact h
  · exact List.forall_mem_cons.mpr ⟨⟨[], rfl⟩, h⟩

theorem importable_editModule {edit : Module → Module}
    (hedit : ∀ m, (∃ members, m.members = .ok members) →
      ∃ members, (edit m).members = .ok members) :
    (state.editModule edit).catalogue.IsImportable := by
  intro m hm
  obtain ⟨old, hold, rfl⟩ := List.mem_map.mp hm
  split
  · exact hedit old (h old hold)
  · exact h old hold

theorem importable_addToModule (name : Text) (thing : Thing) :
    (state.addToModule name thing).catalogue.IsImportable := by
  refine importable_editModule h fun m ⟨members, hmembers⟩ => ⟨(name, thing) :: members, ?_⟩
  dsimp only
  rw [hmembers]
  rfl

theorem importable_addPath (path : Text) (thing : Thing) :
    (state.addPath path thing).catalogue.IsImportable := by
  unfold addPath
  split
  · exact importable_addToModule h _ thing
  · -- What a class holds is held by no module.
    exact h

theorem importable_add (name : Text) (thing : Thing) :
    (state.add name thing).catalogue.IsImportable := importable_addPath h _ thing

theorem importable_addToValues (name : Text) (thing : Thing) :
    (state.addToValues name thing).catalogue.IsImportable := by
  have hvalues : { state with ofValues := true }.catalogue.IsImportable := h
  exact importable_add hvalues name thing

end State

theorem importable_ite {c : Prop} [Decidable c] {other : State}
    (h : state.catalogue.IsImportable) (hother : other.catalogue.IsImportable) :
    (if c then state else other).catalogue.IsImportable := by
  split
  · exact h
  · exact hother

theorem importable_foldl {α : Type} {add : State → α → State}
    (hadd : ∀ state a, state.catalogue.IsImportable → (add state a).catalogue.IsImportable)
    (entries : List α) (h : state.catalogue.IsImportable) :
    (entries.foldl add state).catalogue.IsImportable := by
  induction entries generalizing state with
  | nil => exact h
  | cons a entries ih => exact ih (hadd state a h)

/-! ### Words -/

section Words

variable (h : state.catalogue.IsImportable)
include h

theorem importable_addFunction (make : Function → Thing) (word : Text) :
    (addFunction replies make state word).catalogue.IsImportable :=
  State.importable_addPath h _ _

theorem importable_addFrom (name path : Text) :
    (addFrom state name path).catalogue.IsImportable := by
  unfold addFrom
  dsimp only
  split
  · exact State.importable_add h _ _
  · exact h

theorem importable_addBound (name title : Text) :
    (addBound state name title).catalogue.IsImportable := by
  unfold addBound
  split
  · exact State.importable_add h _ _
  · exact h

theorem importable_addMember (sort : MemberSort) (word : Text) :
    (addMember replies sort state word).catalogue.IsImportable := by
  have hheld (entries : Fields Thing) :
      (entries.foldl (fun state held => state.add held.1 held.2) state).catalogue.IsImportable :=
    importable_foldl (fun _ held hstate => State.importable_add hstate held.1 held.2) entries h
  exact importable_ite (State.importable_addToValues (hheld _) _ _) (hheld _)

theorem importable_addType (isDefined : Bool) (word : Text) :
    (addType isDefined replies state word).catalogue.IsImportable :=
  State.importable_addPath h _ _

theorem importable_addRecord (word : Text) :
    (addRecord replies state word).catalogue.IsImportable := by
  have hclass : { state with parameter := [] }.catalogue.IsImportable := h
  unfold addRecord
  dsimp only
  refine importable_foldl ?_ _ (importable_foldl ?_ _ (importable_addType hclass true _))
  · exact fun _ _ hmade => hmade
  · exact fun _ f hmade => State.importable_addPath hmade f.name _

theorem importable_readAssignment (word : Text) :
    (readAssignment replies state word).catalogue.IsImportable := by
  have hadd (name : Text) (thing : Thing) : (state.add name thing).catalogue.IsImportable :=
    State.importable_add h name thing
  refine importable_ite (importable_addFrom h _ _) (importable_ite (hadd _ _) ?_)
  refine importable_ite (hadd _ _) (importable_ite (hadd _ _) ?_)
  refine importable_ite (importable_addBound h _ _) (importable_ite (hadd _ _) ?_)
  exact importable_ite (hadd _ _) (importable_ite (hadd _ _) h)

theorem importable_readEntry (word : Text) :
    (readEntry replies state word).catalogue.IsImportable := by
  have hfunction (make : Function → Thing) :
      (addFunction replies make state word).catalogue.IsImportable :=
    importable_addFunction h make word
  refine importable_ite (hfunction _) (importable_ite (hfunction _) ?_)
  refine importable_ite (hfunction _) (importable_ite (State.importable_addPath h _ _) ?_)
  refine importable_ite (importable_addType h true word) ?_
  refine importable_ite (importable_addType h false word) ?_
  refine importable_ite (importable_addRecord h word) ?_
  refine importable_ite (State.importable_add h _ _) ?_
  refine importable_ite (State.importable_add h _ _) ?_
  split
  · exact importable_addMember h _ word
  · exact importable_readAssignment h word

theorem importable_readSort (sort parameter : Text) :
    (readSort state sort parameter).catalogue.IsImportable := by
  have hloader : (state.editModule fun m => { m with loader? := some parameter
      }).catalogue.IsImportable :=
    State.importable_editModule h fun _ hmembers => hmembers
  exact importable_ite h (importable_ite h (importable_ite (importable_ite h hloader) h))

theorem importable_readWord (word : Text) :
    (readWord replies state word).catalogue.IsImportable := by
  unfold readWord
  split
  · exact h
  · split
    · exact State.importable_enter h _ _
    · split
      · exact importable_readSort h _ _
      · exact importable_readEntry h _

end Words

/-- Whatever a listing says, the modules that it adds can be imported if those before it can. -/
theorem importable_extend {catalogue : Catalogue} (h : catalogue.IsImportable) (replies : Replies)
    (listing : Text) : (extend catalogue replies listing).IsImportable := by
  have hread : ((words listing).foldl (readWord replies) { catalogue }).catalogue.IsImportable :=
    importable_foldl (fun _ word hstate => importable_readWord hstate word) _ h
  intro m hm
  obtain ⟨old, hold, rfl⟩ := List.mem_map.mp hm
  exact hread old hold

end Listing

theorem Catalogue.IsImportable.followedBy {first rest : Catalogue} (hfirst : first.IsImportable)
    (hrest : rest.IsImportable) : (first.followedBy rest).IsImportable := by
  intro m hm
  rcases List.mem_append.mp hm with hm | hm
  · obtain ⟨old, hold, rfl⟩ := List.mem_map.mp hm
    obtain ⟨members, hmembers⟩ := hfirst old hold
    refine ⟨members ++ rest.held old.name, ?_⟩
    dsimp only
    rw [hmembers]
    rfl
  · exact hrest m hm

theorem Catalogue.importable_builtIn : builtIn.IsImportable :=
  List.forall_mem_cons.mpr ⟨⟨_, rfl⟩, List.forall_mem_singleton.mpr ⟨_, rfl⟩⟩

/-- Every module of the program can be imported, and so can every module of the platform. -/
theorem Program.importable_catalogue (world : World) : (catalogue world).IsImportable := by
  have htypes : Catalogue.ofTypes.IsImportable := List.forall_mem_nil _
  have hplatform : Platform.catalogue.IsImportable := Listing.importable_extend htypes _ _
  exact Catalogue.importable_builtIn.followedBy (Listing.importable_extend hplatform _ _)

end TargetHelp
