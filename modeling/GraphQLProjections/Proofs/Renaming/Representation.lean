import GraphQLProjections.Proofs.Generation.Representations
import GraphQLProjections.Proofs.Renaming.InStep

/-! Representations in step. From catalogues that differ in names alone, the same types get their
representations in the same order, which refer to each other in the same way. -/
namespace GraphQLProjections

open Renamable

namespace Matched

variable {supply other : NameSupply}

theorem representation {name name' : String} {fields fields' : List RepresentationField}
    (named : Matched supply other name name') (matched : Matched supply other fields fields')
    (type : String) :
    Matched supply other (⟨name, type, fields⟩ : Representation) ⟨name', type, fields'⟩ := by
  refine ⟨List.forall_mem_append.mpr ⟨named.paired, matched.paired⟩, ?_⟩
  rw [named.renamed, matched.renamed]
  rfl

theorem compositeField {name name' : String} (named : Matched supply other name name')
    (field : String) (type : TypeRef) :
    Matched supply other (⟨field, type, .composite name⟩ : RepresentationField)
      ⟨field, type, .composite name'⟩ :=
  ⟨named.paired, congrArg (fun name => RepresentationField.mk field type (.composite name))
    named.renamed⟩

theorem scalarField (field : String) (type : TypeRef) :
    Matched supply other (⟨field, type, .scalar⟩ : RepresentationField) ⟨field, type, .scalar⟩ :=
  ⟨List.forall_mem_nil _, rfl⟩

theorem typeNameField (type : String) :
    Matched supply other (Representation.typeNameField type)
      (Representation.typeNameField type) :=
  ⟨List.forall_mem_nil _, rfl⟩

end Matched

structure Catalogue.Alike (catalogue other : Catalogue) : Prop where
  names : catalogue.names.Twins other.names
  representations : Matched catalogue.names other.names catalogue.representations.toList
    other.representations.toList

instance : Twinned Catalogue where
  supply := Catalogue.names
  Alike := Catalogue.Alike
  twins := Catalogue.Alike.names

variable {catalogue other : Catalogue}

theorem Catalogue.Alike.size_eq (alike : catalogue.Alike other) :
    catalogue.representations.size = other.representations.size := by
  have lengths := congrArg List.length alike.representations.renamed
  simpa [renamed] using lengths.symm

namespace Cataloguing

theorem claim_inStep (alike : catalogue.Alike other) (type : TypeDefinition) :
    InStep (claim type) (claim type) catalogue other fun claimed claimed' later later' =>
      Tied claimed.1 claimed'.1 later later' ∧ claimed.2 = claimed'.2 := by
  obtain ⟨name, name', isNew, names, names', claims, claims', twins, keeps, keeps', pairs⟩ :=
    alike.names.claim [type.name] NameSupply.representationSuffix
  unfold InStep
  rw [run_claim, run_claim, claims, claims']
  have alike' : Catalogue.Alike { catalogue with names } { other with names := names' } :=
    ⟨twins, alike.representations.grown alike.names.there.consistent twins.there.consistent keeps
      keeps'⟩
  exact .ok ⟨alike', keeps, keeps'⟩ ⟨.of_pairs pairs twins.there.consistent, rfl⟩

theorem enter_inStep (alike : catalogue.Alike other) {name name' : String}
    (tied : Tied name name' catalogue other) (type : TypeDefinition) :
    InStep (enter name type) (enter name' type) catalogue other fun index index' _ _ =>
      index = index' := by
  have alike' : Catalogue.Alike
      { catalogue with representations := catalogue.representations.push ⟨name, type.name, []⟩ }
      { other with representations := other.representations.push ⟨name', type.name, []⟩ } := by
    refine ⟨alike.names, ?_⟩
    simpa using alike.representations.append (Matched.representation tied .nil type.name).singleton
  exact .ok ⟨alike', .refl _, .refl _⟩ alike.size_eq

theorem complete_inStep (alike : catalogue.Alike other) (index : Nat)
    {representation representation' : Representation}
    (tied : Tied representation representation' catalogue other) :
    InStep (complete index representation) (complete index representation') catalogue other
      fun _ _ _ _ => True := by
  have alike' : Catalogue.Alike
      { catalogue with
        representations := catalogue.representations.setIfInBounds index representation }
      { other with
        representations := other.representations.setIfInBounds index representation' } := by
    refine ⟨alike.names, ?_⟩
    simpa using alike.representations.set tied index
  exact .ok ⟨alike', .refl _, .refl _⟩ trivial

def KeepsStep {α : Type} [Renamable α] (step : Cataloguing α) : Prop :=
  ∀ catalogue other : Catalogue, catalogue.Alike other → InStep step step catalogue other Tied

/-- Representing a type keeps in step if reading its fields does. -/
theorem KeepsStep.represent {schema : Schema} {type : TypeDefinition}
    {selected : List (String × Option KeyTree)}
    (fields : KeepsStep (representFields schema type selected)) :
    KeepsStep (Cataloguing.represent schema type ⟨selected⟩) := by
  intro catalogue other alike
  unfold Cataloguing.represent
  refine (claim_inStep alike type).bind ?_
  rintro ⟨name, isNew⟩ ⟨name', isNew'⟩ later later' advance ⟨tied, rfl⟩
  cases isNew with
  | false => exact .pure advance.alike tied
  | true =>
    refine (enter_inStep advance.alike tied type).bind ?_
    rintro index _ second second' entered rfl
    refine (fields second second' entered.alike).bind fun values values' third third' read tied' => ?_
    have tied := tied.advance advance.alike (entered.trans read)
    have completed := tied.representation (tied'.cons (.typeNameField type.name)) type.name
    exact (complete_inStep read.alike index completed).bind fun _ _ _ _ last _ =>
      .pure last.alike (tied.advance read.alike last)

theorem represent_keepsStep (schema : Schema) (type : TypeDefinition) (tree : KeyTree) :
    KeepsStep (represent schema type tree) := by
  have kept {step : Cataloguing (List RepresentationField)} (ih : KeepsStep step)
      {catalogue other : Catalogue} (alike : catalogue.Alike other)
      {field field' : RepresentationField} (tied : Tied field field' catalogue other) :
      InStep (do return field :: (← step)) (do return field' :: (← step)) catalogue other Tied :=
    (ih catalogue other alike).bind fun _ _ _ _ advance tied' =>
      .pure advance.alike (tied'.cons (tied.advance alike advance))
  refine represent_induction (fun _ _ step => KeepsStep step) (fun _ _ step => KeepsStep step)
    ?_ ?_ ?_ ?_ ?_ ?_ type tree
  · exact fun fields => fields.represent
  · exact fun _ _ alike => .pure alike .nil
  · exact fun _ ih => ih
  · exact fun _ _ _ _ _ => .throw (.refl _)
  · exact fun _ _ _ ih _ _ alike => kept ih alike (.scalarField _ _)
  · intro type name group rest field other first step _ _ _ nested ih catalogue other' alike
    exact (nested catalogue other' alike).bind fun _ _ _ _ further tied =>
      kept ih further.alike (tied.compositeField _ _)

theorem representAll_inStep (schema : Schema) (entities : List TypeDefinition)
    (alike : catalogue.Alike other) :
    InStep (representAll schema entities) (representAll schema entities) catalogue other
      fun _ _ _ _ => True := by
  induction entities generalizing catalogue other with
  | nil => exact .pure alike trivial
  | cons entity rest ih =>
    have first : InStep (representEntity schema entity) (representEntity schema entity) catalogue
        other Tied := by
      refine (InStep.ofExcept alike _).bind ?_
      rintro keys _ later later' advance rfl
      split
      · exact .pure advance.alike .none
      · exact (represent_keepsStep schema entity _ later later' advance.alike).bind
          fun _ _ _ _ further tied => .pure further.alike tied.some
    exact first.discard.bind fun _ _ _ _ advance _ => ih advance.alike

end Cataloguing
end GraphQLProjections
