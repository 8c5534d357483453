import GraphQLProjections.Proofs.Filter.Likeness
import GraphQLProjections.Proofs.Projection.Population

/-! A traversal reads a filter only through its parts by name, and through its height. Under filters
that are alike, every step of it is the same program. -/
namespace GraphQLProjections

open Building

/-- The parts of scopes that are alike are alike: selected in both or in neither. -/
theorem partScope_alike {scope scope' : Option Filter}
    (alike : Option.Rel Filter.Alike scope scope') (step : SelectionStep) : Option.Rel (Option.Rel Filter.Alike)
      (partScope scope (·.step? step)) (partScope scope' (·.step? step)) := by
  cases alike with
  | none => exact .some .none
  | @some filter filter' alike =>
    have parts := alike.step? step
    dsimp only [partScope]
    generalize filter.step? step = part, filter'.step? step = part' at parts
    cases parts with
    | none => exact .none
    | some alike => exact .some (.some alike)

namespace Traversal

variable {traversal : Traversal} {descend : Descent} {scope scope' filter filter' : Option Filter}

def Indifferent (descend : Descent) : Prop :=
  ∀ {filter filter' : Option Filter}, Option.Rel Filter.Alike filter filter' →
    ∀ site type trail, descend site type trail filter = descend site type trail filter'

theorem child_congr (indifferent : Indifferent descend)
    (alike : Option.Rel Filter.Alike filter filter') (site : Site) (field : FieldDefinition)
    (type : TypeDefinition) (trail : List TrailStep) :
    child descend site field type trail filter = child descend site field type trail filter' := by
  have path : childPath site field type trail filter = childPath site field type trail filter' := by
    cases alike <;> rfl
  rw [child_eq, child_eq, path]
  simp only [indifferent alike]

theorem fragment_congr (indifferent : Indifferent descend)
    (alike : Option.Rel Filter.Alike filter filter') (site : Site) (type : TypeDefinition)
    (trail : List TrailStep) :
    fragment descend site type trail filter = fragment descend site type trail filter' := by
  rw [fragment_eq, fragment_eq]
  simp only [indifferent alike]

theorem method?_congr (indifferent : Indifferent descend)
    (alike : Option.Rel Filter.Alike scope scope') (site : Site) (trail : List TrailStep)
    (field : FieldDefinition) : traversal.method? descend site trail scope field =
      traversal.method? descend site trail scope' field := by
  have parts : Option.Rel (Option.Rel Filter.Alike) (partScope scope (·.field? field.name))
    (partScope scope' (·.field? field.name)) := partScope_alike alike (.field field.name)
  unfold method?
  generalize partScope scope (·.field? field.name) = part,
    partScope scope' (·.field? field.name) = part' at parts
  cases parts with
  | none => rfl
  | some alike => simp only [child_congr indifferent alike]

theorem accessor?_congr (indifferent : Indifferent descend)
    (alike : Option.Rel Filter.Alike scope scope') (site : Site) (trail : List TrailStep)
    (type : TypeDefinition) : accessor? descend site trail scope type =
      accessor? descend site trail scope' type := by
  have parts : Option.Rel (Option.Rel Filter.Alike) (partScope scope (·.fragment? type.name))
    (partScope scope' (·.fragment? type.name)) := partScope_alike alike (.fragment type.name)
  unfold accessor?
  generalize partScope scope (·.fragment? type.name) = part,
    partScope scope' (·.fragment? type.name) = part' at parts
  cases parts with
  | none => rfl
  | some alike => simp only [fragment_congr indifferent alike]

theorem cuts_congr (alike : Option.Rel Filter.Alike scope scope') (site : Site)
    (type : TypeDefinition) :
    traversal.cuts site scope type = traversal.cuts site scope' type := by
  have selected (name : String) : (partScope scope (·.field? name)).isSome =
      (partScope scope' (·.field? name)).isSome :=
    isSome_eq_of_rel (partScope_alike alike (.field name))
  simp only [cuts, selected]

theorem populateBy_indifferent (indifferent : Indifferent descend) :
    Indifferent (traversal.populateBy descend) := by
  intro filter filter' alike site type trail
  have narrowed : Option.Rel Filter.Alike (filter.map (·.narrowed type.name))
      (filter'.map (·.narrowed type.name)) := by
    cases alike with
    | none => exact .none
    | some alike => exact .some (alike.narrowed type.name)
  have methods : traversal.method? descend site trail (filter.map (·.narrowed type.name)) =
      traversal.method? descend site trail (filter'.map (·.narrowed type.name)) :=
    funext fun field => method?_congr indifferent narrowed site trail field
  have accessors : accessor? descend site trail (filter.map (·.narrowed type.name)) =
      accessor? descend site trail (filter'.map (·.narrowed type.name)) :=
    funext fun type => accessor?_congr indifferent narrowed site trail type
  simp only [populateBy, methods, accessors, cuts_congr narrowed]

theorem populate_indifferent (bound : Nat) : Indifferent (traversal.populate bound) := by
  induction bound with
  | zero => exact fun _ _ _ _ => rfl
  | succ bound ih => exact populateBy_indifferent ih

theorem levels_congr (alike : Option.Rel Filter.Alike filter filter') :
    traversal.levels filter = traversal.levels filter' := by
  cases alike with
  | none => rfl
  | some alike => simp only [levels, Option.map_some, alike.height]

theorem rootAt_congr (alike : Option.Rel Filter.Alike filter filter') (path : List String)
    (field : FieldDefinition) :
    traversal.rootAt path field filter = traversal.rootAt path field filter' := by
  simp only [rootAt, levels_congr alike, populate_indifferent _ alike]

end Traversal
end GraphQLProjections
