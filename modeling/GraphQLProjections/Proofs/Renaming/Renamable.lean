import GraphQLProjections.Generation

/-! The names in what a run produces, and renaming them. All else stays as it is. -/
namespace GraphQLProjections

/-- Values that hold names. A renaming reaches those names and nothing else. -/
class Renamable (α : Type) where
  /-- The names held, in order. -/
  names : α → List String
  renamed : (String → String) → α → α
  names_renamed (rename : String → String) (value : α) :
    names (renamed rename value) = (names value).map rename
  renamed_congr {rename other : String → String} {value : α}
    (agree : ∀ name ∈ names value, rename name = other name) :
    renamed rename value = renamed other value

namespace Renamable

variable {α : Type} [Renamable α]

attribute [simp] names_renamed

instance : Renamable String where
  names name := [name]
  renamed rename name := rename name
  names_renamed _ _ := rfl
  renamed_congr agree := agree _ List.mem_cons_self

instance : Renamable (List α) where
  names values := values.flatMap names
  renamed rename values := values.map (renamed rename)
  names_renamed rename values := by simp [List.flatMap_map, List.map_flatMap]
  renamed_congr agree := List.map_congr_left fun value member =>
    renamed_congr fun name inside => agree name (List.mem_flatMap.mpr ⟨value, member, inside⟩)

instance : Renamable (Option α) where
  names value := (value.map names).getD []
  renamed rename value := value.map (renamed rename)
  names_renamed rename value := by cases value <;> simp
  renamed_congr {_ _ value} agree := by
    cases value with
    | none => rfl
    | some value => exact congrArg some (renamed_congr agree)

instance : Renamable Link where
  names link := [link.name]
  renamed rename link := { link with name := rename link.name }
  names_renamed _ _ := rfl
  renamed_congr {_ _ link} agree := by rw [agree link.name List.mem_cons_self]

instance : Renamable SelectionMethod where
  names method := names method.link
  renamed rename method := { method with link := renamed rename method.link }
  names_renamed rename method := names_renamed rename method.link
  renamed_congr agree := by rw [renamed_congr agree]

instance : Renamable FragmentAccessor where
  names accessor := names accessor.link
  renamed rename accessor := { accessor with link := renamed rename accessor.link }
  names_renamed rename accessor := names_renamed rename accessor.link
  renamed_congr agree := by rw [renamed_congr agree]

instance : Renamable Site where
  names site := [site.name]
  renamed rename site := { site with name := rename site.name }
  names_renamed _ _ := rfl
  renamed_congr {_ _ site} agree := by rw [agree site.name List.mem_cons_self]

instance : Renamable ProjectionNode where
  names node := names node.toSite ++ names node.methods ++ names node.fragments
  renamed rename node :=
    { node with
      toSite := renamed rename node.toSite
      methods := renamed rename node.methods
      fragments := renamed rename node.fragments }
  names_renamed rename node := by simp
  renamed_congr agree := by
    simp only [List.forall_mem_append] at agree
    rw [renamed_congr agree.1.1, renamed_congr agree.1.2, renamed_congr agree.2]

instance : Renamable OperationDescriptor where
  names operation := names operation.name ++ names operation.projectionRoot
  renamed rename operation :=
    { operation with
      name := renamed rename operation.name
      projectionRoot := renamed rename operation.projectionRoot }
  names_renamed rename operation := by simp
  renamed_congr agree := by
    simp only [List.forall_mem_append] at agree
    rw [renamed_congr agree.1, renamed_congr agree.2]

/-- Of the kinds of fields only one refers to a representation. -/
instance : Renamable RepresentationFieldKind where
  names
    | .composite representation => [representation]
    | _ => []
  renamed rename
    | .composite representation => .composite (rename representation)
    | other => other
  names_renamed rename kind := by cases kind <;> rfl
  renamed_congr {_ _ kind} agree := by
    cases kind with
    | composite representation => exact congrArg _ (agree representation List.mem_cons_self)
    | _ => rfl

instance : Renamable RepresentationField where
  names field := names field.kind
  renamed rename field := { field with kind := renamed rename field.kind }
  names_renamed rename field := names_renamed rename field.kind
  renamed_congr agree := by rw [renamed_congr agree]

instance : Renamable Representation where
  names representation := names representation.name ++ names representation.fields
  renamed rename representation :=
    { representation with
      name := renamed rename representation.name
      fields := renamed rename representation.fields }
  names_renamed rename representation := by simp
  renamed_congr agree := by
    simp only [List.forall_mem_append] at agree
    rw [renamed_congr agree.1, renamed_congr agree.2]

instance : Renamable Output where
  names output :=
    names output.operations ++ names output.projections ++ names output.representations
  renamed rename output :=
    { output with
      operations := renamed rename output.operations
      projections := renamed rename output.projections
      representations := renamed rename output.representations }
  names_renamed rename output := by simp
  renamed_congr agree := by
    simp only [List.forall_mem_append] at agree
    rw [renamed_congr agree.1.1, renamed_congr agree.1.2, renamed_congr agree.2]

end Renamable
end GraphQLProjections
