import GraphQLProjections.Proofs.Filter
import GraphQLProjections.Proofs.Projection.Tree

/-! Projections under a filter. At each projection a field counts as selected if the filter selects it
plainly, or in one fragment on the projected type itself. -/
namespace GraphQLProjections

/-- What is wanted below a field on values of a type: plainly, or in one fragment on that type. -/
def wantedBelow (wants : List SelectionStep → Prop) (type field : String) :
    List SelectionStep → Prop :=
  fun word => wants (.field field :: word) ∨ wants (.fragment type :: .field field :: word)

/-- The first of the fields of one name, among those that lead to a leaf or a composite type. -/
def Schema.firstField? (schema : Schema) (type : TypeDefinition) (name : String) :
    Option FieldDefinition :=
  type.fields.find? fun field => field.name == name && (schema.target field).isOk

theorem Schema.firstField?_name {schema : Schema} {type : TypeDefinition} {name : String}
    {field : FieldDefinition} (first : schema.firstField? type name = some field) :
    field.name = name := by
  have found := List.find?_some first
  rw [Bool.and_eq_true] at found
  exact eq_of_beq found.1

def Purpose.Filtered : Purpose → Prop
  | type _ _ (some filter) => filter.Distinct
  | arguments _ => True
  | _ => False

namespace Filter

variable {filter child : Filter} (distinct : filter.Distinct) {type name : String}
include distinct

/-- Below a field of a narrowed filter is what is wanted there. -/
theorem has_narrowed_child (found : (filter.narrowed type).field? name = some child) :
    child.Has = wantedBelow filter.Has type name := by
  funext word
  refine propext (Iff.trans ?_ (has_narrowed_field distinct))
  simp [Has, step?, found]

theorem narrowed_isSome : ((filter.narrowed type).field? name).isSome ↔
    wantedBelow filter.Has type name [] := by
  refine Iff.trans ?_ (has_narrowed_field distinct)
  simp [Has, step?, Option.isSome_iff_exists]

end Filter

namespace Traversal

variable {schema : Schema} {spot request : Spot} {type : TypeDefinition} {trail : List TrailStep}
  {filter : Filter}

/-- The request of a selected field. -/
theorem requestOfField_filtered (purpose : spot.purpose = .type type trail (some filter))
    {field : FieldDefinition} :
    requestOfField ⟨schema, none⟩ spot field = some request ↔
      ∃ child, (filter.narrowed type.name).field? field.name = some child ∧
        ((∃ next, schema.target field = .ok (.composite next) ∧
            request = ⟨.sub, spot.depth + 1, spot.path ++ [field.name],
              .type next (trail ++ [⟨field.name, next.name, spot.path ++ [field.name]⟩])
                (some child)⟩) ∨
          schema.target field = .ok .leaf ∧ field.arguments ≠ [] ∧
            request = ⟨.argumentWrapper, spot.depth + 1, spot.path ++ [field.name],
              .arguments field⟩) := by
  have scopeOf : spot.purpose.scope = some (filter.narrowed type.name) := by rw [purpose]; rfl
  have trailOf : spot.purpose.trail = trail := by rw [purpose]; rfl
  have path (child : Filter) (next : TypeDefinition) :
      spot.fieldPath field next (some child) = spot.path ++ [field.name] := rfl
  rw [requestOfField_eq_some]
  simp [scopeOf, trailOf, partScope, boundsAt, path, or_comm]

theorem keepsField_filtered (purpose : spot.purpose = .type type trail (some filter))
    (distinct : filter.Distinct) {field : FieldDefinition} :
    keepsField ⟨schema, none⟩ spot field = true ↔
      wantedBelow filter.Has type.name field.name [] ∧ (schema.target field).isOk = true := by
  have scopeOf : spot.purpose.scope = some (filter.narrowed type.name) := by rw [purpose]; rfl
  rw [← Filter.narrowed_isSome distinct]
  unfold keepsField
  cases leads : schema.target field with
  | error fault => simp [Except.isOk, Except.toBool]
  | ok target => cases target <;> simp [scopeOf, partScope, boundsAt, Except.isOk, Except.toBool]

theorem find?_kept (purpose : spot.purpose = .type type trail (some filter))
    (distinct : filter.Distinct) {name : String} {field : FieldDefinition} :
    type.fields.find? (fun field => field.name == name && keepsField ⟨schema, none⟩ spot field) =
        some field ↔
      wantedBelow filter.Has type.name name [] ∧ schema.firstField? type name = some field := by
  by_cases wanted : wantedBelow filter.Has type.name name []
  · have same : (fun field : FieldDefinition =>
          field.name == name && keepsField ⟨schema, none⟩ spot field) =
        fun field => field.name == name && (schema.target field).isOk := by
      funext field
      by_cases named : field.name = name
      · rw [Bool.eq_iff_iff, Bool.and_eq_true, Bool.and_eq_true, keepsField_filtered purpose distinct,
          named, and_iff_right wanted]
      · rw [beq_false_of_ne named, Bool.false_and, Bool.false_and]
    rw [and_iff_right wanted, Schema.firstField?, same]
  · refine iff_of_false (fun found => ?_) fun both => wanted both.1
    have kept := List.find?_some found
    rw [Bool.and_eq_true, keepsField_filtered purpose distinct] at kept
    exact wanted (eq_of_beq kept.1 ▸ kept.2.1)

/-- The method of a name is that of the first field of the name, if it is wanted. -/
theorem method?_filtered {opening : Opening} {lookup : List String → Option Link}
    (purpose : opening.purpose = .type type trail (some filter)) (distinct : filter.Distinct)
    {name : String} {method : SelectionMethod} :
    (Traversal.render ⟨schema, none⟩ lookup opening).method? name = some method ↔
      wantedBelow filter.Has type.name name [] ∧
        ∃ field, schema.firstField? type name = some field ∧
          method = ⟨field, (requestOfField ⟨schema, none⟩ opening.toSpot field).bind fun request =>
            lookup request.path⟩ := by
  have fieldsOf : opening.purpose.fields = type.fields := by rw [purpose]; rfl
  rw [method?_render, fieldsOf, Option.bind_eq_some_iff]
  constructor
  · rintro ⟨field, found, made⟩
    obtain ⟨wanted, first⟩ := (find?_kept purpose distinct).mp found
    have kept := List.find?_some found
    rw [Bool.and_eq_true] at kept
    rw [methodAt, if_pos kept.2] at made
    exact ⟨wanted, field, first, (Option.some.inj made).symm⟩
  · rintro ⟨wanted, field, first, rfl⟩
    have found := (find?_kept purpose distinct).mpr ⟨wanted, first⟩
    have kept := List.find?_some found
    rw [Bool.and_eq_true] at kept
    exact ⟨field, found, by rw [methodAt, if_pos kept.2]⟩

/-- A wanted field that leads to a composite type or takes arguments requests something. -/
theorem exists_request (purpose : spot.purpose = .type type trail (some filter))
    (distinct : filter.Distinct) {name : String} {field : FieldDefinition}
    (first : schema.firstField? type name = some field)
    (wanted : wantedBelow filter.Has type.name name [])
    (linked : schema.target field ≠ .ok .leaf ∨ field.arguments ≠ []) :
    ∃ request, requestOfField ⟨schema, none⟩ spot field = some request := by
  have leads := List.find?_some first
  rw [Bool.and_eq_true] at leads
  rw [← Schema.firstField?_name first, ← Filter.narrowed_isSome distinct] at wanted
  obtain ⟨child, found⟩ := Option.isSome_iff_exists.mp wanted
  cases target : schema.target field with
  | error fault => simp [target, Except.isOk, Except.toBool] at leads
  | ok target' =>
    cases target' with
    | leaf =>
      have arguments := linked.resolve_left (not_not_intro target)
      exact ⟨_, (requestOfField_filtered purpose).mpr ⟨child, found, .inr ⟨target, arguments, rfl⟩⟩⟩
    | composite next =>
      exact ⟨_, (requestOfField_filtered purpose).mpr ⟨child, found, .inl ⟨next, target, rfl⟩⟩⟩

/-- The first field of a name is the first to request the path of the name. -/
theorem find?_request (purpose : spot.purpose = .type type trail (some filter))
    (distinct : filter.Distinct) {name : String} {field : FieldDefinition}
    (first : schema.firstField? type name = some field)
    (requested : requestOfField ⟨schema, none⟩ spot field = some request) :
    (requests ⟨schema, none⟩ spot).find? (·.path == spot.path ++ [name]) = some request := by
  have fieldsOf : spot.purpose.fields = type.fields := by rw [purpose]; rfl
  have named := Schema.firstField?_name first
  have at' {field : FieldDefinition} {request : Spot}
      (requested : requestOfField ⟨schema, none⟩ spot field = some request) :
      request.path = spot.path ++ [field.name] := by
    obtain ⟨_, _, ⟨_, -, rfl⟩ | ⟨-, -, rfl⟩⟩ := (requestOfField_filtered purpose).mp requested
    · rfl
    · rfl
  obtain ⟨leads, before, after, split, others⟩ := List.find?_eq_some_iff_append.mp first
  have earlier : (before.filterMap (requestOfField ⟨schema, none⟩ spot)).find?
      (·.path == spot.path ++ [name]) = none := by
    refine List.find?_eq_none.mpr fun other inside place => ?_
    obtain ⟨source, member, requested'⟩ := List.mem_filterMap.mp inside
    rw [at' requested', beq_iff_eq, List.append_cancel_left_eq, List.singleton_inj] at place
    have kept := ((keepsField_filtered purpose distinct).mp (keepsField_of_request requested')).2
    simpa [place, kept] using others source member
  rw [requests, fieldsOf, split, List.filterMap_append, List.filterMap_cons, requested,
    List.append_assoc, List.find?_append, earlier, Option.none_or, List.cons_append, List.find?_cons,
    at' requested, named]
  simp

theorem requested_at (purpose : spot.purpose = .type type trail (some filter))
    (distinct : filter.Distinct) {name : String} {field : FieldDefinition}
    (first : schema.firstField? type name = some field)
    (requested : requestOfField ⟨schema, none⟩ spot field = some request) :
    request.path = spot.path ++ [name] ∧ request ∈ requests ⟨schema, none⟩ spot := by
  have found := find?_request purpose distinct first requested
  exact ⟨by simpa using List.find?_some found, List.mem_of_find?_eq_some found⟩

/-- Below a filter everything is filtered. -/
theorem filtered_request (filtered : spot.purpose.Filtered)
    (requested : request ∈ requests ⟨schema, none⟩ spot) : request.purpose.Filtered := by
  cases purpose : spot.purpose with
  | arguments field =>
    have none : requests ⟨schema, none⟩ spot = [] := by
      simp [requests, purpose, Purpose.fields, Purpose.types]
    exact absurd (none ▸ requested) List.not_mem_nil
  | entities types =>
    rw [purpose] at filtered
    exact filtered.elim
  | type type trail filter =>
    rw [purpose] at filtered
    cases filter with
    | none => exact filtered.elim
    | some filter =>
      have distinct : filter.Distinct := filtered
      have narrowed := distinct.narrowed type.name
      rcases mem_requests.mp requested with ⟨field, -, requested⟩ | ⟨concrete, -, requested⟩
      · obtain ⟨child, found, ⟨_, -, rfl⟩ | ⟨-, -, rfl⟩⟩ :=
          (requestOfField_filtered purpose).mp requested
        · exact narrowed.step (.field field.name) found
        · trivial
      · obtain ⟨below, found, rfl⟩ := Option.map_eq_some_iff.mp requested
        have scopeOf : spot.purpose.scope = some (filter.narrowed type.name) := by rw [purpose]; rfl
        simp only [scopeOf, partScope, Option.map_eq_some_iff] at found
        obtain ⟨child, found, rfl⟩ := found
        exact narrowed.step (.fragment concrete.name) found

end Traversal
end GraphQLProjections
