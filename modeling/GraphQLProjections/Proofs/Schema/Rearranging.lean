import GraphQLProjections.Proofs.Schema.Merging
import GraphQLProjections.Proofs.Schema.WellFormed

/-! Where extensions are written does not matter, if the types that they extend are defined
somewhere: a schema depends on the definitions in order, and on the extensions of each name. -/
namespace GraphQLProjections

namespace TypeDefinition

theorem mem_names_iff {types : List TypeDefinition} {name : String} :
    name ∈ types.map (·.name) ↔ (named? types name).isSome := by
  simp [named?]

theorem nodup_foldl_declare (definitions types : List TypeDefinition)
    (distinct : (types.map (·.name)).Nodup) :
    ((definitions.foldl declare types).map (·.name)).Nodup := by
  induction definitions generalizing types with
  | nil => exact distinct
  | cons definition rest ih => exact ih _ (nodup_declare distinct definition)

/-- An extension extends the type of its name and leaves the others as they are. -/
theorem applyExtension_eq_map {types : List TypeDefinition}
    (distinct : (types.map (·.name)).Nodup) {addition : TypeDefinition}
    (based : addition.name ∈ types.map (·.name)) :
    addition.applyExtension types =
      types.map fun type => if type.name = addition.name then type.extended addition else type := by
  induction types with
  | nil => exact absurd based List.not_mem_nil
  | cons type rest ih =>
    obtain ⟨apart, distinct⟩ := List.nodup_cons.mp distinct
    rw [applyExtension, List.map_cons]
    split
    next here =>
      have others : ∀ other ∈ rest, other.name ≠ addition.name := fun other member same =>
        apart (List.mem_map.mpr ⟨other, member, same.trans here.symm⟩)
      rw [List.map_congr_left fun other member => if_neg (others other member), List.map_id']
    next elsewhere =>
      have based : addition.name ∈ rest.map (·.name) :=
        (List.mem_cons.mp based).resolve_left fun same => elsewhere same.symm
      rw [ih distinct based]

/-- Extensions of different types do not meet: each type takes those of its name in order. -/
theorem foldl_applyExtension_eq_map {types : List TypeDefinition}
    (distinct : (types.map (·.name)).Nodup) {additions : List TypeDefinition}
    (based : ∀ addition ∈ additions, addition.name ∈ types.map (·.name)) :
    additions.foldl (fun types addition => addition.applyExtension types) types =
      types.map fun type => (additions.filter (·.name == type.name)).foldl extended type := by
  induction additions generalizing types with
  | nil => simp
  | cons addition rest ih =>
    have here := applyExtension_eq_map distinct (based addition List.mem_cons_self)
    have names : (addition.applyExtension types).map (·.name) = types.map (·.name) := by
      rw [names_applyExtension, if_pos (based addition List.mem_cons_self)]
    rw [List.foldl_cons, ih (names ▸ distinct) fun other member =>
      names ▸ based other (List.mem_cons_of_mem _ member), here, List.map_map]
    refine List.map_congr_left fun type _ => ?_
    by_cases same : type.name = addition.name
    · simp [same]
    · have differs : ¬addition.name = type.name := fun other => same other.symm
      simp [same, differs]

end TypeDefinition

namespace Schema

open TypeDefinition

/-- The same definitions in order and, for each name, the same extensions in order; every type that
is extended is defined. -/
structure Rearranged (declarations others : List Declaration) : Prop where
  types : definedTypes others = definedTypes declarations
  roots : rootBlocks others = rootBlocks declarations
  based : ∀ addition ∈ extensions declarations,
    addition.name ∈ (definedTypes declarations).map (·.name)
  additions : ∀ name, (extensions others).filter (·.name == name) =
    (extensions declarations).filter (·.name == name)

variable {declarations others : List Declaration}

/-- If every type that is extended is defined, the types are the definitions in order, each with the
extensions of its name. -/
theorem mergedTypes_eq_map
    (based : ∀ addition ∈ extensions declarations,
      addition.name ∈ (definedTypes declarations).map (·.name)) :
    mergedTypes declarations = ((definedTypes declarations).foldl declare []).map fun type =>
      ((extensions declarations).filter (·.name == type.name)).foldl extended type := by
  refine foldl_applyExtension_eq_map (nodup_foldl_declare _ [] List.nodup_nil) ?_
  intro addition member
  rw [mem_names_iff, named?_foldl_declare]
  exact mem_names_iff.mp (based addition member)

theorem Rearranged.based' (same : Rearranged declarations others) :
    ∀ addition ∈ extensions others, addition.name ∈ (definedTypes others).map (·.name) := by
  intro addition member
  have listed : addition ∈ (extensions others).filter (·.name == addition.name) :=
    List.mem_filter.mpr ⟨member, beq_self_eq_true _⟩
  rw [same.additions] at listed
  rw [same.types]
  exact same.based addition (List.mem_filter.mp listed).1

theorem Rearranged.assemble_eq (same : Rearranged declarations others) (settings : Settings) :
    assemble others settings = assemble declarations settings := by
  have merged : mergedTypes others = mergedTypes declarations := by
    rw [mergedTypes_eq_map same.based, mergedTypes_eq_map same.based', same.types]
    simp only [same.additions]
  have roots : rootName others = rootName declarations := by
    funext root standard
    rw [rootName, rootName, same.roots]
  rw [assemble, assemble, merged, roots]

theorem definedTypes_append (first second : List Declaration) :
    definedTypes (first ++ second) = definedTypes first ++ definedTypes second :=
  List.filterMap_append

theorem extensions_append (first second : List Declaration) :
    extensions (first ++ second) = extensions first ++ extensions second :=
  List.filterMap_append

theorem rootBlocks_append (first second : List Declaration) :
    rootBlocks (first ++ second) = rootBlocks first ++ rootBlocks second :=
  List.filterMap_append

/-- Extensions can be moved over declarations that extend other types. -/
theorem rearranged_append_comm {additions : List Declaration}
    (noTypes : definedTypes additions = []) (noRoots : rootBlocks additions = [])
    (apart : ∀ earlier ∈ extensions declarations, ∀ later ∈ extensions additions,
      earlier.name ≠ later.name)
    (based : ∀ addition ∈ extensions (declarations ++ additions),
      addition.name ∈ (definedTypes declarations).map (·.name)) :
    Rearranged (declarations ++ additions) (additions ++ declarations) := by
  refine ⟨?_, ?_, ?_, fun name => ?_⟩
  · simp [definedTypes_append, noTypes]
  · simp [rootBlocks_append, noRoots]
  · rwa [definedTypes_append, noTypes, List.append_nil]
  · rw [extensions_append, extensions_append, List.filter_append, List.filter_append]
    by_cases early : ∃ earlier ∈ extensions declarations, earlier.name = name
    · obtain ⟨earlier, listed, rfl⟩ := early
      have none : (extensions additions).filter (·.name == earlier.name) = [] :=
        List.filter_eq_nil_iff.mpr fun later member => by
          simpa using (apart earlier listed later member).symm
      rw [none, List.append_nil, List.nil_append]
    · have none : (extensions declarations).filter (·.name == name) = [] :=
        List.filter_eq_nil_iff.mpr fun earlier member => by
          simpa using fun same => early ⟨earlier, member, same⟩
      rw [none, List.append_nil, List.nil_append]

/-- Documents that are rearranged give the same schema. -/
theorem ofDocuments_rearranged {texts texts' : List String}
    {documents documents' : List (List Declaration)}
    (read : texts.mapM readDocument = .ok documents)
    (read' : texts'.mapM readDocument = .ok documents')
    (same : Rearranged documents.flatten documents'.flatten) (settings : Settings) :
    ∃ schema, ofDocuments texts settings = .ok schema ∧
      ofDocuments texts' settings = .ok schema := by
  refine ⟨assemble documents.flatten settings, ?_, ?_⟩
  · rw [ofDocuments, read]
    rfl
  · rw [ofDocuments, read', ← same.assemble_eq settings]
    rfl

def scheduleDocument : String :=
  "type Query \x7b item: Item \x7d union Item = Show
  type Show \x7b title: String \x7d type Film @skipcodegen"

def showAdditions : String :=
  "extend type Show @key(fields: \"id\") \x7b id: ID \x7d
  extend type Show \x7b film: Film \x7d"

def itemAdditions : String := "extend union Item = Film"

theorem ofDocuments_rearranged_schedule :
    ∃ documents documents' schema,
      [scheduleDocument, showAdditions, itemAdditions].mapM readDocument = .ok documents ∧
      [itemAdditions, scheduleDocument, showAdditions].mapM readDocument = .ok documents' ∧
      Rearranged documents.flatten documents'.flatten ∧
      ofDocuments [scheduleDocument, showAdditions, itemAdditions] .standard = .ok schema ∧
      ofDocuments [itemAdditions, scheduleDocument, showAdditions] .standard = .ok schema := by
  have checked : (readDocument scheduleDocument).toOption.any (fun schedule =>
      (readDocument showAdditions).toOption.any fun shows =>
        (readDocument itemAdditions).toOption.any fun items =>
          decide ((definedTypes items).isEmpty ∧ (rootBlocks items).isEmpty ∧
            (∀ earlier ∈ extensions (schedule ++ shows), ∀ later ∈ extensions items,
              earlier.name ≠ later.name) ∧
            ∀ addition ∈ extensions ((schedule ++ shows) ++ items),
              addition.name ∈ (definedTypes (schedule ++ shows)).map (·.name))) = true := by
    decide +kernel
  obtain ⟨schedule, readSchedule, checked⟩ := exists_of_any checked
  obtain ⟨shows, readShows, checked⟩ := exists_of_any checked
  obtain ⟨items, readItems, checked⟩ := exists_of_any checked
  obtain ⟨noTypes, noRoots, apart, based⟩ := of_decide_eq_true checked
  have rearranged :
      Rearranged [schedule, shows, items].flatten [items, schedule, shows].flatten := by
    simpa using rearranged_append_comm (List.isEmpty_iff.mp noTypes) (List.isEmpty_iff.mp noRoots)
      apart based
  have read : [scheduleDocument, showAdditions, itemAdditions].mapM readDocument =
      .ok [schedule, shows, items] := by
    rw [List.mapM_cons, readSchedule, List.mapM_cons, readShows, List.mapM_cons, readItems]
    rfl
  have read' : [itemAdditions, scheduleDocument, showAdditions].mapM readDocument =
      .ok [items, schedule, shows] := by
    rw [List.mapM_cons, readItems, List.mapM_cons, readSchedule, List.mapM_cons, readShows]
    rfl
  obtain ⟨schema, schema₁, schema₂⟩ := ofDocuments_rearranged read read' rearranged .standard
  exact ⟨_, _, schema, read, read', rearranged, schema₁, schema₂⟩

end Schema
end GraphQLProjections
