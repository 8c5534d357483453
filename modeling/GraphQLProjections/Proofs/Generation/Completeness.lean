import GraphQLProjections.Proofs.Generation.Following
import GraphQLProjections.Proofs.Generation.Independence
import GraphQLProjections.Proofs.Generation.Operations
import GraphQLProjections.Proofs.Operation.Selected

/-! Completeness of generation for defined operations: what the operations select below their root
fields has methods all along exactly if it is kept. -/
namespace GraphQLProjections

open Selection SelectedRoots

/-- A chain of fields along a word: each is declared by the type of the one before and comes in the
word, or in fragments on that very type. -/
inductive Schema.Chain (schema : Schema) :
    TypeDefinition → List String → List SelectionStep → Prop
  | last {type : TypeDefinition} {field : FieldDefinition} (declared : field ∈ type.fields) :
      Chain schema type [field.name] [.field field.name]
  | field {type next : TypeDefinition} {field : FieldDefinition} {names : List String}
      {word : List SelectionStep} (declared : field ∈ type.fields)
      (leads : schema.target field = .ok (.composite next)) (rest : Chain schema next names word) :
      Chain schema type (field.name :: names) (.field field.name :: word)
  | within {type : TypeDefinition} {names : List String} {word : List SelectionStep}
      (rest : Chain schema type names word) :
      Chain schema type names (.fragment type.name :: word)

theorem Schema.Chain.ne_nil {schema : Schema} {type : TypeDefinition} {names : List String}
    {word : List SelectionStep} (chain : schema.Chain type names word) : names ≠ [] := by
  induction chain with
  | last | field => simp
  | within _ ih => exact ih

/-- The names of a chain are the fields of its word. -/
theorem Schema.Chain.names_eq {schema : Schema} {type : TypeDefinition} {names : List String}
    {word : List SelectionStep} (chain : schema.Chain type names word) :
    names = word.filterMap fun step => match step with
      | .field name => some name
      | .fragment _ => none := by
  induction chain with
  | last => rfl
  | field _ _ _ ih | within _ ih => simp [ih]

namespace Generation

/-- An operation selects a root field and below it a chain of fields. -/
structure Promised (settings : Settings) (schema : Schema)
    (documents : List (List ExecutableDefinition)) (kind : OperationKind) (field : FieldDefinition)
    (type : TypeDefinition) (names : List String) : Prop where
  declared : ∃ owner, (kind, owner) ∈ schema.rootTypes ∧ field ∈ owner.fields
  included : includes settings kind = true
  shown : field.name ≠ "__typename"
  leads : schema.target field = .ok (.composite type)
  selected : ∃ document ∈ documents, ∃ operation, .operation operation ∈ document ∧
    operation.kind = kind ∧ ∃ inner, .field field.name inner ∈ operation.selections ∧
      ∃ word, schema.Chain type names word ∧
        Occurs (fragmentIn document) inner word

variable {settings : Settings} {schema : Schema} {documents : List (List ExecutableDefinition)}

theorem Promised.ne_nil {kind : OperationKind} {field : FieldDefinition} {type : TypeDefinition}
    {names : List String} (promised : Promised settings schema documents kind field type names) :
    names ≠ [] := by
  obtain ⟨_, _, _, _, _, _, _, _, chain, _⟩ := promised.selected
  exact chain.ne_nil

/-- A root field that an operation selects is planned. -/
theorem Promised.planned {kind : OperationKind} {field : FieldDefinition} {type : TypeDefinition}
    {names : List String} (definedOnly : settings.definedOnly = true)
    (acyclic : ∀ document ∈ documents, Acyclic (fragmentIn document))
    (promised : Promised settings schema documents kind field type names) :
    ∃ path filter, (path, ⟨kind, field, filter⟩) ∈
      plan settings schema (some (selectedBy documents)) := by
  obtain ⟨document, member, operation, inside, kindOf, inner, listed, word, -, occurs⟩ :=
    promised.selected
  obtain ⟨filter, found, -⟩ := ((selectedBy_spec acyclic).2 kind field.name word).mpr
    ⟨document, member, operation, inside, kindOf, .field listed promised.shown occurs⟩
  obtain ⟨owner, isRoot, declared⟩ := promised.declared
  have root : (⟨kind, field, some filter⟩ : RootField) ∈
      rootFields settings schema (some (selectedBy documents)) := by
    refine mem_rootFieldsOf.mpr ⟨owner, isRoot, promised.included, declared, ?_⟩
    have kept : keptRoots settings (some (selectedBy documents)) = some (selectedBy documents) :=
      if_pos definedOnly
    simp [kept, rootFieldOf, found]
  obtain ⟨path, planned⟩ := mem_planAfter root
  exact ⟨path, _, planned⟩

/-- The trees of root fields are filtered, and they come before the look-up of entities. -/
theorem filtered_of_owns (definedOnly : settings.definedOnly = true) {selected : SelectedRoots}
    (distinct : selected.Distinct) {traversal : Traversal} {root : Spot}
    (member : root ∈ plannedSpots settings schema (some selected)) (filtered : root.purpose.Filtered)
    {path : List String} {other spot spot' : Spot}
    (owns : traversal.Owns (plannedSpots settings schema (some selected)) path other spot)
    (stands : traversal.StandsAt root path spot') : other.purpose.Filtered := by
  obtain ⟨-, before, after, split, free⟩ := owns
  have late : root ∉ before := fun early => free root early _ stands
  have ofField {spot : Spot} (planned : spot ∈
      (plan settings schema (some selected)).filterMap (spotOf schema)) : spot.purpose.Filtered := by
    obtain ⟨⟨path, root⟩, planned, made⟩ := List.mem_filterMap.mp planned
    obtain ⟨filter, same, found⟩ := filter_of_planned definedOnly planned
    obtain ⟨type, -, rfl⟩ := spotOf_eq_some.mp made
    have here : filter.Distinct := distinct.filter found
    simpa [Traversal.rootSpot, Purpose.Filtered, same] using here
  have ofEntities {spot : Spot}
      (asked : spot ∈ (entitiesSpot? settings schema (some selected)).toList) :
      ¬spot.purpose.Filtered := by
    obtain rfl := eq_of_mem_entitiesSpot? asked
    exact id
  have early : root ∈ (plan settings schema (some selected)).filterMap (spotOf schema) :=
    (List.mem_append.mp member).resolve_right fun asked => ofEntities asked filtered
  apply ofField
  unfold plannedSpots at split
  rcases List.append_eq_append_iff.mp split with ⟨more, eq, -⟩ | ⟨more, eq, eq'⟩
  · exact absurd (eq ▸ List.mem_append_left _ early) late
  · cases more with
    | nil => exact absurd (by simpa [eq] using early) late
    | cons first more =>
      obtain ⟨rfl, -⟩ := List.cons.inj eq'
      exact eq ▸ List.mem_append_right _ List.mem_cons_self

end Generation

def Output.rootAt? (output : Output) (index : Nat) : Option ProjectionNode :=
  (output.operations[index]?.bind (·.projectionRoot)).bind output.projection?

namespace Generation

variable {settings : Settings} {schema : Schema} {documents : List (List ExecutableDefinition)}
  {output : Output}

/-- The filter of a planned root field has the words that the operations select below the field. -/
theorem has_of_planned (definedOnly : settings.definedOnly = true)
    (acyclic : ∀ document ∈ documents, Acyclic (fragmentIn document)) {path : List String}
    {root : RootField}
    (planned : (path, root) ∈ plan settings schema (some (selectedBy documents))) :
    ∃ filter, root.filter = some filter ∧ filter.Distinct ∧ filter.Has = fun word =>
      ∃ document ∈ documents, SelectedIn document root.kind root.field.name word := by
  obtain ⟨distinct, selects⟩ := selectedBy_spec acyclic
  obtain ⟨filter, same, found⟩ := filter_of_planned definedOnly planned
  refine ⟨filter, same, distinct.filter found, ?_⟩
  funext word
  refine propext (Iff.trans ?_ (selects root.kind root.field.name word))
  simp [Selects, found]

/-- From the root projection of every operation of a planned root field the chain has methods exactly
if it keeps them. -/
theorem follows_iff_kept {texts : List String} {reading : Settings}
    (read : Schema.ofDocuments texts reading = .ok schema) (definedOnly : settings.definedOnly = true)
    (unbounded : settings.maxDepth = none)
    (acyclic : ∀ document ∈ documents, Acyclic (fragmentIn document))
    (ok : generate settings schema (some (selectedBy documents)) = .ok output) {index : Nat}
    {path : List String} {root : RootField}
    (planned : (plan settings schema (some (selectedBy documents)))[index]? = some (path, root))
    {type : TypeDefinition} (leads : schema.target root.field = .ok (.composite type))
    {names : List String} (proper : names ≠ []) :
    (∃ node, output.rootAt? index = some node ∧ output.Follows node names) ↔
      Traversal.Kept ⟨schema, none⟩ (plannedSpots settings schema (some (selectedBy documents)))
        (Traversal.rootSpot path type root.filter) path type
        (fun word => ∃ document ∈ documents, SelectedIn document root.kind root.field.name word)
        names := by
  have wellFormed := Schema.wellFormed_of_ofDocuments read
  obtain ⟨openings, workspace, carried, nodes⟩ := carried_of_generate wellFormed ok
  obtain ⟨others, paths, standing⟩ := carried.standing
  obtain ⟨firsts, last, operations, described, -⟩ := carried.described
  rw [unbounded] at nodes standing described
  have run : FilteredRun schema openings others paths _ workspace output :=
    { wellFormed, standing, nodes
      short := fun spot => length_le_two_of_mem_plannedSpots
      filtered := fun root member kind filtered path other spot spot' =>
        filtered_of_owns definedOnly (selectedBy_spec acyclic).1
          (standing.mem_spots.mpr ⟨root, member, kind, rfl⟩) filtered }
  obtain ⟨filter, filterOf, distinct, wants⟩ :=
    has_of_planned definedOnly acyclic (List.mem_of_getElem? planned)
  -- The operation at the index has the planned root projection.
  obtain ⟨inside, here⟩ := List.getElem?_eq_some_iff.mp planned
  have inside' : index < firsts.length := described.length_eq ▸ inside
  have describes := described.get inside inside'
  simp only [List.get_eq_getElem, here] at describes
  obtain ⟨opening, member, spot, named⟩ := describes.composite type leads
  have operation : output.operations[index]? = some firsts[index] := by
    rw [operations, List.getElem?_append_left inside', List.getElem?_eq_getElem inside']
  have node : output.rootAt? index =
      some (Traversal.render ⟨schema, none⟩ workspace.linkAt opening) := by
    rw [Output.rootAt?, operation, Option.bind_some, named, Option.bind_some,
      standing.complete.projection? nodes member]
  have kind : opening.kind = .root := congrArg Spot.kind spot
  have pathOf : opening.path = path := congrArg Spot.path spot
  have purpose : opening.purpose = .type type [] (some filter) := by
    rw [congrArg Spot.purpose spot, Traversal.rootSpot, filterOf]
  have filtered : opening.purpose.Filtered := by
    rw [purpose]
    exact distinct
  have placed : opening.FiltersAt schema openings opening type filter :=
    ⟨member, kind, filtered, ⟨[], .root⟩, [], purpose⟩
  have kept := run.follows_iff_kept placed proper
  rw [← wants, ← spot, ← pathOf, ← kept, node]
  simp

theorem overlap_of_standsAt {traversal : Traversal} {above below spot spot' : Spot}
    {path : List String} (one : above.path.length = 1) (two : below.path.length = 2)
    (stands : traversal.StandsAt above path spot) (stands' : traversal.StandsAt below path spot') :
    traversal.Overlap above below := by
  obtain ⟨segment, rest, split, leads⟩ := stands
  obtain ⟨next, others, split', leads'⟩ := stands'
  obtain ⟨front, only⟩ := List.length_eq_one_iff.mp one
  obtain ⟨front', last, both⟩ := List.length_eq_two.mp two
  have same := split.symm.trans split'
  obtain ⟨rfl, rfl, rfl⟩ : front = front' ∧ segment = last ∧ rest = next :: others := by
    simpa [only, both] using same
  have path : below.path = above.path ++ [segment] := by rw [only, both]; rfl
  obtain ⟨shared, first, leads⟩ := Option.bind_eq_some_iff.mp leads
  obtain ⟨request, asked, -⟩ := Option.bind_eq_some_iff.mp leads
  obtain ⟨other, asked', -⟩ := Option.bind_eq_some_iff.mp leads'
  have at' : shared.path = below.path := path ▸ by simpa using List.find?_some first
  refine ⟨shared, path ▸ first, request, List.mem_of_find?_eq_some asked, other,
    List.mem_of_find?_eq_some asked', ?_⟩
  have here : request.path = shared.path ++ [next] := by simpa using List.find?_some asked
  have there : other.path = below.path ++ [next] := by simpa using List.find?_some asked'
  rw [here, at', there]

theorem owner_of_apart {traversal : Traversal} {selected : Option SelectedRoots}
    (distinct : ((plannedSpots settings schema selected).map (·.path)).Nodup)
    (apart : ∀ above ∈ plannedSpots settings schema selected,
      ∀ below ∈ plannedSpots settings schema selected, ¬traversal.Overlap above below)
    {root other spot spot' : Spot} (member : root ∈ plannedSpots settings schema selected)
    {path : List String} (stands : traversal.StandsAt root path spot)
    (owns : traversal.Owns (plannedSpots settings schema selected) path other spot') :
    other = root := by
  obtain ⟨stands', before, after, split, -⟩ := owns
  have member' : other ∈ plannedSpots settings schema selected :=
    split ▸ List.mem_append_right _ List.mem_cons_self
  have bound {spot : Spot} (member : spot ∈ plannedSpots settings schema selected) :
      spot.path.length = 1 ∨ spot.path.length = 2 := by
    have long := length_le_two_of_mem_plannedSpots member
    have some := List.length_pos_of_ne_nil (path_ne_nil_of_mem_plannedSpots member)
    omega
  have alike (same : other.path.length = root.path.length) : other = root := by
    obtain ⟨segment, rest, here, -⟩ := stands
    obtain ⟨segment', rest', there, -⟩ := stands'
    have path := (List.append_inj (there.symm.trans here) same).1
    exact List.inj_on_of_nodup_map distinct member' member path
  rcases bound member with one | two <;> rcases bound member' with one' | two'
  · exact alike (one'.trans one.symm)
  · exact absurd (overlap_of_standsAt one two' stands stands') (apart root member other member')
  · exact absurd (overlap_of_standsAt one' two stands' stands) (apart other member' root member)
  · exact alike (two'.trans two.symm)

/-- Every selected root field has an operation, and from the root projection of each of its operations
methods can be followed along every chain that is selected. -/
def Complete (settings : Settings) (schema : Schema) (documents : List (List ExecutableDefinition))
    (output : Output) : Prop :=
  ∀ kind field type names, Promised settings schema documents kind field type names →
    (∃ path filter, (path, ⟨kind, field, filter⟩) ∈
      plan settings schema (some (selectedBy documents))) ∧
    ∀ index path filter, (plan settings schema (some (selectedBy documents)))[index]? =
        some (path, ⟨kind, field, filter⟩) →
      ∃ node, output.rootAt? index = some node ∧ output.Follows node names

/-- Generation keeps all that defined operations select below their root fields exactly when every
chain that they select keeps its methods. -/
theorem complete_iff_kept {texts : List String} {reading : Settings}
    (read : Schema.ofDocuments texts reading = .ok schema) (definedOnly : settings.definedOnly = true)
    (unbounded : settings.maxDepth = none)
    (acyclic : ∀ document ∈ documents, Acyclic (fragmentIn document))
    (ok : generate settings schema (some (selectedBy documents)) = .ok output) :
    Complete settings schema documents output ↔
      ∀ kind field type names, Promised settings schema documents kind field type names →
        ∀ path filter, (path, ⟨kind, field, filter⟩) ∈
            plan settings schema (some (selectedBy documents)) →
          Traversal.Kept ⟨schema, none⟩ (plannedSpots settings schema (some (selectedBy documents)))
            (Traversal.rootSpot path type filter) path type
            (fun word => ∃ document ∈ documents, SelectedIn document kind field.name word) names := by
  constructor
  · intro complete kind field type names promised path filter planned
    obtain ⟨index, here⟩ := List.mem_iff_getElem?.mp planned
    exact (follows_iff_kept read definedOnly unbounded acyclic ok here promised.leads
      promised.ne_nil).mp ((complete kind field type names promised).2 _ _ _ here)
  · intro kept kind field type names promised
    refine ⟨promised.planned definedOnly acyclic, fun index path filter here => ?_⟩
    have planned := List.mem_of_getElem? here
    exact (follows_iff_kept read definedOnly unbounded acyclic ok here promised.leads
      promised.ne_nil).mpr (kept kind field type names promised path filter planned)

/-- Where no two roots overlap, that is when every chain is selected along a thin word. -/
theorem complete_iff_thin {texts : List String} {reading : Settings}
    (read : Schema.ofDocuments texts reading = .ok schema) (definedOnly : settings.definedOnly = true)
    (unbounded : settings.maxDepth = none)
    (acyclic : ∀ document ∈ documents, Acyclic (fragmentIn document))
    (ok : generate settings schema (some (selectedBy documents)) = .ok output)
    (apart : ∀ above ∈ plannedSpots settings schema (some (selectedBy documents)),
      ∀ below ∈ plannedSpots settings schema (some (selectedBy documents)),
        ¬Traversal.Overlap ⟨schema, none⟩ above below) :
    Complete settings schema documents output ↔
      ∀ kind field type names, Promised settings schema documents kind field type names →
        ∃ word, schema.ThinChain type names word ∧
          ∃ document ∈ documents, SelectedIn document kind field.name word := by
  have wellFormed := Schema.wellFormed_of_ofDocuments read
  obtain ⟨openings, workspace, carried, -⟩ := carried_of_generate wellFormed ok
  obtain ⟨others, paths, standing⟩ := carried.standing
  have follows {index : Nat} {path : List String} {kind : OperationKind} {field : FieldDefinition}
      {filter : Option Filter} {type : TypeDefinition} {names : List String}
      (promised : Promised settings schema documents kind field type names)
      (planned : (plan settings schema (some (selectedBy documents)))[index]? =
        some (path, ⟨kind, field, filter⟩)) :
      (∃ node, output.rootAt? index = some node ∧ output.Follows node names) ↔
        ∃ word, schema.ThinChain type names word ∧
          ∃ document ∈ documents, SelectedIn document kind field.name word := by
    have inside := List.mem_of_getElem? planned
    obtain ⟨filter, rfl, distinct, wants⟩ := has_of_planned definedOnly acyclic inside
    have member : Traversal.rootSpot path type (some filter) ∈
        plannedSpots settings schema (some (selectedBy documents)) := by
      apply List.mem_append_left
      apply List.mem_filterMap.mpr
      exact ⟨_, inside, spotOf_eq_some.mpr ⟨type, promised.leads, rfl⟩⟩
    rw [follows_iff_kept read definedOnly unbounded acyclic ok planned promised.leads promised.ne_nil]
    rw [← wants]
    simp only [← congrFun wants]
    exact Traversal.kept_iff_thin
      (fun path spot other spot' stands owns =>
        owner_of_apart standing.nodup_paths apart member stands owns)
      rfl (List.append_nil _).symm rfl distinct
  constructor
  · intro complete kind field type names promised
    obtain ⟨⟨path, filter, planned⟩, each⟩ := complete kind field type names promised
    obtain ⟨index, here⟩ := List.mem_iff_getElem?.mp planned
    exact (follows promised here).mp (each index path filter here)
  · intro thin kind field type names promised
    refine ⟨promised.planned definedOnly acyclic, fun index path filter here => ?_⟩
    exact (follows promised here).mpr (thin kind field type names promised)

theorem exists_defined (text : String) (settings : Settings) (definitions : List ExecutableDefinition)
    (good : Schema → RootField → Option ProjectionNode → Bool)
    (holds : (match Schema.ofDocuments [text] settings with
      | .error _ => false
      | .ok schema =>
        match generate settings schema (some (selectedBy [definitions])) with
        | .error _ => false
        | .ok output => (plan settings schema (some (selectedBy [definitions])))[0]?.any
          fun planned => good schema planned.2 (output.rootAt? 0)) = true) :
    ∃ schema output path root, Schema.ofDocuments [text] settings = .ok schema ∧
      generate settings schema (some (selectedBy [definitions])) = .ok output ∧
      (plan settings schema (some (selectedBy [definitions])))[0]? = some (path, root) ∧
      good schema root (output.rootAt? 0) = true := by
  split at holds
  · cases holds
  next schema read =>
    split at holds
    · cases holds
    next output ok =>
      obtain ⟨⟨path, root⟩, planned, good⟩ := (Option.any_eq_true _ _).mp holds
      exact ⟨schema, output, path, root, read, ok, planned, good⟩

def definedSettings : Settings := { Settings.standard with maxDepth := none, definedOnly := true }

def showDocument : String := "type Query \x7b show: Show \x7d type Show \x7b title: String \x7d"

def plainDefinitions : List ExecutableDefinition :=
  [.operation ⟨.query, [.field "show" [.spread "A"]]⟩, .fragment ⟨"A", "Show", [.field "title" []]⟩]

theorem complete_plainDefinitions : ∃ schema output,
    Schema.ofDocuments [showDocument] definedSettings = .ok schema ∧
      definedSettings.definedOnly = true ∧ definedSettings.maxDepth = none ∧
      (∀ document ∈ [plainDefinitions], Acyclic (fragmentIn document)) ∧
      generate definedSettings schema (some (selectedBy [plainDefinitions])) = .ok output ∧
      Complete definedSettings schema [plainDefinitions] output := by
  obtain ⟨schema, output, _, _, read, ok, -, facts⟩ := exists_defined showDocument definedSettings
    plainDefinitions (fun schema _ _ => schema.rootTypes.all fun entry =>
      entry.2.fields.all fun field => (schema.compositeTarget? field).all fun type =>
        type.name == "Show" && (schema.firstField? type "title").isSome) (by decide +kernel)
  have acyclic : Acyclic (fragmentIn plainDefinitions) := acyclic_fragmentIn (fun _ => 0) (by decide)
  have acyclic : ∀ document ∈ [plainDefinitions], Acyclic (fragmentIn document) := by simpa
  refine ⟨schema, output, read, rfl, rfl, acyclic, ok,
    (complete_iff_kept read rfl rfl acyclic ok).mpr ?_⟩
  intro kind field type names promised path filter planned
  obtain ⟨owner, isRoot, declared⟩ := promised.declared
  have leads := List.all_eq_true.mp (List.all_eq_true.mp facts (kind, owner) isRoot) field declared
  rw [Schema.compositeTarget?_eq_some.mpr promised.leads, Option.all_some, Bool.and_eq_true,
    beq_iff_eq] at leads
  obtain ⟨typeName, leads⟩ := leads
  obtain ⟨title, first⟩ := Option.isSome_iff_exists.mp leads
  obtain ⟨document, member, operation, listed, kindOf, inner, inside, word, chain, occurs⟩ :=
    promised.selected
  obtain rfl := List.mem_singleton.mp member
  obtain rfl : operation = ⟨.query, [.field "show" [.spread "A"]]⟩ := by
    simpa [plainDefinitions] using listed
  obtain ⟨named, rfl⟩ : field.name = "show" ∧ inner = [.spread "A"] := by simpa using inside
  -- The only chain is along the field inside the fragment.
  have fragment : fragmentIn plainDefinitions "A" = some ⟨"A", "Show", [.field "title" []]⟩ := rfl
  obtain rfl : names = ["title"] := by
    have proper := chain.ne_nil
    rw [chain.names_eq] at proper ⊢
    cases occurs with
    | nil => exact absurd rfl proper
    | spread listed defined below =>
      cases List.mem_singleton.mp listed
      obtain rfl := Option.some.inj (fragment.symm.trans defined)
      cases below with
      | nil => exact absurd rfl proper
      | field listed _ below =>
        cases List.mem_singleton.mp listed
        cases below with
        | nil => rfl
        | field listed | plain listed | inlined listed | spread listed =>
          exact absurd listed List.not_mem_nil
      | plain listed | inlined listed | spread listed => cases List.mem_singleton.mp listed
    | field listed | plain listed | inlined listed => cases List.mem_singleton.mp listed
  have shown : "title" ≠ "__typename" := by decide
  refine .last first (.inr ⟨plainDefinitions, List.mem_cons_self, _, List.mem_cons_self, kindOf, ?_⟩)
  rw [named, typeName]
  exact .field List.mem_cons_self (named ▸ promised.shown)
    (.spread List.mem_cons_self fragment (.field List.mem_cons_self shown (.nil [])))

def nestedDefinitions : List ExecutableDefinition :=
  [.operation ⟨.query, [.field "show" [.spread "A"]]⟩,
    .fragment ⟨"A", "Show", [.spread "B"]⟩, .fragment ⟨"B", "Show", [.field "title" []]⟩]

/-- The root projection has no method for the field that the inner fragment selects. -/
theorem not_complete_nestedDefinitions : ∃ schema output,
    Schema.ofDocuments [showDocument] definedSettings = .ok schema ∧ Defined nestedDefinitions ∧
      Acyclic (fragmentIn nestedDefinitions) ∧
      generate definedSettings schema (some (selectedBy [nestedDefinitions])) = .ok output ∧
      ¬Complete definedSettings schema [nestedDefinitions] output := by
  obtain ⟨schema, output, path, ⟨kind, field, filter⟩, read, ok, planned, facts⟩ :=
    exists_defined showDocument definedSettings nestedDefinitions
    (fun schema root node => root.kind = .query && root.field.name == "show" &&
      (schema.compositeTarget? root.field).any (fun type =>
        type.name == "Show" && type.fields.any (·.name == "title")) &&
      node.all fun node => (node.method? "title").isNone) (by decide +kernel)
  have defined : Defined nestedDefinitions := by
    unfold Defined
    decide
  refine ⟨schema, output, read, defined,
    acyclic_fragmentIn (fun name => if name = "A" then 1 else 0) (by decide), ok, fun complete => ?_⟩
  simp only [Bool.and_eq_true, decide_eq_true_eq, beq_iff_eq] at facts
  obtain ⟨⟨⟨rfl, named⟩, leads⟩, missing⟩ := facts
  obtain ⟨type, leads', leads⟩ := (Option.any_eq_true _ _).mp leads
  have leads' := Schema.compositeTarget?_eq_some.mp leads'
  rw [Bool.and_eq_true, beq_iff_eq] at leads
  obtain ⟨typeName, declared⟩ := leads
  obtain ⟨title, declared, titled⟩ := List.any_eq_true.mp declared
  have titled : title.name = "title" := eq_of_beq titled
  obtain ⟨owner, isRoot, included, inside, -⟩ :=
    mem_rootFieldsOf.mp (path_of_mem_plan (List.mem_of_getElem? planned)).1
  have chain : schema.Chain type ["title"]
      [.fragment "Show", .fragment "Show", .field "title"] := by
    rw [← typeName, ← titled]
    exact .within (.within (.last declared))
  have shown : "title" ≠ "__typename" := by decide
  have outer : fragmentIn nestedDefinitions "A" = some ⟨"A", "Show", [.spread "B"]⟩ := rfl
  have inner : fragmentIn nestedDefinitions "B" = some ⟨"B", "Show", [.field "title" []]⟩ := rfl
  have occurs : Occurs (fragmentIn nestedDefinitions) [.spread "A"]
      [.fragment "Show", .fragment "Show", .field "title"] :=
    .spread List.mem_cons_self outer (.spread List.mem_cons_self inner
      (.field List.mem_cons_self shown (.nil [])))
  have promised : Promised definedSettings schema [nestedDefinitions] .query field type ["title"] :=
    { declared := ⟨owner, isRoot, inside⟩
      included
      shown := by rw [named]; decide
      leads := leads'
      selected := ⟨nestedDefinitions, List.mem_cons_self, _, List.mem_cons_self, rfl,
        [.spread "A"], by simp [named], _, chain, occurs⟩ }
  obtain ⟨node, rooted, method, found, -⟩ := (complete _ _ _ _ promised).2 0 path filter planned
  simp [rooted, found] at missing

end Generation
end GraphQLProjections
