import GraphQLProjections.Proofs.Filter
import GraphQLProjections.Proofs.Projection.Preorder
import GraphQLProjections.Proofs.Projection.Tree

/-! Where links lead in the tree of a root field. A link goes to a child, one segment further, or,
without a filter, back to a projection on the way down that was made for a field of the same name
and type. So with a filter the links make up a tree, and it is no deeper than the filter is nested.
-/
namespace GraphQLProjections

open Relation

/-! ### Links -/

namespace Forest

def IsChild (forest : Forest) (parent : ProjectionNode) (segment : String) (id : NodeId) : Prop :=
  ∃ node, forest.node? id = some node ∧ node.parent = some parent.id ∧
    node.path = parent.path ++ [segment]

/-- A projection is another one or above it, and was made for a field of the same name and type. -/
def IsPassed (forest : Forest) (below : ProjectionNode) (field : FieldDefinition) (id : NodeId) :
    Prop :=
  ReflTransGen forest.ParentOf id below.id ∧ ∃ node, forest.node? id = some node ∧
    node.kind = .sub ∧ node.lastSegment = field.name ∧ node.type = field.type.innermost

def LinksTo (forest : Forest) (id target : NodeId) : Prop :=
  ∃ node, forest.node? id = some node ∧ target ∈ node.targets

structure IsTree (forest : Forest) (root : NodeId) : Prop where
  held : ∃ node ∈ forest.tree root, node.id = root
  top : ∀ id, ¬forest.LinksTo id root
  linked : ∀ node ∈ forest.tree root, node.id ≠ root → ∃! id, forest.LinksTo id node.id
  reached : ∀ node ∈ forest.tree root, ReflTransGen forest.LinksTo root node.id

/-- All links go down, or without a filter back to what was passed. -/
structure Folded (forest : Forest) (root : NodeId) (filter : Option Filter) : Prop where
  methods : ∀ node ∈ forest.tree root, ∀ method ∈ node.methods, ∀ link, method.link = some link →
    forest.IsChild node method.field.name link.target ∨
      filter = none ∧ forest.IsPassed node method.field link.target
  fragments : ∀ node ∈ forest.tree root, ∀ accessor ∈ node.fragments,
    forest.IsChild node accessor.type accessor.link.target
  /-- With a filter there is nothing but the tree. -/
  tree : filter.isSome → forest.IsTree root
  nested : ∀ selection, filter = some selection →
    ∀ node ∈ forest.tree root, node.depth ≤ selection.nesting

end Forest

/-! ### Filters on the way down -/

namespace Spot

variable {traversal : Traversal} {selection : Filter} {spot : Spot}

/-- What is left of a filter at a spot is nested less deeply by the fields passed so far. -/
def NestedIn (selection : Filter) (spot : Spot) : Prop :=
  match spot.purpose with
  | .type _ _ filter => ∃ rest, filter = some rest ∧ spot.depth + rest.nesting ≤ selection.nesting
  | .arguments _ => spot.depth ≤ selection.nesting
  | .entities _ => False

theorem NestedIn.depth_le (nested : spot.NestedIn selection) : spot.depth ≤ selection.nesting := by
  unfold NestedIn at nested
  split at nested
  · obtain ⟨rest, -, bound⟩ := nested
    omega
  · exact nested
  · exact nested.elim

/-- A spot has parts only within what is left of the filter for its type. -/
theorem NestedIn.parts (nested : spot.NestedIn selection) :
    (spot.purpose.fields = [] ∧ ∀ schema, spot.purpose.types schema = []) ∨
      ∃ scope, spot.purpose.scope = some scope ∧
        spot.depth + scope.nesting ≤ selection.nesting := by
  unfold NestedIn at nested
  split at nested
  next type trail filter purpose =>
    obtain ⟨rest, rfl, bound⟩ := nested
    have narrowed := rest.nesting_narrowed type.name
    exact .inr ⟨rest.narrowed type.name, by rw [purpose]; rfl, by omega⟩
  next purpose => exact .inl (by simp [purpose, Purpose.fields, Purpose.types])
  · exact nested.elim

/-- Below a filter a field is projected one segment further, and everything is below the filter. -/
theorem NestedIn.requestOfField (nested : spot.NestedIn selection) {field : FieldDefinition}
    {request : Spot} (declared : field ∈ spot.purpose.fields)
    (requested : traversal.requestOfField spot field = some request) :
    request.path = spot.path ++ [field.name] ∧ request.NestedIn selection := by
  obtain ⟨filter, selected, -, made⟩ := Traversal.requestOfField_eq_some.mp requested
  rcases nested.parts with ⟨none, -⟩ | ⟨scope, scopeOf, bound⟩
  · simp [none] at declared
  · rw [scopeOf] at selected
    obtain ⟨child, found, rfl⟩ := Option.map_eq_some_iff.mp selected
    have deeper := Filter.nesting_lt_of_field found
    rcases made with ⟨-, -, rfl⟩ | ⟨type, -, rfl⟩
    · exact ⟨rfl, show spot.depth + 1 ≤ selection.nesting by omega⟩
    · exact ⟨rfl, child, rfl, by dsimp only; omega⟩

theorem NestedIn.requestOfType (nested : spot.NestedIn selection) {schema : Schema}
    {type : TypeDefinition} (listed : type ∈ spot.purpose.types schema) {request : Spot}
    (requested : Traversal.requestOfType spot type = some request) :
    request.NestedIn selection := by
  obtain ⟨filter, selected, rfl⟩ := Option.map_eq_some_iff.mp requested
  rcases nested.parts with ⟨-, none⟩ | ⟨scope, scopeOf, bound⟩
  · simp [none] at listed
  · rw [scopeOf] at selected
    obtain ⟨child, found, rfl⟩ := Option.map_eq_some_iff.mp selected
    have deeper := Filter.nesting_le_of_fragment found
    exact ⟨child, rfl, by dsimp only; omega⟩

theorem NestedIn.request (nested : spot.NestedIn selection) {request : Spot}
    (requested : request ∈ traversal.requests spot) :
    (∃ segment, request.path = spot.path ++ [segment]) ∧ request.NestedIn selection := by
  rcases Traversal.mem_requests.mp requested with ⟨field, declared, made⟩ | ⟨type, listed, made⟩
  · obtain ⟨further, below⟩ := nested.requestOfField declared made
    exact ⟨⟨field.name, further⟩, below⟩
  · refine ⟨⟨type.name, ?_⟩, nested.requestOfType listed made⟩
    obtain ⟨filter, -, rfl⟩ := Option.map_eq_some_iff.mp made
    rfl

/-- A field that is not projected further is one that the trail has passed, and without a filter. -/
theorem fieldPath_passed (spot : Spot) (field : FieldDefinition) (type : TypeDefinition)
    (filter : Option Filter) : spot.fieldPath field type filter = spot.path ++ [field.name] ∨
      filter = none ∧ ∃ step ∈ spot.purpose.trail, step.field = field.name ∧
        step.type = type.name ∧ spot.fieldPath field type filter = step.path := by
  unfold fieldPath
  cases filter with
  | some filter => exact .inl rfl
  | none =>
    cases passed : Traversal.passed? spot.purpose.trail field.name type.name with
    | none => exact .inl (by simp)
    | some step =>
      have agrees := List.find?_some passed
      simp only [Bool.and_eq_true, beq_iff_eq] at agrees
      exact .inr ⟨rfl, step, List.mem_of_find?_eq_some passed, agrees.1, agrees.2, by simp⟩

end Spot

/-! ### Histories of one tree -/

section Histories

variable {traversal : Traversal} {openings : List Opening} {others : List (List String × String)}
  {workspace : Workspace} {opening : Opening}

/-- The last step of the trail that a projection was opened with is for its own field. -/
theorem Faithful.lastSegment_of_step (faithful : Faithful traversal openings others workspace)
    (member : opening ∈ openings) (kind : opening.kind = .sub) {type : TypeDefinition}
    {trail : List TrailStep} {step : TrailStep} {filter : Option Filter}
    (purpose : opening.purpose = .type type (trail ++ [step]) filter) :
    opening.site.lastSegment = step.field := by
  cases faithful.derived opening member with
  | root isRoot => simp [kind] at isRoot
  | below parent inside _ _ _ _ further first =>
    obtain ⟨segment, path⟩ := further
    rcases faithful.part_of_request inside (List.mem_of_find?_eq_some first) path with
      ⟨field, -, rfl, made, -⟩ | ⟨_, -, -, -, fragment⟩
    · obtain ⟨_, -, -, ⟨-, -, made⟩ | ⟨_, -, made⟩⟩ := Traversal.requestOfField_eq_some.mp made
      · have wrapper : opening.kind = .argumentWrapper := congrArg Spot.kind made
        simp [kind] at wrapper
      · have same := purpose.symm.trans (congrArg Spot.purpose made)
        obtain ⟨-, trails, -⟩ := Purpose.type.inj same
        obtain rfl := List.singleton_injective (List.append_inj' trails rfl).2
        exact Site.lastSegment_of_path path
    · simp [kind] at fragment

/-- A method that links further does so for what its field requests. -/
theorem Traversal.request_of_method {lookup : List String → Option Link} {method : SelectionMethod}
    (listed : method ∈ (traversal.render lookup opening).methods) {link : Link}
    (linked : method.link = some link) : method.field ∈ opening.purpose.fields ∧
      ∃ request, traversal.requestOfField opening.toSpot method.field = some request ∧
        lookup request.path = some link := by
  obtain ⟨field, declared, made⟩ := List.mem_filterMap.mp listed
  obtain ⟨-, rfl⟩ := methodAt_eq_some.mp made
  exact ⟨declared, Option.bind_eq_some_iff.mp linked⟩

namespace Complete

variable (complete : Complete traversal openings others workspace)
include complete

theorem parentOf_iff (member : opening ∈ openings) {parent : NodeId} :
    workspace.forest.ParentOf parent opening.id ↔ opening.parent = some parent := by
  simp only [Forest.ParentOf, complete.node?_id member, Option.some.injEq, exists_eq_left']
  rfl

variable (short : ∀ root ∈ openings, root.kind = .root → root.path.length = 1)
include short

/-- A projection whose path is an initial part of that of another is above it. -/
theorem above_of_prefix {above : Opening} (member : above ∈ openings) (kind : above.kind ≠ .root)
    (member' : opening ∈ openings) (front : above.path <+: opening.path) :
    ReflTransGen workspace.forest.ParentOf above.id opening.id := by
  induction id : opening.id using Nat.strong_induction_on generalizing opening with
  | _ number ih =>
    subst id
    have long := complete.two_le_length member kind
    cases complete.derived opening member' with
    | root isRoot =>
      have single := short opening member' isRoot
      have le := front.length_le
      omega
    | below parent inside earlier kind' linked _ further _ =>
      obtain ⟨segment, path⟩ := further
      rcases List.prefix_concat_iff.mp (path ▸ front) with same | front
      · have place := complete.eq_of_place member member' (same.trans path.symm)
          (iff_of_false kind kind')
        rw [place]
      · have link := (complete.parentOf_iff member').mpr linked
        exact .tail (ih parent.id earlier inside front rfl) link

/-- A link to a path one segment further leads to a child. -/
theorem isChild_of_linkAt (member : opening ∈ openings) {segment : String}
    (plain : IsPlainPath (opening.path ++ [segment])) {link : Link}
    (linked : workspace.linkAt (opening.path ++ [segment]) = some link) :
    workspace.forest.IsChild (traversal.render workspace.linkAt opening) segment link.target := by
  obtain ⟨target, inside, path, kind, rfl⟩ := (complete.linkAt_eq_some plain).mp linked
  exact ⟨_, complete.node?_id inside, (complete.child_at short member inside kind path).1, path⟩

/-- A link to where the trail has passed leads to a projection above, for the same field. -/
theorem isPassed_of_linkAt (member : opening ∈ openings) {step : TrailStep}
    (passed : step ∈ opening.purpose.trail) {field : FieldDefinition}
    (named : step.field = field.name) (typed : step.type = field.type.innermost) {link : Link}
    (linked : workspace.linkAt step.path = some link) :
    workspace.forest.IsPassed (traversal.render workspace.linkAt opening) field link.target := by
  obtain ⟨above, inside, place, kind, front, -, type, trail, filter, purpose, typed'⟩ :=
    complete.opening_of_trail member passed
  have below : above.kind ≠ .root := by simp [kind]
  obtain ⟨target, inside', path, kind', rfl⟩ :=
    (complete.linkAt_eq_some (place ▸ (complete.grounded above inside).path)).mp linked
  obtain rfl := complete.eq_of_place inside' inside (path.trans place.symm)
    (iff_of_false kind' below)
  have segment := complete.lastSegment_of_step inside kind purpose
  refine ⟨complete.above_of_prefix short inside below member front, _, complete.node?_id inside,
    kind, segment.trans named, ?_⟩
  change target.purpose.typeName = _
  rw [purpose, ← typed, typed']
  rfl

variable (wellFormed : traversal.schema.WellFormed)
include wellFormed

theorem method_folds (member : opening ∈ openings) {method : SelectionMethod}
    (listed : method ∈ (traversal.render workspace.linkAt opening).methods) {link : Link}
    (linked : method.link = some link) :
    workspace.forest.IsChild (traversal.render workspace.linkAt opening) method.field.name
        link.target ∨
      opening.purpose.scope = none ∧ workspace.forest.IsPassed
        (traversal.render workspace.linkAt opening) method.field link.target := by
  obtain ⟨declared, request, requested, found⟩ := Traversal.request_of_method listed linked
  have grounded := complete.grounded opening member
  have plain := (grounded.requestOfField wellFormed declared requested).path
  have child (path : request.path = opening.path ++ [method.field.name]) :=
    complete.isChild_of_linkAt short member (path ▸ plain) (path ▸ found)
  obtain ⟨filter, selected, -, ⟨-, -, rfl⟩ | ⟨type, leads, rfl⟩⟩ :=
    Traversal.requestOfField_eq_some.mp requested
  · exact .inl (child rfl)
  · rcases opening.toSpot.fieldPath_passed method.field type filter with
      further | ⟨rfl, step, passed, named, typed, back⟩
    · exact .inl (child further)
    · have unfiltered : opening.purpose.scope = none := by
        cases scope : opening.purpose.scope with
        | none => rfl
        | some filter => simp [scope, partScope] at selected
      have typed' := typed.trans (Schema.name_of_type? (Schema.type?_of_target leads))
      exact .inr ⟨unfiltered,
        complete.isPassed_of_linkAt short member passed named typed' (back ▸ found)⟩

theorem accessor_folds (member : opening ∈ openings) {accessor : FragmentAccessor}
    (listed : accessor ∈ (traversal.render workspace.linkAt opening).fragments) :
    workspace.forest.IsChild (traversal.render workspace.linkAt opening) accessor.type
      accessor.link.target := by
  obtain ⟨type, known, made⟩ := List.mem_filterMap.mp listed
  obtain ⟨request, requested, made⟩ := Option.bind_eq_some_iff.mp made
  have plain := ((complete.grounded opening member).requestOfType wellFormed known requested).path
  obtain ⟨filter, -, rfl⟩ := Option.map_eq_some_iff.mp requested
  obtain ⟨link, found, rfl⟩ := Option.map_eq_some_iff.mp made
  exact complete.isChild_of_linkAt short member plain found

/-- Where all requests lie further, whoever links to a projection is its parent. -/
theorem linksTo_iff (further : ∀ opening ∈ openings, ∀ request ∈ traversal.requests opening.toSpot,
      ∃ segment, request.path = opening.path ++ [segment]) (member : opening ∈ openings)
    {id : NodeId} : workspace.forest.LinksTo id opening.id ↔ opening.parent = some id := by
  constructor
  · rintro ⟨node, held, linked⟩
    obtain ⟨parent, here, rfl, -⟩ := complete.filled id node held
    have inside := List.mem_of_getElem? here
    obtain ⟨link, listed, same⟩ := List.mem_map.mp linked
    obtain ⟨request, requested, found⟩ := Traversal.mem_links_render.mp listed
    obtain ⟨segment, path⟩ := further parent inside request requested
    have plain := ((complete.grounded parent inside).request wellFormed requested).path
    obtain ⟨target, inside', place, kind, rfl⟩ := (complete.linkAt_eq_some plain).mp found
    obtain rfl := complete.eq_of_id inside' member same
    rw [(complete.child_at short inside member kind (place.trans path)).1,
      complete.numbered id parent here]
  · intro linked
    cases complete.derived opening member with
    | root _ orphan => simp [orphan] at linked
    | below parent inside _ kind linked' _ _ first =>
      obtain rfl := Option.some.inj (linked'.symm.trans linked)
      have found := (complete.linkAt_eq_some (complete.grounded opening member).path).mpr
        ⟨opening, member, rfl, kind, rfl⟩
      have listed := Traversal.mem_links_render.mpr ⟨_, List.mem_of_find?_eq_some first, found⟩
      exact ⟨_, complete.node?_id inside, List.mem_map.mpr ⟨_, listed, rfl⟩⟩

end Complete

/-- Where all requests lie further, the links of a root field make up a tree. -/
theorem Complete.isTree (complete : Complete traversal openings others workspace)
    (wellFormed : traversal.schema.WellFormed) {spot : Spot} (rooted : Rooted spot openings)
    (short : ∀ root ∈ openings, root.kind = .root → root.path.length = 1)
    (further : ∀ opening ∈ openings, ∀ request ∈ traversal.requests opening.toSpot,
      ∃ segment, request.path = opening.path ++ [segment]) : workspace.forest.IsTree 0 := by
  have links {opening : Opening} (member : opening ∈ openings) (id : NodeId) :
      workspace.forest.LinksTo id opening.id ↔ opening.parent = some id :=
    complete.linksTo_iff short wellFormed further member
  have isRoot {opening : Opening} (member : opening ∈ openings) (kind : opening.kind = .root) :
      opening.id = 0 := by
    obtain ⟨name, rfl⟩ := rooted.eq_planted member kind
    rfl
  obtain ⟨name, first⟩ := rooted.exists_planted
  refine ⟨?_, fun id linked => ?_, fun node listed below => ?_, fun node listed => ?_⟩
  · have inside := complete.mem_nodes.mpr ⟨_, first, rfl⟩
    exact ⟨_, List.mem_filter.mpr ⟨inside, beq_self_eq_true 0⟩, rfl⟩
  · exact nomatch (links first id).mp linked
  · obtain ⟨opening, member, rfl⟩ := complete.exists_of_mem_tree listed
    cases complete.derived opening member with
    | root kind => exact absurd (isRoot member kind) below
    | below parent _ _ _ linked =>
      exact ⟨parent.id, (links member _).mpr linked, fun other linked' =>
        Option.some.inj (((links member other).mp linked').symm.trans linked)⟩
  · obtain ⟨opening, member, rfl⟩ := complete.exists_of_mem_tree listed
    change ReflTransGen _ 0 opening.id
    clear listed
    induction id : opening.id using Nat.strong_induction_on generalizing opening with
    | _ number ih =>
      subst id
      cases complete.derived opening member with
      | root kind => rw [isRoot member kind]
      | below parent inside earlier _ linked =>
        exact .tail (ih parent.id earlier parent inside rfl) ((links member _).mpr linked)

end Histories

/-- Whatever the depth bound, the tree of a root field links down or back to what was passed on the
way down, and with a filter it is a tree no deeper than the filter is nested. -/
theorem Traversal.folded_of_root {texts : List String} {reading : Settings} {schema : Schema}
    (read : Schema.ofDocuments texts reading = .ok schema) (maxDepth : Option Nat)
    {type : TypeDefinition} (known : type ∈ schema.types) {field : FieldDefinition}
    (declared : field ∈ type.fields) (filter : Option Filter) {abbreviated : Bool} {id : NodeId}
    {later : Workspace}
    (ran : (root ⟨schema, maxDepth⟩ field filter).outcome (.empty abbreviated) =
      (.ok (some id), later)) : later.forest.Folded id filter := by
  have wellFormed := Schema.wellFormed_of_ofDocuments read
  obtain ⟨start, openings, -, rfl, rooted, complete⟩ :=
    complete_of_root wellFormed known declared ran
  have short : ∀ root ∈ openings, root.kind = .root → root.path.length = 1 := rooted.short rfl
  have nested {selection : Filter} (filtered : filter = some selection) :
      ∀ opening ∈ openings, opening.NestedIn selection := by
    refine complete.forall_of_requests (fun root member kind => ?_) fun spot request nested
      requested => (nested.request requested).2
    rw [rooted.toSpot member kind]
    exact ⟨selection, filtered, by simp [rootSpot]⟩
  refine ⟨?_, ?_, fun filtered => ?_, fun selection filtered => ?_⟩
  · intro node listed method made link linked
    obtain ⟨opening, member, rfl⟩ := complete.exists_of_mem_tree listed
    have folds := complete.method_folds short wellFormed member made linked
    refine folds.imp_right fun back => ⟨?_, back.2⟩
    by_contra filtered
    obtain ⟨selection, filtered⟩ := Option.ne_none_iff_exists'.mp filtered
    rcases (nested filtered opening member).parts with ⟨none, -⟩ | ⟨scope, scopeOf, -⟩
    · simpa [none] using (request_of_method made linked).1
    · cases back.1.symm.trans scopeOf
  · intro node listed accessor made
    obtain ⟨opening, member, rfl⟩ := complete.exists_of_mem_tree listed
    exact complete.accessor_folds short wellFormed member made
  · obtain ⟨selection, filtered⟩ := Option.isSome_iff_exists.mp filtered
    exact complete.isTree wellFormed rooted short fun opening member request requested =>
      ((nested filtered opening member).request requested).1
  · intro node listed
    obtain ⟨opening, member, rfl⟩ := complete.exists_of_mem_tree listed
    exact (nested filtered opening member).depth_le

def sequelDocument : String :=
  "type Query \x7b show: Show \x7d
  type Show \x7b title(length: Int): String next: Show \x7d"

def sequelSelection : Filter :=
  .mk [("next", .mk [("next", .mk [("title", .empty)] [])] [])] []

/-- Without a filter the second show links to itself, and with one a third show is projected. -/
theorem Traversal.folded_sequelDocument : ∃ schema owner field id later id' later',
    Schema.ofDocuments [sequelDocument] .standard = .ok schema ∧ owner ∈ schema.types ∧
      field ∈ owner.fields ∧
      (root ⟨schema, none⟩ field none).outcome (.empty false) = (.ok (some id), later) ∧
      (∃ node ∈ later.forest.tree id, node.id ∈ node.targets) ∧ later.forest.Folded id none ∧
      (root ⟨schema, none⟩ field (some sequelSelection)).outcome (.empty false) =
        (.ok (some id'), later') ∧
      (∃ node ∈ later'.forest.tree id', node.depth = 3) ∧
      later'.forest.Folded id' (some sequelSelection) := by
  have checked : (Schema.ofDocuments [sequelDocument] .standard).toOption.any (fun schema =>
      (schema.type? "Query").any fun owner => owner.fields.head?.any fun field =>
        leavesTree ((root ⟨schema, none⟩ field none).outcome (.empty false)) (fun forest id =>
            decide (∃ node ∈ forest.tree id, node.id ∈ node.targets)) &&
          leavesTree ((root ⟨schema, none⟩ field (some sequelSelection)).outcome (.empty false))
            fun forest id => decide (∃ node ∈ forest.tree id, node.depth = 3)) = true := by
    decide +kernel
  obtain ⟨schema, read, checked⟩ := exists_of_any checked
  obtain ⟨owner, found, checked⟩ := (Option.any_eq_true _ _).mp checked
  obtain ⟨field, first, checked⟩ := (Option.any_eq_true _ _).mp checked
  obtain ⟨back, deep⟩ := Bool.and_eq_true_iff.mp checked
  obtain ⟨id, later, ran, back⟩ := exists_tree back
  obtain ⟨id', later', ran', deep⟩ := exists_tree deep
  have known := Schema.mem_types_of_type? found
  have declared := List.mem_of_head? first
  exact ⟨schema, owner, field, id, later, id', later', read, known, declared, ran,
    of_decide_eq_true back, folded_of_root read none known declared none ran, ran',
    of_decide_eq_true deep, folded_of_root read none known declared _ ran'⟩

end GraphQLProjections
