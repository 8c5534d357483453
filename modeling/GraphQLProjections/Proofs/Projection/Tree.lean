import GraphQLProjections.Proofs.Projection.Roots

/-! Complete histories, in which every projection is filled. A part of a node links to the opening
at the path that it requests, which stands below the node itself, unless a root and a projection
below another root share that path. -/
namespace GraphQLProjections

/-- A faithful history with no projection left open. -/
structure Complete (traversal : Traversal) (openings : List Opening)
    (others : List (List String × String)) (workspace : Workspace) : Prop
    extends Faithful traversal openings others workspace where
  closed : ∀ opening ∈ openings, (workspace.forest.node? opening.id).isSome

variable {traversal : Traversal} {openings : List Opening} {others : List (List String × String)}
  {workspace : Workspace}

theorem find?_eq_some_of_unique {α : Type} {items : List α} {good : α → Bool} {item : α}
    (member : item ∈ items) (holds : good item)
    (unique : ∀ other ∈ items, good other → other = item) : items.find? good = some item := by
  obtain ⟨first, found⟩ := Option.isSome_iff_exists.mp
    (List.find?_isSome.mpr ⟨item, member, holds⟩)
  rw [found, unique first (List.mem_of_find?_eq_some found) (List.find?_some found)]

theorem Schema.WellFormed.type?_name {schema : Schema} (wellFormed : schema.WellFormed)
    {type : TypeDefinition} (member : type ∈ schema.types) : schema.type? type.name = some type :=
  find?_eq_some_of_unique member (beq_self_eq_true _) fun _ member' same =>
    wellFormed.eq_of_name member' member (eq_of_beq same)

namespace Traversal

variable {link : List String → Option Link} {opening : Opening}

/-- The method of a name is that of the first field of the name that has one. -/
theorem method?_render (name : String) : (traversal.render link opening).method? name =
    (opening.purpose.fields.find? fun field =>
      field.name == name && traversal.keepsField opening.toSpot field).bind
      (traversal.methodAt link opening.toSpot) := by
  have named (field : FieldDefinition) :
      ((traversal.methodAt link opening.toSpot field).any fun method => method.field.name == name) =
        (field.name == name && traversal.keepsField opening.toSpot field) := by
    unfold methodAt
    cases traversal.keepsField opening.toSpot field <;> simp
  unfold ProjectionNode.method?
  change (opening.purpose.fields.filterMap _).find? _ = _
  rw [List.find?_filterMap]
  simp only [named]

theorem fragment?_render (name : String) :
    (traversal.render link opening).fragments.find? (·.type == name) =
      ((opening.purpose.types traversal.schema).find? fun type =>
        (accessorAt link opening.toSpot type).any fun accessor => accessor.type == name).bind
        (accessorAt link opening.toSpot) := by
  change ((opening.purpose.types traversal.schema).filterMap _).find? _ = _
  rw [List.find?_filterMap]

theorem depth_of_mem_requests {spot request : Spot}
    (requested : request ∈ traversal.requests spot) :
    request.depth = if request.kind = .fragment then spot.depth else spot.depth + 1 := by
  rcases mem_requests.mp requested with ⟨field, -, made⟩ | ⟨type, -, made⟩
  · obtain ⟨filter, -, -, ⟨-, -, rfl⟩ | ⟨type, -, rfl⟩⟩ := requestOfField_eq_some.mp made
    · simp
    · simp
  · obtain ⟨filter, -, rfl⟩ := Option.map_eq_some_iff.mp made
    simp

/-- What a spot requests one segment further is requested by the part of that name, unless the trail
has passed there. -/
theorem part_of_mem_requests {spot request : Spot} {segment : String}
    (ahead : ∀ step ∈ spot.purpose.trail, step.path ≠ spot.path ++ [segment])
    (requested : request ∈ traversal.requests spot)
    (further : request.path = spot.path ++ [segment]) :
    (∃ field ∈ spot.purpose.fields, field.name = segment ∧
        traversal.requestOfField spot field = some request ∧
        (request.kind = .sub ∨ request.kind = .argumentWrapper)) ∨
      ∃ type ∈ spot.purpose.types traversal.schema, type.name = segment ∧
        requestOfType spot type = some request ∧ request.kind = .fragment := by
  rcases mem_requests.mp requested with ⟨field, declared, made⟩ | ⟨type, listed, made⟩
  · refine .inl ⟨field, declared, ?_, made, ?_⟩
    · obtain ⟨filter, -, -, ⟨-, -, rfl⟩ | ⟨type, -, rfl⟩⟩ := requestOfField_eq_some.mp made
      · simpa using further
      · rcases spot.fieldPath_cases field type filter with straight | ⟨step, passed, back⟩
        · simpa using straight.symm.trans further
        · exact absurd (back.symm.trans further) (ahead step passed)
    · obtain ⟨filter, -, -, ⟨-, -, rfl⟩ | ⟨type, -, rfl⟩⟩ := requestOfField_eq_some.mp made
      · exact .inr rfl
      · exact .inl rfl
  · obtain ⟨filter, -, rfl⟩ := Option.map_eq_some_iff.mp made
    exact .inr ⟨type, listed, by simpa using further, made, rfl⟩

end Traversal

namespace Complete

variable (complete : Complete traversal openings others workspace)
include complete

/-- Every slot holds what its opening renders to. -/
theorem node?_id {opening : Opening} (member : opening ∈ openings) :
    workspace.forest.node? opening.id = some (traversal.render workspace.linkAt opening) := by
  obtain ⟨node, held⟩ := Option.isSome_iff_exists.mp (complete.closed opening member)
  obtain ⟨other, here, rfl, -⟩ := complete.filled _ _ held
  rw [complete.getElem?_id member] at here
  obtain rfl := Option.some.inj here
  exact held

/-- The nodes are what the openings render to, in order. -/
theorem nodes_eq : workspace.forest.nodes = openings.map (traversal.render workspace.linkAt) := by
  have slots : workspace.forest.slots.toList =
      openings.map fun opening => some (traversal.render workspace.linkAt opening) := by
    apply List.ext_getElem?
    intro index
    rw [Array.getElem?_toList, List.getElem?_map]
    cases here : openings[index]? with
    | none =>
      have outside := List.getElem?_eq_none_iff.mp here
      rw [← complete.size] at outside
      exact Array.getElem?_eq_none outside
    | some opening =>
      have held := complete.node?_id (List.mem_of_getElem? here)
      rw [complete.numbered index opening here, Forest.node?] at held
      cases slot : workspace.forest.slots[index]? with
      | none => simp [slot] at held
      | some node => simpa [slot] using held
  rw [Forest.nodes, slots, List.filterMap_map]
  change openings.filterMap (some ∘ traversal.render workspace.linkAt) = _
  rw [List.filterMap_eq_map]

theorem mem_nodes {node : ProjectionNode} : node ∈ workspace.forest.nodes ↔
    ∃ opening ∈ openings, traversal.render workspace.linkAt opening = node := by
  rw [complete.nodes_eq, List.mem_map]

theorem exists_of_mem_tree {root : NodeId} {node : ProjectionNode}
    (listed : node ∈ workspace.forest.tree root) :
    ∃ opening ∈ openings, traversal.render workspace.linkAt opening = node :=
  complete.mem_nodes.mp (List.mem_filter.mp listed).1

/-- Every selected field leads somewhere, and every request has its projection. -/
theorem settled {opening : Opening} (member : opening ∈ openings) :
    traversal.Resolves opening.toSpot ∧ ∀ request ∈ traversal.requests opening.toSpot,
      (workspace.linkAt request.path).isSome := by
  obtain ⟨other, here, -, settled⟩ := complete.filled _ _ (complete.node?_id member)
  rw [complete.getElem?_id member] at here
  obtain rfl := Option.some.inj here
  exact settled

theorem answered {opening : Opening} (member : opening ∈ openings) {request : Spot}
    (requested : request ∈ traversal.requests opening.toSpot) :
    (workspace.linkAt request.path).isSome :=
  (complete.settled member).2 request requested

theorem target (wellFormed : traversal.schema.WellFormed) {opening : Opening}
    (member : opening ∈ openings) {request : Spot}
    (requested : request ∈ traversal.requests opening.toSpot) :
    ∃ target ∈ openings, target.path = request.path ∧ target.kind ≠ .root ∧
      workspace.linkAt request.path = some ⟨target.id, target.name⟩ := by
  obtain ⟨link, linked⟩ := Option.isSome_iff_exists.mp (complete.answered member requested)
  have plain := ((complete.grounded opening member).request wellFormed requested).path
  obtain ⟨target, inside, path, kind, rfl⟩ := (complete.linkAt_eq_some plain).mp linked
  exact ⟨target, inside, path, kind, linked⟩

end Complete

namespace Faithful

variable (faithful : Faithful traversal openings others workspace)
include faithful

/-- An opening one segment below another was first requested by the other, or by the one that
shares the path of the other. -/
theorem parent_at {opening target : Opening} (member : opening ∈ openings)
    (member' : target ∈ openings) (kind : target.kind ≠ .root) {segment : String}
    (path : target.path = opening.path ++ [segment]) :
    ∃ parent ∈ openings, parent.path = opening.path ∧ parent.id < target.id ∧
      target.root = parent.root ∧
      (traversal.requests parent.toSpot).find? (·.path == target.path) = some target.toSpot ∧
      (parent = opening ∨ (parent.kind = .root ↔ opening.kind ≠ .root)) := by
  cases faithful.derived target member' with
  | root isRoot => exact absurd isRoot kind
  | below parent inside earlier _ _ tree further first =>
    obtain ⟨last, path'⟩ := further
    have same : parent.path = opening.path := (List.append_inj' (path'.symm.trans path) rfl).1
    refine ⟨parent, inside, same, earlier, tree, first, ?_⟩
    by_cases alike : parent.kind = .root ↔ opening.kind = .root
    · exact .inl (faithful.eq_of_place inside member same alike)
    · right
      tauto

/-- The path of a projection below a root is longer than that of a root field of the query. -/
theorem two_le_length {opening : Opening} (member : opening ∈ openings)
    (kind : opening.kind ≠ .root) : 2 ≤ opening.path.length := by
  cases faithful.derived opening member with
  | root isRoot => exact absurd isRoot kind
  | below parent inside earlier _ _ tree further first =>
    obtain ⟨last, path⟩ := further
    have plain := (faithful.grounded parent inside).path.1
    have long := List.length_pos_of_ne_nil plain
    simp only [path, List.length_append, List.length_singleton]
    omega

/-- What is requested one segment further is requested by the part of that name. -/
theorem part_of_request {parent : Opening} (member : parent ∈ openings) {request : Spot}
    (requested : request ∈ traversal.requests parent.toSpot) {segment : String}
    (further : request.path = parent.path ++ [segment]) :
    (∃ field ∈ parent.purpose.fields, field.name = segment ∧
        traversal.requestOfField parent.toSpot field = some request ∧
        (request.kind = .sub ∨ request.kind = .argumentWrapper)) ∨
      ∃ type ∈ parent.purpose.types traversal.schema, type.name = segment ∧
        Traversal.requestOfType parent.toSpot type = some request ∧ request.kind = .fragment :=
  Traversal.part_of_mem_requests (fun _ passed => faithful.ne_of_trail member passed segment)
    requested further

/-- If roots have paths of one segment, a path is that of a root or of a projection below one. -/
theorem kind_eq_root_iff (short : ∀ root ∈ openings, root.kind = .root → root.path.length = 1)
    {opening : Opening} (member : opening ∈ openings) :
    opening.kind = .root ↔ opening.path.length = 1 := by
  refine ⟨short opening member, fun single => by_contra fun below => ?_⟩
  have long := faithful.two_le_length member below
  omega

/-- If roots have paths of one segment, an opening one segment further than another is its child,
the first that the other requests there. -/
theorem child_at (short : ∀ root ∈ openings, root.kind = .root → root.path.length = 1)
    {opening target : Opening} (member : opening ∈ openings) (member' : target ∈ openings)
    (kind : target.kind ≠ .root) {segment : String}
    (path : target.path = opening.path ++ [segment]) : target.parent = some opening.id ∧
      (traversal.requests opening.toSpot).find? (·.path == target.path) = some target.toSpot := by
  cases faithful.derived target member' with
  | root isRoot => exact absurd isRoot kind
  | below parent inside _ _ linked _ further first =>
    obtain ⟨last, path'⟩ := further
    have same : parent.path = opening.path := (List.append_inj' (path'.symm.trans path) rfl).1
    obtain rfl := faithful.eq_of_place inside member same
      (by rw [faithful.kind_eq_root_iff short inside, faithful.kind_eq_root_iff short member, same])
    exact ⟨linked, first⟩

end Faithful

/-- If roots have paths of one segment, no two projections have one path. -/
theorem Complete.nodup_paths (complete : Complete traversal openings others workspace)
    (short : ∀ root ∈ openings, root.kind = .root → root.path.length = 1) :
    (workspace.forest.nodes.map (·.path)).Nodup := by
  rw [complete.nodes_eq, List.map_map]
  refine complete.nodup.map_on fun opening member other member' same => ?_
  have same : opening.path = other.path := same
  refine complete.eq_of_place member member' same ?_
  rw [complete.kind_eq_root_iff short member, complete.kind_eq_root_iff short member', same]

/-! ### One tree -/

/-- The openings of one tree, the root of which was opened for a spot before all others. -/
def Rooted (spot : Spot) (openings : List Opening) : Prop :=
  ∃ name new, openings = spot.planted 0 name :: new ∧ ∀ opening ∈ new, opening.kind ≠ .root

namespace Rooted

variable {spot : Spot} (rooted : Rooted spot openings)
include rooted

theorem exists_planted : ∃ name, spot.planted 0 name ∈ openings := by
  obtain ⟨name, new, rfl, -⟩ := rooted
  exact ⟨name, List.mem_cons_self⟩

theorem eq_planted {root : Opening} (member : root ∈ openings) (kind : root.kind = .root) :
    ∃ name, root = spot.planted 0 name := by
  obtain ⟨name, new, rfl, kinds⟩ := rooted
  rcases List.mem_cons.mp member with rfl | member
  · exact ⟨name, rfl⟩
  · exact absurd kind (kinds root member)

theorem toSpot {root : Opening} (member : root ∈ openings) (kind : root.kind = .root) :
    root.toSpot = spot := by
  obtain ⟨name, rfl⟩ := rooted.eq_planted member kind
  rfl

theorem short (single : spot.path.length = 1) :
    ∀ root ∈ openings, root.kind = .root → root.path.length = 1 := by
  intro root member kind
  rw [rooted.toSpot member kind, single]

end Rooted

/-- What a root field that succeeds leaves in a fresh workspace: nothing if it leads to a leaf, else a
complete history. -/
theorem Traversal.history_of_root (wellFormed : traversal.schema.WellFormed)
    {owner : TypeDefinition} (known : owner ∈ traversal.schema.types) {field : FieldDefinition}
    (declared : field ∈ owner.fields) {filter : Option Filter} {abbreviated : Bool}
    {result : Option NodeId} {later : Workspace}
    (ran : (traversal.root field filter).outcome (.empty abbreviated) = (.ok result, later)) :
    traversal.schema.target field = .ok .leaf ∧ result = none ∧ later = .empty abbreviated ∨
      ∃ type openings, traversal.schema.target field = .ok (.composite type) ∧ result = some 0 ∧
        Rooted (rootSpot [field.name] type filter) openings ∧
        Complete traversal openings [] later := by
  have plain := IsPlainPath.singleton (wellFormed.plain_field known declared)
  refine ((rootAt_ensures wellFormed (faithful_empty traversal abbreviated) plain field
    filter).of_ok ran).imp_right ?_
  rintro ⟨type, leads, ⟨_, opened, -⟩ | ⟨-, found, name, new, -, faithful, -, kinds, closed⟩⟩
  · exact absurd opened List.not_mem_nil
  · exact ⟨type, _, leads, found, ⟨name, new, rfl, kinds⟩, faithful, closed⟩

/-- The history that the projection of a root field has in a fresh workspace. -/
theorem Traversal.complete_of_root (wellFormed : traversal.schema.WellFormed)
    {owner : TypeDefinition} (known : owner ∈ traversal.schema.types) {field : FieldDefinition}
    (declared : field ∈ owner.fields) {filter : Option Filter} {abbreviated : Bool} {id : NodeId}
    {later : Workspace}
    (ran : (traversal.root field filter).outcome (.empty abbreviated) = (.ok (some id), later)) :
    ∃ type openings, traversal.schema.target field = .ok (.composite type) ∧ id = 0 ∧
      Rooted (rootSpot [field.name] type filter) openings ∧
      Complete traversal openings [] later := by
  rcases history_of_root wellFormed known declared ran with ⟨-, none, -⟩ | history
  · cases none
  · simpa using history

/-- The history that a root field leaves in a fresh workspace if it fails. -/
theorem Traversal.blamed_of_root (wellFormed : traversal.schema.WellFormed)
    {owner : TypeDefinition} (known : owner ∈ traversal.schema.types) {field : FieldDefinition}
    (declared : field ∈ owner.fields) {filter : Option Filter} {abbreviated : Bool} {fault : Error}
    {later : Workspace}
    (ran : (traversal.root field filter).outcome (.empty abbreviated) = (.error fault, later)) :
    traversal.schema.target field = .error fault ∨
      ∃ type openings, traversal.schema.target field = .ok (.composite type) ∧
        Rooted (rootSpot [field.name] type filter) openings ∧
        Faithful traversal openings [] later ∧ Blamed traversal openings fault := by
  have plain := IsPlainPath.singleton (wellFormed.plain_field known declared)
  refine ((rootAt_ensures wellFormed (faithful_empty traversal abbreviated) plain field
    filter).of_error ran).imp_right ?_
  rintro ⟨type, leads, name, new, faithful, -, kinds, blamed⟩
  exact ⟨type, _, leads, ⟨name, new, rfl, kinds⟩, faithful, blamed⟩

end GraphQLProjections
