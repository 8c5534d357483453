import GraphQLProjections.Proofs.Projection.Spot

/-! The history of a workspace: which projections were opened, in order, and for what. A faithful
history accounts for every name, number and node of the workspace. -/
namespace GraphQLProjections

def Site.lastSegment (site : Site) : String := site.path.getLastD ""

theorem Site.lastSegment_of_path {site : Site} {path : List String} {segment : String}
    (further : site.path = path ++ [segment]) : site.lastSegment = segment := by
  simp [Site.lastSegment, further]

/-- A spot once it has its number and name and its place in a tree. -/
structure Opening extends Spot where
  id : NodeId
  name : String
  parent : Option NodeId
  root : NodeId

def Opening.site (opening : Opening) : Site :=
  { id := opening.id, name := opening.name, kind := opening.kind, parent := opening.parent
    root := opening.root, depth := opening.depth, path := opening.path }

def ProjectionNode.links (node : ProjectionNode) : List Link :=
  node.methods.filterMap (·.link) ++ node.fragments.map (·.link)

def Workspace.linkAt (workspace : Workspace) (path : List String) : Option Link :=
  (workspace.names.nameOf? path NameSupply.projectionSuffix).bind fun name =>
    (workspace.forest.id? name).map (⟨·, name⟩)

namespace Traversal

/-- The node that fills the slot of an opening. -/
def render (traversal : Traversal) (link : List String → Option Link) (opening : Opening) :
    ProjectionNode :=
  { opening.site with
    type := opening.purpose.typeName
    methods := opening.purpose.fields.filterMap (traversal.methodAt link opening.toSpot)
    fragments :=
      (opening.purpose.types traversal.schema).filterMap (accessorAt link opening.toSpot)
    truncated := traversal.cutsAt opening.toSpot }

variable {traversal : Traversal} {link link' : List String → Option Link}

theorem methodAt_congr {spot : Spot} {field : FieldDefinition}
    (agree : ∀ request ∈ traversal.requestOfField spot field, link request.path = link' request.path) :
    traversal.methodAt link spot field = traversal.methodAt link' spot field := by
  unfold methodAt
  cases requested : traversal.requestOfField spot field with
  | none => rfl
  | some request => simp only [Option.bind_some, agree request requested]

theorem accessorAt_congr {spot : Spot} {type : TypeDefinition}
    (agree : ∀ request ∈ requestOfType spot type, link request.path = link' request.path) :
    accessorAt link spot type = accessorAt link' spot type := by
  unfold accessorAt
  cases requested : requestOfType spot type with
  | none => rfl
  | some request => simp only [Option.bind_some, agree request requested]

/-- A node depends on the links to what its spot requests only. -/
theorem render_congr {opening : Opening}
    (agree : ∀ request ∈ traversal.requests opening.toSpot, link request.path = link' request.path) :
    traversal.render link opening = traversal.render link' opening := by
  have methods : ∀ field ∈ opening.purpose.fields,
      traversal.methodAt link opening.toSpot field = traversal.methodAt link' opening.toSpot field :=
    fun field member => methodAt_congr fun request requested =>
      agree request (mem_requests.mpr (.inl ⟨field, member, requested⟩))
  have fragments : ∀ type ∈ opening.purpose.types traversal.schema,
      accessorAt link opening.toSpot type = accessorAt link' opening.toSpot type :=
    fun type member => accessorAt_congr fun request requested =>
      agree request (mem_requests.mpr (.inr ⟨type, member, requested⟩))
  unfold render
  rw [List.filterMap_congr methods, List.filterMap_congr fragments]

theorem exists_methodAt_link {lookup : List String → Option Link} {spot : Spot}
    {field : FieldDefinition} {link : Link} :
    (∃ method, traversal.methodAt lookup spot field = some method ∧ method.link = some link) ↔
      ∃ request, traversal.requestOfField spot field = some request ∧
        lookup request.path = some link := by
  unfold methodAt
  cases requested : traversal.requestOfField spot field with
  | none => simp
  | some request => simp [keepsField_of_request requested]

theorem exists_accessorAt_link {lookup : List String → Option Link} {spot : Spot}
    {type : TypeDefinition} {link : Link} :
    (∃ accessor, accessorAt lookup spot type = some accessor ∧ accessor.link = link) ↔
      ∃ request, requestOfType spot type = some request ∧ lookup request.path = some link := by
  unfold accessorAt
  cases requested : requestOfType spot type with
  | none => simp
  | some request => cases found : lookup request.path <;> simp [found]

/-- The links of a node are those to what its spot requests. -/
theorem mem_links_render {lookup : List String → Option Link} {opening : Opening} {link : Link} :
    link ∈ (traversal.render lookup opening).links ↔
      ∃ request ∈ traversal.requests opening.toSpot, lookup request.path = some link := by
  change link ∈ (opening.purpose.fields.filterMap _).filterMap _ ++
    ((opening.purpose.types traversal.schema).filterMap _).map _ ↔ _
  constructor
  · intro member
    rcases List.mem_append.mp member with member | member
    · obtain ⟨method, member, linked⟩ := List.mem_filterMap.mp member
      obtain ⟨field, inside, made⟩ := List.mem_filterMap.mp member
      obtain ⟨request, requested, found⟩ := exists_methodAt_link.mp ⟨method, made, linked⟩
      exact ⟨request, mem_requests.mpr (.inl ⟨field, inside, requested⟩), found⟩
    · obtain ⟨accessor, member, linked⟩ := List.mem_map.mp member
      obtain ⟨type, inside, made⟩ := List.mem_filterMap.mp member
      obtain ⟨request, requested, found⟩ := exists_accessorAt_link.mp ⟨accessor, made, linked⟩
      exact ⟨request, mem_requests.mpr (.inr ⟨type, inside, requested⟩), found⟩
  · intro requests
    obtain ⟨request, member, found⟩ := requests
    rcases mem_requests.mp member with ⟨field, inside, requested⟩ | ⟨type, inside, requested⟩
    · obtain ⟨method, made, linked⟩ := exists_methodAt_link.mpr ⟨request, requested, found⟩
      apply List.mem_append_left
      apply List.mem_filterMap.mpr
      exact ⟨method, List.mem_filterMap.mpr ⟨field, inside, made⟩, linked⟩
    · obtain ⟨accessor, made, linked⟩ := exists_accessorAt_link.mpr ⟨request, requested, found⟩
      apply List.mem_append_right
      apply List.mem_map.mpr
      exact ⟨accessor, List.mem_filterMap.mpr ⟨type, inside, made⟩, linked⟩

end Traversal

/-- An opening is the root of its tree, or the first that its parent requested at its path. -/
inductive Opening.Derived (traversal : Traversal) (openings : List Opening) (opening : Opening) :
    Prop
  | root (kind : opening.kind = .root) (parent : opening.parent = none)
      (root : opening.root = opening.id) (trail : opening.purpose.trail = [])
  | below (parent : Opening) (member : parent ∈ openings) (earlier : parent.id < opening.id)
      (kind : opening.kind ≠ .root) (linked : opening.parent = some parent.id)
      (tree : opening.root = parent.root) (path : ∃ segment, opening.path = parent.path ++ [segment])
      (first : (traversal.requests parent.toSpot).find? (·.path == opening.path) =
        some opening.toSpot)

theorem Opening.Derived.mono {traversal : Traversal} {openings later : List Opening}
    {opening : Opening} (derived : opening.Derived traversal openings)
    (grown : openings ⊆ later) : opening.Derived traversal later := by
  cases derived with
  | root kind parent root trail => exact .root kind parent root trail
  | below parent member earlier kind linked tree path first =>
    exact .below parent (grown member) earlier kind linked tree path first

/-- The names, numbers and nodes of a workspace are those of the openings, and of the names reserved
for other purposes at some paths. -/
structure Faithful (traversal : Traversal) (openings : List Opening)
    (others : List (List String × String)) (workspace : Workspace) : Prop where
  consistent : workspace.names.Consistent
  size : workspace.forest.size = openings.length
  numbered : ∀ (id : NodeId) (opening : Opening), openings[id]? = some opening → opening.id = id
  ids : ∀ (name : String) (id : NodeId), workspace.forest.id? name = some id ↔
    ∃ opening, openings[id]? = some opening ∧ opening.name = name
  named : ∀ opening ∈ openings,
    workspace.names.nameOf? opening.path opening.suffix = some opening.name
  kept : ∀ opening ∈ openings, workspace.names.isReserved opening.name = true
  apart : ∀ key ∈ others, IsPlainPath key.1 ∧
    key.2 ≠ NameSupply.rootSuffix ∧ key.2 ≠ NameSupply.projectionSuffix ∧
    ∃ name, workspace.names.nameOf? key.1 key.2 = some name ∧ workspace.names.isReserved name = true
  reserved : ∀ name : String, workspace.names.isReserved name = true →
    (∃ opening ∈ openings, opening.name = name) ∨
      ∃ key ∈ others, workspace.names.nameOf? key.1 key.2 = some name
  grounded : ∀ opening ∈ openings, opening.toSpot.Grounded traversal.schema
  derived : ∀ opening ∈ openings, opening.Derived traversal openings
  filled : ∀ (id : NodeId) (node : ProjectionNode), workspace.forest.node? id = some node →
    ∃ opening, openings[id]? = some opening ∧ node = traversal.render workspace.linkAt opening ∧
      traversal.Resolves opening.toSpot ∧
      ∀ request ∈ traversal.requests opening.toSpot, (workspace.linkAt request.path).isSome

theorem faithful_empty (traversal : Traversal) (abbreviated : Bool) :
    Faithful traversal [] [] (.empty abbreviated) where
  consistent := NameSupply.consistent_empty abbreviated
  size := rfl
  numbered := by simp
  ids := by simp [Workspace.empty, Forest.empty, Forest.id?]
  named := by simp
  kept := by simp
  apart := by simp
  reserved := by simp [Workspace.empty, NameSupply.empty, NameSupply.isReserved]
  grounded := by simp
  derived := by simp
  filled := by simp [Workspace.empty, Forest.empty, Forest.node?]

structure Workspace.Advances (workspace later : Workspace) : Prop where
  names : workspace.names.Keeps later.names
  ids : ∀ (name : String) (id : NodeId), workspace.forest.id? name = some id →
    later.forest.id? name = some id
  nodes : ∀ (id : NodeId) (node : ProjectionNode), workspace.forest.node? id = some node →
    later.forest.node? id = some node

namespace Workspace.Advances

variable {first second third : Workspace}

theorem refl (workspace : Workspace) : workspace.Advances workspace :=
  ⟨.refl _, fun _ _ => id, fun _ _ => id⟩

theorem trans (before : first.Advances second) (after : second.Advances third) :
    first.Advances third :=
  ⟨before.names.trans after.names, fun name id held => after.ids name id (before.ids name id held),
    fun id node held => after.nodes id node (before.nodes id node held)⟩

theorem of_names (names : first.names.Keeps second.names) (forest : second.forest = first.forest) :
    first.Advances second :=
  ⟨names, fun _ _ held => forest ▸ held, fun _ _ held => forest ▸ held⟩

theorem linkAt (advances : first.Advances second) {path : List String} {link : Link}
    (linked : first.linkAt path = some link) : second.linkAt path = some link := by
  obtain ⟨name, named, known⟩ := Option.bind_eq_some_iff.mp linked
  obtain ⟨id, held, rfl⟩ := Option.map_eq_some_iff.mp known
  exact Option.bind_eq_some_iff.mpr ⟨name, advances.names.nameOf? named,
    Option.map_eq_some_iff.mpr ⟨id, advances.ids name id held, rfl⟩⟩

theorem linked (advances : first.Advances second) {path : List String}
    (linked : (first.linkAt path).isSome) : (second.linkAt path).isSome := by
  obtain ⟨link, found⟩ := Option.isSome_iff_exists.mp linked
  exact Option.isSome_iff_exists.mpr ⟨link, advances.linkAt found⟩

theorem agree (advances : first.Advances second) {path : List String}
    (linked : (first.linkAt path).isSome) : first.linkAt path = second.linkAt path := by
  obtain ⟨link, found⟩ := Option.isSome_iff_exists.mp linked
  rw [found, advances.linkAt found]

theorem filled (advances : first.Advances second) {id : NodeId}
    (filled : (first.forest.node? id).isSome) : (second.forest.node? id).isSome := by
  obtain ⟨node, held⟩ := Option.isSome_iff_exists.mp filled
  exact Option.isSome_iff_exists.mpr ⟨node, advances.nodes id node held⟩

end Workspace.Advances

theorem getElem?_concat_eq_some {α : Type} {items : List α} {last item : α} {index : Nat} :
    (items ++ [last])[index]? = some item ↔
      items[index]? = some item ∨ index = items.length ∧ item = last := by
  rcases Nat.lt_trichotomy index items.length with below | rfl | above
  · simp [List.getElem?_append_left below, Nat.ne_of_lt below]
  · simp [eq_comm]
  · have outside : (items ++ [last]).length ≤ index := by
      rw [List.length_append]
      exact above
    rw [List.getElem?_eq_none outside, List.getElem?_eq_none (Nat.le_of_lt above)]
    simp [Nat.ne_of_gt above]

namespace Faithful

variable {traversal : Traversal} {openings : List Opening} {others : List (List String × String)}
  {workspace : Workspace}

theorem getElem?_id (faithful : Faithful traversal openings others workspace) {opening : Opening}
    (member : opening ∈ openings) : openings[opening.id]? = some opening := by
  obtain ⟨id, here⟩ := List.mem_iff_getElem?.mp member
  rwa [faithful.numbered id opening here]

theorem id_lt (faithful : Faithful traversal openings others workspace) {opening : Opening}
    (member : opening ∈ openings) : opening.id < openings.length :=
  (List.getElem?_eq_some_iff.mp (faithful.getElem?_id member)).1

theorem eq_of_id (faithful : Faithful traversal openings others workspace) {opening other : Opening}
    (member : opening ∈ openings) (member' : other ∈ openings) (same : opening.id = other.id) :
    opening = other := by
  have here := faithful.getElem?_id member
  rw [same] at here
  exact Option.some.inj (here.symm.trans (faithful.getElem?_id member'))

theorem nodup (faithful : Faithful traversal openings others workspace) : openings.Nodup := by
  rw [List.nodup_iff_injective_getElem]
  rintro ⟨index, inside⟩ ⟨other, inside'⟩ same
  have first := faithful.numbered index _ (List.getElem?_eq_getElem inside)
  have second := faithful.numbered other _ (List.getElem?_eq_getElem inside')
  exact Fin.ext (first.symm.trans ((congrArg Opening.id same).trans second))

theorem id?_name (faithful : Faithful traversal openings others workspace) {opening : Opening}
    (member : opening ∈ openings) : workspace.forest.id? opening.name = some opening.id :=
  (faithful.ids _ _).mpr ⟨opening, faithful.getElem?_id member, rfl⟩

theorem eq_of_name (faithful : Faithful traversal openings others workspace)
    {opening other : Opening} (member : opening ∈ openings) (member' : other ∈ openings)
    (same : opening.name = other.name) : opening = other := by
  have here := faithful.id?_name member
  rw [same] at here
  exact faithful.eq_of_id member member'
    (Option.some.inj (here.symm.trans (faithful.id?_name member')))

/-- There is one opening at a path, and one more if the path is that of a root as well. -/
theorem eq_of_path (faithful : Faithful traversal openings others workspace)
    {opening other : Opening} (member : opening ∈ openings) (member' : other ∈ openings)
    (same : opening.path = other.path) (suffix : opening.suffix = other.suffix) :
    opening = other := by
  have named := faithful.named opening member
  rw [same, suffix] at named
  exact faithful.eq_of_name member member'
    (Option.some.inj (named.symm.trans (faithful.named other member')))

/-- Two roots, or two projections below roots, have different paths. -/
theorem eq_of_place (faithful : Faithful traversal openings others workspace)
    {opening other : Opening} (member : opening ∈ openings) (member' : other ∈ openings)
    (same : opening.path = other.path) (alike : opening.kind = .root ↔ other.kind = .root) :
    opening = other := by
  apply faithful.eq_of_path member member' same
  simp only [Spot.suffix, alike]

/-- A reserved name of a projection is that of an opening. -/
theorem opening_of_reserved (faithful : Faithful traversal openings others workspace)
    {path : List String} {suffix name : String} (plain : IsPlainPath path)
    (ours : suffix = NameSupply.rootSuffix ∨ suffix = NameSupply.projectionSuffix)
    (named : workspace.names.nameOf? path suffix = some name)
    (reserved : workspace.names.isReserved name = true) :
    ∃ opening ∈ openings, opening.path = path ∧ opening.suffix = suffix ∧ opening.name = name := by
  rcases faithful.reserved name reserved with ⟨opening, member, rfl⟩ | ⟨key, member, other⟩
  · obtain ⟨path, suffix⟩ := faithful.consistent.nameOf?_injective
      (faithful.grounded opening member).path plain (faithful.named opening member) named
    exact ⟨opening, member, path, suffix, rfl⟩
  · obtain ⟨plain', notRoot, notProjection, -⟩ := faithful.apart key member
    obtain ⟨-, same⟩ := faithful.consistent.nameOf?_injective plain' plain other named
    rcases ours with rfl | rfl
    · exact absurd same notRoot
    · exact absurd same notProjection

theorem suffix_eq_projectionSuffix {spot : Spot} :
    spot.suffix = NameSupply.projectionSuffix ↔ spot.kind ≠ .root := by
  unfold Spot.suffix
  split
  next root => exact ⟨fun same => absurd same (by decide), fun other => absurd root other⟩
  next other => exact ⟨fun _ => other, fun _ => rfl⟩

/-- The projections below roots are those that links lead to. -/
theorem linkAt_eq_some (faithful : Faithful traversal openings others workspace)
    {path : List String} (plain : IsPlainPath path) {link : Link} :
    workspace.linkAt path = some link ↔
      ∃ opening ∈ openings, opening.path = path ∧ opening.kind ≠ .root ∧
        link = ⟨opening.id, opening.name⟩ := by
  constructor
  · intro linked
    obtain ⟨name, named, known⟩ := Option.bind_eq_some_iff.mp linked
    obtain ⟨id, held, rfl⟩ := Option.map_eq_some_iff.mp known
    obtain ⟨opening, here, rfl⟩ := (faithful.ids name id).mp held
    have member := List.mem_of_getElem? here
    obtain ⟨path, suffix⟩ := faithful.consistent.nameOf?_injective
      (faithful.grounded opening member).path plain (faithful.named opening member) named
    exact ⟨opening, member, path, suffix_eq_projectionSuffix.mp suffix,
      by rw [faithful.numbered id opening here]⟩
  · rintro ⟨opening, member, rfl, kind, rfl⟩
    have named := faithful.named opening member
    rw [suffix_eq_projectionSuffix.mpr kind] at named
    exact Option.bind_eq_some_iff.mpr ⟨opening.name, named,
      Option.map_eq_some_iff.mpr ⟨opening.id, faithful.id?_name member, rfl⟩⟩

/-- What a link leads by is a reserved name of the path. -/
theorem reserved_of_linkAt (faithful : Faithful traversal openings others workspace)
    {path : List String} {link : Link} (linked : workspace.linkAt path = some link) :
    workspace.names.nameOf? path NameSupply.projectionSuffix = some link.name ∧
      workspace.names.isReserved link.name = true := by
  obtain ⟨name, named, known⟩ := Option.bind_eq_some_iff.mp linked
  obtain ⟨id, held, rfl⟩ := Option.map_eq_some_iff.mp known
  obtain ⟨opening, here, rfl⟩ := (faithful.ids name id).mp held
  exact ⟨named, faithful.kept opening (List.mem_of_getElem? here)⟩

/-- Each step of a trail is the projection of a field above, or the opening itself. -/
theorem opening_of_trail (faithful : Faithful traversal openings others workspace)
    {opening : Opening} (member : opening ∈ openings) {step : TrailStep}
    (passed : step ∈ opening.purpose.trail) :
    ∃ above ∈ openings, above.path = step.path ∧ above.kind = .sub ∧ above.path <+: opening.path ∧
      above.root = opening.root ∧ ∃ type trail filter,
        above.purpose = .type type (trail ++ [step]) filter ∧ step.type = type.name := by
  induction id : opening.id using Nat.strong_induction_on generalizing opening with
  | h number ih =>
    cases faithful.derived opening member with
    | root kind parent root trail =>
      rw [trail] at passed
      exact absurd passed List.not_mem_nil
    | below parent member' earlier kind linked tree further first =>
      have requested := List.mem_of_find?_eq_some first
      rcases Traversal.trail_of_mem_requests requested passed with passed | ⟨kind, path, found⟩
      · obtain ⟨above, member, path, kind, before, root, found⟩ :=
          ih parent.id (id ▸ earlier) member' passed rfl
        exact ⟨above, member, path, kind, before.trans (further.choose_spec ▸ List.prefix_append _ _),
          root.trans tree.symm, found⟩
      · obtain ⟨type, filter, purpose, named⟩ := found
        exact ⟨opening, member, path.symm, kind, List.prefix_rfl, rfl, type, _, filter, purpose,
          named⟩

/-- What holds of the roots, and of all that a spot requests if it holds of the spot, holds of every
opening. -/
theorem forall_of_requests (faithful : Faithful traversal openings others workspace)
    {good : Spot → Prop} (roots : ∀ root ∈ openings, root.kind = .root → good root.toSpot)
    (step : ∀ spot request, good spot → request ∈ traversal.requests spot → good request) :
    ∀ opening ∈ openings, good opening.toSpot := by
  intro opening member
  induction id : opening.id using Nat.strong_induction_on generalizing opening with
  | h number ih =>
    cases faithful.derived opening member with
    | root kind => exact roots opening member kind
    | below parent member' earlier _ _ _ _ first =>
      exact step _ _ (ih parent.id (id ▸ earlier) parent member' rfl)
        (List.mem_of_find?_eq_some first)

/-- No step of a trail lies further than the opening. -/
theorem ne_of_trail (faithful : Faithful traversal openings others workspace)
    {opening : Opening} (member : opening ∈ openings) {step : TrailStep}
    (passed : step ∈ opening.purpose.trail) (segment : String) :
    step.path ≠ opening.path ++ [segment] := by
  intro same
  obtain ⟨above, -, path, -, before, -⟩ := faithful.opening_of_trail member passed
  have lengths := before.length_le
  rw [path, same, List.length_append, List.length_singleton] at lengths
  omega

/-- What a node was filled with stays right as the workspace grows. -/
theorem rendered (faithful : Faithful traversal openings others workspace) {later : Workspace}
    (advances : workspace.Advances later) {id : NodeId} {node : ProjectionNode}
    (held : workspace.forest.node? id = some node) :
    ∃ opening, openings[id]? = some opening ∧ node = traversal.render later.linkAt opening ∧
      traversal.Resolves opening.toSpot ∧
      ∀ request ∈ traversal.requests opening.toSpot, (later.linkAt request.path).isSome := by
  obtain ⟨opening, here, rfl, resolves, linked⟩ := faithful.filled id node held
  exact ⟨opening, here,
    Traversal.render_congr fun request member => advances.agree (linked request member), resolves,
    fun request member => advances.linked (linked request member)⟩

/-- What is reserved for other purposes stays so as names are added. -/
theorem apart_later (faithful : Faithful traversal openings others workspace) {names : NameSupply}
    (keeps : workspace.names.Keeps names) {key : List String × String} (member : key ∈ others) :
    IsPlainPath key.1 ∧ key.2 ≠ NameSupply.rootSuffix ∧ key.2 ≠ NameSupply.projectionSuffix ∧
      ∃ name, names.nameOf? key.1 key.2 = some name ∧ names.isReserved name = true := by
  obtain ⟨plain, notRoot, notProjection, name, named, reserved⟩ := faithful.apart key member
  exact ⟨plain, notRoot, notProjection, name, keeps.nameOf? named, keeps.reserved _ reserved⟩

/-- A name that was reserved belongs to what it belonged to as names are added. -/
theorem reserved_later (faithful : Faithful traversal openings others workspace) {names : NameSupply}
    (keeps : workspace.names.Keeps names) {name : String}
    (reserved : workspace.names.isReserved name = true) :
    (∃ opening ∈ openings, opening.name = name) ∨
      ∃ key ∈ others, names.nameOf? key.1 key.2 = some name := by
  rcases faithful.reserved name reserved with found | ⟨key, member, named⟩
  · exact .inl found
  · exact .inr ⟨key, member, keeps.nameOf? named⟩

theorem renamed (faithful : Faithful traversal openings others workspace) {names : NameSupply}
    (keeps : workspace.names.Keeps names) (consistent : names.Consistent)
    (same : ∀ name : String, names.isReserved name = workspace.names.isReserved name) :
    Faithful traversal openings others { workspace with names } := by
  have advances : workspace.Advances { workspace with names } := .of_names keeps rfl
  refine ⟨consistent, faithful.size, faithful.numbered, faithful.ids,
    fun opening member => keeps.nameOf? (faithful.named opening member),
    fun opening member => keeps.reserved _ (faithful.kept opening member), ?_, ?_,
    faithful.grounded, faithful.derived, ?_⟩
  · exact fun key => faithful.apart_later keeps
  · exact fun name reserved => faithful.reserved_later keeps (same name ▸ reserved)
  · exact fun _ _ held => faithful.rendered advances held

theorem reservedOther (faithful : Faithful traversal openings others workspace)
    {names : NameSupply} {path : List String} {suffix name : String}
    (keeps : workspace.names.Keeps names) (consistent : names.Consistent)
    (plain : IsPlainPath path) (notRoot : suffix ≠ NameSupply.rootSuffix)
    (notProjection : suffix ≠ NameSupply.projectionSuffix)
    (named : names.nameOf? path suffix = some name)
    (reserved : ∀ other : String,
      names.isReserved other = (name == other || workspace.names.isReserved other)) :
    Faithful traversal openings ((path, suffix) :: others) { workspace with names } := by
  have advances : workspace.Advances { workspace with names } := .of_names keeps rfl
  refine ⟨consistent, faithful.size, faithful.numbered, faithful.ids,
    fun opening member => keeps.nameOf? (faithful.named opening member),
    fun opening member => keeps.reserved _ (faithful.kept opening member), ?_, ?_,
    faithful.grounded, faithful.derived, ?_⟩
  · intro key member
    rcases List.mem_cons.mp member with rfl | member
    · exact ⟨plain, notRoot, notProjection, name, named, by simp [reserved]⟩
    · exact faithful.apart_later keeps member
  · intro other taken
    rcases Bool.or_eq_true_iff.mp (reserved other ▸ taken) with same | taken
    · obtain rfl := eq_of_beq same
      exact .inr ⟨_, List.mem_cons_self, named⟩
    · rcases faithful.reserved_later keeps taken with found | ⟨key, member, named⟩
      · exact .inl found
      · exact .inr ⟨key, List.mem_cons_of_mem _ member, named⟩
  · exact fun _ _ held => faithful.rendered advances held

/-- Opening a projection under a name that was not reserved keeps all that there is. -/
theorem advances_opened (faithful : Faithful traversal openings others workspace)
    {names : NameSupply} {name : String} (keeps : workspace.names.Keeps names)
    (isNew : workspace.names.isReserved name = false) :
    workspace.Advances ⟨names, workspace.forest.opened name⟩ := by
  refine ⟨keeps, ?_, fun id node held => by simpa using held⟩
  intro other id held
  obtain ⟨opening, here, rfl⟩ := (faithful.ids other id).mp held
  have reserved := faithful.kept opening (List.mem_of_getElem? here)
  rw [Forest.id?_opened, if_neg]
  · exact held
  · rintro rfl
    exact Bool.false_ne_true (isNew.symm.trans reserved)

/-- The name of a new opening leads to the next number, every other name to where it led. -/
theorem ids_opened (faithful : Faithful traversal openings others workspace) {opening : Opening}
    (isNew : workspace.names.isReserved opening.name = false) {name : String} {id : NodeId} :
    (workspace.forest.opened opening.name).id? name = some id ↔
      ∃ other, (openings ++ [opening])[id]? = some other ∧ other.name = name := by
  rw [Forest.id?_opened, faithful.size]
  split
  next same =>
    subst same
    constructor
    · intro found
      have next : id = openings.length := (Option.some.inj found).symm
      exact ⟨opening, getElem?_concat_eq_some.mpr (.inr ⟨next, rfl⟩), rfl⟩
    · rintro ⟨other, here, same⟩
      rcases getElem?_concat_eq_some.mp here with here | ⟨rfl, rfl⟩
      · have held := faithful.kept other (List.mem_of_getElem? here)
        rw [same] at held
        exact absurd (isNew.symm.trans held) Bool.false_ne_true
      · rfl
  next differs =>
    rw [faithful.ids]
    constructor
    · rintro ⟨other, here, same⟩
      exact ⟨other, getElem?_concat_eq_some.mpr (.inl here), same⟩
    · rintro ⟨other, here, same⟩
      rcases getElem?_concat_eq_some.mp here with here | ⟨rfl, rfl⟩
      · exact ⟨other, here, same⟩
      · exact absurd same differs

theorem opened (faithful : Faithful traversal openings others workspace) {names : NameSupply}
    {opening : Opening} (keeps : workspace.names.Keeps names) (consistent : names.Consistent)
    (isNew : workspace.names.isReserved opening.name = false)
    (named : names.nameOf? opening.path opening.suffix = some opening.name)
    (reserved : ∀ other : String,
      names.isReserved other = (opening.name == other || workspace.names.isReserved other))
    (number : opening.id = workspace.forest.size)
    (grounded : opening.toSpot.Grounded traversal.schema)
    (derived : opening.Derived traversal openings) :
    Faithful traversal (openings ++ [opening]) others
      ⟨names, workspace.forest.opened opening.name⟩ := by
  have advances := faithful.advances_opened keeps isNew
  have old : openings ⊆ openings ++ [opening] := List.subset_append_left _ _
  have each {good : Opening → Prop} (held : ∀ other ∈ openings, good other) (last : good opening) :
      ∀ other ∈ openings ++ [opening], good other :=
    List.forall_mem_append.mpr ⟨held, List.forall_mem_singleton.mpr last⟩
  refine ⟨consistent, by simp [faithful.size], ?_, fun name id => faithful.ids_opened isNew,
    each (fun other member => keeps.nameOf? (faithful.named other member)) named,
    each (fun other member => keeps.reserved _ (faithful.kept other member)) (by simp [reserved]),
    fun key => faithful.apart_later keeps, ?_, each faithful.grounded grounded,
    each (fun other member => (faithful.derived other member).mono old) (derived.mono old), ?_⟩
  · intro id other here
    rcases getElem?_concat_eq_some.mp here with here | ⟨rfl, rfl⟩
    · exact faithful.numbered id other here
    · exact number.trans faithful.size
  · intro name taken
    rcases Bool.or_eq_true_iff.mp (reserved name ▸ taken) with same | taken
    · exact .inl ⟨opening, by simp, eq_of_beq same⟩
    · exact (faithful.reserved_later keeps taken).imp_left fun ⟨other, member, same⟩ =>
        ⟨other, old member, same⟩
  · intro id node held
    rw [Forest.node?_opened] at held
    obtain ⟨other, here, rendered⟩ := faithful.rendered advances held
    exact ⟨other, getElem?_concat_eq_some.mpr (.inl here), rendered⟩

/-- An open slot can be filled with what its opening renders to. -/
theorem advances_filled (faithful : Faithful traversal openings others workspace)
    {opening : Opening} (member : opening ∈ openings) :
    workspace.Advances { workspace with
      forest := workspace.forest.filled (traversal.render workspace.linkAt opening) } := by
  refine ⟨.refl _, fun _ _ => id, ?_⟩
  intro id node held
  rw [Forest.node?_filled]
  split
  next here =>
    obtain ⟨other, there, rfl, -⟩ := faithful.filled id node held
    have number : opening.id = id := here.1
    rw [← number, faithful.getElem?_id member] at there
    obtain rfl := Option.some.inj there
    rfl
  next => exact held

theorem filledWith (faithful : Faithful traversal openings others workspace) {opening : Opening}
    (member : opening ∈ openings) (resolves : traversal.Resolves opening.toSpot)
    (linked : ∀ request ∈ traversal.requests opening.toSpot,
      (workspace.linkAt request.path).isSome) :
    Faithful traversal openings others { workspace with
      forest := workspace.forest.filled (traversal.render workspace.linkAt opening) } := by
  refine ⟨faithful.consistent, (Forest.size_filled _ _).trans faithful.size, faithful.numbered,
    faithful.ids, faithful.named, faithful.kept, faithful.apart, faithful.reserved,
    faithful.grounded, faithful.derived, ?_⟩
  intro id node held
  rw [Forest.node?_filled] at held
  split at held
  next here =>
    have number : opening.id = id := here.1
    obtain rfl := Option.some.inj held
    exact ⟨opening, number ▸ faithful.getElem?_id member, rfl, resolves, linked⟩
  next => exact faithful.filled id node held

end Faithful
end GraphQLProjections
