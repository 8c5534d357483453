import GraphQLProjections.Proofs.Projection.Beside
import GraphQLProjections.Proofs.Projection.Roots
import GraphQLProjections.Proofs.Projection.Tree

/-! Trees of root fields with different names. Their paths start with different segments, so no
name, no number and no link of one tree depends on another: a root field is projected in the same
way whatever was projected, or failed to be, before it. -/
namespace GraphQLProjections

open Building

variable {segment : String} {front : List (Option ProjectionNode)}

/-! ### Traversals in parallel -/

theorem head?_append_of_head? {path : List String} (head : path.head? = some segment)
    (further : String) : (path ++ [further]).head? = some segment := by
  cases path with
  | nil => cases head
  | cons first rest => exact head

/-- Below the segment, to enter a path goes in parallel if what fills it does. -/
theorem enter_parallel {α : Type} {path : List String} (head : path.head? = some segment)
    {inside inside' : NodeId → String → Building Unit} {otherwise : String → Building α}
    {result : Link → α} {good : α → α → Prop}
    (filling : ∀ id name name',
      Parallel segment front (inside id name) (inside' (front.length + id) name') fun _ _ => True)
    (old : ∀ name, otherwise name = linkTo name >>= fun link => pure (result link))
    (linking : ∀ link link', link.Shifts front.length link' → good (result link) (result link')) :
    Parallel segment front (enter path inside otherwise result)
      (enter path inside' otherwise result) good := by
  refine .claim head old old (fun _ => rfl) (fun _ => rfl)
    (fun link link' shifts => .pure (linking link link' shifts)) fun name name' id => ?_
  exact (filling id name name').bind fun _ _ _ => .pure (linking ⟨id, name⟩ ⟨_, name'⟩ rfl)

namespace Traversal

variable {traversal : Traversal} {descend : Descent} {site site' : Site} {trail : List TrailStep}

def DescendsParallel (segment : String) (front : List (Option ProjectionNode))
    (descend : Descent) : Prop :=
  ∀ (site site' : Site) (type : TypeDefinition) (trail : List TrailStep) (filter : Option Filter),
    site.Shifts front.length site' → site.path.head? = some segment →
      (∀ step ∈ trail, step.path.head? = some segment) →
      Parallel segment front (descend site type trail filter) (descend site' type trail filter)
        fun _ _ => True

section Site

variable (shifts : site.Shifts front.length site')
include shifts

theorem atBound_shifts : traversal.atBound site' = traversal.atBound site := by
  rw [atBound, atBound, shifts.depth]

theorem childPath_shifts (field : FieldDefinition) (type : TypeDefinition)
    (filter : Option Filter) :
    childPath site' field type trail filter = childPath site field type trail filter := by
  rw [childPath, childPath, shifts.path]

variable (head : site.path.head? = some segment)
include head

theorem argumentWrapper_parallel (field : FieldDefinition) :
    Parallel segment front (argumentWrapper site field) (argumentWrapper site' field)
      (Link.Shifts front.length) := by
  rw [argumentWrapper_eq, argumentWrapper_eq, shifts.path]
  refine enter_parallel (head?_append_of_head? head field.name) (fun id name name' => ?_)
    (fun _ => (bind_pure _).symm) fun _ _ shifted => shifted
  refine .fill ⟨⟨rfl, rfl, ?_, shifts.root, ?_, rfl⟩, rfl, .nil, .nil, rfl⟩
  · simp [shifts.id]
  · simp [shifts.depth]

variable (trailed : ∀ step ∈ trail, step.path.head? = some segment)
  (descends : DescendsParallel segment front descend)
include trailed descends

theorem child_parallel (field : FieldDefinition) (type : TypeDefinition) (filter : Option Filter) :
    Parallel segment front (child descend site field type trail filter)
      (child descend site' field type trail filter) (Link.Shifts front.length) := by
  have path : (childPath site field type trail filter).head? = some segment := by
    rcases childPath_cases site field type trail filter with path | ⟨step, passed, path⟩
    · exact path ▸ head?_append_of_head? head field.name
    · exact path ▸ trailed step passed
  rw [child_eq, child_eq, childPath_shifts shifts]
  refine enter_parallel path (fun id name name' => ?_) (fun _ => (bind_pure _).symm)
    fun _ _ shifted => shifted
  refine descends _ _ _ _ _ ⟨rfl, rfl, ?_, shifts.root, ?_, rfl⟩ path fun step passed => ?_
  · simp [shifts.id]
  · simp [shifts.depth]
  · rcases List.mem_append.mp passed with passed | passed
    · exact trailed step passed
    · exact List.mem_singleton.mp passed ▸ path

theorem fragment_parallel (type : TypeDefinition) (filter : Option Filter) :
    Parallel segment front (fragment descend site type trail filter)
      (fragment descend site' type trail filter) (FragmentAccessor.Shifts front.length) := by
  have path := head?_append_of_head? head type.name
  rw [fragment_eq, fragment_eq, shifts.path]
  refine enter_parallel path (fun id name name' => ?_) (fun _ => rfl)
    fun _ _ shifted => ⟨rfl, shifted⟩
  refine descends _ _ _ _ _ ⟨rfl, rfl, ?_, shifts.root, shifts.depth, rfl⟩ path trailed
  simp [shifts.id]

theorem method?_parallel (scope : Option Filter) (field : FieldDefinition) :
    Parallel segment front (traversal.method? descend site trail scope field)
      (traversal.method? descend site' trail scope field)
      (Option.Rel (SelectionMethod.Shifts front.length)) := by
  unfold method?
  rw [atBound_shifts shifts]
  cases partScope scope (·.field? field.name) with
  | none => exact .pure .none
  | some filter =>
    refine (Parallel.ofExcept _).bind ?_
    rintro target _ rfl
    cases target with
    | leaf =>
      dsimp only
      split
      · exact .pure (.some ⟨rfl, .none⟩)
      · exact (argumentWrapper_parallel shifts head field).bind fun _ _ shifted =>
          .pure (.some ⟨rfl, .some shifted⟩)
    | composite type =>
      dsimp only
      split
      · exact .pure .none
      · exact (child_parallel shifts head trailed descends field type filter).bind
          fun _ _ shifted => .pure (.some ⟨rfl, .some shifted⟩)

theorem accessor?_parallel (scope : Option Filter) (type : TypeDefinition) :
    Parallel segment front (accessor? descend site trail scope type)
      (accessor? descend site' trail scope type)
      (Option.Rel (FragmentAccessor.Shifts front.length)) := by
  unfold accessor?
  cases partScope scope (·.fragment? type.name) with
  | none => exact .pure .none
  | some filter =>
    exact (fragment_parallel shifts head trailed descends type filter).bind fun _ _ shifted =>
      .pure (.some shifted)

end Site

theorem populateBy_parallel (descends : DescendsParallel segment front descend) :
    DescendsParallel segment front (traversal.populateBy descend) := by
  intro site site' type trail filter shifts head trailed
  refine (Parallel.gather fun field _ =>
    method?_parallel shifts head trailed descends _ field).bind fun methods methods' selected => ?_
  refine (Parallel.gather fun concrete _ =>
    accessor?_parallel shifts head trailed descends _ concrete).bind
      fun accessors accessors' listed => ?_
  refine .fill ⟨shifts, rfl, selected, listed, ?_⟩
  rw [cuts, cuts, atBound_shifts shifts]

theorem populate_parallel (bound : Nat) :
    DescendsParallel segment front (traversal.populate bound) := by
  induction bound with
  | zero => exact fun _ _ type _ _ _ _ _ => .throw (.endlessUnion type.name)
  | succ bound ih => exact populateBy_parallel ih

/-- A root field below the segment is projected in parallel. -/
theorem rootAt_parallel {path : List String} (head : path.head? = some segment)
    (field : FieldDefinition) (filter : Option Filter) :
    Parallel segment front (traversal.rootAt path field filter) (traversal.rootAt path field filter)
      (Option.Rel fun id id' => id' = front.length + id) := by
  have planted (id : NodeId) (name name' : String) :
      (⟨id, name, .root, none, id, 0, path⟩ : Site).Shifts front.length
        ⟨front.length + id, name', .root, none, front.length + id, 0, path⟩ :=
    ⟨rfl, rfl, rfl, rfl, rfl, rfl⟩
  refine (Parallel.ofExcept _).bind ?_
  rintro target _ rfl
  cases target with
  | leaf => exact .pure .none
  | composite type =>
    refine .claim head (fun _ => rfl) (fun _ => rfl) (fun _ => rfl) (fun _ => rfl)
      (fun link link' shifts => .pure (.some shifts)) fun name name' id => ?_
    exact (populate_parallel _ _ _ type [] filter (planted id name name') head
      (List.forall_mem_nil _)).bind fun _ _ _ => .pure (.some rfl)

end Traversal

/-! ### Trees that start apart -/

theorem NameSupply.head_eq_of_pathKey {path other : List String}
    {first first' suffix suffix' : String} (head : path.head? = some first)
    (head' : other.head? = some first') (plain : IsPlain first) (plain' : IsPlain first')
    (same : pathKey path suffix = pathKey other suffix') : first = first' := by
  obtain ⟨rest, rfl⟩ := List.head?_eq_some_iff.mp head
  obtain ⟨rest', rfl⟩ := List.head?_eq_some_iff.mp head'
  exact (eq_of_pathKey_cons plain plain' same).1

namespace Workspace

/-- Nothing was opened below a segment, and every projection stands after the root of its tree. -/
structure Clear (segment : String) (workspace : Workspace) : Prop where
  tidy : workspace.Tidy
  rooted : ∀ id node, workspace.forest.node? id = some node → node.root ≤ id
  vacant : ∀ (path : List String) (suffix : String), path.head? = some segment →
    workspace.idOf? (NameSupply.pathKey path suffix) = none

variable {workspace later : Workspace} {allowed : List String → Prop} {root : NodeId}

theorem clear_empty (segment : String) (abbreviated : Bool) : (empty abbreviated).Clear segment where
  tidy := .empty abbreviated
  rooted id node held := by simp [empty, Forest.empty, Forest.node?] at held
  vacant path suffix _ := by simp [idOf?, empty, NameSupply.empty]

theorem Moves.rooted (moves : workspace.Moves allowed root later)
    (rooted : ∀ id node, workspace.forest.node? id = some node → node.root ≤ id) :
    ∀ id node, later.forest.node? id = some node → node.root ≤ id := by
  induction moves with
  | refl => exact rooted
  | tail _ move ih =>
    cases move with
    | claim => exact ih
    | enter => simpa using ih
    | fill tree below =>
      intro id node held
      rw [Forest.node?_filled] at held
      split at held
      next here =>
        obtain rfl := Option.some.inj held
        exact here.1 ▸ tree ▸ below
      next => exact ih id node held

/-- The tree of a root field of another name leaves the segment clear, whether it is completed. -/
theorem Clear.after (clear : workspace.Clear segment) (plain : IsPlain segment)
    {field : FieldDefinition} (plain' : IsPlain field.name) (apart : field.name ≠ segment)
    (traversal : Traversal) (filter : Option Filter) :
    (workspace.after (.root traversal [field.name] field filter)).Clear segment := by
  have further (path : List String) (segment : String) (head : path.head? = some field.name) :
      (path ++ [segment]).head? = some field.name := head?_append_of_head? head segment
  have makes : MakesFrom workspace (·.head? = some field.name) workspace.forest.size
      (traversal.rootAt [field.name] field filter) :=
    Traversal.rootAt_makes further rfl field filter workspace
  have moves := makes.moves
  obtain ⟨tidy, keeps⟩ := moves.tidy clear.tidy
  refine ⟨tidy, moves.rooted clear.rooted, fun path suffix head => ?_⟩
  refine (keeps _ fun other suffix' head' same => ?_).trans (clear.vacant path suffix head)
  exact apart (NameSupply.head_eq_of_pathKey head' head plain' plain same)

/-- Beside a workspace in which the segment is clear, an empty one is alone. -/
theorem Clear.beside (clear : workspace.Clear segment) (abbreviated : Bool) :
    (empty abbreviated).Beside segment workspace.forest.slots.toList workspace where
  tidy := .empty abbreviated
  tidy' := clear.tidy
  ids path suffix head := by
    rw [clear.vacant path suffix head, (clear_empty segment abbreviated).vacant path suffix head]
    rfl
  slots := ⟨[], (List.append_nil _).symm, .nil⟩

end Workspace

/-! ### Portraits -/

/-- In shifted slots the nodes of a tree are those of the shifted root. -/
theorem forall₂_tree {offset : Nat} {slots others : List (Option ProjectionNode)}
    (each : List.Forall₂ (Option.Rel (ProjectionNode.Shifts offset)) slots others) (root : NodeId) :
    List.Forall₂ (ProjectionNode.Shifts offset) ((slots.filterMap id).filter (·.root == root))
      ((others.filterMap id).filter (·.root == offset + root)) := by
  induction each with
  | nil => exact .nil
  | cons first _ ih =>
    cases first with
    | none => exact ih
    | @some node node' shifts =>
      have same : (node'.root == offset + root) = (node.root == root) := by
        rw [shifts.site.root, Bool.eq_iff_iff, beq_iff_eq, beq_iff_eq, Nat.add_left_cancel_iff]
      simp only [List.filterMap_cons, id, List.filter_cons, same]
      split
      · exact .cons shifts ih
      · exact ih

def Forest.pathOf? (forest : Forest) (id : NodeId) : Option (List String) :=
  (forest.node? id).map (·.path)

/-- A projection without names and numbers: its parent and what its parts lead to are told by their
paths. -/
structure Portrait where
  kind : ProjectionKind
  type : String
  depth : Nat
  path : List String
  parent : Option (Option (List String))
  methods : List (FieldDefinition × Option (Option (List String)))
  fragments : List (String × Option (List String))
  truncated : Bool

def Forest.portrait (forest : Forest) (node : ProjectionNode) : Portrait where
  kind := node.kind
  type := node.type
  depth := node.depth
  path := node.path
  parent := node.parent.map forest.pathOf?
  methods := node.methods.map fun method =>
    (method.field, method.link.map fun link => forest.pathOf? link.target)
  fragments := node.fragments.map fun accessor =>
    (accessor.type, forest.pathOf? accessor.link.target)
  truncated := node.truncated

namespace Workspace.Beside

variable {alone other : Workspace} (beside : alone.Beside segment front other)
include beside

theorem node?_shifts (id : NodeId) : Option.Rel (ProjectionNode.Shifts front.length)
    (alone.forest.node? id) (other.forest.node? (front.length + id)) := by
  obtain ⟨rest, split, each⟩ := beside.slots
  have slot : other.forest.slots[front.length + id]? = rest[id]? := by
    rw [← Array.getElem?_toList, split, List.getElem?_append_right (Nat.le_add_right _ _),
      Nat.add_sub_cancel_left]
  unfold Forest.node?
  rw [slot, ← Array.getElem?_toList]
  obtain ⟨lengths, each⟩ := List.forall₂_iff_get.mp each
  by_cases inside : id < alone.forest.slots.toList.length
  · have inside' : id < rest.length := lengths ▸ inside
    rw [List.getElem?_eq_getElem inside, List.getElem?_eq_getElem inside']
    exact each id inside inside'
  · rw [List.getElem?_eq_none (Nat.not_lt.mp inside),
      List.getElem?_eq_none (lengths ▸ Nat.not_lt.mp inside)]
    exact .none

theorem pathOf?_shifts (id : NodeId) :
    other.forest.pathOf? (front.length + id) = alone.forest.pathOf? id := by
  have shifts := beside.node?_shifts id
  unfold Forest.pathOf?
  generalize alone.forest.node? id = node, other.forest.node? (front.length + id) = node' at shifts
  cases shifts with
  | none => rfl
  | some shifts => exact congrArg some shifts.site.path

theorem portrait_shifts {node node' : ProjectionNode} (shifts : node.Shifts front.length node') :
    other.forest.portrait node' = alone.forest.portrait node := by
  have target {link link' : Link} (shifted : link.Shifts front.length link') :
      other.forest.pathOf? link'.target = alone.forest.pathOf? link.target := by
    rw [shifted, beside.pathOf?_shifts]
  have parent : node'.parent.map other.forest.pathOf? = node.parent.map alone.forest.pathOf? := by
    rw [shifts.site.parent, Option.map_map]
    exact congrArg (node.parent.map ·) (funext beside.pathOf?_shifts)
  have methods : node'.methods.map (fun method =>
      (method.field, method.link.map fun link => other.forest.pathOf? link.target)) =
      node.methods.map fun method =>
        (method.field, method.link.map fun link => alone.forest.pathOf? link.target) := by
    refine map_eq_of_forall₂ shifts.methods ?_
    rintro ⟨field, link⟩ ⟨_, link'⟩ ⟨rfl, shifted⟩
    cases shifted with
    | none => rfl
    | some shifted => simp only [Option.map_some, target shifted]
  have fragments : node'.fragments.map (fun accessor =>
      (accessor.type, other.forest.pathOf? accessor.link.target)) =
      node.fragments.map fun accessor =>
        (accessor.type, alone.forest.pathOf? accessor.link.target) := by
    refine map_eq_of_forall₂ shifts.fragments fun accessor accessor' shifted => ?_
    rw [shifted.type, target shifted.link]
  simp only [Forest.portrait, shifts.site.kind, shifts.type, shifts.site.depth, shifts.site.path,
    parent, methods, fragments, shifts.truncated]

/-- The trees of one root are the same, if the slots in front hold nothing of it. -/
theorem tree_shifts (earlier : ∀ node, some node ∈ front → node.root < front.length)
    (root : NodeId) : (other.forest.tree (front.length + root)).map other.forest.portrait =
      (alone.forest.tree root).map alone.forest.portrait := by
  obtain ⟨rest, split, each⟩ := beside.slots
  have none : (front.filterMap id).filter (·.root == front.length + root) = [] := by
    rw [List.filter_eq_nil_iff]
    intro node member same
    obtain ⟨_, listed, rfl⟩ := List.mem_filterMap.mp member
    have before := earlier node listed
    rw [eq_of_beq same] at before
    exact absurd before (Nat.not_lt.mpr (Nat.le_add_right _ _))
  unfold Forest.tree Forest.nodes
  rw [split, List.filterMap_append, List.filter_append, none, List.nil_append]
  refine map_eq_of_forall₂ (forall₂_tree each root) fun node node' => beside.portrait_shifts

end Workspace.Beside

structure Portrait.Whole (portrait : Portrait) : Prop where
  parent : portrait.parent ≠ some none
  methods : ∀ method ∈ portrait.methods, method.2 ≠ some none
  fragments : ∀ accessor ∈ portrait.fragments, accessor.2 ≠ none

/-- What the portrait of a projection is, going by what it was opened for. -/
def Traversal.portraitAt (traversal : Traversal) (spot : Spot) : Portrait where
  kind := spot.kind
  type := spot.purpose.typeName
  depth := spot.depth
  path := spot.path
  parent := if spot.kind = .root then none else some (some spot.path.dropLast)
  methods := (spot.purpose.fields.filter (traversal.keepsField spot)).map fun field =>
    (field, (traversal.requestOfField spot field).map (some ·.path))
  fragments := (spot.purpose.types traversal.schema).filterMap fun type =>
    (requestOfType spot type).map fun request => (type.name, some request.path)
  truncated := traversal.cutsAt spot

section Complete

variable {traversal : Traversal} {openings : List Opening} {others : List (List String × String)}
  {workspace : Workspace}

theorem Complete.pathOf?_id (complete : Complete traversal openings others workspace)
    {opening : Opening} (member : opening ∈ openings) :
    workspace.forest.pathOf? opening.id = some opening.path := by
  rw [Forest.pathOf?, complete.node?_id member]
  rfl

theorem Complete.pathOf?_target (complete : Complete traversal openings others workspace)
    (wellFormed : traversal.schema.WellFormed) {opening : Opening} (member : opening ∈ openings)
    {request : Spot} (requested : request ∈ traversal.requests opening.toSpot) :
    (workspace.linkAt request.path).map (fun link => workspace.forest.pathOf? link.target) =
      some (some request.path) := by
  obtain ⟨target, inside, path, -, linked⟩ := complete.target wellFormed member requested
  rw [linked, Option.map_some, complete.pathOf?_id inside, path]

/-- In a complete history the portrait of a projection is that of its spot. -/
theorem Complete.portrait_render (complete : Complete traversal openings others workspace)
    (wellFormed : traversal.schema.WellFormed) {opening : Opening} (member : opening ∈ openings) :
    workspace.forest.portrait (traversal.render workspace.linkAt opening) =
      traversal.portraitAt opening.toSpot := by
  have parent : opening.parent.map workspace.forest.pathOf? =
      if opening.kind = .root then none else some (some opening.path.dropLast) := by
    cases complete.derived opening member with
    | root kind parent => rw [parent, if_pos kind, Option.map_none]
    | below parent inside _ kind linked _ further =>
      obtain ⟨segment, path⟩ := further
      rw [linked, if_neg kind, path, List.dropLast_concat, Option.map_some,
        complete.pathOf?_id inside]
  have methods : (opening.purpose.fields.filterMap
        (traversal.methodAt workspace.linkAt opening.toSpot)).map (fun method =>
          (method.field, method.link.map fun link => workspace.forest.pathOf? link.target)) =
      (opening.purpose.fields.filter (traversal.keepsField opening.toSpot)).map fun field =>
        (field, (traversal.requestOfField opening.toSpot field).map (some ·.path)) := by
    rw [List.map_filterMap, ← List.filterMap_eq_filter, List.map_filterMap]
    apply List.filterMap_congr
    intro field declared
    cases kept : traversal.keepsField opening.toSpot field with
    | false => simp [Traversal.methodAt, kept, Option.guard]
    | true =>
      cases requested : traversal.requestOfField opening.toSpot field with
      | none => simp [Traversal.methodAt, kept, requested, Option.guard]
      | some request =>
        have found := complete.pathOf?_target wellFormed member
          (Traversal.mem_requests.mpr (.inl ⟨field, declared, requested⟩))
        simp [Traversal.methodAt, kept, requested, Option.guard, found]
  have fragments : ((opening.purpose.types traversal.schema).filterMap
        (Traversal.accessorAt workspace.linkAt opening.toSpot)).map (fun accessor =>
          (accessor.type, workspace.forest.pathOf? accessor.link.target)) =
      (opening.purpose.types traversal.schema).filterMap fun type =>
        (Traversal.requestOfType opening.toSpot type).map fun request =>
          (type.name, some request.path) := by
    rw [List.map_filterMap]
    apply List.filterMap_congr
    intro type listed
    cases requested : Traversal.requestOfType opening.toSpot type with
    | none => simp [Traversal.accessorAt, requested]
    | some request =>
      obtain ⟨link, linked, path⟩ := Option.map_eq_some_iff.mp
        (complete.pathOf?_target wellFormed member
          (Traversal.mem_requests.mpr (.inr ⟨type, listed, requested⟩)))
      simp [Traversal.accessorAt, requested, linked, path]
  simp only [Forest.portrait, Traversal.portraitAt, Traversal.render, Opening.site, parent, methods,
    fragments]

theorem Traversal.whole_portraitAt (spot : Spot) : (traversal.portraitAt spot).Whole := by
  refine ⟨?_, List.forall_mem_map.mpr fun field _ lost => ?_, fun accessor listed => ?_⟩
  · unfold portraitAt
    dsimp only
    split <;> simp
  · obtain ⟨request, -, lost⟩ := Option.map_eq_some_iff.mp lost
    cases lost
  · obtain ⟨type, -, made⟩ := List.mem_filterMap.mp listed
    obtain ⟨request, -, rfl⟩ := Option.map_eq_some_iff.mp made
    exact nofun

theorem Complete.whole_of_mem_nodes (complete : Complete traversal openings others workspace)
    (wellFormed : traversal.schema.WellFormed) :
    ∀ node ∈ workspace.forest.nodes, (workspace.forest.portrait node).Whole := by
  intro node listed
  obtain ⟨opening, member, rfl⟩ := complete.mem_nodes.mp listed
  rw [complete.portrait_render wellFormed member]
  exact Traversal.whole_portraitAt opening.toSpot

end Complete

/-- The first tree of a workspace has whole portraits, if it is completed. -/
theorem Traversal.whole_of_root {traversal : Traversal} (wellFormed : traversal.schema.WellFormed)
    {type : TypeDefinition} (known : type ∈ traversal.schema.types) {field : FieldDefinition}
    (declared : field ∈ type.fields) {filter : Option Filter} {abbreviated : Bool} {id : NodeId}
    {later : Workspace}
    (ran : (traversal.root field filter).outcome (.empty abbreviated) = (.ok (some id), later)) :
    ∀ node ∈ later.forest.tree id, (later.forest.portrait node).Whole := by
  obtain ⟨_, openings, -, -, -, complete⟩ := complete_of_root wellFormed known declared ran
  exact fun node inside => complete.whole_of_mem_nodes wellFormed node (List.mem_filter.mp inside).1

/-! ### Outcomes -/

/-- Two calls for a root field have one outcome: a fault, no projection, or projections with trees
that are the same but for numbers and names. -/
inductive SameOutcome :
    Except Error (Option NodeId) × Workspace → Except Error (Option NodeId) × Workspace → Prop
  | error (fault : Error) {alone other : Workspace} :
      SameOutcome (.error fault, alone) (.error fault, other)
  | leaf {alone other : Workspace} : SameOutcome (.ok none, alone) (.ok none, other)
  | tree {id id' : NodeId} {alone other : Workspace}
      (whole : ∀ node ∈ alone.forest.tree id, (alone.forest.portrait node).Whole)
      (same : (other.forest.tree id').map other.forest.portrait =
        (alone.forest.tree id).map alone.forest.portrait) :
      SameOutcome (.ok (some id), alone) (.ok (some id'), other)

namespace Traversal

def rootCalls (traversal : Traversal) (fields : List (FieldDefinition × Option Filter)) :
    List Workspace.Call :=
  fields.map fun call => .root traversal [call.1.name] call.1 call.2

variable {traversal : Traversal} {field : FieldDefinition} {filter : Option Filter}

/-- Where its name is clear, a root field has the outcome that it has in an empty workspace. -/
theorem sameOutcome_of_clear {workspace : Workspace} (clear : workspace.Clear field.name)
    {abbreviated : Bool} (whole : ∀ id later,
      (traversal.root field filter).outcome (.empty abbreviated) = (.ok (some id), later) →
        ∀ node ∈ later.forest.tree id, (later.forest.portrait node).Whole) :
    SameOutcome ((traversal.root field filter).outcome (.empty abbreviated))
      ((traversal.root field filter).outcome workspace) := by
  have head : [field.name].head? = some field.name := rfl
  have parallel : Parallel field.name workspace.forest.slots.toList
      (traversal.root field filter) (traversal.root field filter) _ :=
    rootAt_parallel head field filter
  have ends := parallel _ _ (clear.beside abbreviated)
  unfold outcome at whole ⊢
  generalize ((traversal.root field filter).run).run (.empty abbreviated) = ran,
    ((traversal.root field filter).run).run workspace = ran' at ends whole ⊢
  cases ends with
  | error fault => exact .error fault
  | ok beside holds =>
    cases holds with
    | none => exact .leaf
    | some shifted =>
      subst shifted
      refine .tree (whole _ _ rfl) (beside.tree_shifts (fun node listed => ?_) _)
      obtain ⟨index, inside, here⟩ := List.getElem_of_mem listed
      have held : workspace.forest.node? index = some node := by
        rw [Forest.node?, ← Array.getElem?_toList, List.getElem?_eq_getElem inside, here]
        rfl
      exact (clear.rooted index node held).trans_lt inside

/-- Calls for fields of other names leave a name clear. -/
theorem clear_afterAll {workspace : Workspace} (clear : workspace.Clear segment)
    (plain : IsPlain segment) {earlier : List (FieldDefinition × Option Filter)}
    (apart : ∀ call ∈ earlier, IsPlain call.1.name ∧ call.1.name ≠ segment) :
    (workspace.afterAll (traversal.rootCalls earlier)).Clear segment := by
  induction earlier generalizing workspace with
  | nil => exact clear
  | cons call rest ih =>
    obtain ⟨⟨plain', differs⟩, apart⟩ := List.forall_mem_cons.mp apart
    exact ih (clear.after plain plain' differs traversal call.2) apart

end Traversal

/-- A root field of a schema has one outcome whatever fields of other names were projected before, in
whatever order, with whatever filters, and whether that succeeded. -/
theorem Traversal.sameOutcome_of_apart {texts : List String} {reading : Settings} {schema : Schema}
    (read : Schema.ofDocuments texts reading = .ok schema) (maxDepth : Option Nat)
    (abbreviated : Bool) {type : TypeDefinition} (known : type ∈ schema.types)
    {field : FieldDefinition} (declared : field ∈ type.fields) (filter : Option Filter)
    {earlier : List (FieldDefinition × Option Filter)}
    (apart : ∀ call ∈ earlier, (∃ other ∈ schema.types, call.1 ∈ other.fields) ∧
      call.1.name ≠ field.name) :
    SameOutcome ((root ⟨schema, maxDepth⟩ field filter).outcome (.empty abbreviated))
      ((root ⟨schema, maxDepth⟩ field filter).outcome
        ((Workspace.empty abbreviated).afterAll (rootCalls ⟨schema, maxDepth⟩ earlier))) := by
  have wellFormed := Schema.wellFormed_of_ofDocuments read
  have plain := wellFormed.plain_field known declared
  refine sameOutcome_of_clear (clear_afterAll (Workspace.clear_empty _ _) plain ?_)
    fun _ _ => whole_of_root wellFormed known declared
  intro call listed
  obtain ⟨⟨other, known', declared'⟩, differs⟩ := apart call listed
  exact ⟨wellFormed.plain_field known' declared', differs⟩

def joinedDocument : String :=
  "type Query \x7b broken: Broken show: Show showNext: Person \x7d
  type Broken \x7b show: Show lost: Lost \x7d
  type Show \x7b title(length: Int): String next: Person \x7d
  type Person \x7b show: Show \x7d"

theorem Traversal.sameOutcome_joinedDocument : ∃ schema owner field earlier,
    Schema.ofDocuments [joinedDocument] .standard = .ok schema ∧ owner ∈ schema.types ∧
      field ∈ owner.fields ∧
      (∀ call ∈ earlier, (∃ other ∈ schema.types, call.1 ∈ other.fields) ∧
        call.1.name ≠ field.name) ∧
      (∃ call ∈ earlier,
        ((root ⟨schema, none⟩ call.1 call.2).outcome (.empty false)).1.isOk = false) ∧
      (∃ id later, (root ⟨schema, none⟩ field none).outcome
          ((Workspace.empty false).afterAll (rootCalls ⟨schema, none⟩ earlier)) =
            (.ok (some id), later) ∧ 0 < id ∧
        ∃ node ∈ later.forest.tree id, node.name = "ShowNextShow2Projection") ∧
      SameOutcome ((root ⟨schema, none⟩ field none).outcome (.empty false))
        ((root ⟨schema, none⟩ field none).outcome
          ((Workspace.empty false).afterAll (rootCalls ⟨schema, none⟩ earlier))) := by
  have checked : (Schema.ofDocuments [joinedDocument] .standard).toOption.any (fun schema =>
      (schema.type? "Query").any fun owner => owner.fields.getLast?.any fun field =>
        decide (∀ other ∈ owner.fields.dropLast, other.name ≠ field.name) &&
        owner.fields.dropLast.any (fun other =>
          !((root ⟨schema, none⟩ other none).outcome (.empty false)).1.isOk) &&
        leavesTree ((root ⟨schema, none⟩ field none).outcome
          ((Workspace.empty false).afterAll
            (rootCalls ⟨schema, none⟩ (owner.fields.dropLast.map (·, none))))) fun forest id =>
          decide (0 < id ∧ ∃ node ∈ forest.tree id, node.name = "ShowNextShow2Projection")) =
      true := by
    decide +kernel
  obtain ⟨schema, read, checked⟩ := exists_of_any checked
  obtain ⟨owner, found, checked⟩ := (Option.any_eq_true _ _).mp checked
  obtain ⟨field, last, checked⟩ := (Option.any_eq_true _ _).mp checked
  simp only [Bool.and_eq_true, decide_eq_true_eq, List.any_eq_true, Bool.not_eq_true'] at checked
  obtain ⟨⟨differs, other, before, fails⟩, named⟩ := checked
  obtain ⟨id, later, ran, named⟩ := exists_tree named
  obtain ⟨behind, named⟩ := of_decide_eq_true named
  have known := Schema.mem_types_of_type? found
  have declared := List.mem_of_getLast? last
  have apart : ∀ call ∈ owner.fields.dropLast.map (·, (none : Option Filter)),
      (∃ other ∈ schema.types, call.1 ∈ other.fields) ∧ call.1.name ≠ field.name :=
    List.forall_mem_map.mpr fun other member =>
      ⟨⟨owner, known, List.dropLast_subset _ member⟩, differs other member⟩
  exact ⟨schema, owner, field, _, read, known, declared, apart,
    ⟨_, List.mem_map_of_mem before, fails⟩, ⟨id, later, ran, behind, named⟩,
    sameOutcome_of_apart read none false known declared none apart⟩

end GraphQLProjections
