import Mathlib.Logic.Relation
import GraphQLProjections.Proofs.NameSupply.Calls
import GraphQLProjections.Proofs.Projection.Population

/-! How a workspace grows. All that a traversal does to it is made of three moves: it comes to a path
that is claimed already, it opens a projection under a name that it is the first to claim, or it
fills a projection of its own tree. So whatever is asked of names and projections, and whether or
not it succeeds, what was there before stays as it was. -/
namespace GraphQLProjections

open Building Relation

variable {α β : Type} {allowed : List String → Prop} {root : NodeId} {workspace later : Workspace}

/-! ### Moves -/

/-- What a traversal may do to a workspace in the tree of a root, at the paths allowed to it. -/
inductive Workspace.Move (allowed : List String → Prop) (root : NodeId) :
    Workspace → Workspace → Prop
  | claim {workspace : Workspace} {path : List String} {suffix name : String} {names : NameSupply}
      (within : allowed path) (claims : workspace.names.claim path suffix = ((name, false), names)) :
      Move allowed root workspace { workspace with names }
  | enter {workspace : Workspace} {path : List String} {suffix name : String} {names : NameSupply}
      (within : allowed path) (claims : workspace.names.claim path suffix = ((name, true), names)) :
      Move allowed root workspace ⟨names, workspace.forest.opened name⟩
  | fill {workspace : Workspace} {node : ProjectionNode} (tree : node.root = root)
      (below : root ≤ node.id) :
      Move allowed root workspace { workspace with forest := workspace.forest.filled node }

abbrev Workspace.Moves (allowed : List String → Prop) (root : NodeId) :
    Workspace → Workspace → Prop :=
  ReflTransGen (Workspace.Move allowed root)

theorem Workspace.Move.size_le (move : workspace.Move allowed root later) :
    workspace.forest.size ≤ later.forest.size := by
  cases move with
  | claim => exact le_rfl
  | enter => simp
  | fill => simp

theorem Workspace.Moves.size_le (moves : workspace.Moves allowed root later) :
    workspace.forest.size ≤ later.forest.size := by
  induction moves with
  | refl => exact le_rfl
  | tail _ move ih => exact ih.trans move.size_le

/-- From a workspace, a step makes nothing but moves in the tree of a root, however it ends. -/
def MakesFrom (workspace : Workspace) (allowed : List String → Prop) (root : NodeId)
    (step : Building α) : Prop :=
  Ensures step workspace (fun _ => workspace.Moves allowed root)
    fun _ => workspace.Moves allowed root

def Makes (allowed : List String → Prop) (root : NodeId) (step : Building α) : Prop :=
  ∀ workspace, root ≤ workspace.forest.size → MakesFrom workspace allowed root step

theorem MakesFrom.after {middle : Workspace} {step : Building α}
    (makes : MakesFrom middle allowed root step) (moves : workspace.Moves allowed root middle) :
    Ensures step middle (fun _ => workspace.Moves allowed root)
      fun _ => workspace.Moves allowed root :=
  Ensures.mono makes (fun _ _ => moves.trans) fun _ _ => moves.trans

/-- A path is claimed, and then either it was claimed before or a projection is opened there. -/
theorem MakesFrom.claim {path : List String} {suffix : String} {next : String × Bool → Building α}
    {inside : String → NodeId → Building α} (within : allowed path)
    (below : root ≤ workspace.forest.size) (old : ∀ name, Makes allowed root (next (name, false)))
    (opens : ∀ name, next (name, true) = openNode name >>= inside name)
    (new : ∀ name, Makes allowed root (inside name workspace.forest.size)) :
    MakesFrom workspace allowed root (claim path suffix >>= next) := by
  rcases claims : workspace.names.claim path suffix with ⟨⟨name, isNew⟩, names⟩
  apply (claim_ensures claims).bind
  rintro _ _ ⟨rfl, rfl⟩
  cases isNew with
  | false =>
    have moves : workspace.Moves allowed root { workspace with names } :=
      .single (.claim within claims)
    exact (old name { workspace with names } below).after moves
  | true =>
    have move : workspace.Move allowed root ⟨names, workspace.forest.opened name⟩ :=
      .enter within claims
    rw [opens]
    apply (openNode_ensures name).bind
    rintro _ _ ⟨rfl, rfl⟩
    exact (new name _ (below.trans move.size_le)).after (.single move)

namespace Makes

theorem pure (value : α) : Makes allowed root (pure value) := fun _ _ => .refl

theorem throw (fault : Error) : Makes (α := α) allowed root (throw fault) := fun _ _ => .refl

theorem bind {step : Building α} {next : α → Building β} (first : Makes allowed root step)
    (second : ∀ value, Makes allowed root (next value)) : Makes allowed root (step >>= next) := by
  intro workspace inside
  apply Ensures.bind (first workspace inside)
  intro value later moves
  exact (second value later (inside.trans moves.size_le)).after moves

theorem ofExcept (result : Except Error α) : Makes allowed root (Building.ofExcept result) := by
  cases result with
  | ok value => exact pure value
  | error fault => exact throw fault

theorem fill {node : ProjectionNode} (tree : node.root = root) (below : root ≤ node.id) :
    Makes allowed root (fill node) := fun _ _ => .single (.fill tree below)

theorem linkTo (name : String) : Makes allowed root (linkTo name) := by
  refine bind (fun _ _ => .refl) fun (workspace : Workspace) => ?_
  cases workspace.forest.id? name with
  | some id => exact pure _
  | none => exact throw _

theorem gather {build : α → Building (Option β)} {items : List α}
    (each : ∀ item ∈ items, Makes allowed root (build item)) :
    Makes allowed root (gather build items) := by
  induction items with
  | nil => exact pure _
  | cons item rest ih =>
    refine (each item List.mem_cons_self).bind fun _ => ?_
    exact (ih fun item member => each item (List.mem_cons_of_mem _ member)).bind fun _ => pure _

theorem enter {path : List String} {inside : NodeId → String → Building Unit}
    {otherwise : String → Building β} {result : Link → β} (within : allowed path)
    (filling : ∀ id name, root ≤ id → Makes allowed root (inside id name))
    (linking : ∀ name, Makes allowed root (otherwise name)) :
    Makes allowed root (enter path inside otherwise result) :=
  fun _ below => .claim within below linking (fun _ => rfl) fun name =>
    (filling _ name below).bind fun _ => pure _

end Makes

/-! ### Traversals -/

structure Site.Within (site : Site) (allowed : List String → Prop) (root : NodeId)
    (trail : List TrailStep) : Prop where
  tree : site.root = root
  below : root ≤ site.id
  path : allowed site.path
  trail : ∀ step ∈ trail, allowed step.path

theorem Site.within_planted {path : List String} (within : allowed path) (id : NodeId)
    (name : String) :
    (⟨id, name, .root, none, id, 0, path⟩ : Site).Within allowed id [] :=
  ⟨rfl, le_rfl, within, by simp⟩

namespace Traversal

variable {traversal : Traversal} {descend : Descent} {site : Site} {trail : List TrailStep}

/-- A field is projected one segment further, or at a place that the trail has passed. -/
theorem childPath_cases (site : Site) (field : FieldDefinition) (type : TypeDefinition)
    (trail : List TrailStep) (filter : Option Filter) :
    childPath site field type trail filter = site.path ++ [field.name] ∨
      ∃ step ∈ trail, childPath site field type trail filter = step.path := by
  unfold childPath
  split
  next step passed =>
    split at passed
    · exact .inr ⟨step, List.mem_of_find?_eq_some passed, rfl⟩
    · cases passed
  next => exact .inl rfl

def MakesBelow (allowed : List String → Prop) (root : NodeId) (descend : Descent) : Prop :=
  ∀ (site : Site) (type : TypeDefinition) (trail : List TrailStep) (filter : Option Filter),
    site.Within allowed root trail → Makes allowed root (descend site type trail filter)

variable (further : ∀ path segment, allowed path → allowed (path ++ [segment]))
include further

theorem allowed_childPath (here : allowed site.path) (above : ∀ step ∈ trail, allowed step.path)
    (field : FieldDefinition) (type : TypeDefinition) (filter : Option Filter) :
    allowed (childPath site field type trail filter) := by
  rcases childPath_cases site field type trail filter with path | ⟨step, passed, path⟩
  · exact path ▸ further _ _ here
  · exact path ▸ above step passed

theorem argumentWrapper_makes (within : site.Within allowed root trail) (field : FieldDefinition) :
    Makes allowed root (argumentWrapper site field) := by
  rw [argumentWrapper_eq]
  exact .enter (further _ _ within.path) (fun _ _ below => .fill within.tree below) .linkTo

variable (descends : MakesBelow allowed root descend)
include descends

theorem child_makes (within : site.Within allowed root trail) (field : FieldDefinition)
    (type : TypeDefinition) (filter : Option Filter) :
    Makes allowed root (child descend site field type trail filter) := by
  have path := allowed_childPath further within.path within.trail field type filter
  rw [child_eq]
  refine .enter path (fun _ _ below => descends _ _ _ _ ⟨within.tree, below, path, ?_⟩) .linkTo
  intro step passed
  rcases List.mem_append.mp passed with passed | passed
  · exact within.trail step passed
  · exact List.mem_singleton.mp passed ▸ path

theorem fragment_makes (within : site.Within allowed root trail) (type : TypeDefinition)
    (filter : Option Filter) :
    Makes allowed root (fragment descend site type trail filter) := by
  have path := further _ type.name within.path
  rw [fragment_eq]
  refine .enter path (fun _ _ below => ?_) fun name => (Makes.linkTo name).bind fun _ => .pure _
  exact descends _ _ _ _ ⟨within.tree, below, path, within.trail⟩

theorem method?_makes (within : site.Within allowed root trail) (scope : Option Filter)
    (field : FieldDefinition) :
    Makes allowed root (traversal.method? descend site trail scope field) := by
  unfold method?
  split
  · exact .pure _
  · refine (Makes.ofExcept _).bind fun target => ?_
    cases target with
    | leaf =>
      dsimp only
      split
      · exact .pure _
      · exact (argumentWrapper_makes further within field).bind fun _ => .pure _
    | composite type =>
      dsimp only
      split
      · exact .pure _
      · exact (child_makes further descends within field type _).bind fun _ => .pure _

theorem accessor?_makes (within : site.Within allowed root trail) (scope : Option Filter)
    (type : TypeDefinition) : Makes allowed root (accessor? descend site trail scope type) := by
  unfold accessor?
  split
  · exact .pure _
  · exact (fragment_makes further descends within type _).bind fun _ => .pure _

theorem populateBy_makes : MakesBelow allowed root (traversal.populateBy descend) := by
  intro site type trail filter within
  refine (Makes.gather fun field _ => method?_makes further descends within _ field).bind
    fun methods => ?_
  refine (Makes.gather fun concrete _ => accessor?_makes further descends within _ concrete).bind
    fun fragments => ?_
  exact .fill within.tree within.below

omit descends

theorem populate_makes (bound : Nat) : MakesBelow allowed root (traversal.populate bound) := by
  induction bound with
  | zero => exact fun _ _ _ _ _ => .throw _
  | succ bound ih => exact populateBy_makes further ih

/-- The projection of a root field is a tree of its own, if it is a new one. -/
theorem rootAt_makes {path : List String} (within : allowed path) (field : FieldDefinition)
    (filter : Option Filter) (workspace : Workspace) :
    MakesFrom workspace allowed workspace.forest.size (traversal.rootAt path field filter) := by
  refine Ensures.bind (ofExcept_ensures fun _ _ => .refl) ?_
  rintro target workspace ⟨-, rfl⟩
  cases target with
  | leaf => exact .pure .refl
  | composite type =>
    refine MakesFrom.claim within le_rfl (fun name => (Makes.linkTo name).bind fun _ => .pure _)
      (fun _ => rfl) fun name => ?_
    exact (populate_makes further _ _ _ _ _ (Site.within_planted within _ name)).bind
      fun _ => .pure _

theorem entitiesAt_makes {path : List String} (within : allowed path)
    (entities : List TypeDefinition) (workspace : Workspace) :
    MakesFrom workspace allowed workspace.forest.size (traversal.entitiesAt path entities) := by
  unfold entitiesAt
  split
  · exact Ensures.pure .refl
  · refine MakesFrom.claim within le_rfl (fun name => .throw _) (fun _ => rfl) fun name => ?_
    refine (Makes.gather fun entity _ => accessor?_makes further (populate_makes further _)
      (Site.within_planted within _ name) none entity).bind fun fragments => ?_
    refine Makes.bind (.fill ?_ ?_) fun _ => .pure _
    · rfl
    · exact le_rfl

end Traversal

/-! ### What stays -/

/-- Whatever name a projection was opened under is reserved, so none is opened twice. -/
def Workspace.Guarded (workspace : Workspace) : Prop :=
  ∀ name id, workspace.forest.id? name = some id → workspace.names.isReserved name = true

/-- A later workspace keeps names, reservations and the numbers of names, and it keeps the slots below
a number as they are, filled or open. -/
structure Workspace.Grows (below : NodeId) (workspace later : Workspace) : Prop where
  names : workspace.names.Keeps later.names
  ids : ∀ name id, workspace.forest.id? name = some id → later.forest.id? name = some id
  size : workspace.forest.size ≤ later.forest.size
  slots : ∀ id < below, later.forest.node? id = workspace.forest.node? id
  guarded : later.Guarded

namespace Workspace.Grows

variable {first second third : Workspace} {below : NodeId}

theorem refl (guarded : workspace.Guarded) : workspace.Grows below workspace :=
  ⟨.refl _, fun _ _ => id, le_rfl, fun _ _ => rfl, guarded⟩

theorem trans (before : first.Grows below second) (after : second.Grows below third) :
    first.Grows below third where
  names := before.names.trans after.names
  ids name id held := after.ids name id (before.ids name id held)
  size := before.size.trans after.size
  slots id inside := (after.slots id inside).trans (before.slots id inside)
  guarded := after.guarded

theorem of_le {least : NodeId} (grows : workspace.Grows below later) (le : least ≤ below) :
    workspace.Grows least later :=
  { grows with slots := fun id inside => grows.slots id (inside.trans_le le) }

theorem of_names {names : NameSupply} (guarded : workspace.Guarded)
    (keeps : workspace.names.Keeps names) : workspace.Grows below { workspace with names } :=
  ⟨keeps, fun _ _ => id, le_rfl, fun _ _ => rfl,
    fun name id held => keeps.reserved name (guarded name id held)⟩

theorem entered {names : NameSupply} {path : List String} {suffix name : String}
    (guarded : workspace.Guarded)
    (claims : workspace.names.claim path suffix = ((name, true), names)) :
    workspace.Grows below ⟨names, workspace.forest.opened name⟩ := by
  obtain ⟨isNew, keeps, -, reserved, -⟩ := NameSupply.of_claim claims
  have apart {other : String} {id : NodeId} (held : workspace.forest.id? other = some id) :
      name ≠ other := by
    rintro rfl
    simp [guarded name id held] at isNew
  refine ⟨keeps, fun other id held => ?_, by simp, by simp, fun other id held => ?_⟩
  · rwa [Forest.id?_opened, if_neg (apart held)]
  · rw [Forest.id?_opened] at held
    split at held
    next same => simp [reserved, same]
    next => exact keeps.reserved other (guarded other id held)

theorem filled {node : ProjectionNode} (guarded : workspace.Guarded) (above : below ≤ node.id) :
    workspace.Grows below { workspace with forest := workspace.forest.filled node } := by
  refine ⟨.refl _, fun _ _ => id, by simp, fun id inside => ?_, guarded⟩
  rw [Forest.node?_filled, if_neg]
  rintro ⟨rfl, -⟩
  exact absurd inside (Nat.not_lt.mpr above)

end Workspace.Grows

theorem Workspace.Move.grows (move : workspace.Move allowed root later)
    (guarded : workspace.Guarded) : workspace.Grows root later := by
  cases move with
  | claim within claims => exact .of_names guarded (NameSupply.of_claim claims).2.1
  | enter within claims => exact .entered guarded claims
  | fill tree below => exact .filled guarded below

theorem Workspace.Moves.grows (moves : workspace.Moves allowed root later)
    (guarded : workspace.Guarded) : workspace.Grows root later := by
  induction moves with
  | refl => exact .refl guarded
  | tail _ move ih => exact ih.trans (move.grows ih.guarded)

/-- All that is in a workspace is in a later one as it was: projections by number and by name, slots
that are open, names and reservations. -/
structure Workspace.Appends (workspace later : Workspace) : Prop where
  filled : ∀ id node, workspace.forest.node? id = some node → later.forest.node? id = some node
  unfilled : ∀ id < workspace.forest.size, workspace.forest.node? id = none →
    later.forest.node? id = none
  ids : ∀ name id, workspace.forest.id? name = some id → later.forest.id? name = some id
  named : ∀ name node, workspace.forest.nodeNamed? name = some node →
    later.forest.nodeNamed? name = some node
  size : workspace.forest.size ≤ later.forest.size
  names : workspace.names.Keeps later.names

theorem Forest.lt_size_of_node? {forest : Forest} {id : NodeId} {node : ProjectionNode}
    (held : forest.node? id = some node) : id < forest.size := by
  by_contra outside
  simp [Forest.node?, Array.getElem?_eq_none (Nat.not_lt.mp outside)] at held

theorem Workspace.Grows.appends (grows : workspace.Grows workspace.forest.size later) :
    workspace.Appends later := by
  have filled (id : NodeId) (node : ProjectionNode) (held : workspace.forest.node? id = some node) :
      later.forest.node? id = some node :=
    (grows.slots id (Forest.lt_size_of_node? held)).trans held
  refine ⟨filled, fun id inside => (grows.slots id inside).trans, grows.ids, fun name node held => ?_,
    grows.size, grows.names⟩
  obtain ⟨id, known, held⟩ := Option.bind_eq_some_iff.mp held
  exact Option.bind_eq_some_iff.mpr ⟨id, grows.ids name id known, filled id node held⟩

/-! ### Calls -/

namespace Workspace

/-- What can be asked of names and projections that are used together. -/
inductive Call where
  | allocate (path : List String) (suffix : String)
  | reserve (name : String)
  | root (traversal : Traversal) (path : List String) (field : FieldDefinition)
      (filter : Option Filter)
  | entities (traversal : Traversal) (path : List String) (types : List TypeDefinition)

def after (workspace : Workspace) : Call → Workspace
  | .allocate path suffix =>
    { workspace with names := (workspace.names.allocate path suffix).2 }
  | .reserve name => { workspace with names := (workspace.names.tryReserve name).2 }
  | .root traversal path field filter =>
    ((traversal.rootAt path field filter).outcome workspace).2
  | .entities traversal path types => ((traversal.entitiesAt path types).outcome workspace).2

def afterAll (workspace : Workspace) (calls : List Call) : Workspace := calls.foldl after workspace

end Workspace

/-- Moves that a step makes are made in what it leaves. -/
theorem MakesFrom.moves {step : Building α} (makes : MakesFrom workspace allowed root step) :
    workspace.Moves allowed root (step.outcome workspace).2 := Ensures.always makes

namespace Workspace

theorem Guarded.after (guarded : workspace.Guarded) (call : Call) :
    workspace.Grows workspace.forest.size (workspace.after call) := by
  cases call with
  | allocate path suffix => exact .of_names guarded (NameSupply.keeps_allocate _ path suffix)
  | reserve name => exact .of_names guarded (NameSupply.keeps_reserve _ name)
  | root traversal path field filter =>
    have makes : MakesFrom workspace (fun _ => True) workspace.forest.size
        (traversal.rootAt path field filter) :=
      Traversal.rootAt_makes (fun _ _ => id) trivial field filter workspace
    exact makes.moves.grows guarded
  | entities traversal path types =>
    have makes : MakesFrom workspace (fun _ => True) workspace.forest.size
        (traversal.entitiesAt path types) :=
      Traversal.entitiesAt_makes (fun _ _ => id) trivial types workspace
    exact makes.moves.grows guarded

theorem Guarded.afterAll (guarded : workspace.Guarded) (calls : List Call) :
    workspace.Grows workspace.forest.size (workspace.afterAll calls) := by
  induction calls generalizing workspace with
  | nil => exact .refl guarded
  | cons call calls ih =>
    have first := guarded.after call
    exact first.trans ((ih first.guarded).of_le first.size)

theorem guarded_empty (abbreviated : Bool) : (empty abbreviated).Guarded := by
  simp [Guarded, empty, Forest.empty, Forest.id?]

/-- Whatever has been asked of a fresh workspace, further calls only add to it. -/
theorem appends_afterAll (abbreviated : Bool) (calls more : List Call) :
    ((empty abbreviated).afterAll calls).Appends ((empty abbreviated).afterAll (calls ++ more)) := by
  have before := (guarded_empty abbreviated).afterAll calls
  have split : (empty abbreviated).afterAll (calls ++ more) =
      ((empty abbreviated).afterAll calls).afterAll more := List.foldl_append
  rw [split]
  exact (before.guarded.afterAll more).appends

end Workspace
end GraphQLProjections
