import GraphQLProjections.Proofs.Projection.Preorder

/-! What a step leaves behind. However it ends, it leaves the slots that were there as they were, and
what it has filled links to projections at the paths allowed to it. A step that succeeds has filled
all that it has opened; one that fails below a root leaves at least the slot of the root open. -/
namespace GraphQLProjections

open Building

variable {α β : Type} {allowed : List String → Prop} {workspace middle later : Workspace}
  {start id target : Nat} {targets more : List NodeId}

def Workspace.idAt (workspace : Workspace) (path : List String) (suffix : String) :
    Option NodeId :=
  (workspace.names.nameOf? path suffix).bind workspace.forest.id?

theorem Workspace.idAt_eq_some {path : List String} {suffix : String} :
    workspace.idAt path suffix = some id ↔
      ∃ name, workspace.names.nameOf? path suffix = some name ∧
        workspace.forest.id? name = some id :=
  Option.bind_eq_some_iff

def Workspace.Places (workspace : Workspace) (allowed : List String → Prop) (id : Nat) : Prop :=
  ∃ path, allowed path ∧ workspace.idAt path NameSupply.projectionSuffix = some id

namespace Workspace.Grows

theorem idAt (grows : workspace.Grows start later) {path : List String} {suffix : String}
    (found : workspace.idAt path suffix = some id) : later.idAt path suffix = some id := by
  obtain ⟨name, named, known⟩ := idAt_eq_some.mp found
  exact idAt_eq_some.mpr ⟨name, grows.names.nameOf? named, grows.ids name id known⟩

theorem places (grows : workspace.Grows start later) (places : workspace.Places allowed id) :
    later.Places allowed id := by
  obtain ⟨path, within, found⟩ := places
  exact ⟨path, within, grows.idAt found⟩

end Workspace.Grows

/-- The slots below a number stay as they are; from there on all links are to allowed paths. -/
structure Workspace.Extends (allowed : List String → Prop) (start : Nat)
    (workspace later : Workspace) : Prop where
  grows : workspace.Grows start later
  linked : ∀ (id : Nat) node, start ≤ id → later.forest.node? id = some node →
    ∀ target ∈ node.targets, later.Places allowed target

/-- What is more, all slots from the number on are filled, and some targets are at allowed paths. -/
structure Workspace.Settles (allowed : List String → Prop) (start : Nat)
    (workspace later : Workspace) (targets : List NodeId) : Prop
    extends Workspace.Extends allowed start workspace later where
  filled : ∀ id : Nat, start ≤ id → id < later.forest.size → (later.forest.node? id).isSome
  placed : ∀ target ∈ targets, later.Places allowed target

namespace Workspace

theorem Extends.of_size_le (grows : workspace.Grows start later)
    (small : later.forest.size ≤ start) : workspace.Extends allowed start later := by
  refine ⟨grows, fun id node above held => ?_⟩
  exact absurd (Forest.lt_size_of_node? held) (Nat.not_lt.mpr (small.trans above))

theorem Extends.trans {next : Nat} (before : workspace.Extends allowed start middle)
    (after : middle.Extends allowed next later) (le : start ≤ next) :
    workspace.Extends allowed start later := by
  refine ⟨before.grows.trans (after.grows.of_le le), fun id node above held target linked => ?_⟩
  rcases Nat.lt_or_ge id next with old | new
  · rw [after.grows.slots id old] at held
    exact after.grows.places (before.linked id node above held target linked)
  · exact after.linked id node new held target linked

theorem Extends.entered {names : NameSupply} {path : List String} {suffix name : String}
    (guarded : workspace.Guarded)
    (claims : workspace.names.claim path suffix = ((name, true), names)) :
    workspace.Extends allowed workspace.forest.size ⟨names, workspace.forest.opened name⟩ := by
  refine ⟨.entered guarded claims, fun id node new held => ?_⟩
  rw [Forest.node?_opened] at held
  exact absurd (Forest.lt_size_of_node? held) (Nat.not_lt.mpr new)

theorem Settles.of_size_le (grows : workspace.Grows start later)
    (small : later.forest.size ≤ start) (placed : ∀ target ∈ targets, later.Places allowed target) :
    workspace.Settles allowed start later targets where
  toExtends := .of_size_le grows small
  filled _ above inside := absurd (inside.trans_le small) (Nat.not_lt.mpr above)
  placed := placed

theorem Settles.trans (before : workspace.Settles allowed start middle targets)
    (after : middle.Settles allowed middle.forest.size later more)
    (le : start ≤ middle.forest.size) :
    workspace.Settles allowed start later (targets ++ more) := by
  refine ⟨before.toExtends.trans after.toExtends le, fun id above inside => ?_, ?_⟩
  · rcases Nat.lt_or_ge id middle.forest.size with old | new
    · rw [after.grows.slots id old]
      exact before.filled id above old
    · exact after.filled id new inside
  · refine List.forall_mem_append.mpr ⟨fun target linked => ?_, after.placed⟩
    exact after.grows.places (before.placed target linked)

/-- Of a projection that was opened last, the slot is filled after all from then on. -/
theorem Settles.fill {node : ProjectionNode} {failed : Error → Workspace → Prop}
    (settles : workspace.Settles allowed (id + 1) later node.targets) (here : node.id = id)
    (opened : workspace.forest.size = id + 1) :
    Ensures (fill node) later failed fun _ last => workspace.Settles allowed id last [] := by
  have filling : later.Grows id { later with forest := later.forest.filled node } :=
    .filled settles.grows.guarded here.ge
  have inside : id < later.forest.size := by
    have grown := settles.grows.size
    omega
  have elsewhere {other : Nat} (apart : ¬(node.id = other ∧ other < later.forest.size))
      (above : id ≤ other) : id + 1 ≤ other :=
    Nat.lt_of_le_of_ne above fun same => apart ⟨here.trans same, same ▸ inside⟩
  refine (fill_ensures node).giving ?_
  rintro _ _ rfl
  refine ⟨⟨(settles.grows.of_le (Nat.le_succ _)).trans filling, ?_⟩, ?_, List.forall_mem_nil _⟩
  · intro other found above held target linked
    rw [Forest.node?_filled] at held
    split at held
    next =>
      obtain rfl := Option.some.inj held
      exact filling.places (settles.placed target linked)
    next apart => exact filling.places (settles.linked other _ (elsewhere apart above) held _ linked)
  · intro other above within
    rw [Forest.size_filled] at within
    rw [Forest.node?_filled]
    split
    next => rfl
    next apart => exact settles.filled other (elsewhere apart above) within

end Workspace

/-! ### Steps -/

/-- A step settles what it opens, if it succeeds, and links to some targets. -/
def SettlesNew (allowed : List String → Prop) (step : Building α) (targets : α → List NodeId) :
    Prop :=
  ∀ workspace : Workspace, workspace.Guarded →
    Ensures step workspace (fun _ => workspace.Extends allowed workspace.forest.size)
      fun value later => workspace.Settles allowed workspace.forest.size later (targets value)

/-- A step that comes right after the opening of a projection settles it; if the step fails, that
projection stays open. -/
def SettlesOpened (allowed : List String → Prop) (id : Nat) (step : Building Unit) : Prop :=
  ∀ workspace : Workspace, workspace.Guarded → workspace.forest.size = id + 1 →
    Ensures step workspace (fun _ => workspace.Extends allowed (id + 1))
      fun _ later => workspace.Settles allowed id later []

namespace SettlesNew

variable {step : Building α} {targets : α → List NodeId}

theorem pure {value : α} (none : targets value = []) : SettlesNew allowed (pure value) targets :=
  fun _ guarded => Ensures.pure (.of_size_le (.refl guarded) le_rfl (by simp [none]))

theorem map {targets' : β → List NodeId} (settles : SettlesNew allowed step targets)
    {result : α → β} (same : ∀ value, targets' (result value) = targets value) :
    SettlesNew allowed (do return result (← step)) targets' := by
  intro workspace guarded
  apply (settles workspace guarded).bind
  intro value later settled
  exact .pure (same value ▸ settled)

theorem ofExcept {result : Except Error α} {next : α → Building β} {targets : β → List NodeId}
    (each : ∀ value, SettlesNew allowed (next value) targets) :
    SettlesNew allowed (Building.ofExcept result >>= next) targets := by
  intro workspace guarded
  refine (ofExcept_ensures fun _ _ => .of_size_le (.refl guarded) le_rfl).bind ?_
  rintro value _ ⟨-, rfl⟩
  exact each value _ guarded

/-- A step after one that has settled what it has opened. -/
theorem after (settles : SettlesNew allowed step targets)
    (before : workspace.Settles allowed start middle more) (le : start ≤ middle.forest.size) :
    Ensures step middle (fun _ => workspace.Extends allowed start)
      fun value later => workspace.Settles allowed start later (more ++ targets value) :=
  (settles middle before.grows.guarded).mono (fun _ _ extended => before.toExtends.trans extended le)
    fun _ _ settled => before.trans settled le

theorem gather {build : α → Building (Option β)} {targets : β → List NodeId} {items : List α}
    (each : ∀ item ∈ items, SettlesNew allowed (build item) (·.toList.flatMap targets)) :
    SettlesNew allowed (gather build items) (·.flatMap targets) := by
  induction items with
  | nil => exact pure rfl
  | cons item rest ih =>
    intro workspace guarded
    apply (each item List.mem_cons_self workspace guarded).bind
    intro value middle settled
    have others := ih fun item member => each item (List.mem_cons_of_mem _ member)
    refine (others.after settled settled.grows.size).bind ?_
    intro values later settled'
    refine .pure (?_ : Workspace.Settles _ _ _ _ (List.flatMap targets (value.toList ++ values)))
    rwa [List.flatMap_append]

/-- To enter a path is to settle its projection, or to link to the one that is there. -/
theorem enter {path : List String} {inside : NodeId → String → Building Unit}
    {otherwise : String → Building β} {result : Link → β} {targets : β → List NodeId}
    (within : allowed path) (fills : ∀ id name, SettlesOpened allowed id (inside id name))
    (links : ∀ name, otherwise name = do return result (← linkTo name))
    (leads : ∀ link, targets (result link) = [link.target]) :
    SettlesNew allowed (enter path inside otherwise result) targets := by
  intro workspace guarded
  rcases claims : workspace.names.claim path NameSupply.projectionSuffix with ⟨⟨name, isNew⟩, names⟩
  obtain ⟨-, keeps, named, -⟩ := NameSupply.of_claim claims
  have placed {later : Workspace} {target : Nat} (keeps : names.Keeps later.names)
      (known : later.forest.id? name = some target) : later.Places allowed target :=
    ⟨path, within, Workspace.idAt_eq_some.mpr ⟨name, keeps.nameOf? named, known⟩⟩
  apply (claim_ensures claims).bind
  rintro _ _ ⟨rfl, rfl⟩
  cases isNew with
  | false =>
    have grows : workspace.Grows workspace.forest.size { workspace with names } :=
      .of_names guarded keeps
    simp only [Bool.false_eq_true, if_false, links]
    refine Ensures.bind ((linkTo_finds name).failing ?_) ?_
    · rintro _ _ rfl
      exact .of_size_le grows le_rfl
    · rintro link _ ⟨rfl, known⟩
      refine .pure (.of_size_le grows le_rfl ?_)
      rw [leads]
      exact List.forall_mem_singleton.mpr (placed (.refl names) known)
  | true =>
    have opens : workspace.Extends allowed workspace.forest.size
        ⟨names, workspace.forest.opened name⟩ := .entered guarded claims
    have known : (workspace.forest.opened name).id? name = some workspace.forest.size := by
      rw [Forest.id?_opened, if_pos rfl]
    apply (openNode_ensures name).bind
    rintro _ _ ⟨rfl, rfl⟩
    refine Ensures.bind ((fills workspace.forest.size name _ opens.grows.guarded
      (Forest.size_opened _ _)).failing ?_) ?_
    · exact fun _ later extended => opens.trans extended (Nat.le_succ _)
    · intro _ later settled
      refine .pure ⟨⟨opens.grows.trans settled.grows, settled.linked⟩, settled.filled, ?_⟩
      rw [leads]
      exact List.forall_mem_singleton.mpr
        (placed settled.grows.names (settled.grows.ids name _ known))

end SettlesNew

/-! ### Traversals -/

namespace Traversal

variable {traversal : Traversal} {descend : Descent} {site : Site} {trail : List TrailStep}

def SettlesBelow (allowed : List String → Prop) (descend : Descent) : Prop :=
  ∀ (site : Site) (type : TypeDefinition) (trail : List TrailStep) (filter : Option Filter),
    allowed site.path → (∀ step ∈ trail, allowed step.path) →
      SettlesOpened allowed site.id (descend site type trail filter)

variable (further : ∀ path segment, allowed path → allowed (path ++ [segment]))
  (here : allowed site.path) (above : ∀ step ∈ trail, allowed step.path)

include further here in
theorem argumentWrapper_settles (field : FieldDefinition) :
    SettlesNew allowed (argumentWrapper site field) ([·.target]) := by
  rw [argumentWrapper_eq]
  refine .enter (further _ _ here) (fun id name workspace guarded opened => ?_)
    (fun _ => (bind_pure _).symm) fun _ => rfl
  have start : workspace.Settles allowed (id + 1) workspace [] :=
    .of_size_le (.refl guarded) opened.le (List.forall_mem_nil _)
  exact Workspace.Settles.fill start rfl opened

section Descent

variable (settles : SettlesBelow allowed descend)
include further here above settles

theorem child_settles (field : FieldDefinition) (type : TypeDefinition) (filter : Option Filter) :
    SettlesNew allowed (child descend site field type trail filter) ([·.target]) := by
  have path := allowed_childPath further here above field type filter
  rw [child_eq]
  refine .enter path (fun id name => ?_) (fun _ => (bind_pure _).symm) fun _ => rfl
  exact settles ⟨id, name, _, _, _, _, _⟩ type _ filter path
    (List.forall_mem_append.mpr ⟨above, List.forall_mem_singleton.mpr path⟩)

theorem fragment_settles (type : TypeDefinition) (filter : Option Filter) :
    SettlesNew allowed (fragment descend site type trail filter) ([·.link.target]) := by
  have path := further _ type.name here
  rw [fragment_eq]
  refine .enter path (fun id name => ?_) (fun _ => rfl) fun _ => rfl
  exact settles ⟨id, name, _, _, _, _, _⟩ type trail filter path above

theorem method?_settles (scope : Option Filter) (field : FieldDefinition) :
    SettlesNew allowed (traversal.method? descend site trail scope field)
      (·.toList.flatMap (·.targets)) := by
  unfold method?
  split
  · exact .pure rfl
  · refine .ofExcept fun target => ?_
    cases target with
    | leaf =>
      dsimp only
      split
      · exact .pure rfl
      · exact (argumentWrapper_settles further here field).map fun _ => rfl
    | composite type =>
      dsimp only
      split
      · exact .pure rfl
      · exact (child_settles further here above settles field type _).map fun _ => rfl

theorem accessors_settle (scope : Option Filter) (types : List TypeDefinition) :
    SettlesNew allowed (gather (accessor? descend site trail scope) types)
      (·.flatMap ([·.link.target])) := by
  refine .gather fun type _ => ?_
  unfold accessor?
  split
  · exact .pure rfl
  · exact (fragment_settles further here above settles type _).map fun _ => rfl

end Descent

include further

theorem populateBy_settles (settles : SettlesBelow allowed descend) :
    SettlesBelow allowed (traversal.populateBy descend) := by
  intro site type trail filter here above workspace guarded opened
  let scope := filter.map (·.narrowed type.name)
  have methods : SettlesNew allowed
      (gather (traversal.method? descend site trail scope) type.fields) (·.flatMap (·.targets)) :=
    .gather fun field _ => method?_settles further here above settles scope field
  have fragments := accessors_settle further here above settles scope
    (traversal.schema.concreteTypes type)
  rw [← opened]
  apply (methods workspace guarded).bind
  intro methods middle settled
  apply (fragments.after settled settled.grows.size).bind
  intro fragments later settled
  rw [opened] at settled
  refine Workspace.Settles.fill ?_ rfl opened
  rwa [ProjectionNode.targets_eq]

theorem populate_settles (bound : Nat) : SettlesBelow allowed (traversal.populate bound) := by
  induction bound with
  | zero =>
    intro site type trail filter here above workspace guarded opened
    exact .throw (.of_size_le (.refl guarded) opened.le)
  | succ bound ih => exact populateBy_settles further ih

end Traversal

/-! ### Roots -/

namespace Workspace

/-- A call for the projection at a path has failed: if it has opened anything, then the root at the
path, which is open. -/
structure Abandons (path : List String) (workspace later : Workspace) : Prop
    extends workspace.Extends (path <+: ·) workspace.forest.size later where
  root : workspace.forest.size < later.forest.size →
    later.idAt path NameSupply.rootSuffix = some workspace.forest.size ∧
      later.forest.node? workspace.forest.size = none

/-- A call for the projection at a path has settled what it has opened, and has given the root at
the path, if any. -/
structure Answers (path : List String) (workspace : Workspace) (found : Option NodeId)
    (later : Workspace) : Prop
    extends workspace.Settles (path <+: ·) workspace.forest.size later [] where
  root : ∀ id, found = some id → later.idAt path NameSupply.rootSuffix = some id

variable {path : List String} {names : NameSupply}

theorem Abandons.of_forest (grows : workspace.Grows workspace.forest.size { workspace with names }) :
    workspace.Abandons path { workspace with names } :=
  ⟨.of_size_le grows le_rfl, fun grown => absurd grown (lt_irrefl _)⟩

theorem Answers.of_forest {found : Option NodeId}
    (grows : workspace.Grows workspace.forest.size { workspace with names })
    (root : ∀ id, found = some id →
      idAt { workspace with names } path NameSupply.rootSuffix = some id) :
    workspace.Answers path found { workspace with names } :=
  ⟨.of_size_le grows le_rfl (List.forall_mem_nil _), root⟩

end Workspace

section Roots

variable {path : List String} {names : NameSupply} {name : String}

theorem prefix_further (path other : List String) (segment : String) (inside : path <+: other) :
    path <+: other ++ [segment] :=
  inside.trans (List.prefix_append _ _)

/-- What a call does with a root that it has opened just now. -/
theorem answers_planted {step : Building (Option NodeId)} (guarded : workspace.Guarded)
    (claims : workspace.names.claim path NameSupply.rootSuffix = ((name, true), names))
    (settles : Ensures step ⟨names, workspace.forest.opened name⟩
      (fun _ => Workspace.Extends (path <+: ·) (workspace.forest.size + 1)
        ⟨names, workspace.forest.opened name⟩)
      fun found later => found = some workspace.forest.size ∧
        Workspace.Settles (path <+: ·) workspace.forest.size
          ⟨names, workspace.forest.opened name⟩ later []) :
    Ensures step ⟨names, workspace.forest.opened name⟩ (fun _ => workspace.Abandons path)
      (workspace.Answers path) := by
  obtain ⟨-, -, named, -⟩ := NameSupply.of_claim claims
  have opens : workspace.Extends (path <+: ·) workspace.forest.size
      ⟨names, workspace.forest.opened name⟩ := .entered guarded claims
  have here : Workspace.idAt ⟨names, workspace.forest.opened name⟩ path NameSupply.rootSuffix =
      some workspace.forest.size :=
    Workspace.idAt_eq_some.mpr ⟨name, named, by rw [Forest.id?_opened, if_pos rfl]⟩
  refine settles.mono (fun _ later extended => ?_) ?_
  · refine ⟨opens.trans extended (Nat.le_succ _), fun _ => ⟨extended.grows.idAt here, ?_⟩⟩
    rw [extended.grows.slots _ (Nat.lt_succ_self _), Forest.node?_opened]
    by_contra held
    obtain ⟨node, held⟩ := Option.ne_none_iff_exists'.mp held
    exact absurd (Forest.lt_size_of_node? held) (lt_irrefl _)
  · rintro found later ⟨rfl, settled⟩
    refine ⟨⟨⟨opens.grows.trans settled.grows, settled.linked⟩, settled.filled,
      List.forall_mem_nil _⟩, ?_⟩
    rintro _ ⟨⟩
    exact settled.grows.idAt here

namespace Traversal

variable (traversal : Traversal)

theorem rootAt_answers (path : List String) (field : FieldDefinition) (filter : Option Filter)
    (guarded : workspace.Guarded) :
    Ensures (traversal.rootAt path field filter) workspace (fun _ => workspace.Abandons path)
      (workspace.Answers path) := by
  refine Ensures.bind (ofExcept_ensures fun _ _ => .of_forest (.refl guarded)) ?_
  rintro target workspace ⟨-, rfl⟩
  cases target with
  | leaf => exact .pure (.of_forest (.refl guarded) nofun)
  | composite type =>
    rcases claims : workspace.names.claim path NameSupply.rootSuffix with ⟨⟨name, isNew⟩, names⟩
    apply (claim_ensures claims).bind
    rintro _ _ ⟨rfl, rfl⟩
    cases isNew with
    | false =>
      obtain ⟨-, keeps, named, -⟩ := NameSupply.of_claim claims
      refine Ensures.bind ((linkTo_finds name).failing ?_) ?_
      · rintro _ _ rfl
        exact .of_forest (.of_names guarded keeps)
      · rintro link _ ⟨rfl, known⟩
        refine .pure (.of_forest (.of_names guarded keeps) ?_)
        rintro _ ⟨⟩
        exact Workspace.idAt_eq_some.mpr ⟨name, named, known⟩
    | true =>
      apply (openNode_ensures name).bind
      rintro _ _ ⟨rfl, rfl⟩
      have entered : workspace.Grows 0 ⟨names, workspace.forest.opened name⟩ :=
        .entered guarded claims
      refine answers_planted guarded claims (Ensures.bind (populate_settles (prefix_further path) _
        ⟨_, name, .root, none, _, 0, path⟩ type [] filter List.prefix_rfl (List.forall_mem_nil _) _
        entered.guarded (Forest.size_opened _ _)) ?_)
      exact fun _ later settled => .pure ⟨rfl, settled⟩

theorem entitiesAt_answers (path : List String) (types : List TypeDefinition)
    (guarded : workspace.Guarded) :
    Ensures (traversal.entitiesAt path types) workspace (fun _ => workspace.Abandons path)
      (workspace.Answers path) := by
  unfold entitiesAt
  split
  · exact .pure (.of_forest (.refl guarded) nofun)
  · rcases claims : workspace.names.claim path NameSupply.rootSuffix with ⟨⟨name, isNew⟩, names⟩
    apply (claim_ensures claims).bind
    rintro _ _ ⟨rfl, rfl⟩
    cases isNew with
    | false => exact .throw (.of_forest (.of_names guarded (NameSupply.of_claim claims).2.1))
    | true =>
      apply (openNode_ensures name).bind
      rintro _ _ ⟨rfl, rfl⟩
      have opened : (workspace.forest.opened name).size = workspace.forest.size + 1 :=
        Forest.size_opened _ _
      have entered : workspace.Grows 0 ⟨names, workspace.forest.opened name⟩ :=
        .entered guarded claims
      refine answers_planted guarded claims ?_
      rw [← opened]
      refine Ensures.bind (accessors_settle (prefix_further path) List.prefix_rfl
        (List.forall_mem_nil _) (populate_settles (prefix_further path) _) none types _
        entered.guarded) ?_
      intro fragments later settled
      rw [opened] at settled
      refine Ensures.bind (?_ : Ensures _ _ _ fun _ last => Workspace.Settles (path <+: ·)
        workspace.forest.size ⟨names, workspace.forest.opened name⟩ last []) ?_
      · refine Workspace.Settles.fill ?_ rfl opened
        rwa [ProjectionNode.targets_eq]
      · exact fun _ last settled => .pure ⟨rfl, settled⟩

end Traversal

end Roots
end GraphQLProjections
