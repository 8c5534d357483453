import GraphQLProjections.Proofs.Generation.Collisions
import GraphQLProjections.Proofs.Generation.Independence
import GraphQLProjections.Proofs.Projection.Growth

/-! The phases of a run: the root fields of queries, of mutations and of subscriptions, and after them
the look-up of entities. Each phase adds to what those before it have made and changes nothing of it,
so a run without its last phases gives the first part of what the whole run gives. -/
namespace GraphQLProjections

open Building

/-! ### Steps that only add -/

variable {α β : Type} {workspace later : Workspace}

/-- A step that succeeds has only added to the workspace. -/
def Lasts (step : Building α) : Prop :=
  ∀ workspace, workspace.Guarded → Ensures step workspace (fun _ _ => True)
    fun _ => workspace.Grows workspace.forest.size

namespace Lasts

theorem pure (value : α) : Lasts (pure value) := fun _ guarded => .refl guarded

theorem throw (fault : Error) : Lasts (α := α) (throw fault) := fun _ _ => trivial

theorem bind {step : Building α} {next : α → Building β} (first : Lasts step)
    (second : ∀ value, Lasts (next value)) : Lasts (step >>= next) := by
  intro workspace guarded
  apply (first workspace guarded).bind
  intro value later grows
  exact (second value later grows.guarded).giving fun _ last grows' =>
    grows.trans (grows'.of_le grows.size)

theorem gather {build : α → Building (Option β)} (each : ∀ item, Lasts (build item))
    (items : List α) : Lasts (gather build items) := by
  induction items with
  | nil => exact pure _
  | cons item rest ih => exact (each item).bind fun _ => ih.bind fun _ => pure _

theorem claim (path : List String) (suffix : String) : Lasts (claim path suffix) :=
  fun _ guarded => .of_names guarded ((NameSupply.keeps_allocate _ path suffix).trans
    (NameSupply.keeps_reserve _ _))

theorem allocate (path : List String) (suffix : String) : Lasts (allocate path suffix) :=
  fun _ guarded => .of_names guarded (NameSupply.keeps_allocate _ path suffix)

theorem get : Lasts get := fun _ guarded => .refl guarded

theorem of_makes {step : Building α}
    (makes : ∀ workspace, MakesFrom workspace (fun _ => True) workspace.forest.size step) :
    Lasts step :=
  fun _ guarded => Ensures.mono (makes _) (fun _ _ _ => trivial)
    fun _ _ moves => moves.grows guarded

end Lasts

theorem Workspace.Grows.nodes_isPrefix (grows : workspace.Grows workspace.forest.size later) :
    workspace.forest.nodes <+: later.forest.nodes := by
  have slots : workspace.forest.slots.toList =
      later.forest.slots.toList.take workspace.forest.size := by
    apply List.ext_getElem
    · simp only [List.length_take, Array.length_toList]
      exact (Nat.min_eq_left grows.size).symm
    · intro id inside _
      have same := grows.slots id inside
      rw [Array.length_toList] at inside
      have inside' : id < later.forest.slots.size := inside.trans_le grows.size
      simpa [Forest.node?, inside, inside'] using same.symm
  unfold Forest.nodes
  rw [slots]
  exact (List.take_prefix _ _).filterMap _

namespace Cataloguing

variable {schema : Schema}

def KeepsNames (step : Cataloguing α) : Prop :=
  ∀ catalogue, Ensures step catalogue (fun _ _ => True) fun _ later =>
    catalogue.names.Keeps later.names

namespace KeepsNames

theorem pure (value : α) : KeepsNames (pure value) := fun _ => .refl _

theorem bind {step : Cataloguing α} {next : α → Cataloguing β} (first : KeepsNames step)
    (second : ∀ value, KeepsNames (next value)) : KeepsNames (step >>= next) := by
  intro catalogue
  apply (first catalogue).bind
  intro value later keeps
  exact (second value later).giving fun _ _ => keeps.trans

theorem ofExcept (result : Except Error α) : KeepsNames (ofExcept result) := by
  cases result with
  | ok value => exact pure value
  | error fault => exact fun _ => trivial

theorem discard {step : Cataloguing α} (keeps : KeepsNames step) : KeepsNames (discard step) := by
  have split : (Functor.discard step : Cataloguing PUnit) = step >>= fun _ => Pure.pure ⟨⟩ := rfl
  rw [split]
  exact keeps.bind fun _ => pure _

end KeepsNames

theorem represent_keepsNames (type : TypeDefinition) (tree : KeyTree) :
    KeepsNames (represent schema type tree) := by
  refine represent_induction (fun _ _ step => KeepsNames step) (fun _ _ step => KeepsNames step)
    ?_ ?_ ?_ ?_ ?_ ?_ type tree
  · intro type selected fields
    have claims : KeepsNames (claim type) := fun catalogue =>
      (NameSupply.keeps_allocate catalogue.names _ _).trans (NameSupply.keeps_reserve _ _)
    unfold represent
    refine claims.bind fun claimed => ?_
    obtain ⟨name, isNew⟩ := claimed
    cases isNew with
    | false => exact .pure name
    | true =>
      refine .bind (fun _ => .refl _) fun index => fields.bind fun values => ?_
      exact .bind (fun _ => .refl _) fun _ => .pure name
  · exact .pure _
  · exact fun _ ih => ih
  · exact fun _ _ => .ofExcept (.error _)
  · exact fun _ _ _ ih => ih.bind fun _ => .pure _
  · exact fun _ _ _ nested ih => nested.bind fun _ => ih.bind fun _ => .pure _

theorem representAll_keepsNames (entities : List TypeDefinition) :
    KeepsNames (representAll schema entities) := by
  induction entities with
  | nil => exact .pure _
  | cons entity rest ih =>
    refine KeepsNames.bind (.discard ?_) fun _ => ih
    refine (KeepsNames.ofExcept _).bind fun keys => ?_
    split
    · exact .pure _
    · exact (represent_keepsNames entity _).bind fun _ => .pure _

end Cataloguing

namespace Generation

variable {settings settings' : Settings} {schema : Schema} {traversal : Traversal}
  {selected : Option SelectedRoots}

theorem reserveNew_lasts (path : List String) (suffix : String) : Lasts (reserveNew path suffix) := by
  refine (Lasts.claim path suffix).bind fun claimed => ?_
  obtain ⟨name, isNew⟩ := claimed
  cases isNew with
  | true => exact .pure _
  | false => exact .throw _

theorem isTaken_lasts (path : List String) : Lasts (isTaken path) :=
  (Lasts.allocate _ _).bind fun _ => (Lasts.allocate _ _).bind fun _ => Lasts.get.bind fun _ =>
    .pure _

theorem nameOfNode_lasts (id : Option NodeId) : Lasts (nameOfNode id) :=
  Lasts.get.bind fun _ => .pure _

theorem rootOperation_lasts (kind : OperationKind) (filter : Option Filter)
    (field : FieldDefinition) : Lasts (rootOperation traversal kind filter field) := by
  have rootPath_lasts : Lasts (rootPath kind field.name) := by
    unfold rootPath
    split
    · exact .pure _
    · refine (isTaken_lasts _).bind fun taken => ?_
      split <;> exact .pure _
  refine rootPath_lasts.bind fun path => ?_
  refine (Lasts.of_makes (Traversal.rootAt_makes (fun _ _ => id) trivial field filter)).bind
    fun root => ?_
  exact (nameOfNode_lasts root).bind fun _ => (reserveNew_lasts _ _).bind fun _ => .pure _

theorem rootTypeOperations_lasts (kind : OperationKind) (type : TypeDefinition) :
    Lasts (rootTypeOperations traversal selected kind type) := by
  have checkRoots_lasts : Lasts (checkRoots selected kind type) := by
    unfold checkRoots
    split
    · exact .throw _
    · exact .pure _
  refine checkRoots_lasts.bind fun _ => .gather (fun field => ?_) _
  split
  · exact (rootOperation_lasts kind none field).bind fun _ => .pure _
  · split
    · exact .pure _
    · exact (rootOperation_lasts kind _ field).bind fun _ => .pure _

theorem entityRepresentations_lasts (entities : List TypeDefinition) :
    Lasts (entityRepresentations schema entities) := by
  intro workspace guarded
  have all : Ensures (Cataloguing.representAll schema entities) ⟨workspace.names, #[]⟩
      (fun _ _ => True) fun _ catalogue =>
        workspace.Grows workspace.forest.size (catalogue.workspace workspace.forest) :=
    (Cataloguing.representAll_keepsNames entities _).giving fun _ _ => .of_names guarded
  exact entityRepresentations_of_representAll all

theorem entityOperations_lasts : Lasts (entityOperations settings traversal) := by
  unfold entityOperations
  dsimp only
  split
  · exact .pure _
  · have entitiesPath_lasts : Lasts entitiesPath := by
      refine (isTaken_lasts _).bind fun taken => ?_
      split <;> exact .pure _
    refine entitiesPath_lasts.bind fun path => ?_
    refine (Lasts.of_makes (Traversal.entitiesAt_makes (fun _ _ => id) trivial _)).bind
      fun root => ?_
    refine (nameOfNode_lasts root).bind fun _ => (entityRepresentations_lasts _).bind fun _ => ?_
    exact (reserveNew_lasts _ _).bind fun _ => .pure _

/-! ### Phases -/

inductive Phase where
  | operations (kind : OperationKind)
  | entities
  deriving DecidableEq, Repr

namespace Phase

def all : List Phase :=
  [OperationKind.query, .mutation, .subscription].map .operations ++ [.entities]

def isEnabled (settings : Settings) : Phase → Bool
  | .operations kind => includes settings kind
  | .entities => !settings.skipEntities

def run (traversal : Traversal) (selected : Option SelectedRoots) :
    Phase → Building (List OperationDescriptor × List Representation)
  | .operations kind =>
    match traversal.schema.rootType? kind with
    | none => return ([], [])
    | some type => do
      let operations ← rootTypeOperations traversal selected kind type
      return (operations, [])
  | .entities => entityOperations .standard traversal

def runAll (traversal : Traversal) (selected : Option SelectedRoots) :
    List Phase → Building (List OperationDescriptor × List Representation)
  | [] => return ([], [])
  | phase :: rest => do
    let first ← phase.run traversal selected
    let others ← runAll traversal selected rest
    return (first.1 ++ others.1, first.2 ++ others.2)

theorem runAll_lasts (phases : List Phase) : Lasts (runAll traversal selected phases) := by
  induction phases with
  | nil => exact .pure _
  | cons phase rest ih =>
    have first : Lasts (phase.run traversal selected) := by
      cases phase with
      | operations kind =>
        dsimp only [Phase.run]
        split
        · exact .pure _
        · exact (rootTypeOperations_lasts kind _).bind fun _ => .pure _
      | entities => exact entityOperations_lasts
    exact first.bind fun _ => ih.bind fun _ => .pure _

theorem runAll_append (phases more : List Phase) :
    runAll traversal selected (phases ++ more) = do
      let first ← runAll traversal selected phases
      let others ← runAll traversal selected more
      return (first.1 ++ others.1, first.2 ++ others.2) := by
  induction phases with
  | nil => simp [runAll]
  | cons phase rest ih => simp [runAll, ih, List.append_assoc]

/-- If phases and those after them succeed, so do the phases alone, and what they give comes first. -/
theorem exists_of_runAll_append {workspace later : Workspace} (guarded : workspace.Guarded)
    {phases more : List Phase} {operations : List OperationDescriptor}
    {representations : List Representation}
    (ran : (runAll traversal selected (phases ++ more)).outcome workspace =
      (.ok (operations, representations), later)) :
    ∃ firsts middle, (runAll traversal selected phases).outcome workspace = (.ok firsts, middle) ∧
      firsts.1 <+: operations ∧ firsts.2 <+: representations ∧
      middle.Grows middle.forest.size later := by
  unfold outcome at ran ⊢
  rw [runAll_append] at ran
  obtain ⟨firsts, middle, first, ran⟩ := exists_of_run_bind ran
  obtain ⟨others, last, second, done⟩ := exists_of_run_bind ran
  obtain ⟨⟨rfl, rfl⟩, rfl⟩ := done
  have guarded' := ((runAll_lasts _ _ guarded).of_ok first).guarded
  exact ⟨firsts, middle, first, List.prefix_append _ _, List.prefix_append _ _,
    (runAll_lasts _ _ guarded').of_ok second⟩

end Phase

end Generation

def Settings.phases (settings : Settings) : List Generation.Phase :=
  Generation.Phase.all.filter (·.isEnabled settings)

def Settings.withPhases (settings other : Settings) : Settings :=
  { settings with
    queries := other.queries
    mutations := other.mutations
    subscriptions := other.subscriptions
    skipEntities := other.skipEntities }

namespace Generation

theorem rootOperations_eq_runAll (kinds : List OperationKind) (rest : List Phase) :
    (do
      let operations ← rootOperations settings traversal selected
        (kinds.filterMap fun kind => (traversal.schema.rootType? kind).map (kind, ·))
      let others ← Phase.runAll traversal selected rest
      return (operations ++ others.1, others.2)) =
    Phase.runAll traversal selected
      ((kinds.filter (includes settings)).map .operations ++ rest) := by
  induction kinds with
  | nil => simp [rootOperations]
  | cons kind kinds ih =>
    rw [List.filterMap_cons, List.filter_cons]
    cases root : traversal.schema.rootType? kind with
    | none =>
      cases included : includes settings kind with
      | false => simpa using ih
      | true => simpa [Phase.runAll, Phase.run, root] using ih
    | some type =>
      cases included : includes settings kind with
      | false => simpa [rootOperations, included] using ih
      | true =>
        simp [rootOperations, included, Phase.runAll, Phase.run, root, ← ih]

theorem entityOperations_eq_runAll : entityOperations settings traversal =
    Phase.runAll traversal selected (if settings.skipEntities then [] else [.entities]) := by
  cases skipped : settings.skipEntities with
  | true => simp [entityOperations, skipped, Phase.runAll]
  | false =>
    have same : entityOperations settings traversal = entityOperations .standard traversal := by
      simp only [entityOperations, skipped, Settings.standard]
      rfl
    simp [Phase.runAll, Phase.run, same]

theorem phases_eq (settings : Settings) : settings.phases =
    ([OperationKind.query, .mutation, .subscription].filter (includes settings)).map .operations ++
      if settings.skipEntities then [] else [.entities] := by
  have last : [Phase.entities].filter (·.isEnabled settings) =
      if settings.skipEntities then [] else [.entities] := by
    cases skipped : settings.skipEntities <;> simp [Phase.isEnabled, skipped]
  unfold Settings.phases Phase.all
  rw [List.filter_append, List.filter_map, last]
  rfl

/-- A run is made of the phases that its settings enable. -/
theorem run_eq_runAll : run settings schema selected =
    Phase.runAll ⟨schema, settings.maxDepth⟩ selected settings.phases := by
  rw [phases_eq, ← rootOperations_eq_runAll, ← entityOperations_eq_runAll]
  rfl

end Generation

/-! ### Outputs -/

namespace Output

/-- An output begins with what is in another, and has the same constants. -/
structure Begins (output whole : Output) : Prop where
  operations : output.operations <+: whole.operations
  projections : output.projections <+: whole.projections
  representations : output.representations <+: whole.representations
  constants : output.constants = whole.constants

theorem Begins.classNames_sublist {output whole : Output} (begins : output.Begins whole) :
    output.classNames.Sublist whole.classNames :=
  ((begins.projections.map _).sublist.append (begins.representations.map _).sublist).append
    (begins.operations.map _).sublist

end Output

namespace Generation

variable {settings settings' : Settings} {schema : Schema} {selected : Option SelectedRoots}

/-- What is generated without the last phases is what comes first with them. Leaving them out never
makes a generation fail. -/
theorem generate_begins (alike : settings.withPhases settings' = settings')
    (initial : settings.phases <+: settings'.phases) {whole : Output}
    (ok : generate settings' schema selected = .ok whole) :
    ∃ output, generate settings schema selected = .ok output ∧ output.Begins whole := by
  obtain ⟨kept, operations, representations, later, keeping, ran, rfl, free⟩ := generate_eq_ok.mp ok
  have depth : settings'.maxDepth = settings.maxDepth := (congrArg Settings.maxDepth alike).symm
  have short : settings'.shortNames = settings.shortNames := (congrArg Settings.shortNames alike).symm
  have keeping' : scope settings selected = .ok kept := by
    have only : settings'.definedOnly = settings.definedOnly :=
      (congrArg Settings.definedOnly alike).symm
    unfold scope at keeping ⊢
    rwa [only] at keeping
  obtain ⟨more, split⟩ := initial
  rw [run_eq_runAll, ← split, depth, short] at ran
  obtain ⟨firsts, middle, first, operations', representations', grows⟩ :=
    Phase.exists_of_runAll_append (Workspace.guarded_empty _) ran
  have begins : Output.Begins
      ⟨firsts.1, middle.forest.nodes, firsts.2, ConstantTable.ofSchema schema⟩
      ⟨operations, later.forest.nodes, representations, ConstantTable.ofSchema schema⟩ :=
    ⟨operations', grows.nodes_isPrefix, representations', rfl⟩
  obtain ⟨distinct, -⟩ := Output.nodup_of_repeatedName? free
  refine ⟨_, generate_eq_ok.mpr ⟨kept, firsts.1, firsts.2, middle, keeping', ?_, rfl, ?_⟩, begins⟩
  · rw [run_eq_runAll]
    exact first
  · exact Output.repeatedName?_eq_none (begins.classNames_sublist.nodup distinct) (by simp)

def queryOnlySettings : Settings :=
  { Settings.standard with mutations := false, subscriptions := false, skipEntities := true }

def phasedDocument : String :=
  "type Query \x7b show: Show \x7d
  type Mutation \x7b show: Show \x7d
  type Show @key(fields: \"title\") \x7b title: String next: Show \x7d"

theorem begins_phasedDocument : ∃ schema output whole,
    Schema.ofDocuments [phasedDocument] .standard = .ok schema ∧
      queryOnlySettings.withPhases .standard = .standard ∧
      queryOnlySettings.phases <+: Settings.standard.phases ∧
      generate .standard schema none = .ok whole ∧
      (∃ operation ∈ whole.operations, operation.kind = .mutation) ∧ whole.representations ≠ [] ∧
      generate queryOnlySettings schema none = .ok output ∧ output.operations ≠ [] ∧
      output.Begins whole := by
  obtain ⟨schema, whole, read, ok, holds⟩ := exists_generated phasedDocument
    (fun schema whole => whole.operations.any (·.kind == .mutation) &&
      (!whole.representations.isEmpty &&
      match generate queryOnlySettings schema none with
      | .ok output => !output.operations.isEmpty
      | .error _ => false)) (by decide +kernel)
  simp only [Bool.and_eq_true, List.any_eq_true, beq_iff_eq, Bool.not_eq_true',
    List.isEmpty_eq_false_iff] at holds
  obtain ⟨mutation, represented, holds⟩ := holds
  have alike : queryOnlySettings.withPhases .standard = .standard := rfl
  have initial : queryOnlySettings.phases <+: Settings.standard.phases := by decide
  obtain ⟨output, first, begins⟩ := generate_begins alike initial ok
  rw [first] at holds
  exact ⟨schema, output, whole, read, alike, initial, ok, mutation, represented, first,
    by simpa using holds, begins⟩

end Generation
end GraphQLProjections
