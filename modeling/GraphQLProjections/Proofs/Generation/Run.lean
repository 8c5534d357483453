import GraphQLProjections.Proofs.Generation.References
import GraphQLProjections.Proofs.Generation.Plan

/-! What a run does. It carries out its plan: its root projections are the planned ones in order,
each with its whole tree before the next, its operations are named at the planned paths, and the
only collision of names it can meet is that of two planned paths. -/
namespace GraphQLProjections

open Building Generation

variable {traversal : Traversal} {openings : List Opening} {others : List (List String × String)}
  {paths : List (List String)} {spots : List Spot} {workspace : Workspace}

/-- The state of a run between two root fields: the paths of its operations and the spots of its root
projections so far. Each root was planted when all before it was complete. -/
structure Standing (traversal : Traversal) (openings : List Opening)
    (others : List (List String × String)) (paths : List (List String)) (spots : List Spot)
    (workspace : Workspace) : Prop where
  complete : Complete traversal openings others workspace
  roots : (openings.filter (·.kind == .root)).map (·.toSpot) = spots
  operations : ∀ path, (path, NameSupply.querySuffix) ∈ others ↔ path ∈ paths
  settled : ∀ root ∈ openings, root.kind = .root → ∀ opening ∈ openings, opening.id < root.id →
    ∀ request ∈ traversal.requests opening.toSpot, ∃ target ∈ openings, target.id < root.id ∧
      target.path = request.path ∧ target.kind ≠ .root

theorem standing_empty (traversal : Traversal) (abbreviated : Bool) :
    Standing traversal [] [] [] [] (.empty abbreviated) :=
  ⟨⟨faithful_empty traversal abbreviated, by simp⟩, rfl, by simp, by simp⟩

namespace Standing

theorem mem_spots (standing : Standing traversal openings others paths spots workspace)
    {spot : Spot} : spot ∈ spots ↔ ∃ root ∈ openings, root.kind = .root ∧ root.toSpot = spot := by
  rw [← standing.roots]
  simp [and_assoc]

theorem nodup_paths (standing : Standing traversal openings others paths spots workspace) :
    (spots.map (·.path)).Nodup := by
  have complete := standing.complete
  rw [← standing.roots, List.map_map]
  apply (List.nodup_map_iff_inj_on (complete.nodup.filter _)).mpr
  intro root member other member' path
  obtain ⟨known, kind⟩ := List.mem_filter.mp member
  obtain ⟨known', kind'⟩ := List.mem_filter.mp member'
  exact complete.eq_of_place known known' path (iff_of_true (eq_of_beq kind) (eq_of_beq kind'))

theorem advanced (standing : Standing traversal openings others paths spots workspace)
    {later : Workspace} (advances : workspace.Advances later)
    (faithful : Faithful traversal openings others later) :
    Standing traversal openings others paths spots later :=
  ⟨⟨faithful, fun opening member => advances.filled (standing.complete.closed opening member)⟩,
    standing.roots, standing.operations, standing.settled⟩

theorem allocated (standing : Standing traversal openings others paths spots workspace)
    (path : List String) (suffix : String) :
    Standing traversal openings others paths spots
        { workspace with names := (workspace.names.allocate path suffix).2 } ∧
      workspace.Advances { workspace with names := (workspace.names.allocate path suffix).2 } := by
  have keeps := NameSupply.keeps_allocate workspace.names path suffix
  have advances : workspace.Advances
      { workspace with names := (workspace.names.allocate path suffix).2 } := .of_names keeps rfl
  exact ⟨standing.advanced advances (standing.complete.toFaithful.renamed keeps
    (standing.complete.consistent.allocate path suffix) (by simp)), advances⟩

theorem reserved_iff (standing : Standing traversal openings others paths spots workspace)
    {path : List String} (plain : IsPlainPath path) {name : String}
    (named : workspace.names.nameOf? path NameSupply.querySuffix = some name) :
    workspace.names.isReserved name = true ↔ path ∈ paths := by
  rw [← standing.operations]
  have consistent := standing.complete.consistent
  constructor
  · intro reserved
    rcases standing.complete.reserved name reserved with ⟨opening, member, rfl⟩ | ⟨key, member, held⟩
    · have plain' := (standing.complete.grounded opening member).path
      have named' := standing.complete.named opening member
      obtain ⟨-, suffix⟩ := consistent.nameOf?_injective plain' plain named' named
      exact absurd suffix (opening.suffix_ne (by decide) (by decide))
    · obtain ⟨plain', -⟩ := standing.complete.apart key member
      obtain ⟨path', suffix⟩ := consistent.nameOf?_injective plain' plain held named
      have same : key = (path, NameSupply.querySuffix) := Prod.ext path' suffix
      exact same ▸ member
  · intro member
    obtain ⟨-, -, -, other, held, reserved⟩ := standing.complete.apart _ member
    obtain rfl := Option.some.inj (named.symm.trans held)
    exact reserved

theorem root_reserved_iff (standing : Standing traversal openings others paths spots workspace)
    {path : List String} (plain : IsPlainPath path) {name : String}
    (named : workspace.names.nameOf? path NameSupply.rootSuffix = some name) :
    workspace.names.isReserved name = true ↔ ∃ spot ∈ spots, spot.path = path := by
  constructor
  · intro reserved
    obtain ⟨root, member, rfl, suffix, -⟩ :=
      standing.complete.opening_of_reserved plain (.inl rfl) named reserved
    have kind : root.kind = .root := by
      by_contra other
      rw [Faithful.suffix_eq_projectionSuffix.mpr other] at suffix
      exact absurd suffix (by decide)
    exact ⟨root.toSpot, standing.mem_spots.mpr ⟨root, member, kind, rfl⟩, rfl⟩
  · rintro ⟨spot, member, rfl⟩
    obtain ⟨root, inside, kind, rfl⟩ := standing.mem_spots.mp member
    have held := standing.complete.named root inside
    rw [show root.suffix = NameSupply.rootSuffix from if_pos kind] at held
    obtain rfl := Option.some.inj (named.symm.trans held)
    exact standing.complete.kept root inside

end Standing

/-- A path is taken if an operation is named at it. -/
theorem isTaken_ensures (standing : Standing traversal openings others paths spots workspace)
    (rooted : ∀ spot ∈ spots, spot.path ∈ paths) {path : List String} (plain : IsPlainPath path)
    {failed : Error → Workspace → Prop} :
    Ensures (isTaken path) workspace failed fun taken later =>
      (taken = true ↔ path ∈ paths) ∧
        Standing traversal openings others paths spots later ∧ workspace.Advances later := by
  obtain ⟨standing', advances⟩ := standing.allocated path NameSupply.rootSuffix
  obtain ⟨standing'', advances'⟩ := standing'.allocated path NameSupply.querySuffix
  unfold isTaken
  apply (allocate_ensures _ _).bind
  rintro _ _ ⟨rfl, rfl⟩
  apply (allocate_ensures _ _).bind
  rintro _ _ ⟨rfl, rfl⟩
  apply get_ensures.bind
  rintro _ _ ⟨rfl, rfl⟩
  refine .pure ⟨?_, standing'', advances.trans advances'⟩
  have rootNamed := advances'.names.nameOf?
    (NameSupply.nameOf?_allocate workspace.names path NameSupply.rootSuffix)
  have queryNamed := NameSupply.nameOf?_allocate
    (workspace.names.allocate path NameSupply.rootSuffix).2 path NameSupply.querySuffix
  rw [Bool.or_eq_true, standing''.root_reserved_iff plain rootNamed,
    standing''.reserved_iff plain queryNamed]
  constructor
  · rintro (⟨spot, member, rfl⟩ | member)
    · exact rooted spot member
    · exact member
  · exact .inr

/-- Reserving the name of an operation fails exactly at a path that has one. -/
theorem reserveNew_ensures (standing : Standing traversal openings others paths spots workspace)
    {path : List String} (plain : IsPlainPath path) :
    Ensures (reserveNew path NameSupply.querySuffix) workspace (fun _ _ => path ∈ paths)
      fun name later => path ∉ paths ∧
        Standing traversal openings ((path, NameSupply.querySuffix) :: others) (path :: paths) spots
          later ∧
        workspace.Advances later ∧
        later.names.nameOf? path NameSupply.querySuffix = some name := by
  obtain ⟨names, name, claimed, keeps, named, reserved, consistent⟩ :=
    workspace.names.claim_eq path NameSupply.querySuffix
  have faithful := standing.complete.toFaithful
  have advances : workspace.Advances { workspace with names } := .of_names keeps rfl
  unfold reserveNew
  apply (claim_ensures claimed).bind
  rintro _ _ ⟨rfl, rfl⟩
  cases old : workspace.names.isReserved name with
  | true =>
    have standing' := standing.advanced advances (faithful.renamed keeps
      (consistent faithful.consistent) (NameSupply.isReserved_of_old reserved old))
    exact .throw ((standing'.reserved_iff plain named).mp (keeps.reserved _ old))
  | false =>
    have faithful' := faithful.reservedOther keeps (consistent faithful.consistent) plain (by decide)
      (by decide) named reserved
    refine .pure ⟨fun member => ?_, ⟨⟨faithful', standing.complete.closed⟩, standing.roots, ?_,
      standing.settled⟩, advances, named⟩
    · obtain ⟨-, -, -, other, held, taken⟩ :=
        standing.complete.apart _ ((standing.operations path).mpr member)
      have same := Option.some.inj (named.symm.trans (keeps.nameOf? held))
      exact Bool.false_ne_true (old.symm.trans (same ▸ taken))
    · intro other
      simp [standing.operations]

/-- A planted root with its tree follows what there is. -/
theorem Standing.planted (standing : Standing traversal openings others paths spots workspace)
    (wellFormed : traversal.schema.WellFormed) {spot : Spot} (kind : spot.kind = .root)
    {later : Workspace}
    (planted : Planted traversal openings others workspace spot openings.length later) :
    ∃ name new, Standing traversal (openings ++ spot.planted openings.length name :: new) others
        paths (spots ++ [spot]) later ∧
      workspace.Advances later := by
  obtain ⟨name, new, -, faithful, advances, kinds, filled⟩ := planted
  have old {opening : Opening}
      (member : opening ∈ openings ++ spot.planted openings.length name :: new)
      (before : opening.id < openings.length) : opening ∈ openings := by
    have here := faithful.getElem?_id member
    rw [List.getElem?_append_left before] at here
    exact List.mem_of_getElem? here
  refine ⟨name, new, ⟨⟨faithful, ?_⟩, ?_, standing.operations, ?_⟩, advances⟩
  · refine List.forall_mem_append.mpr ⟨fun opening member => ?_, filled⟩
    exact advances.filled (standing.complete.closed opening member)
  · have none : new.filter (·.kind == .root) = [] :=
      List.filter_eq_nil_iff.mpr fun opening member => by simpa using kinds opening member
    rw [List.filter_append, List.map_append, standing.roots, List.filter_cons, none]
    simp [kind, Spot.planted]
  · intro root member isRoot opening inside before request requested
    rcases List.mem_append.mp member with member | member
    · have below := before.trans (standing.complete.id_lt member)
      obtain ⟨target, held, earlier, path, kind⟩ :=
        standing.settled root member isRoot opening (old inside below) before request requested
      exact ⟨target, List.mem_append_left _ held, earlier, path, kind⟩
    · rcases List.mem_cons.mp member with rfl | member
      · obtain ⟨target, held, path, kind, -⟩ :=
          standing.complete.target wellFormed (old inside before) requested
        exact ⟨target, List.mem_append_left _ held, standing.complete.id_lt held, path, kind⟩
      · exact absurd isRoot (kinds root member)

structure Describes (traversal : Traversal) (openings : List Opening) (workspace : Workspace)
    (planned : List String × RootField) (operation : OperationDescriptor) : Prop where
  kind : operation.kind = planned.2.kind
  field : operation.field = planned.2.field.name
  arguments : operation.arguments = planned.2.field.arguments
  name : workspace.names.nameOf? planned.1 NameSupply.querySuffix = some operation.name
  resolved : ∃ target, traversal.schema.target planned.2.field = .ok target
  leaf : traversal.schema.target planned.2.field = .ok .leaf → operation.projectionRoot = none
  composite : ∀ type, traversal.schema.target planned.2.field = .ok (.composite type) →
    ∃ root ∈ openings, root.toSpot = Traversal.rootSpot planned.1 type planned.2.filter ∧
      operation.projectionRoot = some root.name

theorem Describes.grown {planned : List String × RootField} {operation : OperationDescriptor}
    (describes : Describes traversal openings workspace planned operation) (new : List Opening)
    {later : Workspace} (advances : workspace.Advances later) :
    Describes traversal (openings ++ new) later planned operation :=
  { describes with
    name := advances.names.nameOf? describes.name
    composite := fun type leads => by
      obtain ⟨root, member, spot, named⟩ := describes.composite type leads
      exact ⟨root, List.mem_append_left _ member, spot, named⟩ }

theorem nameOfNode_ensures (id : Option NodeId) {failed : Error → Workspace → Prop} :
    Ensures (nameOfNode id) workspace failed fun name later =>
      name = (id.bind workspace.forest.node?).map (·.name) ∧ later = workspace :=
  ⟨rfl, rfl⟩

theorem rootPath_ensures (standing : Standing traversal openings others paths spots workspace)
    (rooted : ∀ spot ∈ spots, spot.path ∈ paths) (root : RootField) (plain : IsPlain root.field.name)
    {failed : Error → Workspace → Prop} :
    Ensures (rootPath root.kind root.field.name) workspace failed fun path later =>
      path = pathAfter paths root ∧ Standing traversal openings others paths spots later ∧
        workspace.Advances later := by
  unfold rootPath pathAfter
  split
  · exact .pure ⟨rfl, standing, .refl _⟩
  · apply (isTaken_ensures standing rooted (.singleton plain)).bind
    rintro taken later ⟨iff, standing', advances⟩
    cases taken with
    | true => exact .pure ⟨(if_pos (iff.mp rfl)).symm, standing', advances⟩
    | false =>
      have free : [root.field.name] ∉ paths := fun member => Bool.false_ne_true (iff.mpr member)
      exact .pure ⟨(if_neg free).symm, standing', advances⟩

theorem plain_text (kind : OperationKind) : IsPlain kind.text := by
  cases kind <;> decide

theorem plain_pathAfter (taken : List (List String)) {root : RootField}
    (plain : IsPlain root.field.name) : IsPlainPath (pathAfter taken root) := by
  rcases pathAfter_cases taken root with path | ⟨-, path⟩
  · exact path ▸ .singleton plain
  · exact path ▸ (IsPlainPath.singleton (plain_text root.kind)).append plain

/-- Besides projections, only operations have names. -/
def NamesOperations (others : List (List String × String)) : Prop :=
  ∀ key ∈ others, key.2 = NameSupply.querySuffix

def Continues (traversal : Traversal) (openings : List Opening) (paths : List (List String))
    (spots : List Spot) (workspace : Workspace) (roots : List RootField)
    (operations : List OperationDescriptor) (later : Workspace) : Prop :=
  Fresh paths roots ∧ ∃ new others', NamesOperations others' ∧
    Standing traversal (openings ++ new) others' (takenAfter paths roots)
      (spots ++ (planAfter paths roots).filterMap (spotOf traversal.schema)) later ∧
    workspace.Advances later ∧
    List.Forall₂ (Describes traversal (openings ++ new) later) (planAfter paths roots) operations

/-- A run fails by a collision of names only if two planned paths collide. -/
def FailsOtherwise (paths : List (List String)) (roots : List RootField) (fault : Error) : Prop :=
  IsOther fault ∨ ¬Fresh paths roots

/-- The operation of a root field is named after its projection has been planted. -/
theorem nameAfter_ensures {spots' : List Spot} {others' : List (List String × String)}
    {root : RootField} {path : List String} (plain : IsPlainPath path)
    (standing : Standing traversal openings others' paths spots' workspace) {id : Option NodeId}
    {target : FieldTarget} (leads : traversal.schema.target root.field = .ok target)
    (leaf : traversal.schema.target root.field = .ok .leaf → id = none)
    (composite : ∀ type, traversal.schema.target root.field = .ok (.composite type) →
      ∃ opening ∈ openings, opening.toSpot = Traversal.rootSpot path type root.filter ∧
        id = some opening.id) :
    Ensures (do
      let projectionRoot ← nameOfNode id
      let name ← reserveNew path NameSupply.querySuffix
      return (⟨name, root.kind, root.field.name, root.field.arguments, projectionRoot⟩ :
        OperationDescriptor)) workspace (fun _ _ => path ∈ paths) fun operation later =>
      path ∉ paths ∧ Standing traversal openings ((path, NameSupply.querySuffix) :: others')
          (path :: paths) spots' later ∧
        workspace.Advances later ∧ Describes traversal openings later (path, root) operation := by
  apply (nameOfNode_ensures id).bind
  rintro _ _ ⟨rfl, rfl⟩
  apply (reserveNew_ensures standing plain).bind
  rintro name later ⟨free, standing', advances, named⟩
  refine .pure ⟨free, standing', advances, rfl, rfl, rfl, named, ⟨target, leads⟩, fun leads => ?_,
    fun type leads => ?_⟩
  · simp [leaf leads]
  · obtain ⟨opening, member, spot, rfl⟩ := composite type leads
    refine ⟨opening, member, spot, ?_⟩
    simp only [Option.bind_some, standing.complete.node?_id member, Option.map_some]
    rfl

theorem rootOperation_ensures (wellFormed : traversal.schema.WellFormed)
    (standing : Standing traversal openings others paths spots workspace)
    (rooted : ∀ spot ∈ spots, spot.path ∈ paths) (names : NamesOperations others)
    {root : RootField} {owner : TypeDefinition} (known : owner ∈ traversal.schema.types)
    (declared : root.field ∈ owner.fields) :
    Ensures (rootOperation traversal root.kind root.filter root.field) workspace
      (fun fault _ => FailsOtherwise paths [root] fault) fun operation later =>
        Continues traversal openings paths spots workspace [root] [operation] later := by
  have plainName := wellFormed.plain_field known declared
  have plain := plain_pathAfter paths plainName
  have names' : NamesOperations ((pathAfter paths root, NameSupply.querySuffix) :: others) :=
    List.forall_mem_cons.mpr ⟨rfl, names⟩
  have taken : pathAfter paths root ∈ paths → ∀ fault, FailsOtherwise paths [root] fault :=
    fun member _ => .inr fun fresh => fresh.1 member
  unfold rootOperation
  apply (rootPath_ensures standing rooted root plainName).bind
  rintro _ middle ⟨rfl, standing', advances⟩
  refine ((rootAt_ensures wellFormed standing'.complete.toFaithful plain root.field
    root.filter).failing fun fault _ fails => .inl (fails.elim Schema.target_isOther
      fun ⟨_, _, fails⟩ => fails.traversalFault.isOther)).bind ?_
  rintro result later (⟨leads, rfl, rfl⟩ | ⟨type, leads, old | ⟨-, rfl, planted⟩⟩)
  · refine (nameAfter_ensures plain standing' leads (fun _ => rfl) (fun type composite => ?_)).mono
      (fun fault _ member => taken member fault) ?_
    · rw [leads] at composite
      cases composite
    · rintro operation last ⟨free, standing'', advances', describes⟩
      refine ⟨⟨free, trivial⟩, [], _, names', ?_, advances.trans advances', .cons ?_ .nil⟩
      · simpa [takenAfter, planAfter, spotOf, leads] using standing''
      · simpa using describes
  · obtain ⟨opening, member, path, kind, rfl, faithful, advances'⟩ := old
    -- A root stands at a path only if an operation is named there.
    have named := rooted _ (standing'.mem_spots.mpr ⟨opening, member, kind, rfl⟩)
    rw [path] at named
    apply (nameOfNode_ensures _).bind
    rintro _ _ ⟨rfl, rfl⟩
    refine ((reserveNew_ensures (standing'.advanced advances' faithful) plain).failing
      fun fault _ member => taken member fault).bind ?_
    exact fun name last found => absurd named found.1
  · obtain ⟨name, new, standing'', advances'⟩ := standing'.planted wellFormed rfl planted
    refine (nameAfter_ensures plain standing'' leads (fun leaf => ?_) (fun other composite => ?_)).mono
      (fun fault _ member => taken member fault) ?_
    · rw [leads] at leaf
      cases leaf
    · rw [leads] at composite
      obtain rfl := FieldTarget.composite.inj (Except.ok.inj composite)
      exact ⟨_, List.mem_append_right _ List.mem_cons_self, rfl, rfl⟩
    · rintro operation last ⟨free, standing''', advances'', describes⟩
      refine ⟨⟨free, trivial⟩, _, _, names', ?_, (advances.trans advances').trans advances'',
        .cons describes .nil⟩
      simpa [takenAfter, planAfter, spotOf, leads] using standing'''

/-- A step carries out the plan for some root fields, from any state of a run. -/
def Performs {α : Type} (traversal : Traversal) (roots : List RootField) (step : Building α)
    (operations : α → List OperationDescriptor) : Prop :=
  ∀ openings others paths spots workspace,
    Standing traversal openings others paths spots workspace →
    (∀ spot ∈ spots, spot.path ∈ paths) → NamesOperations others →
    Ensures step workspace (fun fault _ => FailsOtherwise paths roots fault) fun value later =>
      Continues traversal openings paths spots workspace roots (operations value) later

/-- The path of a planned root projection is that of an operation. -/
theorem rooted_after (rooted : ∀ spot ∈ spots, spot.path ∈ paths) (schema : Schema)
    (roots : List RootField) :
    ∀ spot ∈ spots ++ (planAfter paths roots).filterMap (spotOf schema),
      spot.path ∈ takenAfter paths roots := by
  intro spot member
  rw [mem_takenAfter]
  rcases List.mem_append.mp member with member | member
  · exact .inl (rooted spot member)
  · obtain ⟨⟨path, root⟩, planned, leads⟩ := List.mem_filterMap.mp member
    obtain ⟨type, -, rfl⟩ := spotOf_eq_some.mp leads
    exact .inr ⟨root, planned⟩

namespace Performs

variable {α β γ : Type} {roots more : List RootField}

theorem pure {value : α} {operations : α → List OperationDescriptor} (none : operations value = []) :
    Performs traversal [] (pure value) operations := by
  intro openings others paths spots workspace standing rooted names
  refine Ensures.pure ⟨trivial, [], others, names, ?_, .refl _, ?_⟩
  · simpa [takenAfter, planAfter] using standing
  · simpa only [none, planAfter] using List.Forall₂.nil

theorem seq {step : Building α} {next : Building β} {combine : α → β → γ}
    {operations : α → List OperationDescriptor} {operations' : β → List OperationDescriptor}
    {combined : γ → List OperationDescriptor} (first : Performs traversal roots step operations)
    (second : Performs traversal more next operations')
    (same : ∀ value other, combined (combine value other) = operations value ++ operations' other) :
    Performs traversal (roots ++ more)
      (do let value ← step; let other ← next; return combine value other) combined := by
  intro openings others paths spots workspace standing rooted names
  refine ((first _ _ _ _ _ standing rooted names).failing ?_).bind ?_
  · rintro fault _ (other | stale)
    · exact .inl other
    · exact .inr fun fresh => stale ((fresh_append _ _ _).mp fresh).1
  · rintro value middle ⟨fresh, new, others', names', standing', advances, describe⟩
    refine ((second _ _ _ _ _ standing' (rooted_after rooted _ roots) names').failing ?_).bind ?_
    · rintro fault _ (other | stale)
      · exact .inl other
      · exact .inr fun fresh => stale ((fresh_append _ _ _).mp fresh).2
    · rintro other later ⟨fresh', new', others'', names'', standing'', advances', describe'⟩
      refine .pure ⟨(fresh_append _ _ _).mpr ⟨fresh, fresh'⟩, new ++ new', others'', names'', ?_,
        advances.trans advances', ?_⟩
      · rw [takenAfter_append, planAfter_append, List.filterMap_append, ← List.append_assoc,
          ← List.append_assoc]
        exact standing''
      · rw [planAfter_append, same, ← List.append_assoc]
        refine List.rel_append ?_ describe'
        exact describe.imp fun _ _ describes => describes.grown new' advances'

theorem guarded {check : Building Unit} {step : Building α}
    {operations : α → List OperationDescriptor} (performs : Performs traversal roots step operations)
    (checks : ∀ workspace, Ensures check workspace (fun fault _ => IsOther fault) fun _ later =>
      later = workspace) :
    Performs traversal roots (do check; step) operations := by
  intro openings others paths spots workspace standing rooted names
  apply ((checks workspace).failing fun fault _ other => .inl other).bind
  rintro _ _ rfl
  exact performs _ _ _ _ _ standing rooted names

end Performs

theorem unknownRoot?_eq_none {selected : SelectedRoots} {kind : OperationKind}
    {type : TypeDefinition} : unknownRoot? selected kind type = none ↔
      ∀ name ∈ selected.rootFields kind, ∃ field ∈ type.fields, field.name = name := by
  simp [unknownRoot?, List.find?_eq_none]

theorem of_unknownRoot? {selected : SelectedRoots} {kind : OperationKind} {type : TypeDefinition}
    {name : String} (unknown : unknownRoot? selected kind type = some name) :
    name ∈ selected.rootFields kind ∧ ∀ field ∈ type.fields, field.name ≠ name := by
  have lacks := List.find?_some unknown
  exact ⟨List.mem_of_find?_eq_some unknown, by simpa using lacks⟩

theorem checkRoots_ensures (selected : Option SelectedRoots) (kind : OperationKind)
    (type : TypeDefinition) (workspace : Workspace) :
    Ensures (checkRoots selected kind type) workspace (fun fault _ => IsOther fault) fun _ later =>
      later = workspace := by
  unfold checkRoots
  split
  · apply Ensures.throw
    intro name same
    cases same
  · exact .pure rfl

/-- The operations of the fields of a root type. -/
theorem gather_performs (wellFormed : traversal.schema.WellFormed) (selected : Option SelectedRoots)
    (kind : OperationKind) {type : TypeDefinition} (known : type ∈ traversal.schema.types)
    {fields : List FieldDefinition} (declared : ∀ field ∈ fields, field ∈ type.fields) :
    Performs traversal (fields.filterMap (rootFieldOf selected kind))
      (gather
        (fun field => do
          match selected with
          | none => return some (← rootOperation traversal kind none field)
          | some selected =>
            match selected.filter? kind field.name with
            | none => return none
            | some filter => return some (← rootOperation traversal kind (some filter) field))
        fields) id := by
  have operation (root : RootField) (inside : root.field ∈ type.fields) :
      Performs traversal [root]
        (do return some (← rootOperation traversal root.kind root.filter root.field))
        Option.toList := by
    intro openings others paths spots workspace standing rooted names
    exact (rootOperation_ensures wellFormed standing rooted names known inside).bind
      fun operation later continues => .pure continues
  induction fields with
  | nil => exact .pure rfl
  | cons field rest ih =>
    have first : Performs traversal (rootFieldOf selected kind field).toList
        (match selected with
          | none => do return some (← rootOperation traversal kind none field)
          | some selected =>
            match selected.filter? kind field.name with
            | none => do return none
            | some filter => do return some (← rootOperation traversal kind (some filter) field))
        Option.toList := by
      have inside := declared field List.mem_cons_self
      cases selected with
      | none => exact operation ⟨kind, field, none⟩ inside
      | some selected =>
        cases found : selected.filter? kind field.name with
        | none => simpa [rootFieldOf, found] using Performs.pure rfl
        | some filter =>
          simpa [rootFieldOf, found] using operation ⟨kind, field, some filter⟩ inside
    have split : (field :: rest).filterMap (rootFieldOf selected kind) =
        (rootFieldOf selected kind field).toList ++ rest.filterMap (rootFieldOf selected kind) := by
      cases found : rootFieldOf selected kind field <;> simp [found]
    rw [split]
    exact first.seq (ih fun other member => declared other (List.mem_cons_of_mem _ member))
      fun _ _ => rfl

theorem rootOperations_performs (wellFormed : traversal.schema.WellFormed) (settings : Settings)
    (selected : Option SelectedRoots) {types : List (OperationKind × TypeDefinition)}
    (known : ∀ entry ∈ types, entry.2 ∈ traversal.schema.types) :
    Performs traversal (rootFieldsOf settings selected types)
      (rootOperations settings traversal selected types) id := by
  induction types with
  | nil => exact .pure rfl
  | cons entry rest ih =>
    obtain ⟨kind, type⟩ := entry
    have others := ih fun entry member => known entry (List.mem_cons_of_mem _ member)
    unfold rootOperations rootFieldsOf
    split
    · have first := (gather_performs wellFormed selected kind (known _ List.mem_cons_self)
        fun _ => id).guarded (checkRoots_ensures selected kind type)
      exact first.seq others fun _ _ => rfl
    · exact others

/-! ### Entities -/

/-- Representations are named by their types, and no type has two. -/
structure RepresentationsNamed (workspace : Workspace) (representations : List Representation) :
    Prop where
  named : ∀ representation ∈ representations,
    workspace.names.nameOf? [representation.type] NameSupply.representationSuffix =
      some representation.name
  plain : ∀ representation ∈ representations, IsPlain representation.type
  distinct : (representations.map (·.type)).Nodup

theorem RepresentationsNamed.grown {representations : List Representation}
    (named : RepresentationsNamed workspace representations) {later : Workspace}
    (advances : workspace.Advances later) : RepresentationsNamed later representations :=
  { named with
    named := fun representation member => advances.names.nameOf? (named.named representation member) }

def NamedAt (workspace : Workspace) (path : List String) (operation : OperationDescriptor) : Prop :=
  workspace.names.nameOf? path NameSupply.querySuffix = some operation.name

structure DescribesLookUp (openings : List Opening) (workspace : Workspace) (spot : Spot)
    (operation : OperationDescriptor) : Prop where
  kind : operation.kind = .query
  field : operation.field = entitiesField
  named : NamedAt workspace spot.path operation
  root : ∃ root ∈ openings, root.toSpot = spot ∧ operation.projectionRoot = some root.name

def LooksUp (traversal : Traversal) (openings : List Opening) (spots : List Spot)
    (workspace : Workspace) (spot : Option Spot) (operations : List OperationDescriptor)
    (representations : List Representation) (later : Workspace) : Prop :=
  ∃ new others paths, Standing traversal (openings ++ new) others paths (spots ++ spot.toList) later ∧
    workspace.Advances later ∧
    List.Forall₂ (DescribesLookUp (openings ++ new) later) spot.toList operations ∧
    RepresentationsNamed later representations ∧
    RepresentationsJoined traversal.schema traversal.schema.entities representations ∧
    (spot.isSome →
      RepresentationsFollow traversal.schema traversal.schema.entities representations)

theorem entitiesPath_ensures (standing : Standing traversal openings others paths spots workspace)
    (rooted : ∀ spot ∈ spots, spot.path ∈ paths) {failed : Error → Workspace → Prop} :
    Ensures entitiesPath workspace failed fun path later =>
      path = entitiesPathAfter paths ∧ Standing traversal openings others paths spots later ∧
        workspace.Advances later := by
  have plain : IsPlainPath [Traversal.entitiesSegment] := .singleton (by decide)
  apply (isTaken_ensures standing rooted plain).bind
  rintro taken later ⟨iff, standing', advances⟩
  cases taken with
  | true => exact .pure ⟨(if_pos (iff.mp rfl)).symm, standing', advances⟩
  | false =>
    have free : [Traversal.entitiesSegment] ∉ paths :=
      fun member => Bool.false_ne_true (iff.mpr member)
    exact .pure ⟨(if_neg free).symm, standing', advances⟩

theorem mem_types_of_entities {schema : Schema} {entity : TypeDefinition}
    (member : entity ∈ schema.entities) : entity ∈ schema.types :=
  (List.mem_filter.mp member).1

theorem plain_entitiesPathAfter (paths : List (List String)) :
    IsPlainPath (entitiesPathAfter paths) := by
  unfold entitiesPathAfter
  split
  · exact (IsPlainPath.singleton (by decide)).append (by decide)
  · exact .singleton (by decide)

/-- Naming representations leaves the operations as they are. -/
theorem Standing.represented (standing : Standing traversal openings others paths spots workspace)
    {later : Workspace} (advances : workspace.Advances later) {representations : List Representation}
    (faithful : Faithful traversal openings
      (representations.map (fun representation => Representation.key representation.type) ++ others)
      later) :
    Standing traversal openings
      (representations.map (fun representation => Representation.key representation.type) ++ others)
      paths spots later := by
  refine ⟨⟨faithful, fun opening member =>
    advances.filled (standing.complete.closed opening member)⟩, standing.roots, fun path => ?_,
    standing.settled⟩
  rw [List.mem_append, standing.operations]
  apply or_iff_right
  intro member
  obtain ⟨representation, -, same⟩ := List.mem_map.mp member
  have suffix : NameSupply.representationSuffix = NameSupply.querySuffix := congrArg Prod.snd same
  exact absurd suffix (by decide)

theorem entityOperations_ensures (wellFormed : traversal.schema.WellFormed) (settings : Settings)
    (standing : Standing traversal openings others paths spots workspace)
    (rooted : ∀ spot ∈ spots, spot.path ∈ paths) (names : NamesOperations others)
    (free : entitiesPathAfter paths ∉ paths) :
    Ensures (entityOperations settings traversal) workspace (fun fault _ => IsOther fault)
      fun result later => LooksUp traversal openings spots workspace
        (if looksUp settings traversal.schema then
          some (Traversal.entitiesSpot (entitiesPathAfter paths) traversal.schema.entities)
        else none) result.1 result.2 later := by
  have plain := plain_entitiesPathAfter paths
  have known : ∀ entity ∈ traversal.schema.entities, entity ∈ traversal.schema.types :=
    fun entity => mem_types_of_entities
  unfold entityOperations
  dsimp only
  cases skips : settings.skipEntities || traversal.schema.entities.isEmpty with
  | true =>
    have skipped : looksUp settings traversal.schema = false := by simp [looksUp, skips]
    refine .pure ⟨[], others, paths, ?_, .refl _, ?_, ⟨by simp, by simp, by simp⟩, .nil, ?_⟩
    · simpa [skipped] using standing
    · simp [skipped]
    · simp [skipped]
  | false =>
    have asked : looksUp settings traversal.schema = true := by simp [looksUp, skips]
    have present : traversal.schema.entities ≠ [] := by
      rintro none
      simp [none] at skips
    rw [asked]
    apply (entitiesPath_ensures standing rooted).bind
    rintro _ second ⟨rfl, standing', advances⟩
    have unrooted : ∀ root ∈ openings, root.kind = .root → root.path ≠ entitiesPathAfter paths := by
      intro root member kind path
      exact free (path ▸ rooted _ (standing'.mem_spots.mpr ⟨root, member, kind, rfl⟩))
    refine ((entitiesAt_ensures wellFormed standing'.complete.toFaithful plain known present
      unrooted).failing fun fault _ fails => fails.traversalFault.isOther).bind ?_
    rintro _ third ⟨rfl, planted⟩
    obtain ⟨name, new, standing'', advances'⟩ := standing'.planted wellFormed rfl planted
    have held := standing''.complete.node?_id (List.mem_append_right _ List.mem_cons_self)
    apply (nameOfNode_ensures _).bind
    rintro _ _ ⟨rfl, rfl⟩
    have apart : ∀ key ∈ others, key.2 ≠ NameSupply.representationSuffix := fun key member same =>
      absurd ((names key member).symm.trans same) (by decide)
    have faithful := standing''.complete.toFaithful
    have follows := entityRepresentations_follow wellFormed faithful apart known
    have joins := entityRepresentations_join wellFormed faithful apart known
    refine (((entityRepresentations_ensures wellFormed faithful known).and
      (joins.and follows)).failing fun _ _ fails => fails.1).bind ?_
    rintro representations fourth ⟨⟨forest, keeps, faithful, named, distinct⟩, join, follow⟩
    have advances'' : Workspace.Advances _ fourth := .of_names keeps forest
    have keyed (representation : Representation) (member : representation ∈ representations) :=
      (faithful.apart (Representation.key representation.type) (List.mem_append_left _
        (List.mem_map.mpr ⟨representation, member, rfl⟩))).1
    have standing''' := standing''.represented advances'' faithful
    apply ((reserveNew_ensures standing''' plain).failing
      fun _ _ member => absurd member free).bind
    rintro name last ⟨-, standing'''', advances''', named'⟩
    have reps : RepresentationsNamed fourth representations :=
      ⟨named, fun representation member => (keyed representation member).2 _ List.mem_cons_self,
        distinct⟩
    exact .pure ⟨_, _, _, standing'''',
      ((advances.trans advances').trans advances'').trans advances''',
      .cons ⟨rfl, rfl, named', _, List.mem_append_right _ List.mem_cons_self, rfl,
        congrArg (Option.map (·.name)) held⟩ .nil,
      reps.grown advances''', join, fun _ => follow⟩

/-! ### Whole runs -/

def operationPaths (settings : Settings) (schema : Schema) (selected : Option SelectedRoots) :
    List (List String) :=
  (plan settings schema selected).map (·.1) ++
    (entitiesSpot? settings schema selected).toList.map (·.path)

/-- What a run has done when it ends. -/
structure Carried (settings : Settings) (schema : Schema) (selected : Option SelectedRoots)
    (openings : List Opening) (operations : List OperationDescriptor)
    (representations : List Representation) (workspace : Workspace) : Prop where
  fresh : Fresh [] (rootFields settings schema selected)
  standing : ∃ others paths, Standing ⟨schema, settings.maxDepth⟩ openings others paths
    (plannedSpots settings schema selected) workspace
  described : ∃ firsts last, operations = firsts ++ last ∧
    List.Forall₂ (Describes ⟨schema, settings.maxDepth⟩ openings workspace)
      (plan settings schema selected) firsts ∧
    List.Forall₂ (DescribesLookUp openings workspace)
      (entitiesSpot? settings schema selected).toList last
  named : List.Forall₂ (NamedAt workspace) (operationPaths settings schema selected) operations
  join : RepresentationsJoined schema schema.entities representations
  follow : looksUp settings schema = true →
    RepresentationsFollow schema schema.entities representations
  representations : RepresentationsNamed workspace representations

theorem run_ensures {settings : Settings} {schema : Schema} (wellFormed : schema.WellFormed)
    {selected : Option SelectedRoots} :
    Ensures (run settings schema (keptRoots settings selected)) (.empty settings.shortNames)
      (fun fault _ => FailsOtherwise [] (rootFields settings schema selected) fault)
      fun result later => ∃ openings,
        Carried settings schema selected openings result.1 result.2 later := by
  have known : ∀ entry ∈ schema.rootTypes, entry.2 ∈ schema.types :=
    fun entry member => mem_types_of_rootTypes member
  unfold run
  let traversal : Traversal := ⟨schema, settings.maxDepth⟩
  have performs : Performs traversal _ _ id :=
    rootOperations_performs wellFormed settings (keptRoots settings selected) known
  have noNames : NamesOperations [] := List.forall_mem_nil _
  apply (performs [] [] [] [] _ (standing_empty _ settings.shortNames) (by simp) noNames).bind
  rintro firsts middle ⟨fresh, new, others', names, standing, advances, describe⟩
  have free := entitiesPathAfter_notMem (rootFields settings schema selected)
  refine ((entityOperations_ensures wellFormed settings standing
    (rooted_after (by simp) _ _) names free).failing fun _ _ other => .inl other).bind ?_
  rintro ⟨last, representations⟩ later
    ⟨new', others'', paths', standing', advances', lookUp, reps, join, follow⟩
  have described := describe.imp fun _ _ describes => describes.grown new' advances'
  refine .pure ⟨new ++ new', fresh, ⟨others'', paths', standing'⟩,
    ⟨firsts, last, rfl, described, lookUp⟩, List.rel_append ?_ ?_, join,
    fun asked => follow (Option.isSome_iff_exists.mpr ⟨_, if_pos asked⟩), reps⟩
  · rw [List.forall₂_map_left_iff]
    exact described.imp fun _ _ describes => describes.name
  · rw [List.forall₂_map_left_iff]
    exact lookUp.imp fun _ _ describes => describes.named

theorem scope_eq {settings : Settings} {selected kept : Option SelectedRoots}
    (keeping : scope settings selected = .ok kept) : kept = keptRoots settings selected := by
  unfold scope at keeping
  unfold keptRoots
  split at keeping
  next only =>
    rw [if_pos only]
    cases selected with
    | none => cases keeping
    | some selected => exact (Except.ok.inj keeping).symm
  next only =>
    rw [if_neg only]
    exact (Except.ok.inj keeping).symm

/-- Generation succeeds with what its run gives, if the run succeeds and no name occurs twice. -/
theorem generate_eq_ok {settings : Settings} {schema : Schema} {selected : Option SelectedRoots}
    {output : Output} : generate settings schema selected = .ok output ↔
      ∃ kept operations representations workspace, scope settings selected = .ok kept ∧
        (run settings schema kept).outcome (.empty settings.shortNames) =
          (.ok (operations, representations), workspace) ∧
        output = ⟨operations, workspace.forest.nodes, representations,
          ConstantTable.ofSchema schema⟩ ∧
        Output.repeatedName? ∅ output.classNames = none := by
  unfold generate
  cases keeping : scope settings selected with
  | error fault => simp [bind, Except.bind]
  | ok kept =>
    rcases ran : (run settings schema kept).outcome (.empty settings.shortNames) with
      ⟨result, workspace⟩
    cases result with
    | error fault => simp [ran, bind, Except.bind]
    | ok produced =>
      obtain ⟨operations, representations⟩ := produced
      simp only [ran, bind, Except.bind, Except.ok.injEq]
      constructor
      · intro ok
        split at ok
        · cases ok
        next free =>
          obtain rfl := Except.ok.inj ok
          exact ⟨_, _, _, _, rfl, ran, rfl, free⟩
      · rintro ⟨_, _, _, _, rfl, ran', rfl, free⟩
        obtain ⟨⟨⟨rfl, rfl⟩⟩, rfl⟩ := Prod.mk.inj (ran.symm.trans ran')
        rw [free]
        rfl

/-- What generation has done when it succeeds. -/
theorem carried_of_generate {settings : Settings} {schema : Schema} (wellFormed : schema.WellFormed)
    {selected : Option SelectedRoots} {output : Output}
    (ok : generate settings schema selected = .ok output) :
    ∃ openings workspace, Carried settings schema selected openings output.operations
        output.representations workspace ∧
      output.projections = openings.map
        (Traversal.render ⟨schema, settings.maxDepth⟩ workspace.linkAt) := by
  obtain ⟨kept, operations, representations, workspace, keeping, ran, rfl, -⟩ :=
    generate_eq_ok.mp ok
  obtain rfl := scope_eq keeping
  obtain ⟨openings, carried⟩ := (run_ensures wellFormed).of_ok ran
  obtain ⟨_, _, standing⟩ := carried.standing
  exact ⟨openings, workspace, carried, standing.complete.nodes_eq⟩

end GraphQLProjections
