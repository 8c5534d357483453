import GraphQLProjections.Proofs.Projection.Population

/-! Root projections. A root is planted at a path that has none, with its whole tree after it. -/
namespace GraphQLProjections

open Building

def Traversal.rootSpot (path : List String) (type : TypeDefinition) (filter : Option Filter) :
    Spot :=
  ⟨.root, 0, path, .type type [] filter⟩

def Traversal.entitiesSpot (path : List String) (entities : List TypeDefinition) : Spot :=
  ⟨.root, 0, path, .entities entities⟩

def Spot.planted (spot : Spot) (id : NodeId) (name : String) : Opening :=
  { spot with id, name, parent := none, root := id }

variable {traversal : Traversal} {openings : List Opening} {others : List (List String × String)}
  {workspace : Workspace}

/-- The history goes on with a root and the projections below it, all of them filled. -/
def Planted (traversal : Traversal) (openings : List Opening) (others : List (List String × String))
    (workspace : Workspace) (spot : Spot) (id : NodeId) (later : Workspace) : Prop :=
  ∃ name new, id = openings.length ∧
    Faithful traversal (openings ++ spot.planted id name :: new) others later ∧
    workspace.Advances later ∧ (∀ opening ∈ new, opening.kind ≠ .root) ∧
    ∀ opening ∈ spot.planted id name :: new, (later.forest.node? opening.id).isSome

/-- A step that fails below a root leaves a faithful history, part of which it fails for. -/
def FailsFaithfully (traversal : Traversal) (openings : List Opening)
    (others : List (List String × String)) (workspace : Workspace) (spot : Spot) (fault : Error)
    (later : Workspace) : Prop :=
  ∃ name new, Faithful traversal (openings ++ spot.planted openings.length name :: new) others later ∧
    workspace.Advances later ∧ (∀ opening ∈ new, opening.kind ≠ .root) ∧
    Blamed traversal (openings ++ spot.planted openings.length name :: new) fault

theorem FailsFaithfully.traversalFault {spot : Spot} {fault : Error} {later : Workspace}
    (fails : FailsFaithfully traversal openings others workspace spot fault later) :
    TraversalFault traversal.schema fault := by
  obtain ⟨name, new, faithful, -, -, blamed⟩ := fails
  exact blamed.traversalFault faithful

/-- Claiming the path of a root: it has one, or a new one can be opened. -/
theorem claim_root (faithful : Faithful traversal openings others workspace) {spot : Spot}
    (grounded : spot.Grounded traversal.schema) (kind : spot.kind = .root)
    (trail : spot.purpose.trail = []) :
    ∃ names name, workspace.names.claim spot.path NameSupply.rootSuffix =
        ((name, !workspace.names.isReserved name), names) ∧
      (workspace.names.isReserved name = true →
        Faithful traversal openings others { workspace with names } ∧
        workspace.Advances { workspace with names } ∧
        ∃ root ∈ openings, root.path = spot.path ∧ root.kind = .root ∧ root.name = name) ∧
      (workspace.names.isReserved name = false →
        Faithful traversal (openings ++ [spot.planted openings.length name]) others
          ⟨names, workspace.forest.opened name⟩ ∧
        workspace.Advances ⟨names, workspace.forest.opened name⟩ ∧
        ∀ root ∈ openings, root.kind = .root → root.path ≠ spot.path) := by
  obtain ⟨names, name, claimed, keeps, named, reserved, consistent⟩ :=
    workspace.names.claim_eq spot.path NameSupply.rootSuffix
  have suffix {other : Spot} (kind : other.kind = .root) : other.suffix = NameSupply.rootSuffix :=
    if_pos kind
  refine ⟨names, name, claimed, ?_, ?_⟩
  · intro old
    have faithful' : Faithful traversal openings others { workspace with names } :=
      faithful.renamed keeps (consistent faithful.consistent)
        (NameSupply.isReserved_of_old reserved old)
    obtain ⟨root, member, path, isRoot, named'⟩ := faithful'.opening_of_reserved grounded.path
      (.inl rfl) named (keeps.reserved _ old)
    refine ⟨faithful', .of_names keeps rfl, root, member, path, ?_, named'⟩
    by_contra other
    rw [Faithful.suffix_eq_projectionSuffix.mpr other] at isRoot
    exact absurd isRoot (by decide)
  · intro isNew
    refine ⟨?_, faithful.advances_opened keeps isNew, ?_⟩
    · refine faithful.opened keeps (consistent faithful.consistent) isNew ?_ reserved
        faithful.size.symm grounded (.root kind rfl rfl trail)
      rw [show (spot.planted openings.length name).suffix = _ from suffix kind]
      exact named
    · rintro root member isRoot path
      have held := faithful.named root member
      rw [suffix isRoot, path] at held
      have same := Option.some.inj (named.symm.trans (keeps.nameOf? held))
      have taken := faithful.kept root member
      rw [← same, isNew] at taken
      exact Bool.false_ne_true taken

/-- What a step does below a root that was just opened. -/
theorem plant {spot : Spot} {opened : Workspace} {name : String}
    (advances : workspace.Advances opened) {step : Building (Option NodeId)}
    (fills : Builds traversal (openings ++ [spot.planted openings.length name]) others opened step
      fun result later =>
        (later.forest.node? openings.length).isSome ∧ result = some openings.length) :
    Ensures step opened (FailsFaithfully traversal openings others workspace spot)
      fun result later => result = some openings.length ∧
        Planted traversal openings others workspace spot openings.length later := by
  refine Ensures.mono fills ?_ ?_
  · rintro fault later ⟨new, faithful, advances', kinds, blamed⟩
    exact ⟨name, new, by simpa using faithful, advances.trans advances', kinds,
      by simpa using blamed⟩
  · rintro value later ⟨new, faithful, advances', kinds, filled, root, holds⟩
    exact ⟨holds, name, new, rfl, by simpa using faithful, advances.trans advances', kinds,
      List.forall_mem_cons.mpr ⟨root, filled⟩⟩

/-- The projection of a root field: none for a leaf, else the one at the path or a new one. -/
theorem rootAt_ensures (wellFormed : traversal.schema.WellFormed)
    (faithful : Faithful traversal openings others workspace) {path : List String}
    (plain : IsPlainPath path) (field : FieldDefinition) (filter : Option Filter) :
    Ensures (traversal.rootAt path field filter) workspace
      (fun fault later => traversal.schema.target field = .error fault ∨
        ∃ type, traversal.schema.target field = .ok (.composite type) ∧
          FailsFaithfully traversal openings others workspace
            (Traversal.rootSpot path type filter) fault later)
      fun result later =>
        traversal.schema.target field = .ok .leaf ∧ result = none ∧ later = workspace ∨
        ∃ type, traversal.schema.target field = .ok (.composite type) ∧
          ((∃ root ∈ openings, root.path = path ∧ root.kind = .root ∧ result = some root.id ∧
              Faithful traversal openings others later ∧ workspace.Advances later) ∨
            (∀ root ∈ openings, root.kind = .root → root.path ≠ path) ∧
              result = some openings.length ∧
              Planted traversal openings others workspace (Traversal.rootSpot path type filter)
                openings.length later) := by
  unfold Traversal.rootAt
  refine Ensures.bind (ofExcept_ensures fun fault unresolved => .inl unresolved) ?_
  rintro target workspace ⟨leads, rfl⟩
  cases target with
  | leaf => exact .pure (.inl ⟨leads, rfl, rfl⟩)
  | composite type =>
    have grounded : (Traversal.rootSpot path type filter).Grounded traversal.schema :=
      ⟨plain, by simp [Traversal.rootSpot, Purpose.trail], Schema.mem_types_of_target leads⟩
    obtain ⟨names, name, claimed, ifOld, ifNew⟩ := claim_root faithful grounded rfl rfl
    apply Ensures.bind (claim_ensures claimed)
    rintro _ _ ⟨rfl, rfl⟩
    cases old : workspace.names.isReserved name with
    | true =>
      obtain ⟨faithful', advances, root, member, place, kind, rfl⟩ := ifOld old
      refine (linkTo_ensures (faithful'.id?_name member)).bind ?_
      rintro _ _ ⟨rfl, rfl⟩
      exact .pure (.inr ⟨type, leads, .inl ⟨root, member, place, kind, rfl, faithful', advances⟩⟩)
    | false =>
      obtain ⟨faithful', advances, unrooted⟩ := ifNew old
      apply (openNode_ensures name).bind
      rintro _ _ ⟨rfl, rfl⟩
      rw [show Forest.size _ = openings.length from faithful.size]
      have descends := populate_descends wellFormed (traversal.levels filter) _ others _
        ((Traversal.rootSpot path type filter).planted openings.length name) type [] filter
        faithful' (by simp) rfl
      refine (plant advances (descends.bind fun _ new later faithful'' _ filled =>
        Builds.pure faithful'' ⟨filled, rfl⟩)).mono ?_ ?_
      · exact fun fault later fails => .inr ⟨type, leads, fails⟩
      · rintro _ later ⟨rfl, planted⟩
        exact .inr ⟨type, leads, .inr ⟨unrooted, rfl, planted⟩⟩

/-- The look-up of entities: nothing without entities, else a new root at a path that has none. -/
theorem entitiesAt_ensures (wellFormed : traversal.schema.WellFormed)
    (faithful : Faithful traversal openings others workspace) {path : List String}
    (plain : IsPlainPath path) {entities : List TypeDefinition}
    (known : ∀ entity ∈ entities, entity ∈ traversal.schema.types) (present : entities ≠ [])
    (unrooted : ∀ root ∈ openings, root.kind = .root → root.path ≠ path) :
    Ensures (traversal.entitiesAt path entities) workspace
      (FailsFaithfully traversal openings others workspace (Traversal.entitiesSpot path entities))
      fun result later => result = some openings.length ∧
          Planted traversal openings others workspace (Traversal.entitiesSpot path entities)
            openings.length later := by
  have listed : entities.isEmpty = false := by simpa using present
  have grounded : (Traversal.entitiesSpot path entities).Grounded traversal.schema :=
    ⟨plain, by simp [Traversal.entitiesSpot, Purpose.trail], known⟩
  obtain ⟨names, name, claimed, ifOld, ifNew⟩ := claim_root faithful grounded rfl rfl
  unfold Traversal.entitiesAt
  simp only [listed]
  apply Ensures.bind (claim_ensures claimed)
  rintro _ _ ⟨rfl, rfl⟩
  cases old : workspace.names.isReserved name with
  | true =>
    obtain ⟨-, -, root, member, place, kind, -⟩ := ifOld old
    exact absurd place (unrooted root member kind)
  | false =>
    obtain ⟨faithful', advances, -⟩ := ifNew old
    simp only [Bool.not_false, Bool.not_true, Bool.false_eq_true, if_false]
    apply (openNode_ensures name).bind
    rintro _ _ ⟨rfl, rfl⟩
    rw [show Forest.size _ = openings.length from faithful.size]
    let root := (Traversal.entitiesSpot path entities).planted openings.length name
    have member : root ∈ openings ++ [root] := by simp
    have underway : Underway traversal (openings ++ [root])
        ⟨names, workspace.forest.opened name⟩ root [] _ := ⟨member, rfl, by simp⟩
    have fragments := fragments_build wellFormed
      (populate_descends wellFormed (traversal.levels none)) faithful' underway
    refine plant advances (fragments.bind ?_)
    rintro _ new later faithful'' advances' ⟨rfl, linked⟩
    have done : Underway traversal (openings ++ [root] ++ new) later root _ [] :=
      ⟨List.mem_append_left _ member, (List.append_nil _).symm, linked⟩
    have filling := fill_builds faithful'' done (List.forall_mem_nil _) rfl
    have rendered : traversal.render later.linkAt root =
        { root.site with
          type := Traversal.entityUnion, methods := []
          fragments := (root.purpose.types traversal.schema).filterMap
            (Traversal.accessorAt later.linkAt root.toSpot)
          truncated := false } := by
      simp [Traversal.render, Traversal.cutsAt, root, Traversal.entitiesSpot, Spot.planted,
        Purpose.fields, Purpose.typeName]
    rw [rendered] at filling
    exact filling.bind fun _ more last faithful''' _ filled => Builds.pure faithful''' ⟨filled, rfl⟩

def leavesTree (ended : Except Error (Option NodeId) × Workspace)
    (good : Forest → NodeId → Bool) : Bool :=
  ended.1.toOption.any fun found => found.any (good ended.2.forest)

theorem exists_tree {ended : Except Error (Option NodeId) × Workspace}
    {good : Forest → NodeId → Bool} (holds : leavesTree ended good = true) :
    ∃ id later, ended = (.ok (some id), later) ∧ good later.forest id = true := by
  obtain ⟨found, ok, holds⟩ := exists_of_any holds
  obtain ⟨id, rfl, holds⟩ := (Option.any_eq_true _ _).mp holds
  exact ⟨id, ended.2, Prod.ext ok rfl, holds⟩

def firstRootHas (text : String) (good : Schema → TypeDefinition → Forest → NodeId → Bool) : Bool :=
  match Schema.ofDocuments [text] .standard with
  | .error _ => false
  | .ok schema => (schema.type? "Query").any fun owner => owner.fields.head?.any fun field =>
    match schema.target field, Building.outcome (Traversal.root ⟨schema, none⟩ field none)
        (.empty false) with
    | .ok (.composite start), (.ok (some id), later) => good schema start later.forest id
    | _, _ => false

/-- A schema, the first field of its query type, and the tree of that field. -/
theorem exists_first_root (text : String) (good : Schema → TypeDefinition → Forest → NodeId → Bool)
    (holds : firstRootHas text good = true) :
    ∃ schema owner field start id later, Schema.ofDocuments [text] .standard = .ok schema ∧
      owner ∈ schema.types ∧ field ∈ owner.fields ∧ schema.target field = .ok (.composite start) ∧
      Building.outcome (Traversal.root ⟨schema, none⟩ field none) (.empty false) =
        (.ok (some id), later) ∧ good schema start later.forest id = true := by
  unfold firstRootHas at holds
  split at holds
  · cases holds
  next schema read =>
    obtain ⟨owner, known, holds⟩ := (Option.any_eq_true _ _).mp holds
    obtain ⟨field, first, holds⟩ := (Option.any_eq_true _ _).mp holds
    split at holds
    next start id later leads ran =>
      exact ⟨schema, owner, field, start, id, later, read, Schema.mem_types_of_type? known,
        List.mem_of_head? first, leads, ran, holds⟩
    next => cases holds

end GraphQLProjections
