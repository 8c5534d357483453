import GraphQLProjections.Proofs.Generation.Ownership
import GraphQLProjections.Proofs.Projection.Filtered

/-! Chains of methods below filtered roots: which chains of fields keep their methods in a finished run
without a depth bound. -/
namespace GraphQLProjections

open Generation

/-- From a node, methods of these names can be called in turn, each on what the one before links to. -/
def Output.Follows (output : Output) : ProjectionNode → List String → Prop
  | _, [] => True
  | node, name :: rest => ∃ method, node.method? name = some method ∧
      (rest = [] ∨ ∃ link target, method.link = some link ∧ target ∈ output.projections ∧
        target.id = link.target ∧ output.Follows target rest)

/-- A chain of fields keeps its methods. Each field is wanted plainly or in one fragment on the type,
and the first field of its name leads on. The chain goes on below the same root with what is wanted
there, or, where another root owns the path, with what is wanted below that root. -/
inductive Traversal.Kept (traversal : Traversal) (roots : List Spot) :
    Spot → List String → TypeDefinition → (List SelectionStep → Prop) → List String → Prop
  | last {root : Spot} {path : List String} {type : TypeDefinition}
      {wants : List SelectionStep → Prop} {name : String} {field : FieldDefinition}
      (declared : traversal.schema.firstField? type name = some field)
      (wanted : wantedBelow wants type.name name []) : Kept traversal roots root path type wants [name]
  | own {root : Spot} {path : List String} {type next : TypeDefinition}
      {wants : List SelectionStep → Prop} {name : String} {field : FieldDefinition}
      {names : List String} (declared : traversal.schema.firstField? type name = some field)
      (wanted : wantedBelow wants type.name name [])
      (leads : traversal.schema.target field = .ok (.composite next))
      (free : ∀ other spot, traversal.Owns roots (path ++ [name]) other spot → other = root)
      (rest : Kept traversal roots root (path ++ [name]) next
        (wantedBelow wants type.name name) names) :
      Kept traversal roots root path type wants (name :: names)
  | other {root other spot : Spot} {path : List String} {type next : TypeDefinition}
      {wants : List SelectionStep → Prop} {name : String} {field : FieldDefinition}
      {names : List String} {trail : List TrailStep} {filter : Filter}
      (declared : traversal.schema.firstField? type name = some field)
      (wanted : wantedBelow wants type.name name [])
      (linked : traversal.schema.target field ≠ .ok .leaf ∨ field.arguments ≠ [])
      (owned : traversal.Owns roots (path ++ [name]) other spot) (differs : other ≠ root)
      (purpose : spot.purpose = .type next trail (some filter))
      (rest : Kept traversal roots other spot.path next filter.Has names) :
      Kept traversal roots root path type wants (name :: names)

/-- A chain of fields along a thin word: each is the first of its name in the type of the one before,
and comes in the word plainly or in one fragment on that type. -/
inductive Schema.ThinChain (schema : Schema) :
    TypeDefinition → List String → List SelectionStep → Prop
  | last {type : TypeDefinition} {name : String} {field : FieldDefinition}
      {before : List SelectionStep} (declared : schema.firstField? type name = some field)
      (thin : before = [] ∨ before = [.fragment type.name]) :
      ThinChain schema type [name] (before ++ [.field name])
  | field {type next : TypeDefinition} {name : String} {field : FieldDefinition}
      {before word : List SelectionStep} {names : List String}
      (declared : schema.firstField? type name = some field)
      (thin : before = [] ∨ before = [.fragment type.name])
      (leads : schema.target field = .ok (.composite next)) (rest : ThinChain schema next names word) :
      ThinChain schema type (name :: names) (before ++ .field name :: word)

theorem wantedBelow_iff {wants : List SelectionStep → Prop} {type field : String}
    {word : List SelectionStep} : wantedBelow wants type field word ↔
      ∃ before, (before = [] ∨ before = [.fragment type]) ∧
        wants (before ++ .field field :: word) := by
  simp [wantedBelow, or_and_right, exists_or]

theorem Traversal.kept_single {traversal : Traversal} {roots : List Spot} {root : Spot}
    {path : List String} {type : TypeDefinition} {wants : List SelectionStep → Prop} {name : String} :
    traversal.Kept roots root path type wants [name] ↔
      wantedBelow wants type.name name [] ∧
        ∃ field, traversal.schema.firstField? type name = some field := by
  constructor
  · intro kept
    cases kept with
    | last declared wanted => exact ⟨wanted, _, declared⟩
    | own _ _ _ _ rest => cases rest
    | other _ _ _ _ _ _ rest => cases rest
  · rintro ⟨wanted, field, declared⟩
    exact .last declared wanted

/-- Where no other root owns a path, a chain keeps its methods if it is wanted along a thin word. -/
theorem Traversal.kept_iff_thin {schema : Schema} {roots : List Spot} {root spot : Spot}
    {segments : List String} (alone : ∀ path spot other spot',
      StandsAt ⟨schema, none⟩ root path spot → Owns ⟨schema, none⟩ roots path other spot' →
        other = root)
    (below : below? ⟨schema, none⟩ root segments = some spot)
    (path : spot.path = root.path ++ segments)
    {type : TypeDefinition} {trail : List TrailStep} {filter : Filter}
    (purpose : spot.purpose = .type type trail (some filter)) (distinct : filter.Distinct)
    {names : List String} : Kept ⟨schema, none⟩ roots root spot.path type filter.Has names ↔
      ∃ word, schema.ThinChain type names word ∧ filter.Has word := by
  induction names generalizing spot segments type trail filter with
  | nil =>
    refine iff_of_false (fun kept => nomatch kept) ?_
    rintro ⟨word, thin, -⟩
    cases thin
  | cons name rest ih =>
    have stands {field : FieldDefinition} {request : Spot}
        (first : schema.firstField? type name = some field)
        (requested : requestOfField ⟨schema, none⟩ spot field = some request) :=
      standsAt_below below path (find?_request purpose distinct first requested)
    -- Below a wanted field that leads on, the chain is one below what the field requests.
    have further {field : FieldDefinition} {next : TypeDefinition}
        (first : schema.firstField? type name = some field)
        (leads : schema.target field = .ok (.composite next))
        (wanted : wantedBelow filter.Has type.name name []) :
        (Kept ⟨schema, none⟩ roots root (spot.path ++ [name]) next
            (wantedBelow filter.Has type.name name) rest ↔
          ∃ word, schema.ThinChain next rest word ∧ wantedBelow filter.Has type.name name word) ∧
        ∃ request, StandsAt ⟨schema, none⟩ root (spot.path ++ [name]) request := by
      obtain ⟨child, found⟩ := Option.isSome_iff_exists.mp
        ((Filter.narrowed_isSome distinct).mpr wanted)
      obtain rfl := Schema.firstField?_name first
      have requested := (requestOfField_filtered purpose).mpr
        ⟨child, found, .inl ⟨next, leads, rfl⟩⟩
      obtain ⟨here, stands⟩ := stands first requested
      rw [← Filter.has_narrowed_child distinct found]
      refine ⟨ih here ?_ rfl ((distinct.narrowed type.name).step (.field field.name) found), _, stands⟩
      rw [path, List.append_assoc]
    constructor
    · intro kept
      cases kept with
      | last declared wanted =>
        obtain ⟨before, thin, wanted⟩ := wantedBelow_iff.mp wanted
        exact ⟨_, .last declared thin, wanted⟩
      | own declared wanted leads free kept =>
        obtain ⟨word, thin, wanted⟩ := (further declared leads wanted).1.mp kept
        obtain ⟨before, single, wanted⟩ := wantedBelow_iff.mp wanted
        exact ⟨_, .field declared single leads thin, wanted⟩
      | other declared wanted linked owned differs =>
        obtain ⟨request, requested⟩ := exists_request purpose distinct declared wanted linked
        exact absurd (alone _ _ _ _ (stands declared requested).2 owned) differs
    · rintro ⟨word, thin, wanted⟩
      cases thin with
      | last declared thin => exact .last declared (wantedBelow_iff.mpr ⟨_, thin, wanted⟩)
      | @field _ next _ _ before word _ declared single leads thin =>
        have here : wantedBelow filter.Has type.name name [] := by
          refine wantedBelow_iff.mpr ⟨before, single, Filter.Has.front (?_ : filter.Has (_ ++ word))⟩
          simpa using wanted
        obtain ⟨iff, request, stands⟩ := further declared leads here
        exact .own declared here leads (fun other spot' owned => alone _ _ _ _ stands owned)
          (iff.mpr ⟨word, thin, wantedBelow_iff.mpr ⟨before, single, wanted⟩⟩)

/-- A finished run without a depth bound, in which a tree that shares a path with a filtered one and
comes first is filtered as well. -/
structure FilteredRun (schema : Schema) (openings : List Opening)
    (others : List (List String × String)) (paths : List (List String)) (spots : List Spot)
    (workspace : Workspace) (output : Output) : Prop where
  wellFormed : schema.WellFormed
  standing : Standing ⟨schema, none⟩ openings others paths spots workspace
  short : ∀ spot ∈ spots, spot.path.length ≤ 2
  nodes : output.projections = openings.map (Traversal.render ⟨schema, none⟩ workspace.linkAt)
  filtered : ∀ root ∈ openings, root.kind = .root → root.purpose.Filtered →
    ∀ path other spot spot', Traversal.Owns ⟨schema, none⟩ spots path other spot →
      Traversal.StandsAt ⟨schema, none⟩ root.toSpot path spot' → other.purpose.Filtered

theorem Opening.Lineage.filtered {schema : Schema} {openings : List Opening} {root opening : Opening}
    {segments : List String} (lineage : root.Lineage ⟨schema, none⟩ openings segments opening)
    (filtered : root.purpose.Filtered) : opening.purpose.Filtered := by
  induction lineage with
  | root => exact filtered
  | step _ _ _ _ _ _ first ih =>
    exact Traversal.filtered_request ih (List.mem_of_find?_eq_some first)

/-- What is filtered belongs to an input wrapper or to a type with a filter. -/
theorem Purpose.Filtered.cases {purpose : Purpose} (filtered : purpose.Filtered) :
    (∃ field, purpose = .arguments field) ∨
      ∃ type trail filter, purpose = .type type trail (some filter) := by
  cases purpose with
  | arguments field => exact .inl ⟨field, rfl⟩
  | type type trail filter =>
    cases filter with
    | none => exact filtered.elim
    | some filter => exact .inr ⟨type, trail, filter, rfl⟩
  | entities => exact filtered.elim

/-- The tree of a filtered root projects a type by a filter at an opening. -/
structure Opening.FiltersAt (schema : Schema) (openings : List Opening) (root opening : Opening)
    (type : TypeDefinition) (filter : Filter) : Prop where
  planted : root ∈ openings
  isRoot : root.kind = .root
  filtered : root.purpose.Filtered
  lineage : ∃ segments, root.Lineage ⟨schema, none⟩ openings segments opening
  purpose : ∃ trail, opening.purpose = .type type trail (some filter)

namespace Opening.FiltersAt

variable {schema : Schema} {openings : List Opening} {root opening : Opening} {type : TypeDefinition}
  {filter : Filter} (placed : root.FiltersAt schema openings opening type filter)
include placed

theorem member : opening ∈ openings := by
  obtain ⟨segments, lineage⟩ := placed.lineage
  exact lineage.member placed.planted

theorem distinct : filter.Distinct := by
  obtain ⟨segments, lineage⟩ := placed.lineage
  obtain ⟨trail, purpose⟩ := placed.purpose
  have filtered := lineage.filtered placed.filtered
  rwa [purpose] at filtered

/-- What a field requests stands in the tree. -/
theorem standsAt_request {name : String} {field : FieldDefinition} {request : Spot}
    (first : schema.firstField? type name = some field)
    (requested : Traversal.requestOfField ⟨schema, none⟩ opening.toSpot field = some request) :
    Traversal.StandsAt ⟨schema, none⟩ root.toSpot (opening.path ++ [name]) request := by
  obtain ⟨segments, lineage⟩ := placed.lineage
  obtain ⟨trail, purpose⟩ := placed.purpose
  exact (Traversal.standsAt_below lineage.below? lineage.path
    (Traversal.find?_request purpose placed.distinct first requested)).2

end Opening.FiltersAt

namespace FilteredRun

variable {schema : Schema} {openings : List Opening} {others : List (List String × String)}
  {paths : List (List String)} {spots : List Spot} {workspace : Workspace} {output : Output}
  (run : FilteredRun schema openings others paths spots workspace output)
include run

omit run in
theorem not_follows_arguments {opening : Opening} {field : FieldDefinition}
    (purpose : opening.purpose = .arguments field) (name : String) (rest : List String) :
    ¬output.Follows (Traversal.render ⟨schema, none⟩ workspace.linkAt opening) (name :: rest) := by
  rintro ⟨method, found, -⟩
  have fieldsOf : opening.purpose.fields = [] := by rw [purpose]; rfl
  simp [Traversal.method?_render, fieldsOf] at found

variable {root opening : Opening} {type : TypeDefinition} {filter : Filter} {name : String}

omit run in
theorem follows_single (placed : root.FiltersAt schema openings opening type filter) :
    output.Follows (Traversal.render ⟨schema, none⟩ workspace.linkAt opening) [name] ↔
      wantedBelow filter.Has type.name name [] ∧ ∃ field, schema.firstField? type name = some field := by
  obtain ⟨trail, purpose⟩ := placed.purpose
  constructor
  · rintro ⟨method, found, -⟩
    obtain ⟨wanted, field, first, -⟩ := (Traversal.method?_filtered purpose placed.distinct).mp found
    exact ⟨wanted, field, first⟩
  · rintro ⟨wanted, field, first⟩
    exact ⟨_, (Traversal.method?_filtered purpose placed.distinct).mpr ⟨wanted, field, first, rfl⟩,
      .inl rfl⟩

/-- A chain goes on at the projection that the first field of its name links to. -/
theorem follows_cons (placed : root.FiltersAt schema openings opening type filter)
    {rest : List String} (more : rest ≠ []) :
    output.Follows (Traversal.render ⟨schema, none⟩ workspace.linkAt opening) (name :: rest) ↔
      wantedBelow filter.Has type.name name [] ∧ ∃ field request target,
        schema.firstField? type name = some field ∧
        Traversal.requestOfField ⟨schema, none⟩ opening.toSpot field = some request ∧
        target ∈ openings ∧ target.kind ≠ .root ∧ target.path = opening.path ++ [name] ∧
        output.Follows (Traversal.render ⟨schema, none⟩ workspace.linkAt target) rest := by
  have complete := run.standing.complete
  have distinct := placed.distinct
  obtain ⟨trail, purpose⟩ := placed.purpose
  constructor
  · rintro ⟨method, found, none | ⟨link, node, linked, known, id, follows⟩⟩
    · exact absurd none more
    · obtain ⟨wanted, field, first, rfl⟩ := (Traversal.method?_filtered purpose distinct).mp found
      obtain ⟨request, requested, looked⟩ := Option.bind_eq_some_iff.mp linked
      obtain ⟨path, asked⟩ := Traversal.requested_at purpose distinct first requested
      obtain ⟨target, held, path', kind, looked'⟩ :=
        complete.target run.wellFormed placed.member asked
      obtain rfl := Option.some.inj (looked.symm.trans looked')
      rw [run.nodes] at known
      obtain ⟨other, held', rfl⟩ := List.mem_map.mp known
      obtain rfl := complete.eq_of_id held' held id
      exact ⟨wanted, field, request, other, first, requested, held, kind, path'.trans path, follows⟩
  · rintro ⟨wanted, field, request, target, first, requested, held, kind, path, follows⟩
    obtain ⟨path', asked⟩ := Traversal.requested_at purpose distinct first requested
    obtain ⟨other, held', path'', kind', looked⟩ :=
      complete.target run.wellFormed placed.member asked
    obtain rfl := complete.eq_of_place held' held (path''.trans (path'.trans path.symm))
      (iff_of_false kind' kind)
    refine ⟨_, (Traversal.method?_filtered purpose distinct).mpr ⟨wanted, field, first, rfl⟩,
      .inr ⟨⟨other.id, other.name⟩, _, ?_, run.nodes ▸ List.mem_map_of_mem held, rfl, follows⟩⟩
    exact Option.bind_eq_some_iff.mpr ⟨request, requested, looked⟩

theorem exists_target (placed : root.FiltersAt schema openings opening type filter)
    {field : FieldDefinition} (first : schema.firstField? type name = some field)
    (wanted : wantedBelow filter.Has type.name name [])
    (linked : schema.target field ≠ .ok .leaf ∨ field.arguments ≠ []) :
    ∃ request target, Traversal.requestOfField ⟨schema, none⟩ opening.toSpot field = some request ∧
      target ∈ openings ∧ target.kind ≠ .root ∧ target.path = opening.path ++ [name] := by
  obtain ⟨trail, purpose⟩ := placed.purpose
  obtain ⟨request, requested⟩ := Traversal.exists_request purpose placed.distinct first wanted linked
  obtain ⟨path, asked⟩ := Traversal.requested_at purpose placed.distinct first requested
  obtain ⟨target, held, path', kind, -⟩ :=
    run.standing.complete.target run.wellFormed placed.member asked
  exact ⟨request, target, requested, held, kind, path'.trans path⟩

/-- A projection belongs to the owner of its path, whose tree is filtered if another filtered one
stands there. -/
theorem exists_owner {target : Opening} {path : List String} {spot : Spot} (planted : root ∈ openings)
    (isRoot : root.kind = .root) (filtered : root.purpose.Filtered)
    (stands : Traversal.StandsAt ⟨schema, none⟩ root.toSpot path spot) (held : target ∈ openings)
    (kind : target.kind ≠ .root) (at' : target.path = path) :
    ∃ above ∈ openings, above.kind = .root ∧ above.purpose.Filtered ∧
      Traversal.Owns ⟨schema, none⟩ spots path above.toSpot target.toSpot ∧
      ∃ segments, above.Lineage ⟨schema, none⟩ openings segments target := by
  obtain ⟨above, planted', isRoot', -, segments, lineage⟩ := run.standing.complete.lineage held
  have owns := run.standing.owns run.short planted' isRoot' lineage kind
  rw [at'] at owns
  exact ⟨above, planted', isRoot', run.filtered root planted isRoot filtered _ _ _ _ owns stands,
    owns, segments, lineage⟩

/-- A longer chain is kept exactly if the rest of it is kept at the projection right below, in the
tree of the root that owns its path. -/
theorem kept_cons (placed : root.FiltersAt schema openings opening type filter)
    {rest : List String} (more : rest ≠ []) :
    Traversal.Kept ⟨schema, none⟩ spots root.toSpot opening.path type filter.Has (name :: rest) ↔
      wantedBelow filter.Has type.name name [] ∧ ∃ (field : FieldDefinition) (request : Spot)
          (target above : Opening) (next : TypeDefinition) (child : Filter),
        schema.firstField? type name = some field ∧
        Traversal.requestOfField ⟨schema, none⟩ opening.toSpot field = some request ∧
        target.kind ≠ .root ∧ target.path = opening.path ++ [name] ∧
        above.FiltersAt schema openings target next child ∧
        Traversal.Kept ⟨schema, none⟩ spots above.toSpot target.path next child.Has rest := by
  obtain ⟨trail, purpose⟩ := placed.purpose
  constructor
  · intro kept
    cases kept with
    | last => exact absurd rfl more
    | own first wanted leads free kept =>
      obtain ⟨request, target, requested, held, kind, path⟩ :=
        run.exists_target placed first wanted (.inl (by simp [leads]))
      have stands := placed.standsAt_request first requested
      obtain ⟨above, planted, isRoot, filtered, owns, lineage⟩ := run.exists_owner placed.planted
        placed.isRoot placed.filtered stands held kind path
      have same := free _ _ owns
      have spot : target.toSpot = request := owns.1.unique (same ▸ stands)
      obtain ⟨child, found, ⟨type', leads', rfl⟩ | ⟨leads', -, -⟩⟩ :=
        (Traversal.requestOfField_filtered purpose).mp requested
      · obtain rfl := FieldTarget.composite.inj (Except.ok.inj (leads.symm.trans leads'))
        rw [← same, ← path, ← Schema.firstField?_name first,
          ← Filter.has_narrowed_child placed.distinct found] at kept
        exact ⟨wanted, _, _, target, above, _, child, first, requested, kind, path,
          ⟨planted, isRoot, filtered, lineage, _, congrArg Spot.purpose spot⟩, kept⟩
      · rw [leads] at leads'
        cases leads'
    | other first wanted linked owned _ purpose' kept =>
      obtain ⟨request, target, requested, held, kind, path⟩ :=
        run.exists_target placed first wanted linked
      obtain ⟨above, planted, isRoot, filtered, owns, lineage⟩ := run.exists_owner placed.planted
        placed.isRoot placed.filtered (placed.standsAt_request first requested) held kind path
      obtain ⟨rfl, rfl⟩ := owned.unique owns
      exact ⟨wanted, _, request, target, above, _, _, first, requested, kind, path,
        ⟨planted, isRoot, filtered, lineage, _, purpose'⟩, kept⟩
  · rintro ⟨wanted, field, request, target, above, next, child, first, requested, kind, path,
      placed', kept⟩
    obtain ⟨segments, lineage⟩ := placed'.lineage
    obtain ⟨trail', purpose'⟩ := placed'.purpose
    have owns := run.standing.owns run.short placed'.planted placed'.isRoot lineage kind
    rw [path] at owns
    obtain ⟨below, found, leads⟩ := (Traversal.requestOfField_filtered purpose).mp requested
    by_cases same : above.toSpot = root.toSpot
    · rw [same] at owns
      have spot : target.toSpot = request := owns.1.unique (placed.standsAt_request first requested)
      have asked : request.purpose = .type next trail' (some child) :=
        (congrArg Spot.purpose spot).symm.trans purpose'
      rcases leads with ⟨type', leads, rfl⟩ | ⟨-, -, rfl⟩
      · obtain ⟨rfl, -, rfl⟩ : type' = next ∧ _ = trail' ∧ below = child := by simpa using asked
        rw [same, path, Filter.has_narrowed_child placed.distinct found,
          Schema.firstField?_name first] at kept
        exact .own first wanted leads (fun other spot owned => (owned.unique owns).1) kept
      · cases asked
    · have linked : schema.target field ≠ .ok .leaf ∨ field.arguments ≠ [] := by
        rcases leads with ⟨_, leads, -⟩ | ⟨-, arguments, -⟩
        · simp [leads]
        · exact .inr arguments
      exact .other first wanted linked owns same purpose' (path ▸ kept)

/-- Methods can be followed along a chain exactly when the chain keeps them. -/
theorem follows_iff_kept (placed : root.FiltersAt schema openings opening type filter)
    {names : List String} (proper : names ≠ []) :
    output.Follows (Traversal.render ⟨schema, none⟩ workspace.linkAt opening) names ↔
      Traversal.Kept ⟨schema, none⟩ spots root.toSpot opening.path type filter.Has names := by
  induction names generalizing root opening type filter with
  | nil => exact absurd rfl proper
  | cons name rest ih =>
    by_cases more : rest = []
    · subst more
      rw [follows_single placed, Traversal.kept_single]
    rw [run.follows_cons placed more, run.kept_cons placed more]
    apply and_congr_right
    intro wanted
    constructor
    · rintro ⟨field, request, target, first, requested, held, kind, path, follows⟩
      obtain ⟨above, planted, isRoot, filtered, -, segments, lineage⟩ := run.exists_owner
        placed.planted placed.isRoot placed.filtered (placed.standsAt_request first requested) held
        kind path
      rcases (lineage.filtered filtered).cases with ⟨_, arguments⟩ | ⟨next, trail, child, purpose⟩
      · obtain ⟨second, others, rfl⟩ := List.exists_cons_of_ne_nil more
        exact absurd follows (not_follows_arguments arguments second others)
      · have placed' : above.FiltersAt schema openings target next child :=
          ⟨planted, isRoot, filtered, ⟨segments, lineage⟩, trail, purpose⟩
        exact ⟨field, request, target, above, next, child, first, requested, kind, path, placed',
          (ih placed' more).mp follows⟩
    · rintro ⟨field, request, target, above, next, child, first, requested, kind, path, placed', kept⟩
      exact ⟨field, request, target, first, requested, placed'.member, kind, path,
        (ih placed' more).mpr kept⟩

end FilteredRun

end GraphQLProjections
