import GraphQLProjections.Proofs.Generation.Run

/-! Independence of root projections. A tree stays apart from the others unless its root stands at the
path of a projection below another root and both go on to a common path. -/
namespace GraphQLProjections

open Generation

/-- No link leads from one tree to another. -/
def Output.Independent (output : Output) : Prop :=
  ∀ node ∈ output.projections, ∀ link ∈ node.links,
    ∃ target ∈ output.projections, target.id = link.target ∧ target.root = node.root

def Output.LinksInto (output : Output) (root other : NodeId) : Prop :=
  ∃ node ∈ output.projections, ∃ link ∈ node.links, ∃ target ∈ output.projections,
    target.id = link.target ∧ node.root = root ∧ target.root = other

instance (output : Output) : Decidable output.Independent :=
  inferInstanceAs (Decidable (∀ node ∈ output.projections, ∀ link ∈ node.links,
    ∃ target ∈ output.projections, target.id = link.target ∧ target.root = node.root))

namespace Traversal

variable {traversal : Traversal}

/-- One root requests a spot at the path of another, and from there both request a common path. -/
def Overlap (traversal : Traversal) (above below : Spot) : Prop :=
  ∃ shared, (traversal.requests above).find? (·.path == below.path) = some shared ∧
    ∃ request ∈ traversal.requests shared, ∃ other ∈ traversal.requests below,
      request.path = other.path

theorem exists_segment_of_root {root request : Spot} (new : root.purpose.trail = [])
    (requested : request ∈ traversal.requests root) :
    ∃ segment, request.path = root.path ++ [segment] := by
  rcases path_of_mem_requests requested with further | ⟨step, passed, -⟩
  · exact further
  · exact absurd (new ▸ passed) List.not_mem_nil

theorem Overlap.ne {above below : Spot} (overlap : traversal.Overlap above below)
    (new : above.purpose.trail = []) : above ≠ below := by
  obtain ⟨shared, first, -⟩ := overlap
  obtain ⟨segment, further⟩ := exists_segment_of_root new (List.mem_of_find?_eq_some first)
  have path : shared.path = below.path := by simpa using List.find?_some first
  rintro rfl
  simpa using congrArg List.length (further.symm.trans path)

end Traversal

variable {traversal : Traversal} {openings : List Opening} {others : List (List String × String)}
  {workspace : Workspace}

theorem Faithful.of_root (faithful : Faithful traversal openings others workspace)
    {opening : Opening} (member : opening ∈ openings) (kind : opening.kind = .root) :
    opening.root = opening.id ∧ opening.purpose.trail = [] := by
  cases faithful.derived opening member with
  | root _ _ root trail => exact ⟨root, trail⟩
  | below _ _ _ other => exact absurd kind other

def Traversal.Crosses (traversal : Traversal) (openings : List Opening) (root other : NodeId) :
    Prop :=
  ∃ opening ∈ openings, ∃ request ∈ traversal.requests opening.toSpot, ∃ target ∈ openings,
    target.path = request.path ∧ target.kind ≠ .root ∧ opening.root = root ∧ target.root = other

namespace Complete

variable (complete : Complete traversal openings others workspace)
  (short : ∀ root ∈ openings, root.kind = .root → root.path.length ≤ 2)
include complete short

/-- A projection at the path of a root is requested there by the root of its tree. -/
theorem overlaps {root other : Opening} (member : root ∈ openings) (isRoot : root.kind = .root)
    (member' : other ∈ openings) (kind : other.kind ≠ .root) (same : other.path = root.path)
    {request request' : Spot} (requested : request ∈ traversal.requests other.toSpot)
    (requested' : request' ∈ traversal.requests root.toSpot)
    (meet : request.path = request'.path) :
    ∃ above ∈ openings, above.kind = .root ∧ other.root = above.id ∧
      traversal.Overlap above.toSpot root.toSpot := by
  cases complete.derived other member' with
  | root isRoot => exact absurd isRoot kind
  | below above inside earlier _ _ tree further first =>
    have planted : above.kind = .root := by
      by_contra below
      have long := complete.two_le_length inside below
      have bound := short root member isRoot
      obtain ⟨segment, path⟩ := further
      rw [← same, path, List.length_append, List.length_singleton] at bound
      omega
    exact ⟨above, inside, planted, tree.trans (complete.of_root inside planted).1, other.toSpot,
      same ▸ first, request, requested, request', requested', meet⟩

/-- What an opening requests is in its own tree, or the roots of the two trees overlap. -/
theorem root_of_request {opening target : Opening} (member : opening ∈ openings)
    (member' : target ∈ openings) (kind : target.kind ≠ .root) {request : Spot}
    (requested : request ∈ traversal.requests opening.toSpot) (path : target.path = request.path) :
    target.root = opening.root ∨ ∃ above ∈ openings, ∃ below ∈ openings,
      above.kind = .root ∧ below.kind = .root ∧ traversal.Overlap above.toSpot below.toSpot ∧
      (opening.root = above.id ∧ target.root = below.id ∨
        opening.root = below.id ∧ target.root = above.id) := by
  rcases Traversal.path_of_mem_requests requested with ⟨segment, further⟩ | ⟨step, passed, back⟩
  · obtain ⟨parent, inside, same, -, tree, first, shared⟩ :=
      complete.parent_at member member' kind (path.trans further)
    have requested' := List.mem_of_find?_eq_some first
    rcases shared with rfl | shared
    · exact .inl tree
    by_cases isRoot : opening.kind = .root
    · have below : parent.kind ≠ .root := fun other => shared.mp other isRoot
      obtain ⟨above, inside', planted, theirs, overlap⟩ := complete.overlaps short member isRoot
        inside below same requested' requested path
      exact .inr ⟨above, inside', opening, member, planted, isRoot, overlap,
        .inr ⟨(complete.of_root member isRoot).1, tree.trans theirs⟩⟩
    · have planted := shared.mpr isRoot
      obtain ⟨above, inside', planted', ours, overlap⟩ := complete.overlaps short inside planted
        member isRoot same.symm requested requested' path.symm
      exact .inr ⟨above, inside', parent, inside, planted', planted, overlap,
        .inl ⟨ours, tree.trans (complete.of_root inside planted).1⟩⟩
  · obtain ⟨above, inside, same, sub, -, tree, -⟩ := complete.opening_of_trail member passed
    have below : above.kind ≠ .root := by simp [sub]
    left
    rw [complete.eq_of_place member' inside (path.trans (back.trans same.symm))
      (iff_of_false kind below), tree]

variable (wellFormed : traversal.schema.WellFormed)
include wellFormed

/-- With overlap of two roots, one of them links into the tree of the other. -/
theorem crosses_of_overlap {above below : Opening} (member : above ∈ openings)
    (member' : below ∈ openings) (isRoot : above.kind = .root) (isRoot' : below.kind = .root)
    (overlap : traversal.Overlap above.toSpot below.toSpot) :
    traversal.Crosses openings above.id below.id ∨
      traversal.Crosses openings below.id above.id := by
  obtain ⟨shared, first, request, requested, request', requested', meet⟩ := overlap
  have asked := List.mem_of_find?_eq_some first
  have path : shared.path = below.path := by simpa using List.find?_some first
  obtain ⟨segment, further⟩ :=
    Traversal.exists_segment_of_root (complete.of_root member isRoot).2 asked
  obtain ⟨middle, inside, same, kind, -⟩ := complete.target wellFormed member asked
  obtain ⟨parent, inside', same', -, tree, first', which⟩ :=
    complete.parent_at member inside kind (same.trans further)
  -- The path of a root is too short for a projection between two roots.
  have parentIs : parent = above := by
    apply which.resolve_right
    intro other
    have long := complete.two_le_length inside' fun root => other.mp root isRoot
    have bound := short below member' isRoot'
    rw [← path, further, ← same', List.length_append, List.length_singleton] at bound
    omega
  subst parentIs
  rw [same, path, first] at first'
  obtain rfl := Option.some.inj first'
  have ours := tree.trans (complete.of_root member isRoot).1
  -- What both request is in the tree of the one that was there first.
  obtain ⟨target, held, place, kind', -⟩ := complete.target wellFormed inside requested
  obtain ⟨last, further'⟩ :=
    Traversal.exists_segment_of_root (complete.of_root member' isRoot').2 requested'
  obtain ⟨owner, inside'', same'', -, tree', -, which'⟩ :=
    complete.parent_at inside held kind' (place.trans (meet.trans (path ▸ further')))
  rcases which' with rfl | which'
  · exact .inr ⟨below, member', request', requested', target, held, place.trans meet, kind',
      (complete.of_root member' isRoot').1, tree'.trans ours⟩
  · obtain rfl := complete.eq_of_place inside'' member' (same''.trans path)
      (iff_of_true (which'.mpr kind) isRoot')
    exact .inl ⟨middle, inside, request, requested, target, held, place, kind', ours,
      tree'.trans (complete.of_root member' isRoot').1⟩

omit wellFormed in
theorem overlap_of_crosses {above below : Opening} (member : above ∈ openings)
    (member' : below ∈ openings) (differ : above ≠ below)
    (crosses : traversal.Crosses openings above.id below.id) :
    traversal.Overlap above.toSpot below.toSpot ∨ traversal.Overlap below.toSpot above.toSpot := by
  obtain ⟨opening, inside, request, requested, target, held, path, kind, ours, theirs⟩ := crosses
  rcases complete.root_of_request short inside held kind requested path with
    same | ⟨first, inside', second, inside'', -, -, overlap, ⟨id, id'⟩ | ⟨id, id'⟩⟩
  · exact absurd (complete.eq_of_id member member' (ours.symm.trans (same.symm.trans theirs))) differ
  · obtain rfl := complete.eq_of_id member inside' (ours.symm.trans id)
    obtain rfl := complete.eq_of_id member' inside'' (theirs.symm.trans id')
    exact .inl overlap
  · obtain rfl := complete.eq_of_id member inside'' (ours.symm.trans id)
    obtain rfl := complete.eq_of_id member' inside' (theirs.symm.trans id')
    exact .inr overlap

/-- There are links between the trees of two roots exactly when the roots overlap. -/
theorem crosses_iff_overlap {above below : Opening} (member : above ∈ openings)
    (member' : below ∈ openings) (isRoot : above.kind = .root) (isRoot' : below.kind = .root)
    (differ : above ≠ below) :
    (traversal.Crosses openings above.id below.id ∨ traversal.Crosses openings below.id above.id) ↔
      (traversal.Overlap above.toSpot below.toSpot ∨
        traversal.Overlap below.toSpot above.toSpot) := by
  constructor
  · rintro (crosses | crosses)
    · exact complete.overlap_of_crosses short member member' differ crosses
    · exact (complete.overlap_of_crosses short member' member differ.symm crosses).symm
  · rintro (overlap | overlap)
    · exact complete.crosses_of_overlap short wellFormed member member' isRoot isRoot' overlap
    · exact (complete.crosses_of_overlap short wellFormed member' member isRoot' isRoot overlap).symm

omit short

variable {output : Output}
  (nodes : output.projections = openings.map (traversal.render workspace.linkAt))
include nodes

theorem linksInto_iff_crosses {root other : NodeId} :
    output.LinksInto root other ↔ traversal.Crosses openings root other := by
  unfold Output.LinksInto
  rw [nodes]
  constructor
  · rintro ⟨_, member, link, linked, _, member', same, rfl, rfl⟩
    obtain ⟨opening, inside, rfl⟩ := List.mem_map.mp member
    obtain ⟨held, inside', rfl⟩ := List.mem_map.mp member'
    obtain ⟨request, requested, found⟩ := Traversal.mem_links_render.mp linked
    obtain ⟨target, inside'', path, kind, found'⟩ := complete.target wellFormed inside requested
    obtain rfl := Option.some.inj (found.symm.trans found')
    obtain rfl := complete.eq_of_id inside' inside'' same
    exact ⟨opening, inside, request, requested, held, inside', path, kind, rfl, rfl⟩
  · rintro ⟨opening, inside, request, requested, target, held, path, kind, rfl, rfl⟩
    obtain ⟨target', held', path', kind', linked⟩ := complete.target wellFormed inside requested
    obtain rfl := complete.eq_of_place held held' (path.trans path'.symm) (iff_of_false kind kind')
    exact ⟨_, List.mem_map_of_mem inside, _,
      Traversal.mem_links_render.mpr ⟨request, requested, linked⟩, _, List.mem_map_of_mem held,
      rfl, rfl, rfl⟩

theorem independent_iff_linksInto :
    output.Independent ↔ ∀ root other, output.LinksInto root other → root = other := by
  constructor
  · rintro independent _ _ ⟨node, member, link, linked, target, held, same, rfl, rfl⟩
    obtain ⟨target', held', same', tree⟩ := independent node member link linked
    rw [nodes] at held held'
    obtain ⟨opening, inside, rfl⟩ := List.mem_map.mp held
    obtain ⟨opening', inside', rfl⟩ := List.mem_map.mp held'
    obtain rfl := complete.eq_of_id inside inside' (same.trans same'.symm)
    exact tree.symm
  · intro stays node member link linked
    have target : ∃ target ∈ output.projections, target.id = link.target := by
      rw [nodes] at member ⊢
      obtain ⟨opening, inside, rfl⟩ := List.mem_map.mp member
      obtain ⟨request, requested, found⟩ := Traversal.mem_links_render.mp linked
      obtain ⟨target, held, -, -, found'⟩ := complete.target wellFormed inside requested
      obtain rfl := Option.some.inj (found.symm.trans found')
      exact ⟨_, List.mem_map_of_mem held, rfl⟩
    obtain ⟨target, held, same⟩ := target
    exact ⟨target, held, same,
      (stays _ _ ⟨node, member, link, linked, target, held, same, rfl, rfl⟩).symm⟩

end Complete

theorem Standing.length_le_two {settings : Settings} {schema : Schema}
    {selected : Option SelectedRoots} {paths : List (List String)}
    (standing : Standing traversal openings others paths (plannedSpots settings schema selected)
      workspace) : ∀ root ∈ openings, root.kind = .root → root.path.length ≤ 2 :=
  fun root member kind =>
    length_le_two_of_mem_plannedSpots (standing.mem_spots.mpr ⟨root, member, kind, rfl⟩)

namespace Generation

variable {settings : Settings} {schema : Schema} {selected : Option SelectedRoots}

/-- Each planned root has its root projection, and there are links between the trees of two of them
exactly when the two overlap. -/
theorem linksInto_iff_overlap {texts : List String} {reading : Settings}
    (read : Schema.ofDocuments texts reading = .ok schema) {output : Output}
    (ok : generate settings schema selected = .ok output) {above below : Spot}
    (planned : above ∈ plannedSpots settings schema selected)
    (planned' : below ∈ plannedSpots settings schema selected) (differ : above ≠ below) :
    ∃ root other : ProjectionNode, root ∈ output.projections ∧ other ∈ output.projections ∧
      (root.kind = .root ∧ root.path = above.path) ∧ (other.kind = .root ∧ other.path = below.path) ∧
      root.id ≠ other.id ∧
      (output.LinksInto root.id other.id ∨ output.LinksInto other.id root.id ↔
        Traversal.Overlap ⟨schema, settings.maxDepth⟩ above below ∨
          Traversal.Overlap ⟨schema, settings.maxDepth⟩ below above) := by
  have wellFormed := Schema.wellFormed_of_ofDocuments read
  obtain ⟨openings, workspace, carried, nodes⟩ := carried_of_generate wellFormed ok
  obtain ⟨others, paths, standing⟩ := carried.standing
  have complete := standing.complete
  have short := standing.length_le_two
  obtain ⟨above, member, isRoot, rfl⟩ := standing.mem_spots.mp planned
  obtain ⟨below, member', isRoot', rfl⟩ := standing.mem_spots.mp planned'
  refine ⟨_, _, nodes ▸ List.mem_map_of_mem member, nodes ▸ List.mem_map_of_mem member',
    ⟨isRoot, rfl⟩, ⟨isRoot', rfl⟩, fun same => ?_, ?_⟩
  · exact differ (congrArg _ (complete.eq_of_id member member' same))
  · rw [complete.linksInto_iff_crosses wellFormed nodes,
      complete.linksInto_iff_crosses wellFormed nodes]
    exact complete.crosses_iff_overlap short wellFormed member member' isRoot isRoot'
      fun same => differ (congrArg _ same)

/-- Generation keeps its root projections independent exactly when no two of them overlap. -/
theorem independent_iff_apart {texts : List String} {reading : Settings}
    (read : Schema.ofDocuments texts reading = .ok schema) {output : Output}
    (ok : generate settings schema selected = .ok output) :
    output.Independent ↔ ∀ above ∈ plannedSpots settings schema selected,
      ∀ below ∈ plannedSpots settings schema selected,
        ¬Traversal.Overlap ⟨schema, settings.maxDepth⟩ above below := by
  have wellFormed := Schema.wellFormed_of_ofDocuments read
  obtain ⟨openings, workspace, carried, nodes⟩ := carried_of_generate wellFormed ok
  obtain ⟨others, paths, standing⟩ := carried.standing
  have complete := standing.complete
  have short := standing.length_le_two
  rw [complete.independent_iff_linksInto wellFormed nodes]
  simp only [complete.linksInto_iff_crosses wellFormed nodes]
  constructor
  · intro stays above planned below planned' overlap
    obtain ⟨above, member, isRoot, rfl⟩ := standing.mem_spots.mp planned
    obtain ⟨below, member', isRoot', rfl⟩ := standing.mem_spots.mp planned'
    have same : above.id = below.id := by
      rcases complete.crosses_of_overlap short wellFormed member member' isRoot isRoot' overlap with
        crosses | crosses
      · exact stays _ _ crosses
      · exact (stays _ _ crosses).symm
    exact overlap.ne (complete.of_root member isRoot).2
      (congrArg _ (complete.eq_of_id member member' same))
  · rintro apart _ _ ⟨opening, inside, request, requested, target, held, path, kind, rfl, rfl⟩
    rcases complete.root_of_request short inside held kind requested path with
      same | ⟨above, member, below, member', isRoot, isRoot', overlap, -⟩
    · exact same.symm
    · exact absurd overlap (apart _ (standing.mem_spots.mpr ⟨above, member, isRoot, rfl⟩) _
        (standing.mem_spots.mpr ⟨below, member', isRoot', rfl⟩))

/-- Roots overlap only below a root field that is called like a segment put before other paths. -/
theorem prefix_of_overlap {traversal : Traversal} {above below : Spot}
    (planned : above ∈ plannedSpots settings schema selected)
    (planned' : below ∈ plannedSpots settings schema selected)
    (overlap : traversal.Overlap above below) :
    ∃ root ∈ rootFields settings schema selected, root.field.name ∈ pathPrefixes := by
  obtain ⟨shared, first, -⟩ := overlap
  have path : shared.path = below.path := by simpa using List.find?_some first
  obtain ⟨-, trail⟩ := of_mem_plannedSpots planned
  obtain ⟨segment, further⟩ :=
    Traversal.exists_segment_of_root trail (List.mem_of_find?_eq_some first)
  rw [path] at further
  obtain ⟨front, only⟩ : ∃ front, above.path = [front] := by
    have bound := length_le_two_of_mem_plannedSpots planned'
    have long := List.length_pos_of_ne_nil (path_ne_nil_of_mem_plannedSpots planned)
    rw [further, List.length_append, List.length_singleton] at bound
    exact List.length_eq_one_iff.mp (by omega)
  have listed := prefix_of_mem_plannedSpots planned' (further.trans (by rw [only]; rfl))
  rcases (of_mem_plannedSpots planned).1 with ⟨root, member, same | ⟨-, same⟩⟩ | same | same
  · obtain rfl := List.singleton_injective (only.symm.trans same)
    exact ⟨root, member, listed⟩
  · simp [only] at same
  · obtain rfl := List.singleton_injective (only.symm.trans same)
    exact absurd listed (by decide)
  · simp [only] at same

def generatedWith (settings : Settings) (text : String) (good : Schema → Output → Bool) : Bool :=
  match Schema.ofDocuments [text] settings with
  | .error _ => false
  | .ok schema =>
    match generate settings schema none with
    | .error _ => false
    | .ok output => good schema output

theorem exists_generated_with (settings : Settings) (text : String)
    (good : Schema → Output → Bool) (holds : generatedWith settings text good = true) :
    ∃ schema output, Schema.ofDocuments [text] settings = .ok schema ∧
      generate settings schema none = .ok output ∧ good schema output = true := by
  unfold generatedWith at holds
  split at holds
  · cases holds
  next schema read =>
    split at holds
    · cases holds
    next output ok => exact ⟨schema, output, read, ok, holds⟩

def generatedHas (text : String) (good : Schema → Output → Bool) : Bool :=
  generatedWith .standard text good

theorem exists_generated (text : String) (good : Schema → Output → Bool)
    (holds : generatedHas text good = true) :
    ∃ schema output, Schema.ofDocuments [text] .standard = .ok schema ∧
      generate .standard schema none = .ok output ∧ good schema output = true :=
  exists_generated_with .standard text good holds

def prefixedDocument : String :=
  "type Query \x7b show: Show movie: Show \x7d
  type Mutation \x7b show: Show \x7d
  type Show \x7b title: String next: Show \x7d"

theorem independent_prefixedDocument : ∃ schema output,
    Schema.ofDocuments [prefixedDocument] .standard = .ok schema ∧
      generate .standard schema none = .ok output ∧ output.Independent := by
  obtain ⟨schema, output, read, ok, plain⟩ := exists_generated prefixedDocument
    (fun schema _ => decide (∀ root ∈ rootFields .standard schema none,
      root.field.name ∉ pathPrefixes)) (by decide +kernel)
  refine ⟨schema, output, read, ok, (independent_iff_apart read ok).mpr ?_⟩
  intro above planned below planned' overlap
  obtain ⟨root, member, listed⟩ := prefix_of_overlap planned planned' overlap
  exact of_decide_eq_true plain root member listed

def overlappingDocument : String :=
  "type Query \x7b mutation: M r: A \x7d
  type M \x7b r: B \x7d
  type B \x7b f: C \x7d
  type C \x7b x: Int \x7d
  type A \x7b y: Int \x7d
  type Mutation \x7b r: D \x7d
  type D \x7b f: E \x7d
  type E \x7b z: Int \x7d"

/-- The method `f` of the root projection of the mutation leads into the tree of the query. -/
theorem not_independent_overlappingDocument : ∃ schema output,
    Schema.ofDocuments [overlappingDocument] .standard = .ok schema ∧
      generate .standard schema none = .ok output ∧ ¬output.Independent := by
  obtain ⟨schema, output, read, ok, crosses⟩ := exists_generated overlappingDocument
    (fun _ output => decide ¬output.Independent) (by decide +kernel)
  exact ⟨schema, output, read, ok, of_decide_eq_true crosses⟩

end Generation
end GraphQLProjections
