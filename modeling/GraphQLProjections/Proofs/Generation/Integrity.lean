import GraphQLProjections.Proofs.Generation.Independence

/-! Integrity of the output. Its nodes are numbered in order, every link leads to one of them under
its name, and every node but a root hangs below an earlier one that links to it. -/
namespace GraphQLProjections

open Generation

namespace ProjectionNode

/-- A part of a node links to another node: the method of a field, or the accessor of a type, that
is called like the last segment of the other. -/
def LeadsTo (parent node : ProjectionNode) : Prop :=
  match node.kind with
  | .root => False
  | .sub | .argumentWrapper => ∃ method ∈ parent.methods,
      method.field.name = node.lastSegment ∧ method.link = some ⟨node.id, node.name⟩
  | .fragment => ∃ accessor ∈ parent.fragments,
      accessor.type = node.lastSegment ∧ accessor.link = ⟨node.id, node.name⟩

structure Below (node parent : ProjectionNode) : Prop where
  linked : node.parent = some parent.id
  earlier : parent.id < node.id
  tree : node.root = parent.root
  path : node.path = parent.path ++ [node.lastSegment]
  depth : node.depth = if node.kind = .fragment then parent.depth else parent.depth + 1
  led : parent.LeadsTo node

end ProjectionNode

/-- The nodes of an output make up its trees, with nothing missing. -/
structure Output.Integral (output : Output) : Prop where
  numbered : output.projections.map (·.id) = List.range output.projections.length
  links : ∀ node ∈ output.projections, ∀ link ∈ node.links,
    ∃ target ∈ output.projections, target.id = link.target ∧ target.name = link.name
  parents : ∀ node ∈ output.projections, node.parent = none ↔ node.kind = .root
  roots : ∀ node ∈ output.projections, node.kind = .root → node.root = node.id ∧ node.depth = 0
  below : ∀ node ∈ output.projections, node.kind ≠ .root →
    ∃ parent ∈ output.projections, node.Below parent

variable {traversal : Traversal} {openings : List Opening} {others : List (List String × String)}
  {workspace : Workspace}

namespace Faithful

variable (faithful : Faithful traversal openings others workspace)
include faithful

/-- The part of an opening that requested another one further on links to it. -/
theorem leadsTo_render {parent opening : Opening} (member : parent ∈ openings)
    (member' : opening ∈ openings) (kind : opening.kind ≠ .root)
    (requested : opening.toSpot ∈ traversal.requests parent.toSpot) {segment : String}
    (further : opening.path = parent.path ++ [segment]) :
    (traversal.render workspace.linkAt parent).LeadsTo
      (traversal.render workspace.linkAt opening) := by
  have linked : workspace.linkAt opening.path = some ⟨opening.id, opening.name⟩ :=
    (faithful.linkAt_eq_some (faithful.grounded opening member').path).mpr
      ⟨opening, member', rfl, kind, rfl⟩
  have last : (traversal.render workspace.linkAt opening).lastSegment = segment :=
    Site.lastSegment_of_path further
  have kept : (traversal.render workspace.linkAt opening).kind = opening.kind := rfl
  unfold ProjectionNode.LeadsTo
  rcases faithful.part_of_request member requested further with
    ⟨field, declared, named, made, part⟩ | ⟨type, listed, named, made, part⟩
  · have method : (⟨field, some ⟨opening.id, opening.name⟩⟩ : SelectionMethod) ∈
        (traversal.render workspace.linkAt parent).methods := by
      refine List.mem_filterMap.mpr ⟨field, declared, ?_⟩
      simp [Traversal.methodAt, Traversal.keepsField_of_request made, made, linked]
    rw [kept, last]
    rcases part with part | part <;> rw [part] <;> exact ⟨_, method, named, rfl⟩
  · have accessor : (⟨type.name, ⟨opening.id, opening.name⟩⟩ : FragmentAccessor) ∈
        (traversal.render workspace.linkAt parent).fragments := by
      refine List.mem_filterMap.mpr ⟨type, listed, ?_⟩
      simp [Traversal.accessorAt, made, linked]
    rw [kept, last, part]
    exact ⟨_, accessor, named, rfl⟩

/-- A projection that is no root was opened below an earlier one, for a part of it. -/
theorem below_render {opening : Opening} (member : opening ∈ openings)
    (kind : opening.kind ≠ .root) : ∃ parent ∈ openings,
      (traversal.render workspace.linkAt opening).Below
        (traversal.render workspace.linkAt parent) := by
  cases faithful.derived opening member with
  | root isRoot => exact absurd isRoot kind
  | below parent inside earlier _ linked tree further first =>
    have requested := List.mem_of_find?_eq_some first
    obtain ⟨segment, path⟩ := further
    have last : (traversal.render workspace.linkAt opening).lastSegment = segment :=
      Site.lastSegment_of_path path
    exact ⟨parent, inside, linked, earlier, tree, last ▸ path,
      Traversal.depth_of_mem_requests requested,
      faithful.leadsTo_render inside member kind requested path⟩

end Faithful

/-- A complete history renders to trees with nothing missing. -/
theorem Complete.integral (complete : Complete traversal openings others workspace)
    (wellFormed : traversal.schema.WellFormed)
    (depth : ∀ root ∈ openings, root.kind = .root → root.depth = 0) {output : Output}
    (nodes : output.projections = openings.map (traversal.render workspace.linkAt)) :
    output.Integral := by
  have each {good : ProjectionNode → Prop}
      (holds : ∀ opening ∈ openings, good (traversal.render workspace.linkAt opening)) :
      ∀ node ∈ output.projections, good node := by
    rw [nodes]
    exact List.forall_mem_map.mpr holds
  refine ⟨?_, each ?_, each ?_, each ?_, each ?_⟩
  · rw [nodes, List.length_map]
    apply List.ext_getElem?
    intro index
    simp only [List.map_map, List.getElem?_map]
    cases here : openings[index]? with
    | none => simpa using here
    | some opening =>
      have inside := (List.getElem?_eq_some_iff.mp here).1
      have number : (traversal.render workspace.linkAt opening).id = index :=
        complete.numbered index opening here
      simp [inside, number]
  · intro opening member link linked
    obtain ⟨request, requested, found⟩ := Traversal.mem_links_render.mp linked
    obtain ⟨target, held, -, -, found'⟩ := complete.target wellFormed member requested
    obtain rfl := Option.some.inj (found.symm.trans found')
    exact ⟨_, nodes ▸ List.mem_map_of_mem held, rfl, rfl⟩
  · intro opening member
    change opening.parent = none ↔ opening.kind = .root
    cases complete.derived opening member with
    | root kind parent => exact iff_of_true parent kind
    | below _ _ _ kind linked => exact iff_of_false (by simp [linked]) kind
  · intro opening member kind
    exact ⟨(complete.of_root member kind).1, depth opening member kind⟩
  · intro opening member kind
    obtain ⟨parent, inside, below⟩ := complete.below_render member kind
    exact ⟨_, nodes ▸ List.mem_map_of_mem inside, below⟩

namespace Generation

variable {settings : Settings} {schema : Schema} {selected : Option SelectedRoots}

theorem depth_of_mem_plannedSpots {spot : Spot}
    (planned : spot ∈ plannedSpots settings schema selected) : spot.depth = 0 := by
  rcases List.mem_append.mp planned with planned | asked
  · obtain ⟨⟨path, root⟩, -, made⟩ := List.mem_filterMap.mp planned
    obtain ⟨type, -, rfl⟩ := spotOf_eq_some.mp made
    rfl
  · obtain rfl := eq_of_mem_entitiesSpot? asked
    rfl

/-- Whatever is generated, with selected roots or without, its nodes make up trees with nothing
missing. -/
theorem integral_of_generate {texts : List String} {reading : Settings}
    (read : Schema.ofDocuments texts reading = .ok schema) {output : Output}
    (ok : generate settings schema selected = .ok output) : output.Integral := by
  have wellFormed := Schema.wellFormed_of_ofDocuments read
  obtain ⟨openings, workspace, carried, nodes⟩ := carried_of_generate wellFormed ok
  obtain ⟨others, paths, standing⟩ := carried.standing
  apply standing.complete.integral wellFormed _ nodes
  intro root member kind
  exact depth_of_mem_plannedSpots (standing.mem_spots.mpr ⟨root, member, kind, rfl⟩)

def variedDocument : String :=
  "type Query \x7b show: Show \x7d
  interface Show \x7b title(length: Int): String sequel: Show \x7d
  type Movie implements Show @key(fields: \"title\") \x7b title(length: Int): String sequel: Show \x7d"

theorem integral_variedDocument : ∃ schema output,
    Schema.ofDocuments [variedDocument] .standard = .ok schema ∧
      generate .standard schema none = .ok output ∧
      (∀ kind : ProjectionKind, ∃ node ∈ output.projections, node.kind = kind) ∧
      output.Integral := by
  obtain ⟨schema, output, read, ok, kinds⟩ := exists_generated variedDocument
    (fun _ output => [.root, .sub, .fragment, .argumentWrapper].all fun kind =>
      output.projections.any (·.kind == kind)) (by decide +kernel)
  refine ⟨schema, output, read, ok, ?_, integral_of_generate read ok⟩
  intro kind
  have listed : kind ∈ [ProjectionKind.root, .sub, .fragment, .argumentWrapper] := by
    cases kind <;> decide
  obtain ⟨node, member, same⟩ := List.any_eq_true.mp (List.all_eq_true.mp kinds kind listed)
  exact ⟨node, member, eq_of_beq same⟩

end Generation
end GraphQLProjections
