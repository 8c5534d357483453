import GraphQLProjections.Proofs.Generation.Ownership

/-! Which projections a run opens, told from its root projections alone: those at the paths that a
root owns all the way down. -/
namespace GraphQLProjections

open Generation

/-- A root is placed, and so is what a placed spot requests one segment further, if the root owns
the path there. -/
inductive Traversal.Placed (traversal : Traversal) (roots : List Spot) (root : Spot) : Spot → Prop
  | root (planned : root ∈ roots) : Placed traversal roots root root
  | next {above request : Spot} {segment : String} (placed : Placed traversal roots root above)
      (first : (traversal.requests above).find? (·.path == above.path ++ [segment]) = some request)
      (owned : traversal.Owns roots (above.path ++ [segment]) root request) :
      Placed traversal roots root request

variable {traversal : Traversal} {openings : List Opening} {others : List (List String × String)}
  {paths : List (List String)} {spots : List Spot} {workspace : Workspace}

namespace Standing

variable (standing : Standing traversal openings others paths spots workspace)
  (short : ∀ spot ∈ spots, spot.path.length ≤ 2)
include standing short

theorem placed_of_lineage {root opening : Opening} {segments : List String}
    (planted : root ∈ openings) (isRoot : root.kind = .root)
    (lineage : root.Lineage traversal openings segments opening) :
    traversal.Placed spots root.toSpot opening.toSpot := by
  induction lineage with
  | root => exact .root (standing.mem_spots.mpr ⟨root, planted, isRoot, rfl⟩)
  | step above member earlier kind tree path first ih =>
    have owned := standing.owns short planted isRoot
      (above.step member earlier kind tree path first) kind
    exact ih.next (path ▸ first) (path ▸ owned)

theorem exists_opening_of_placed (wellFormed : traversal.schema.WellFormed) {root spot : Spot}
    (placed : traversal.Placed spots root spot) : ∃ opening ∈ openings, opening.toSpot = spot := by
  induction placed with
  | root planned =>
    obtain ⟨opening, member, -, same⟩ := standing.mem_spots.mp planned
    exact ⟨opening, member, same⟩
  | @next above request segment _ first owned ih =>
    obtain ⟨opening, member, rfl⟩ := ih
    have path : request.path = opening.path ++ [segment] := by simpa using List.find?_some first
    obtain ⟨target, held, at', kind, -⟩ :=
      standing.complete.target wellFormed member (List.mem_of_find?_eq_some first)
    obtain ⟨planted, inside, isRoot, -, segments, lineage⟩ := standing.complete.lineage held
    -- Who opened the projection at the path of the request owns the path, and a path has one owner.
    have owned' := standing.owns short inside isRoot lineage kind
    rw [at', path] at owned'
    exact ⟨target, held, (owned'.unique owned).2⟩

/-- A spot has its projection exactly if it is placed below some root. -/
theorem exists_opening_iff_placed (wellFormed : traversal.schema.WellFormed) {spot : Spot} :
    (∃ opening ∈ openings, opening.toSpot = spot) ↔
      ∃ root, traversal.Placed spots root spot := by
  constructor
  · rintro ⟨opening, member, rfl⟩
    obtain ⟨root, planted, isRoot, -, segments, lineage⟩ := standing.complete.lineage member
    exact ⟨root.toSpot, standing.placed_of_lineage short planted isRoot lineage⟩
  · rintro ⟨root, placed⟩
    exact standing.exists_opening_of_placed short wellFormed placed

end Standing
end GraphQLProjections
