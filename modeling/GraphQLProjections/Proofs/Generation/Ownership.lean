import GraphQLProjections.Proofs.Generation.Run

/-! Who owns a projection. The tree of each root has a spot at every path that it asks for, as if there
were no other root; where two roots have one at a common path, the projection is that of the first. -/
namespace GraphQLProjections

open Generation

namespace Traversal

variable (traversal : Traversal)

def below? : Spot → List String → Option Spot
  | spot, [] => some spot
  | spot, segment :: rest =>
    ((traversal.requests spot).find? (·.path == spot.path ++ [segment])).bind (below? · rest)

def StandsAt (root : Spot) (path : List String) (spot : Spot) : Prop :=
  ∃ segment rest, path = root.path ++ segment :: rest ∧
    traversal.below? root (segment :: rest) = some spot

/-- Of the roots that have a spot at a path, this is the first. -/
def Owns (roots : List Spot) (path : List String) (root spot : Spot) : Prop :=
  traversal.StandsAt root path spot ∧ ∃ before after, roots = before ++ root :: after ∧
    ∀ other ∈ before, ∀ spot, ¬traversal.StandsAt other path spot

variable {traversal}

theorem below?_append (spot : Spot) (segments rest : List String) :
    traversal.below? spot (segments ++ rest) =
      (traversal.below? spot segments).bind (traversal.below? · rest) := by
  induction segments generalizing spot with
  | nil => rfl
  | cons segment others ih => simp only [List.cons_append, below?, Option.bind_assoc, ih]

/-- What a spot of a tree requests right below it stands in that tree. -/
theorem standsAt_below {root spot request : Spot} {segments : List String} {segment : String}
    (below : traversal.below? root segments = some spot) (path : spot.path = root.path ++ segments)
    (first : (traversal.requests spot).find? (·.path == spot.path ++ [segment]) = some request) :
    traversal.below? root (segments ++ [segment]) = some request ∧
      traversal.StandsAt root (spot.path ++ [segment]) request := by
  have here : traversal.below? root (segments ++ [segment]) = some request := by
    rw [below?_append, below, Option.bind_some, Traversal.below?, first]
    rfl
  obtain ⟨front, rest, split⟩ : ∃ front rest, segments ++ [segment] = front :: rest :=
    List.exists_cons_of_ne_nil (by simp)
  exact ⟨here, front, rest, by rw [← split, path, List.append_assoc], split ▸ here⟩

theorem StandsAt.unique {root spot spot' : Spot} {path : List String}
    (stands : traversal.StandsAt root path spot) (stands' : traversal.StandsAt root path spot') :
    spot = spot' := by
  obtain ⟨segment, rest, path, leads⟩ := stands
  obtain ⟨segment', rest', path', leads'⟩ := stands'
  have same := List.append_cancel_left (path.symm.trans path')
  rw [← same, leads] at leads'
  exact Option.some.inj leads'

theorem Owns.unique {roots : List Spot} {path : List String} {root root' spot spot' : Spot}
    (owns : traversal.Owns roots path root spot) (owns' : traversal.Owns roots path root' spot') :
    root = root' ∧ spot = spot' := by
  obtain ⟨stands, before, after, split, free⟩ := owns
  obtain ⟨stands', before', after', split', free'⟩ := owns'
  have same : root = root' := by
    rcases List.append_eq_append_iff.mp (split.symm.trans split') with
      ⟨more, eq, eq'⟩ | ⟨more, eq, eq'⟩
    · cases more with
      | nil => exact (List.cons.inj eq').1
      | cons first more =>
        obtain ⟨rfl, -⟩ := List.cons.inj eq'
        exact absurd stands (free' root (eq ▸ by simp) spot)
    · cases more with
      | nil => exact (List.cons.inj eq').1.symm
      | cons first more =>
        obtain ⟨rfl, -⟩ := List.cons.inj eq'
        exact absurd stands' (free root' (eq ▸ by simp) spot')
  subst same
  exact ⟨rfl, stands.unique stands'⟩

end Traversal

/-- An opening with all that lie between it and the root of its tree. -/
inductive Opening.Lineage (traversal : Traversal) (openings : List Opening) (root : Opening) :
    List String → Opening → Prop
  | root : Lineage traversal openings root [] root
  | step {segments : List String} {segment : String} {parent opening : Opening}
      (above : Lineage traversal openings root segments parent) (member : opening ∈ openings)
      (earlier : parent.id < opening.id) (kind : opening.kind ≠ .root)
      (tree : opening.root = parent.root) (path : opening.path = parent.path ++ [segment])
      (first : (traversal.requests parent.toSpot).find? (·.path == opening.path) =
        some opening.toSpot) : Lineage traversal openings root (segments ++ [segment]) opening

namespace Opening.Lineage

variable {traversal : Traversal} {openings : List Opening} {root opening : Opening}
  {segments : List String}

theorem path (lineage : Lineage traversal openings root segments opening) :
    opening.path = root.path ++ segments := by
  induction lineage with
  | root => simp
  | step _ _ _ _ _ path _ ih => rw [path, ih, List.append_assoc]

theorem below? (lineage : Lineage traversal openings root segments opening) :
    traversal.below? root.toSpot segments = some opening.toSpot := by
  induction lineage with
  | root => rfl
  | step _ _ _ _ _ path first ih =>
    rw [Traversal.below?_append, ih, Option.bind_some, Traversal.below?, ← path, first]
    rfl

theorem id_le (lineage : Lineage traversal openings root segments opening) :
    root.id ≤ opening.id := by
  induction lineage with
  | root => exact Nat.le_refl _
  | step _ _ earlier _ _ _ _ ih => exact Nat.le_trans ih (Nat.le_of_lt earlier)

theorem member (lineage : Lineage traversal openings root segments opening)
    (planted : root ∈ openings) : opening ∈ openings := by
  cases lineage with
  | root => exact planted
  | step _ member => exact member

theorem segments_ne_nil (lineage : Lineage traversal openings root segments opening)
    (isRoot : root.kind = .root) (kind : opening.kind ≠ .root) : segments ≠ [] := by
  cases lineage with
  | root => exact absurd isRoot kind
  | step => simp

/-- At every path in between there is a later opening than the root. -/
theorem between (lineage : Lineage traversal openings root segments opening)
    {front back : List String} (split : segments = front ++ back) (proper : front ≠ []) :
    ∃ middle ∈ openings, middle.kind ≠ .root ∧ middle.path = root.path ++ front ∧
      root.id < middle.id := by
  induction lineage generalizing back with
  | root => exact absurd (List.append_eq_nil_iff.mp split.symm).1 proper
  | @step segments segment parent opening above member earlier kind tree path first ih =>
    rcases List.eq_nil_or_concat back with rfl | ⟨back, last, rfl⟩
    · rw [List.append_nil] at split
      refine ⟨opening, member, kind, ?_, ?_⟩
      · rw [path, above.path, List.append_assoc, split]
      · exact Nat.lt_of_le_of_lt above.id_le earlier
    · rw [List.concat_eq_append, ← List.append_assoc] at split
      exact ih (List.append_inj' split rfl).1

end Opening.Lineage

variable {traversal : Traversal} {openings : List Opening} {others : List (List String × String)}
  {paths : List (List String)} {spots : List Spot} {workspace : Workspace}

/-- Every opening descends from the root of its tree. -/
theorem Faithful.lineage (faithful : Faithful traversal openings others workspace)
    {opening : Opening} (member : opening ∈ openings) :
    ∃ root ∈ openings, root.kind = .root ∧ opening.root = root.id ∧
      ∃ segments, root.Lineage traversal openings segments opening := by
  induction id : opening.id using Nat.strong_induction_on generalizing opening with
  | h number ih =>
    cases faithful.derived opening member with
    | root kind _ root _ => exact ⟨opening, member, kind, root, [], .root⟩
    | below parent member' earlier kind _ tree path first =>
      obtain ⟨root, planted, isRoot, same, segments, above⟩ :=
        ih parent.id (id ▸ earlier) member' rfl
      obtain ⟨segment, path⟩ := path
      exact ⟨root, planted, isRoot, tree.trans same, segments ++ [segment],
        above.step member earlier kind tree path first⟩

theorem Faithful.ascending (faithful : Faithful traversal openings others workspace) :
    openings.Pairwise fun opening other => opening.id < other.id := by
  apply List.pairwise_iff_getElem.mpr
  intro index later inside inside' before
  rw [faithful.numbered index _ (List.getElem?_eq_getElem inside),
    faithful.numbered later _ (List.getElem?_eq_getElem inside')]
  exact before

namespace Standing

variable (standing : Standing traversal openings others paths spots workspace)
include standing

/-- What is there before a root requests nothing on the way down the tree of that root. -/
theorem path_ne_of_requested {root opening above : Opening} (front : List String)
    {back : List String} (planted : root ∈ openings) (isRoot : root.kind = .root)
    (lineage : root.Lineage traversal openings (front ++ back) opening) (proper : front ≠ [])
    (known : above ∈ openings) (before : above.id < root.id) {request : Spot}
    (requested : request ∈ traversal.requests above.toSpot) : request.path ≠ root.path ++ front := by
  intro same
  obtain ⟨target, held, ahead, path, below⟩ :=
    standing.settled root planted isRoot above known before request requested
  obtain ⟨middle, inside, below', path', later⟩ := lineage.between rfl proper
  rw [standing.complete.eq_of_place held inside (path.trans (same.trans path'.symm))
    (iff_of_false below below')] at ahead
  exact Nat.lt_asymm ahead later

/-- What a root of one segment requests is an opening before any later root. -/
theorem exists_opening_of_request {earlier root : Opening} (planted : earlier ∈ openings)
    (wasRoot : earlier.kind = .root) (short : earlier.path.length = 1)
    (before : earlier.id < root.id) (planted' : root ∈ openings) (isRoot : root.kind = .root)
    {segment : String} {request : Spot}
    (first : (traversal.requests earlier.toSpot).find?
      (·.path == earlier.path ++ [segment]) = some request) :
    ∃ target ∈ openings, target.id < root.id ∧ target.toSpot = request := by
  have complete := standing.complete
  have at' : request.path = earlier.path ++ [segment] := by simpa using List.find?_some first
  obtain ⟨target, held, ahead, path, below⟩ := standing.settled root planted' isRoot earlier planted
    before request (List.mem_of_find?_eq_some first)
  obtain ⟨parent, inside, same, -, -, first', which⟩ :=
    complete.parent_at planted held below (path.trans at')
  have isEarlier : parent = earlier := by
    apply which.resolve_right
    intro other
    have far := complete.two_le_length inside fun root => other.mp root wasRoot
    rw [same, short] at far
    omega
  rw [isEarlier, path, at', first] at first'
  exact ⟨target, held, ahead, (Option.some.inj first').symm⟩

variable (short : ∀ spot ∈ spots, spot.path.length ≤ 2)
include short

theorem length_eq_one_or_two {root : Opening} (planted : root ∈ openings)
    (isRoot : root.kind = .root) : root.path.length = 1 ∨ root.path.length = 2 := by
  have long := short _ (standing.mem_spots.mpr ⟨root, planted, isRoot, rfl⟩)
  have some := List.length_pos_of_ne_nil (standing.complete.grounded root planted).path.1
  omega

/-- No earlier root has a spot where the tree of a root has a projection. -/
theorem not_standsAt {earlier root opening : Opening} {segments : List String} {spot : Spot}
    (planted : earlier ∈ openings) (wasRoot : earlier.kind = .root) (before : earlier.id < root.id)
    (planted' : root ∈ openings) (isRoot : root.kind = .root)
    (lineage : root.Lineage traversal openings segments opening) (kind : opening.kind ≠ .root) :
    ¬traversal.StandsAt earlier.toSpot opening.path spot := by
  rintro ⟨segment, rest, path, leads⟩
  have both := path.symm.trans lineage.path
  have differs : earlier.path.length ≠ root.path.length := by
    intro same
    have path := (List.append_inj both same).1
    have one := standing.complete.eq_of_place planted planted' path (iff_of_true wasRoot isRoot)
    exact Nat.lt_irrefl _ (one ▸ before)
  obtain ⟨request, first, leads⟩ := Option.bind_eq_some_iff.mp leads
  have at' : request.path = earlier.path ++ [segment] := by simpa using List.find?_some first
  rcases standing.length_eq_one_or_two short planted wasRoot with one | two
  · -- The earlier root asks for a spot at the path of this one, and that spot for one below.
    have two : root.path.length = 2 :=
      (standing.length_eq_one_or_two short planted' isRoot).resolve_left (one ▸ differs.symm)
    obtain ⟨front, only⟩ := List.length_eq_one_iff.mp one
    obtain ⟨front', last, pair⟩ := List.length_eq_two.mp two
    obtain ⟨rfl, rfl, rfl⟩ : front = front' ∧ segment = last ∧ rest = segments := by
      simpa [only, pair] using both
    obtain ⟨next, rest, rfl⟩ := List.exists_cons_of_ne_nil (lineage.segments_ne_nil isRoot kind)
    obtain ⟨target, held, ahead, rfl⟩ :=
      standing.exists_opening_of_request planted wasRoot one before planted' isRoot first
    obtain ⟨further, first', -⟩ := Option.bind_eq_some_iff.mp leads
    have below : further.path = target.path ++ [next] := by simpa using List.find?_some first'
    apply standing.path_ne_of_requested [next] planted' isRoot lineage (by simp) held ahead
      (List.mem_of_find?_eq_some first')
    rw [below, at', only, pair]
    rfl
  · -- The earlier root asks for a spot two segments below this one.
    have one := (standing.length_eq_one_or_two short planted' isRoot).resolve_right
      (two ▸ differs.symm)
    obtain ⟨front, only⟩ := List.length_eq_one_iff.mp one
    obtain ⟨front', last, pair⟩ := List.length_eq_two.mp two
    obtain ⟨rfl, rfl⟩ : front' = front ∧ last :: segment :: rest = segments := by
      simpa [only, pair] using both
    apply standing.path_ne_of_requested [last, segment] planted' isRoot lineage (by simp)
      planted before (List.mem_of_find?_eq_some first)
    rw [at', only, pair]
    rfl

/-- The owner of a path is the root of the projection there. -/
theorem owns {root opening : Opening} {segments : List String} (planted : root ∈ openings)
    (isRoot : root.kind = .root) (lineage : root.Lineage traversal openings segments opening)
    (kind : opening.kind ≠ .root) :
    traversal.Owns spots opening.path root.toSpot opening.toSpot := by
  constructor
  · obtain ⟨segment, rest, rfl⟩ := List.exists_cons_of_ne_nil (lineage.segments_ne_nil isRoot kind)
    exact ⟨segment, rest, lineage.path, lineage.below?⟩
  · have inside : root ∈ openings.filter (·.kind == .root) :=
      List.mem_filter.mpr ⟨planted, by simp [isRoot]⟩
    obtain ⟨before, after, split⟩ := List.append_of_mem inside
    refine ⟨before.map (·.toSpot), after.map (·.toSpot), ?_, ?_⟩
    · rw [← standing.roots, split, List.map_append, List.map_cons]
    · have ordered := standing.complete.ascending.filter (·.kind == .root)
      rw [split] at ordered
      intro other member spot
      obtain ⟨earlier, inside', rfl⟩ := List.mem_map.mp member
      have listed : earlier ∈ openings.filter (·.kind == .root) :=
        split ▸ List.mem_append_left _ inside'
      obtain ⟨known, wasRoot⟩ := List.mem_filter.mp listed
      exact standing.not_standsAt short known (eq_of_beq wasRoot)
        ((List.pairwise_append.mp ordered).2.2 earlier inside' root List.mem_cons_self) planted isRoot
        lineage kind

end Standing
end GraphQLProjections
