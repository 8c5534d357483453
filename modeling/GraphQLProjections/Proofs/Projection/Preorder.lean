import GraphQLProjections.Proofs.Projection.Growth
import GraphQLProjections.Proofs.Projection.Roots

/-! The order of discovery. A projection is opened before all that is below it, and what is below
one of its links is opened before the next link is made. So the numbers that a traversal gives out
are those of its tree in pre-order, whatever was in the workspace before. -/
namespace GraphQLProjections

open Building Relation

/-! ### Trees in pre-order -/

def SelectionMethod.targets (method : SelectionMethod) : List NodeId :=
  (method.link.map (·.target)).toList

def ProjectionNode.targets (node : ProjectionNode) : List NodeId := node.links.map (·.target)

variable {α β : Type} {root : NodeId} {parent : Option NodeId} {forest later : Forest}
  {first middle last id other : Nat} {heads kids targets : List NodeId}

def Forest.ParentOf (forest : Forest) (parent child : NodeId) : Prop :=
  ∃ node, forest.node? child = some node ∧ node.parent = some parent

abbrev Forest.AncestorOf (forest : Forest) : NodeId → NodeId → Prop := TransGen forest.ParentOf

/-- The projections from a root on are its tree in pre-order. -/
structure Forest.PreOrdered (forest : Forest) (root : NodeId) : Prop where
  /-- From the root on, every number has its projection, which is in the tree of the root. -/
  filled : ∀ id, root ≤ id → id < forest.size →
    ∃ node, forest.node? id = some node ∧ node.id = id ∧ node.root = root
  /-- All numbers after that of the root are those of its descendants. -/
  whole : ∀ other, forest.AncestorOf root other ↔ root < other ∧ other < forest.size
  /-- A projection is followed by all its descendants before any other projection comes. -/
  followed : ∀ id, root ≤ id → id < forest.size → ∃ last ≤ forest.size,
    ∀ other, forest.AncestorOf id other ↔ id < other ∧ other < last
  /-- Children come in the order in which their projection first links to them. -/
  ordered : ∀ id node, root ≤ id → forest.node? id = some node →
    ∀ child other, forest.ParentOf id child → forest.ParentOf id other → child ∈ node.targets ∧
      (child < other ↔ node.targets.idxOf child < node.targets.idxOf other)

/-- A projection first links to a kid after it has linked to smaller numbers only. -/
def Introduces (targets kids : List NodeId) : Prop :=
  ∀ kid ∈ kids, ∃ before after, targets = before ++ kid :: after ∧ ∀ target ∈ before, target < kid

namespace Introduces

variable {kid : NodeId} {more : List NodeId}

theorem mem (introduces : Introduces targets kids) (member : kid ∈ kids) : kid ∈ targets := by
  obtain ⟨before, after, rfl, -⟩ := introduces kid member
  simp

/-- What is linked to before a kid is smaller. -/
theorem lt_of_idxOf_lt (introduces : Introduces targets kids) (member : kid ∈ kids)
    (earlier : targets.idxOf other < targets.idxOf kid) : other < kid := by
  obtain ⟨before, after, rfl, smaller⟩ := introduces kid member
  have absent : kid ∉ before := fun inside => lt_irrefl kid (smaller kid inside)
  rw [List.idxOf_append_of_notMem absent, List.idxOf_cons_self, Nat.add_zero] at earlier
  refine smaller other (by_contra fun outside => ?_)
  rw [List.idxOf_append_of_notMem outside] at earlier
  exact absurd earlier (Nat.not_lt.mpr (Nat.le_add_right _ _))

theorem lt_iff (introduces : Introduces targets kids) (member : kid ∈ kids)
    (member' : other ∈ kids) : kid < other ↔ targets.idxOf kid < targets.idxOf other := by
  refine ⟨fun smaller => ?_, introduces.lt_of_idxOf_lt member'⟩
  rcases Nat.lt_trichotomy (targets.idxOf kid) (targets.idxOf other) with earlier | same | later
  · exact earlier
  · exact absurd smaller (Nat.not_lt.mpr ((List.idxOf_inj (introduces.mem member)).mp same).ge)
  · exact absurd smaller (Nat.not_lt.mpr (introduces.lt_of_idxOf_lt member later).le)

/-- What one part introduces and then another, both do, if all links of the first are to what was
there when the second was made. -/
theorem append (introduces : Introduces targets kids) (introduces' : Introduces more heads)
    (smaller : ∀ target ∈ targets, ∀ head ∈ heads, target < head) :
    Introduces (targets ++ more) (kids ++ heads) := by
  intro kid member
  rcases List.mem_append.mp member with member | member
  · obtain ⟨before, after, rfl, below⟩ := introduces kid member
    exact ⟨before, after ++ more, by simp, below⟩
  · obtain ⟨before, after, rfl, below⟩ := introduces' kid member
    refine ⟨targets ++ before, after, by simp, fun target inside => ?_⟩
    rcases List.mem_append.mp inside with inside | inside
    · exact smaller target inside kid member
    · exact below target inside

end Introduces

/-- From one number up to another stand the trees of some heads, one after the other, each in
pre-order. -/
inductive Forest.Rows (forest : Forest) (root : NodeId) :
    Option NodeId → Nat → Nat → List NodeId → Prop
  | nil {parent : Option NodeId} {first : Nat} : Rows forest root parent first first []
  | cons {parent : Option NodeId} {first middle last : Nat} {node : ProjectionNode}
      {kids heads : List NodeId} (held : forest.node? first = some node)
      (numbered : node.id = first) (tree : node.root = root) (linked : node.parent = parent)
      (introduces : Introduces node.targets kids)
      (inner : Rows forest root (some first) (first + 1) middle kids)
      (rest : Rows forest root parent middle last heads) :
      Rows forest root parent first last (first :: heads)

namespace Forest.Rows

theorem le (rows : forest.Rows root parent first last heads) : first ≤ last := by
  induction rows with
  | nil => exact le_rfl
  | cons _ _ _ _ _ _ _ inside after => exact (Nat.le_succ _).trans (inside.trans after)

theorem append (rows : forest.Rows root parent first middle heads)
    (more : forest.Rows root parent middle last kids) :
    forest.Rows root parent first last (heads ++ kids) := by
  induction rows with
  | nil => exact more
  | cons held numbered tree linked introduces inner _ _ after =>
    exact .cons held numbered tree linked introduces inner (after more)

theorem congr (rows : forest.Rows root parent first last heads)
    (same : ∀ id, first ≤ id → id < last → later.node? id = forest.node? id) :
    later.Rows root parent first last heads := by
  induction rows with
  | nil => exact .nil
  | cons held numbered tree linked introduces inner rest inside after =>
    have inner_le := inner.le
    have rest_le := rest.le
    refine .cons ((same _ le_rfl (by omega)).trans held) numbered tree linked introduces
      (inside fun id low high => same id (by omega) (by omega))
      (after fun id low high => same id (by omega) (by omega))

theorem bounds_of_mem (rows : forest.Rows root parent first last heads) {head : Nat}
    (member : head ∈ heads) : first ≤ head ∧ head < last := by
  induction rows with
  | nil => cases member
  | cons _ _ _ _ _ inner rest _ after =>
    have inner_le := inner.le
    have rest_le := rest.le
    rcases List.mem_cons.mp member with rfl | member
    · omega
    · have := after member
      omega

/-- A projection in rows is one of their heads, below the parent of all, or else has its own parent
in them. -/
theorem parent_cases (rows : forest.Rows root parent first last heads) (low : first ≤ id)
    (high : id < last) : ∃ node, forest.node? id = some node ∧ (node.parent = parent ∧ id ∈ heads ∨
      ∃ above : Nat, node.parent = some above ∧ first ≤ above ∧ above < id) := by
  induction rows generalizing id with
  | nil => exact absurd low (Nat.not_le.mpr high)
  | @cons _ first middle last node kids heads held _ _ linked _ inner rest inside after =>
    have below := inner.le
    rcases Nat.lt_or_ge id middle with early | late
    · rcases Nat.eq_or_lt_of_le low with rfl | later
      · exact ⟨node, held, .inl ⟨linked, List.mem_cons_self⟩⟩
      · obtain ⟨found, known, ⟨above, -⟩ | ⟨above, above_eq, begins, ends⟩⟩ := inside later early
        · exact ⟨found, known, .inr ⟨first, above, le_rfl, later⟩⟩
        · exact ⟨found, known, .inr ⟨above, above_eq, by omega, ends⟩⟩
    · obtain ⟨found, known, ⟨above, member⟩ | ⟨above, above_eq, begins, ends⟩⟩ := after late high
      · exact ⟨found, known, .inl ⟨above, List.mem_cons_of_mem _ member⟩⟩
      · exact ⟨found, known, .inr ⟨above, above_eq, by omega, ends⟩⟩

end Forest.Rows

/-- The rows below one projection, and that nothing after them has its parent in them. -/
structure Forest.Cell (forest : Forest) (root id stop last : Nat) (node : ProjectionNode)
    (kids : List NodeId) : Prop where
  held : forest.node? id = some node
  numbered : node.id = id
  tree : node.root = root
  introduces : Introduces node.targets kids
  inner : forest.Rows root (some id) (id + 1) stop kids
  within : stop ≤ last
  apart : ∀ other : Nat, stop ≤ other → other < last → ∀ above : Nat, forest.ParentOf above other →
    above < id ∨ stop ≤ above

/-- Every projection in rows has its own rows below it. -/
theorem Forest.Rows.cell (rows : forest.Rows root parent first last heads)
    (outside : ∀ above : Nat, parent = some above → above < first) (low : first ≤ id)
    (high : id < last) : ∃ stop node kids, forest.Cell root id stop last node kids := by
  -- What comes after the first tree of rows has its parent before them all or after that tree.
  have apart {parent : Option NodeId} {first middle last : Nat} {heads : List NodeId}
      (rest : forest.Rows root parent middle last heads)
      (outside : ∀ above : Nat, parent = some above → above < first) {other : Nat}
      (late : middle ≤ other) (high : other < last) {above : Nat}
      (linked : forest.ParentOf above other) : above < first ∨ middle ≤ above := by
    obtain ⟨node, held, linked⟩ := linked
    obtain ⟨_, known, ⟨above', -⟩ | ⟨other', above', later, -⟩⟩ := rest.parent_cases late high
    all_goals obtain rfl := Option.some.inj (held.symm.trans known)
    · exact .inl (outside above (above'.symm.trans linked))
    · obtain rfl := Option.some.inj (linked.symm.trans above')
      exact .inr later
  induction rows generalizing id with
  | nil => exact absurd low (Nat.not_le.mpr high)
  | @cons parent first middle last node kids heads held numbered tree _ introduces inner rest
      inside after =>
    have below := inner.le
    have past := rest.le
    rcases Nat.lt_or_ge id middle with early | late
    · rcases Nat.eq_or_lt_of_le low with rfl | later
      · exact ⟨middle, node, kids, held, numbered, tree, introduces, inner, past,
          fun other late high above linked => apart rest outside late high linked⟩
      · obtain ⟨stop, found, inner', cell⟩ :=
          inside (by rintro _ ⟨⟩; exact Nat.lt_succ_self _) later early
        refine ⟨stop, found, inner', { cell with
          within := cell.within.trans past, apart := fun other late high above linked => ?_ }⟩
        rcases Nat.lt_or_ge other middle with between | beyond
        · exact cell.apart other late between above linked
        · have within := cell.within
          rcases apart rest outside beyond high linked with before | behind
          · exact .inl (by omega)
          · exact .inr (by omega)
    · exact after (fun above linked => (outside above linked).trans (by omega)) late high

/-- Names lead to what was opened, and parents were opened before their children. -/
structure Forest.Ordered (forest : Forest) : Prop where
  ids : ∀ (name : String) (id : Nat), forest.id? name = some id → id < forest.size
  parents : ∀ above id : Nat, forest.ParentOf above id → above < id

namespace Forest.Cell

variable {stop : Nat} {node : ProjectionNode}

/-- The descendants of a projection are those in the rows below it. -/
theorem ancestorOf_iff (cell : forest.Cell root id stop forest.size node kids)
    (ordered : forest.Ordered) : forest.AncestorOf id other ↔ id < other ∧ other < stop := by
  have start := cell.inner.le
  constructor
  · intro below
    have step {above other : Nat} (linked : forest.ParentOf above other) (low : id ≤ above)
        (high : above < stop) : id < other ∧ other < stop := by
      have earlier := ordered.parents above other linked
      refine ⟨by omega, Nat.lt_of_not_le fun beyond => ?_⟩
      have opened : other < forest.size := Forest.lt_size_of_node? linked.choose_spec.1
      rcases cell.apart other beyond opened above linked with before | behind <;> omega
    induction below with
    | single linked => exact step linked le_rfl (by omega)
    | tail _ linked ih => exact step linked ih.1.le ih.2
  · rintro ⟨low, high⟩
    induction other using Nat.strong_induction_on with
    | _ other ih =>
      obtain ⟨found, held, ⟨linked, -⟩ | ⟨above, linked, later, earlier⟩⟩ :=
        cell.inner.parent_cases low high
      · exact .single ⟨found, held, linked⟩
      · exact .tail (ih above earlier later (by omega)) ⟨found, held, linked⟩

/-- The children of a projection are the heads of the rows below it. -/
theorem mem_kids (cell : forest.Cell root id stop forest.size node kids)
    (ordered : forest.Ordered) (linked : forest.ParentOf id other) : other ∈ kids := by
  obtain ⟨low, high⟩ := (cell.ancestorOf_iff ordered).mp (.single linked)
  obtain ⟨found, held, linked⟩ := linked
  obtain ⟨_, known, ⟨-, member⟩ | ⟨above, linked', later, -⟩⟩ := cell.inner.parent_cases low high
  · exact member
  · obtain rfl := Option.some.inj (held.symm.trans known)
    obtain rfl := Option.some.inj (linked.symm.trans linked')
    exact absurd later (Nat.not_succ_le_self _)

end Forest.Cell

/-- A tree that reaches to the end of the forest is in pre-order. -/
theorem Forest.Rows.preOrdered (rows : forest.Rows root none root forest.size [root])
    (ordered : forest.Ordered) : forest.PreOrdered root := by
  have cells {id : NodeId} (low : root ≤ id) (high : id < forest.size) := rows.cell nofun low high
  refine ⟨fun id low high => ?_, fun other => ?_, fun id low high => ?_,
    fun id node low held child other linked linked' => ?_⟩
  · obtain ⟨stop, node, kids, cell⟩ := cells low high
    exact ⟨node, cell.held, cell.numbered, cell.tree⟩
  · cases rows with
    | cons held numbered tree _ introduces inner rest =>
      cases rest
      have cell : forest.Cell root root forest.size forest.size _ _ :=
        ⟨held, numbered, tree, introduces, inner, le_rfl, fun _ late high => by omega⟩
      exact cell.ancestorOf_iff ordered
  · obtain ⟨stop, node, kids, cell⟩ := cells low high
    exact ⟨stop, cell.within, fun other => cell.ancestorOf_iff ordered⟩
  · obtain ⟨stop, found, kids, cell⟩ := cells low (lt_size_of_node? held)
    obtain rfl := Option.some.inj (held.symm.trans cell.held)
    have member := cell.mem_kids ordered linked
    have member' := cell.mem_kids ordered linked'
    exact ⟨cell.introduces.mem member, cell.introduces.lt_iff member member'⟩

/-! ### Steps -/

namespace Forest.Ordered

theorem empty : Forest.empty.Ordered :=
  ⟨by simp [Forest.empty, id?], fun _ _ ⟨_, held, _⟩ => by simp [Forest.empty, node?] at held⟩

theorem opened (ordered : forest.Ordered) (name : String) : (forest.opened name).Ordered where
  ids other id held := by
    rw [id?_opened] at held
    split at held
    · obtain rfl := Option.some.inj held
      simp
    · have := ordered.ids other id held
      simp only [size_opened]
      omega
  parents above id linked := by
    simp only [ParentOf, node?_opened] at linked
    exact ordered.parents above id linked

theorem filled (ordered : forest.Ordered) {node : ProjectionNode}
    (earlier : ∀ above, node.parent = some above → above < node.id) :
    (forest.filled node).Ordered where
  ids name id held := by
    rw [size_filled]
    exact ordered.ids name id held
  parents above id := by
    rintro ⟨found, held, linked⟩
    rw [node?_filled] at held
    split at held
    next here =>
      obtain rfl := Option.some.inj held
      exact here.1 ▸ earlier above linked
    next => exact ordered.parents above id ⟨found, held, linked⟩

end Forest.Ordered

/-- What was there before stays as it is, and what is new stands in rows below a parent, in the
order in which it is linked to. -/
structure Forest.Numbered (root : NodeId) (parent : Option NodeId) (forest later : Forest)
    (targets : List NodeId) : Prop where
  ordered : later.Ordered
  kept : ∀ id : Nat, id < forest.size → later.node? id = forest.node? id
  rows : ∃ heads, later.Rows root parent forest.size later.size heads ∧ Introduces targets heads
  inside : ∀ target : Nat, target ∈ targets → target < later.size

namespace Forest.Numbered

theorem size_le (numbered : forest.Numbered root parent later targets) :
    forest.size ≤ later.size := by
  obtain ⟨heads, rows, -⟩ := numbered.rows
  exact rows.le

theorem refl (ordered : forest.Ordered) (inside : ∀ target ∈ targets, target < forest.size) :
    forest.Numbered root parent forest targets :=
  ⟨ordered, fun _ _ => rfl, ⟨[], .nil, nofun⟩, inside⟩

theorem trans {before : Forest} {more : List NodeId}
    (numbered : before.Numbered root parent forest targets)
    (numbered' : forest.Numbered root parent later more) :
    before.Numbered root parent later (targets ++ more) := by
  have grown := numbered.size_le
  have grown' := numbered'.size_le
  obtain ⟨heads, rows, introduces⟩ := numbered.rows
  obtain ⟨heads', rows', introduces'⟩ := numbered'.rows
  refine ⟨numbered'.ordered, fun id old => ?_, ⟨heads ++ heads', ?_, ?_⟩, ?_⟩
  · exact (numbered'.kept id (old.trans_le grown)).trans (numbered.kept id old)
  · exact (rows.congr fun id _ high => numbered'.kept id high).append rows'
  · exact introduces.append introduces' fun target linked head member =>
      (numbered.inside target linked).trans_le (rows'.bounds_of_mem member).1
  · refine List.forall_mem_append.mpr ⟨fun target linked => ?_, numbered'.inside⟩
    exact (numbered.inside target linked).trans_le grown'

end Forest.Numbered

/-- A step numbers what it opens below a parent that is opened already; if it fails, the forest is
at least ordered. -/
def Numbers (root : NodeId) (parent : Nat) (step : Building α) (targets : α → List NodeId) :
    Prop :=
  ∀ workspace : Workspace, workspace.forest.Ordered → parent < workspace.forest.size →
    Ensures step workspace (fun _ later => later.forest.Ordered) fun value later =>
      workspace.forest.Numbered root (some parent) later.forest (targets value)

structure Forest.Completed (root : NodeId) (parent : Option NodeId) (id : Nat)
    (forest later : Forest) : Prop where
  ordered : later.Ordered
  kept : ∀ other : Nat, other < id → later.node? other = forest.node? other
  rows : later.Rows root parent id later.size [id]

def Completes (root : NodeId) (parent : Option NodeId) (id : Nat) (step : Building Unit) : Prop :=
  ∀ workspace : Workspace, workspace.forest.Ordered → workspace.forest.size = id + 1 →
    Ensures step workspace (fun _ later => later.forest.Ordered) fun _ later =>
      workspace.forest.Completed root parent id later.forest

namespace Numbers

variable {above : Nat} {step : Building α} {targets : α → List NodeId}

theorem pure {value : α} (none : targets value = []) : Numbers root above (pure value) targets :=
  fun _ ordered _ => Ensures.pure (.refl ordered (by simp [none]))

theorem throw (fault : Error) : Numbers root above (throw fault) targets :=
  fun _ ordered _ => Ensures.throw ordered

theorem map {targets' : β → List NodeId} (numbers : Numbers root above step targets)
    {result : α → β} (same : ∀ value, targets' (result value) = targets value) :
    Numbers root above (do return result (← step)) targets' := by
  intro workspace ordered inside
  apply (numbers workspace ordered inside).bind
  intro value later numbered
  exact .pure (same value ▸ numbered)

theorem ofExcept {result : Except Error α} {next : α → Building β} {targets : β → List NodeId}
    (each : ∀ value, Numbers root above (next value) targets) :
    Numbers root above (Building.ofExcept result >>= next) targets := by
  intro workspace ordered inside
  refine (ofExcept_ensures fun _ _ => ordered).bind ?_
  rintro value _ ⟨-, rfl⟩
  exact each value _ ordered inside

theorem linkTo (name : String) : Numbers root above (linkTo name) (fun link => [link.target]) := by
  refine fun workspace ordered _ => (linkTo_finds name).mono ?_ ?_
  · rintro _ _ rfl
    exact ordered
  · rintro link _ ⟨rfl, known⟩
    exact .refl ordered (by simpa using ordered.ids name link.target known)

theorem gather {build : α → Building (Option β)} {targets : β → List NodeId} {items : List α}
    (each : ∀ item ∈ items, Numbers root above (build item) (·.toList.flatMap targets)) :
    Numbers root above (gather build items) (·.flatMap targets) := by
  induction items with
  | nil => exact pure rfl
  | cons item rest ih =>
    intro workspace ordered inside
    apply (each item List.mem_cons_self workspace ordered inside).bind
    intro value middle numbered
    refine (ih (fun item member => each item (List.mem_cons_of_mem _ member)) middle
      numbered.ordered (inside.trans_le numbered.size_le)).bind ?_
    intro values later numbered'
    refine .pure (?_ : Forest.Numbered _ _ _ _ (List.flatMap targets (value.toList ++ values)))
    rw [List.flatMap_append]
    exact numbered.trans numbered'

/-- A projection that is entered for the first time gets the next number. -/
theorem enter {path : List String} {inside : NodeId → String → Building Unit}
    {otherwise : String → Building β} {result : Link → β} {targets : β → List NodeId}
    (fills : ∀ id name, above < id → Completes root (some above) id (inside id name))
    (links : ∀ name, Numbers root above (otherwise name) targets)
    (leads : ∀ link, targets (result link) = [link.target]) :
    Numbers root above (enter path inside otherwise result) targets := by
  intro workspace ordered opened
  rcases claims : workspace.names.claim path NameSupply.projectionSuffix with ⟨⟨name, isNew⟩, names⟩
  apply (claim_ensures claims).bind
  rintro _ _ ⟨rfl, rfl⟩
  cases isNew with
  | false => exact links name { workspace with names } ordered opened
  | true =>
    apply (openNode_ensures name).bind
    rintro _ _ ⟨rfl, rfl⟩
    refine (fills _ name opened ⟨names, workspace.forest.opened name⟩ (ordered.opened name)
      (Forest.size_opened _ _)).bind ?_
    intro _ later completed
    refine .pure ⟨completed.ordered, fun id old => ?_, ⟨_, completed.rows, ?_⟩, ?_⟩
    · exact (completed.kept id old).trans (Forest.node?_opened _ _ _)
    · rw [leads]
      intro kid member
      obtain rfl := List.mem_singleton.mp member
      exact ⟨[], [], rfl, nofun⟩
    · rw [leads]
      exact fun target member => (completed.rows.bounds_of_mem member).2

end Numbers

/-! ### Traversals -/

theorem ProjectionNode.targets_eq (node : ProjectionNode) :
    node.targets =
      node.methods.flatMap (·.targets) ++ node.fragments.flatMap ([·.link.target]) := by
  have methods (methods : List SelectionMethod) :
      (methods.filterMap (·.link)).map (·.target) = methods.flatMap (·.targets) := by
    induction methods with
    | nil => rfl
    | cons method _ ih => cases linked : method.link <;> simp [SelectionMethod.targets, linked, ih]
  have fragments (fragments : List FragmentAccessor) :
      (fragments.map (·.link)).map (·.target) = fragments.flatMap ([·.link.target]) := by
    rw [List.map_map]
    exact (List.flatMap_pure_eq_map _ _).symm
  simp only [targets, links, List.map_append, methods, fragments]

namespace Traversal

variable {traversal : Traversal} {descend : Descent} {site : Site} {trail : List TrailStep}

def CompletesBelow (root : NodeId) (descend : Descent) : Prop :=
  ∀ (site : Site) (type : TypeDefinition) (trail : List TrailStep) (filter : Option Filter),
    site.root = root → (∀ above : Nat, site.parent = some above → above < site.id) →
      Completes root site.parent site.id (descend site type trail filter)

/-- A site is completed by filling it after all below it. -/
theorem completes_fill {node : ProjectionNode} {workspace : Workspace}
    {failed : Error → Workspace → Prop} (here : node.id = id) (tree : node.root = root)
    (earlier : ∀ above : Nat, node.parent = some above → above < node.id)
    (numbered : forest.Numbered root (some id) workspace.forest node.targets)
    (opened : forest.size = id + 1) :
    Ensures (fill node) workspace failed fun _ last =>
      forest.Completed root node.parent id last.forest := by
  have grown := numbered.size_le
  obtain ⟨heads, rows, introduces⟩ := numbered.rows
  refine (fill_ensures node).giving ?_
  rintro _ _ rfl
  have inside : id < workspace.forest.size := by omega
  have held : (workspace.forest.filled node).node? id = some node := by
    rw [Forest.node?_filled, if_pos ⟨here, inside⟩]
  have elsewhere (other : Nat) (apart : other ≠ id) :
      (workspace.forest.filled node).node? other = workspace.forest.node? other := by
    rw [Forest.node?_filled, if_neg fun same => apart (same.1.symm.trans here)]
  refine ⟨numbered.ordered.filled earlier, fun other below => ?_, ?_⟩
  · exact (elsewhere other (by omega)).trans (numbered.kept other (by omega))
  · simp only [Forest.size_filled]
    refine .cons held here tree rfl introduces ?_ .nil
    rw [← opened]
    exact rows.congr fun other low _ => elsewhere other (by omega)

theorem argumentWrapper_numbers (tree : site.root = root) (field : FieldDefinition) :
    Numbers root site.id (argumentWrapper site field) ([·.target]) := by
  rw [argumentWrapper_eq]
  refine .enter (fun id name below workspace ordered opened => ?_) .linkTo fun _ => rfl
  exact completes_fill rfl tree (by rintro _ ⟨⟩; exact below) (.refl ordered nofun) opened

variable (completes : CompletesBelow root descend)
include completes

theorem child_numbers (tree : site.root = root) (field : FieldDefinition) (type : TypeDefinition)
    (filter : Option Filter) :
    Numbers root site.id (child descend site field type trail filter) ([·.target]) := by
  rw [child_eq]
  refine .enter (fun id name below => ?_) .linkTo fun _ => rfl
  exact completes ⟨id, name, _, some site.id, site.root, _, _⟩ _ _ _ tree
    (by rintro _ ⟨⟩; exact below)

theorem fragment_numbers (tree : site.root = root) (type : TypeDefinition)
    (filter : Option Filter) :
    Numbers root site.id (fragment descend site type trail filter) ([·.link.target]) := by
  rw [fragment_eq]
  refine .enter (fun id name below => ?_) (fun name => (Numbers.linkTo name).map fun _ => rfl)
    fun _ => rfl
  exact completes ⟨id, name, _, some site.id, site.root, _, _⟩ _ _ _ tree
    (by rintro _ ⟨⟩; exact below)

theorem method?_numbers (tree : site.root = root) (scope : Option Filter)
    (field : FieldDefinition) :
    Numbers root site.id (traversal.method? descend site trail scope field)
      (·.toList.flatMap (·.targets)) := by
  unfold method?
  split
  · exact .pure rfl
  · refine .ofExcept fun target => ?_
    cases target with
    | leaf =>
      dsimp only
      split
      · exact .pure rfl
      · exact (argumentWrapper_numbers tree field).map fun _ => rfl
    | composite type =>
      dsimp only
      split
      · exact .pure rfl
      · exact (child_numbers completes tree field type _).map fun _ => rfl

theorem accessor?_numbers (tree : site.root = root) (scope : Option Filter)
    (type : TypeDefinition) :
    Numbers root site.id (accessor? descend site trail scope type)
      (·.toList.flatMap ([·.link.target])) := by
  unfold accessor?
  split
  · exact .pure rfl
  · exact (fragment_numbers completes tree type _).map fun _ => rfl

theorem accessors_number (tree : site.root = root) (scope : Option Filter)
    (types : List TypeDefinition) :
    Numbers root site.id (gather (accessor? descend site trail scope) types)
      (·.flatMap ([·.link.target])) :=
  .gather fun type _ => accessor?_numbers completes tree scope type

theorem populateBy_completes : CompletesBelow root (traversal.populateBy descend) := by
  intro site type trail filter tree earlier workspace ordered opened
  let scope := filter.map (·.narrowed type.name)
  have methods : Numbers root site.id
      (gather (traversal.method? descend site trail scope) type.fields) (·.flatMap (·.targets)) :=
    .gather fun field _ => method?_numbers completes tree scope field
  apply (methods workspace ordered (by omega)).bind
  intro methods middle numbered
  have inside := numbered.size_le
  apply (accessors_number completes tree scope (traversal.schema.concreteTypes type) middle
    numbered.ordered (by omega)).bind
  intro fragments later numbered'
  refine completes_fill rfl tree earlier ?_ opened
  rw [ProjectionNode.targets_eq]
  exact numbered.trans numbered'

omit completes

theorem populate_completes (bound : Nat) : CompletesBelow root (traversal.populate bound) := by
  induction bound with
  | zero => exact fun _ _ _ _ _ _ _ ordered _ => .throw ordered
  | succ bound ih => exact populateBy_completes ih

/-- A root field that gets a new projection gets the rows of its tree. -/
theorem rootAt_completes (path : List String) (field : FieldDefinition) (filter : Option Filter)
    {workspace : Workspace} (ordered : workspace.forest.Ordered) :
    Ensures (traversal.rootAt path field filter) workspace (fun _ later => later.forest.Ordered)
      fun found later => later.forest.Ordered ∧
        (workspace.forest.size < later.forest.size → found = some workspace.forest.size ∧
          later.forest.Rows workspace.forest.size none workspace.forest.size later.forest.size
            [workspace.forest.size]) := by
  refine Ensures.bind (ofExcept_ensures fun _ _ => ordered) ?_
  rintro target workspace ⟨-, rfl⟩
  cases target with
  | leaf => exact .pure ⟨ordered, fun grown => absurd grown (lt_irrefl _)⟩
  | composite type =>
    rcases claims : workspace.names.claim path NameSupply.rootSuffix with ⟨⟨name, isNew⟩, names⟩
    apply (claim_ensures claims).bind
    rintro _ _ ⟨rfl, rfl⟩
    cases isNew with
    | false =>
      refine Ensures.bind ((linkTo_finds name).failing ?_) ?_
      · rintro _ _ rfl
        exact ordered
      · rintro link _ ⟨rfl, -⟩
        exact .pure ⟨ordered, fun grown => absurd grown (lt_irrefl _)⟩
    | true =>
      apply (openNode_ensures name).bind
      rintro _ _ ⟨rfl, rfl⟩
      refine (populate_completes _ ⟨_, name, .root, none, _, 0, path⟩ type [] filter rfl nofun
        ⟨names, workspace.forest.opened name⟩ (ordered.opened name)
        (Forest.size_opened _ _)).bind ?_
      exact fun _ later completed => .pure ⟨completed.ordered, fun _ => ⟨rfl, completed.rows⟩⟩

theorem entitiesAt_ordered (path : List String) (types : List TypeDefinition)
    {workspace : Workspace} (ordered : workspace.forest.Ordered) :
    Ensures (traversal.entitiesAt path types) workspace (fun _ later => later.forest.Ordered)
      fun _ later => later.forest.Ordered := by
  unfold entitiesAt
  split
  · exact .pure ordered
  · rcases claims : workspace.names.claim path NameSupply.rootSuffix with ⟨⟨name, isNew⟩, names⟩
    apply (claim_ensures claims).bind
    rintro _ _ ⟨rfl, rfl⟩
    cases isNew with
    | false => exact .throw ordered
    | true =>
      apply (openNode_ensures name).bind
      rintro _ _ ⟨rfl, rfl⟩
      refine Ensures.bind (accessors_number (populate_completes _) rfl none types
        ⟨names, workspace.forest.opened name⟩ (ordered.opened name) (by simp)) ?_
      intro fragments later numbered
      apply (fill_ensures _).bind
      rintro _ _ rfl
      exact .pure (numbered.ordered.filled nofun)

end Traversal

namespace Workspace

theorem ordered_after {workspace : Workspace} (ordered : workspace.forest.Ordered) (call : Call) :
    (workspace.after call).forest.Ordered := by
  cases call with
  | allocate path suffix => exact ordered
  | reserve name => exact ordered
  | root traversal path field filter =>
    exact ((Traversal.rootAt_completes path field filter ordered).giving
      fun _ _ ends => ends.1).always
  | entities traversal path types => exact (Traversal.entitiesAt_ordered path types ordered).always

theorem ordered_afterAll {workspace : Workspace} (ordered : workspace.forest.Ordered)
    (calls : List Call) : (workspace.afterAll calls).forest.Ordered := by
  induction calls generalizing workspace with
  | nil => exact ordered
  | cons call rest ih => exact ih (ordered_after ordered call)

end Workspace

/-- Whatever has been asked of a fresh workspace, a root field that is given a new tree is given the
next numbers, in pre-order. -/
theorem Traversal.preOrdered_of_rootAt (traversal : Traversal) (path : List String)
    (field : FieldDefinition) (filter : Option Filter) (abbreviated : Bool)
    (calls : List Workspace.Call) {id : NodeId} {later : Workspace}
    (ran : (traversal.rootAt path field filter).outcome
      ((Workspace.empty abbreviated).afterAll calls) = (.ok (some id), later))
    (new : ((Workspace.empty abbreviated).afterAll calls).forest.size < later.forest.size) :
    id = ((Workspace.empty abbreviated).afterAll calls).forest.size ∧
      later.forest.PreOrdered id := by
  have start : (Workspace.empty abbreviated).forest.Ordered := .empty
  obtain ⟨ordered, planted⟩ :=
    (rootAt_completes path field filter (Workspace.ordered_afterAll start calls)).of_ok ran
  obtain ⟨found, rows⟩ := planted new
  obtain rfl := Option.some.inj found
  exact ⟨rfl, rows.preOrdered ordered⟩

def ringDocument : String :=
  "type Query \x7b broken: Broken start: Node \x7d
  type Broken \x7b next: User lost: Lost \x7d
  interface Node \x7b next: User \x7d
  type User implements Node \x7b next: User picture(size: Int): String \x7d"

theorem Traversal.preOrdered_ringDocument : ∃ schema broken field later,
    Schema.ofDocuments [ringDocument] .standard = .ok schema ∧
      ((Traversal.root ⟨schema, none⟩ broken none).outcome (.empty false)).1.isOk = false ∧
      (rootAt ⟨schema, none⟩ [field.name] field none).outcome
        ((Workspace.empty false).afterAll [.root ⟨schema, none⟩ [broken.name] broken none]) =
          (.ok (some 3), later) ∧
      later.forest.size = 10 ∧ later.forest.PreOrdered 3 := by
  have checked : (Schema.ofDocuments [ringDocument] .standard).toOption.any (fun schema =>
      (schema.type? "Query").any fun owner => owner.fields.head?.any fun broken =>
        owner.fields.getLast?.any fun field =>
          let before := (Workspace.empty false).afterAll
            [.root ⟨schema, none⟩ [broken.name] broken none]
          !((Traversal.root ⟨schema, none⟩ broken none).outcome (.empty false)).1.isOk &&
            leavesTree ((rootAt ⟨schema, none⟩ [field.name] field none).outcome before)
              fun forest id =>
                decide (id = 3 ∧ before.forest.size < forest.size ∧ forest.size = 10)) = true := by
    decide +kernel
  obtain ⟨schema, read, checked⟩ := exists_of_any checked
  obtain ⟨owner, -, checked⟩ := (Option.any_eq_true _ _).mp checked
  obtain ⟨broken, -, checked⟩ := (Option.any_eq_true _ _).mp checked
  obtain ⟨field, -, checked⟩ := (Option.any_eq_true _ _).mp checked
  simp only [Bool.and_eq_true, Bool.not_eq_true'] at checked
  obtain ⟨fails, left⟩ := checked
  obtain ⟨id, later, ran, left⟩ := exists_tree left
  obtain ⟨rfl, new, size⟩ := of_decide_eq_true left
  exact ⟨schema, broken, field, later, read, fails, ran, size,
    (preOrdered_of_rootAt ⟨schema, none⟩ [field.name] field none false _ ran new).2⟩

end GraphQLProjections
