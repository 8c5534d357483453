import GraphQLProjections.Proofs.Projection.Bound
import GraphQLProjections.Proofs.Projection.Chart
import GraphQLProjections.Proofs.Projection.Roots
import GraphQLProjections.Proofs.Schema.Unions

/-! Traversals without a filter come to an end, whatever was named and projected before. Below a site
there is always less to come: a field adds a new pair to the chart, since one that the trail has
passed is linked back, and a concrete type can be followed by fewer types. -/
namespace GraphQLProjections

open Building

variable {α β : Type} {traversal : Traversal} {base : NodeId} {charts : List Chart}
  {workspace : Workspace}

def NameSupply.Holds (supply : NameSupply) (path : List String) : Prop :=
  ∃ name, supply.nameOf? path projectionSuffix = some name ∧ supply.isReserved name = true

theorem NameSupply.Keeps.holds {supply later : NameSupply} (keeps : supply.Keeps later)
    {path : List String} (holds : supply.Holds path) : later.Holds path := by
  obtain ⟨name, named, reserved⟩ := holds
  exact ⟨name, keeps.nameOf? named, keeps.reserved name reserved⟩

/-- All slots from a number on are filled, and all that were filled before. -/
def Forest.Closes (forest later : Forest) : Prop :=
  (∀ id, forest.size ≤ id → id < later.size → (later.node? id).isSome) ∧
    ∀ id, (forest.node? id).isSome → (later.node? id).isSome

theorem Forest.Closes.refl (forest : Forest) : forest.Closes forest :=
  ⟨fun _ later inside => absurd inside (Nat.not_lt.mpr later), fun _ held => held⟩

theorem Forest.Closes.trans {first second third : Forest} (before : first.Closes second)
    (after : second.Closes third) : first.Closes third := by
  refine ⟨fun id later inside => ?_, fun id held => after.2 id (before.2 id held)⟩
  rcases Nat.lt_or_ge id second.size with early | late
  · exact after.2 id (before.1 id later early)
  · exact after.1 id late inside

/-- A step draws on: it does not run out of its bound, all that it opens has its chart, and it fills
all of it if it succeeds. -/
def Draws (traversal : Traversal) (base : NodeId) (charts : List Chart) (workspace : Workspace)
    (step : Building α) (good : Workspace → Prop) : Prop :=
  Ensures step workspace
    (fun fault later => (∀ type, fault ≠ .endlessUnion type) ∧
      ∃ new, Charted traversal.schema base (charts ++ new) later.forest)
    fun _ later => (∃ new, Charted traversal.schema base (charts ++ new) later.forest) ∧
      workspace.names.Keeps later.names ∧ workspace.forest.Closes later.forest ∧ good later

namespace Draws

variable {good good' : Workspace → Prop}

theorem pure (charted : Charted traversal.schema base charts workspace.forest) {value : α}
    (holds : good workspace) : Draws traversal base charts workspace (pure value) good :=
  Ensures.pure ⟨⟨[], by simpa using charted⟩, .refl _, .refl _, holds⟩

theorem bind {step : Building α} {next : α → Building β}
    (first : Draws traversal base charts workspace step good)
    (second : ∀ value new later, Charted traversal.schema base (charts ++ new) later.forest →
      workspace.names.Keeps later.names → good later →
      Draws traversal base (charts ++ new) later (next value) good') :
    Draws traversal base charts workspace (step >>= next) good' := by
  apply Ensures.bind first
  rintro value later ⟨⟨new, charted⟩, keeps, closes, holds⟩
  refine (second value new later charted keeps holds).mono ?_ ?_
  · rintro fault last ⟨other, more, charted'⟩
    exact ⟨other, new ++ more, by rwa [← List.append_assoc]⟩
  · rintro result last ⟨⟨more, charted'⟩, keeps', closes', holds'⟩
    exact ⟨⟨new ++ more, by rwa [← List.append_assoc]⟩, keeps.trans keeps', closes.trans closes',
      holds'⟩

theorem claim {path : List String} {suffix : String} {claimed : String × Bool}
    {names : NameSupply} {next : String × Bool → Building β}
    (claims : workspace.names.claim path suffix = (claimed, names))
    (keeps : workspace.names.Keeps names)
    (draws : Draws traversal base charts { workspace with names } (next claimed) good) :
    Draws traversal base charts workspace (claim path suffix >>= next) good := by
  apply Ensures.bind (claim_ensures claims)
  rintro _ _ ⟨rfl, rfl⟩
  exact Ensures.giving draws fun _ _ ⟨drawn, keeps', closes, holds⟩ =>
    ⟨drawn, keeps.trans keeps', closes, holds⟩

/-- A name is claimed, and either way what follows draws on. -/
theorem claimed (path : List String) (suffix : String)
    {next : String × Bool → Building β}
    (draws : ∀ claimed names, workspace.names.Keeps names →
      Draws traversal base charts { workspace with names } (next claimed) good) :
    Draws traversal base charts workspace (Building.claim path suffix >>= next) good := by
  obtain ⟨names, name, claims, keeps, -⟩ := workspace.names.claim_eq path suffix
  exact .claim claims keeps (draws _ names keeps)

theorem not_exhausts {step : Building α}
    (draws : Draws traversal base charts workspace step good) : ¬Exhausts step workspace := by
  rintro ⟨type, out⟩
  rcases ran : step.outcome workspace with ⟨result, later⟩
  rw [ran] at out
  obtain rfl : result = .error (.endlessUnion type) := out
  exact (draws.of_error ran).1 type rfl

end Draws

/-- A site about to be populated with a type: its chart is that of the trail, whose projections are
there. -/
structure Stands (base : NodeId) (charts : List Chart) (workspace : Workspace) (site : Site)
    (type : String) (trail : List TrailStep) : Prop where
  kind : site.kind ≠ .argumentWrapper
  later : base ≤ site.id
  chart : charts[site.id]? = some (passedFields trail)
  fits : Fits base charts site type (passedFields trail)
  held : ∀ step ∈ trail, workspace.names.Holds step.path

theorem Stands.grown {site : Site} {type : String} {trail : List TrailStep}
    (stands : Stands base charts workspace site type trail) (new : List Chart)
    {later : Workspace} (keeps : workspace.names.Keeps later.names) :
    Stands base (charts ++ new) later site type trail := by
  have inside := (List.getElem?_eq_some_iff.mp stands.chart).1
  exact ⟨stands.kind, stands.later,
    (List.getElem?_append_left inside).trans stands.chart, stands.fits.grown new,
    fun step passed => keeps.holds (stands.held step passed)⟩

/-- What is to come below a site: fields that its trail has not passed, and before the next of them
types that can follow its own. -/
noncomputable def Traversal.ahead (traversal : Traversal) (type : TypeDefinition)
    (trail : List TrailStep) : Nat :=
  (traversal.schema.fieldPairs.dedup.length - trail.length) *
    (traversal.schema.types.length + 2) + traversal.schema.height type

namespace Traversal

theorem ahead_concrete (acyclic : traversal.schema.UnionsAcyclic) {type member : TypeDefinition}
    (step : traversal.schema.Concrete type member) (trail : List TrailStep) :
    traversal.ahead member trail < traversal.ahead type trail :=
  Nat.add_lt_add_left (acyclic.height_lt step) _

theorem ahead_append {trail : List TrailStep}
    (shorter : trail.length < traversal.schema.fieldPairs.dedup.length) (step : TrailStep)
    (type next : TypeDefinition) :
    traversal.ahead next (trail ++ [step]) < traversal.ahead type trail := by
  obtain ⟨left, pairs⟩ := Nat.exists_eq_add_of_lt shorter
  have bound : traversal.schema.height next ≤ _ := Schema.height_le next
  unfold ahead
  rw [pairs, List.length_append, List.length_singleton,
    show trail.length + left + 1 - (trail.length + 1) = left by omega,
    show trail.length + left + 1 - trail.length = left + 1 by omega, Nat.succ_mul]
  omega

/-- The levels of a traversal are more than is to come below a root. -/
theorem ahead_lt_levels (type : TypeDefinition) : traversal.ahead type [] < traversal.levels none := by
  have bound : traversal.schema.height type ≤ _ := Schema.height_le type
  have fewer : traversal.schema.fieldPairs.dedup.length ≤ fieldCount traversal.schema :=
    (List.dedup_sublist _).length_le.trans Schema.length_fieldPairs_le
  have product := Nat.mul_le_mul_right (traversal.schema.types.length + 2) fewer
  simp only [ahead, levels, List.length_nil, Nat.sub_zero, Option.map_none, Option.getD_none,
    Nat.succ_mul]
  omega

end Traversal

def DrawsDown (traversal : Traversal) (descend : Descent) (bound : Nat) : Prop :=
  ∀ (base : NodeId) (charts : List Chart) (workspace : Workspace) (site : Site)
    (type : TypeDefinition) (trail : List TrailStep), type ∈ traversal.schema.types →
    Charted traversal.schema base charts workspace.forest →
    Stands base charts workspace site type.name trail → traversal.ahead type trail < bound →
    Draws traversal base charts workspace (descend site type trail none)
      fun later => (later.forest.node? site.id).isSome

section Steps

theorem linkTo_draws (charted : Charted traversal.schema base charts workspace.forest)
    (name : String) :
    Draws traversal base charts workspace (linkTo name) fun _ => True := by
  apply Ensures.bind get_ensures
  rintro _ workspace ⟨rfl, rfl⟩
  cases workspace.forest.id? name with
  | none => exact .throw ⟨nofun, [], by simpa using charted⟩
  | some id => exact Draws.pure charted trivial

/-- A node can be filled if it fits its chart. -/
theorem fill_draws (charted : Charted traversal.schema base charts workspace.forest)
    {node : ProjectionNode} {chart : Chart} (known : charts[node.id]? = some chart)
    (fits : Fits base charts node.toSite node.type chart) :
    Draws traversal base charts workspace (fill node)
      fun later => (later.forest.node? node.id).isSome := by
  have inside : node.id < workspace.forest.size :=
    charted.size ▸ (List.getElem?_eq_some_iff.mp known).1
  have here : ((workspace.forest.filled node).node? node.id).isSome := by
    simp [Forest.node?_filled, inside]
  have kept (id : NodeId) (held : (workspace.forest.node? id).isSome) :
      ((workspace.forest.filled node).node? id).isSome := by
    rw [Forest.node?_filled]
    split
    · rfl
    · exact held
  refine (fill_ensures node).mono (fun _ _ => False.elim) ?_
  rintro _ _ rfl
  refine ⟨⟨[], by simpa using charted.filled known fits⟩, .refl _, ⟨?_, kept⟩, here⟩
  intro id later outside
  rw [Forest.size_filled] at outside
  omega

/-- A node is opened with a chart of its own and filled from below. -/
theorem openNode_draws (charted : Charted traversal.schema base charts workspace.forest)
    {chart : Chart} (distinct : chart.Nodup) (within : chart ⊆ traversal.schema.fieldPairs)
    (name : String) {inside : NodeId → Building Unit} (result : NodeId → β)
    (fills : ∀ later : Workspace, later.names = workspace.names →
      Charted traversal.schema base (charts ++ [chart]) later.forest →
      Draws traversal base (charts ++ [chart]) later (inside charts.length)
        fun last => (last.forest.node? charts.length).isSome) :
    Draws traversal base charts workspace
      (do
        let id ← openNode name
        inside id
        return result id)
      fun _ => True := by
  apply (openNode_ensures name).bind
  rintro _ _ ⟨rfl, rfl⟩
  rw [show Forest.size _ = charts.length from charted.size]
  have entered := fills ⟨workspace.names, workspace.forest.opened name⟩ rfl
    (charted.opened distinct within name)
  apply Ensures.bind (entered.failing ?_)
  · rintro _ later ⟨⟨new, drawn⟩, keeps, closes, here⟩
    refine .pure ⟨⟨chart :: new, by simpa using drawn⟩, keeps, ⟨?_, ?_⟩, trivial⟩
    · intro id late outside
      rcases Nat.eq_or_lt_of_le late with same | beyond
      · rw [← same, charted.size]
        exact here
      · exact closes.1 id (by simpa using Nat.succ_le_of_lt beyond) outside
    · intro id held
      exact closes.2 id (by simpa using held)
  · rintro fault later ⟨other, new, drawn⟩
    exact ⟨other, chart :: new, by simpa using drawn⟩

section Enter

variable {path : List String} {inside : NodeId → String → Building Unit}
  {otherwise : String → Building β} {result : Link → β}
  (charted : Charted traversal.schema base charts workspace.forest)
  (links : ∀ (name : String) (later : Workspace),
    Charted traversal.schema base charts later.forest →
    Draws traversal base charts later (otherwise name) fun _ => True)
include charted links

/-- A path whose projection is there is not entered again. -/
theorem enter_draws_of_holds (holds : workspace.names.Holds path) :
    Draws traversal base charts workspace (enter path inside otherwise result)
      fun _ => True := by
  obtain ⟨name, named, reserved⟩ := holds
  obtain ⟨names, name', claimed, keeps, named', -⟩ :=
    workspace.names.claim_eq path NameSupply.projectionSuffix
  obtain rfl := Option.some.inj ((keeps.nameOf? named).symm.trans named')
  rw [reserved] at claimed
  exact .claim claimed keeps (links name ⟨names, workspace.forest⟩ charted)

/-- To enter a path is to open a node with a chart of its own, or to link to one that is there. -/
theorem enter_draws {chart : Chart} (distinct : chart.Nodup)
    (within : chart ⊆ traversal.schema.fieldPairs)
    (fills : ∀ (name : String) (later : Workspace),
      Charted traversal.schema base (charts ++ [chart]) later.forest →
      workspace.names.Keeps later.names → later.names.Holds path →
      Draws traversal base (charts ++ [chart]) later (inside charts.length name)
        fun last => (last.forest.node? charts.length).isSome) :
    Draws traversal base charts workspace (enter path inside otherwise result)
      fun _ => True := by
  obtain ⟨names, name, claimed, keeps, named, reserved, -⟩ :=
    workspace.names.claim_eq path NameSupply.projectionSuffix
  have named' : Charted traversal.schema base charts (Workspace.mk names workspace.forest).forest :=
    charted
  cases old : workspace.names.isReserved name with
  | true =>
    rw [old] at claimed
    exact .claim claimed keeps (links name _ named')
  | false =>
    rw [old] at claimed
    have holds : names.Holds path := ⟨name, named, by simp [reserved]⟩
    have opens : Draws traversal base charts ⟨names, workspace.forest⟩
        (do
          let id ← openNode name
          inside id name
          return result ⟨id, name⟩)
        fun _ => True :=
      openNode_draws named' distinct within name (result ⟨·, name⟩) fun later same charted' =>
        fills name later charted' (by rwa [same]) (by rwa [same])
    exact .claim claimed keeps opens

end Enter

variable {site : Site} {trail : List TrailStep}

theorem gather_draws {type : String} {build : α → Building (Option β)} {items : List α}
    (each : ∀ item ∈ items, ∀ (charts : List Chart) (workspace : Workspace),
      Charted traversal.schema base charts workspace.forest →
      Stands base charts workspace site type trail →
      Draws traversal base charts workspace (build item) fun _ => True)
    (charted : Charted traversal.schema base charts workspace.forest)
    (stands : Stands base charts workspace site type trail) :
    Draws traversal base charts workspace (gather build items) fun _ => True := by
  induction items generalizing charts workspace with
  | nil => exact .pure charted trivial
  | cons item items ih =>
    apply (each item List.mem_cons_self charts workspace charted stands).bind
    intro _ new middle charted' keeps _
    apply (ih (fun item member => each item (List.mem_cons_of_mem _ member)) charted'
      (stands.grown new keeps)).bind
    intro _ more later charted'' _ _
    exact .pure charted'' trivial

section Parts

variable {descend : Descent} {bound : Nat} (drawsDown : DrawsDown traversal descend bound)
  (charted : Charted traversal.schema base charts workspace.forest)

theorem argumentWrapper_draws {type : String}
    (charted : Charted traversal.schema base charts workspace.forest)
    (stands : Stands base charts workspace site type trail) (field : FieldDefinition) :
    Draws traversal base charts workspace (Traversal.argumentWrapper site field)
      fun _ => True := by
  have member := List.mem_of_getElem? stands.chart
  rw [Traversal.argumentWrapper_eq]
  refine enter_draws charted (fun name later charted' => linkTo_draws charted' name)
    (charted.distinct _ member) (charted.within _ member) ?_
  intro name later charted' keeps holds
  refine fill_draws charted' (by simp) ⟨nofun, .inr ⟨site.id, passedFields trail, rfl, stands.later,
    ?_, rfl⟩⟩
  exact (stands.grown _ keeps).chart

include drawsDown charted in
/-- A concrete type of the site, or an entity of the look-up of entities. -/
theorem fragment_draws {type : String} (stands : Stands base charts workspace site type trail)
    {concrete : TypeDefinition} (known : concrete ∈ traversal.schema.types)
    (enough : traversal.ahead concrete trail < bound) :
    Draws traversal base charts workspace (Traversal.fragment descend site concrete trail none)
      fun _ => True := by
  have member := List.mem_of_getElem? stands.chart
  rw [Traversal.fragment_eq]
  refine enter_draws charted (fun name later charted' => (linkTo_draws charted' name).bind
    fun _ _ _ charted'' _ _ => .pure charted'' trivial) (charted.distinct _ member)
    (charted.within _ member) ?_
  intro name later charted' keeps holds
  have stands' := stands.grown [passedFields trail] keeps
  refine drawsDown _ _ _ _ _ _ known charted' ⟨by simp, ?_, by simp,
    ⟨fun _ => stands.fits.depth stands.kind, .inr ⟨site.id, passedFields trail, rfl, stands.later,
      stands'.chart, rfl⟩⟩, stands'.held⟩ enough
  exact stands.later.trans (List.getElem?_eq_some_iff.mp stands.chart).1.le

include drawsDown charted in
theorem accessor?_draws {type : String} (stands : Stands base charts workspace site type trail)
    {concrete : TypeDefinition} (known : concrete ∈ traversal.schema.types)
    (enough : traversal.ahead concrete trail < bound) :
    Draws traversal base charts workspace
      (Traversal.accessor? descend site trail none concrete) fun _ => True :=
  (fragment_draws drawsDown charted stands known enough).bind
    fun _ _ _ charted' _ _ => .pure charted' trivial

variable {type : TypeDefinition} (known : type ∈ traversal.schema.types)
  (stands : Stands base charts workspace site type.name trail)
  (enough : traversal.ahead type trail < bound + 1)

include charted known stands in
/-- A field that was not passed before adds a pair of its own to those passed, which are fewer than
all pairs there are. -/
theorem passed_append {field : FieldDefinition} (declared : field ∈ type.fields)
    {next : TypeDefinition} (leads : traversal.schema.target field = .ok (.composite next))
    (isNew : Traversal.passed? trail field.name next.name = none) :
    (passedFields trail ++ [(field.name, next.name)]).Nodup ∧
      passedFields trail ++ [(field.name, next.name)] ⊆ traversal.schema.fieldPairs ∧
      trail.length < traversal.schema.fieldPairs.dedup.length := by
  have member := List.mem_of_getElem? stands.chart
  have distinct : (passedFields trail ++ [(field.name, next.name)]).Nodup := by
    refine List.nodup_append.mpr ⟨charted.distinct _ member, List.nodup_singleton _, ?_⟩
    rintro pair inside _ new rfl
    obtain rfl := List.mem_singleton.mp new
    exact Traversal.passed?_eq_none.mp isNew inside
  have within : passedFields trail ++ [(field.name, next.name)] ⊆ traversal.schema.fieldPairs := by
    refine List.append_subset.mpr ⟨charted.within _ member, ?_⟩
    simpa using Schema.mem_fieldPairs known declared leads
  refine ⟨distinct, within, ?_⟩
  simpa [passedFields, Nat.succ_le_iff] using Schema.length_le_of_nodup distinct within

include drawsDown charted known stands enough in
theorem child_draws {field : FieldDefinition} (declared : field ∈ type.fields)
    {next : TypeDefinition} (leads : traversal.schema.target field = .ok (.composite next)) :
    Draws traversal base charts workspace (Traversal.child descend site field next trail none)
      fun _ => True := by
  rw [Traversal.child_eq]
  cases passed : Traversal.passed? trail field.name next.name with
  | some step =>
    have path : Traversal.childPath site field next trail none = step.path := by
      simp [Traversal.childPath, passed]
    rw [path]
    exact enter_draws_of_holds charted (fun name later charted' => linkTo_draws charted' name)
      (stands.held step (List.mem_of_find?_eq_some passed))
  | none =>
    have path : Traversal.childPath site field next trail none = site.path ++ [field.name] := by
      simp [Traversal.childPath, passed]
    rw [path]
    have pairs (path : List String) : passedFields (trail ++ [⟨field.name, next.name, path⟩]) =
        passedFields trail ++ [(field.name, next.name)] := by
      simp [passedFields]
    obtain ⟨distinct, within, shorter⟩ := passed_append charted known stands declared leads passed
    refine enter_draws charted (fun name later charted' => linkTo_draws charted' name) distinct
      within ?_
    intro name later charted' keeps holds
    have stands' := stands.grown [passedFields trail ++ [(field.name, next.name)]]
      keeps
    refine drawsDown _ _ _ _ _ _ (Schema.mem_types_of_target leads) charted' ⟨by simp, ?_,
      by simp [pairs], ⟨fun _ => ?_,
        .inr ⟨site.id, passedFields trail, rfl, stands.later, stands'.chart, ?_⟩⟩, ?_⟩ ?_
    · exact stands.later.trans (List.getElem?_eq_some_iff.mp stands.chart).1.le
    · have depth := stands.fits.depth stands.kind
      simp [pairs, depth]
    · rw [if_pos rfl, Site.lastSegment_of_path rfl, pairs]
    · intro step inside
      rcases List.mem_append.mp inside with inside | inside
      · exact stands'.held step inside
      · obtain rfl := List.mem_singleton.mp inside
        exact holds
    · exact (Traversal.ahead_append shorter _ type next).trans_le (Nat.lt_succ_iff.mp enough)

include drawsDown charted known stands enough in
theorem method?_draws {field : FieldDefinition} (declared : field ∈ type.fields) :
    Draws traversal base charts workspace (traversal.method? descend site trail none field)
      fun _ => True := by
  refine Ensures.bind (ofExcept_ensures ?_) ?_
  · intro fault unresolved
    rw [Schema.target_eq_error unresolved]
    exact ⟨nofun, [], by simpa using charted⟩
  · rintro target workspace ⟨leads, rfl⟩
    cases target with
    | leaf =>
      dsimp only
      split
      · exact Draws.pure charted trivial
      · exact (argumentWrapper_draws charted stands field).bind
          fun _ _ _ charted' _ _ => .pure charted' trivial
    | composite next =>
      dsimp only
      split
      · exact Draws.pure charted trivial
      · exact (child_draws drawsDown charted known stands enough declared leads).bind
          fun _ _ _ charted' _ _ => .pure charted' trivial

include drawsDown charted known stands enough in
theorem populateBy_draws (acyclic : traversal.schema.UnionsAcyclic) :
    Draws traversal base charts workspace (traversal.populateBy descend site type trail none)
      fun later => (later.forest.node? site.id).isSome := by
  refine (gather_draws (fun field declared charts workspace charted stands =>
    method?_draws drawsDown charted known stands enough declared) charted stands).bind ?_
  intro methods new middle charted' keeps _
  have stands' := stands.grown new keeps
  refine (gather_draws (fun concrete step charts workspace charted stands => ?_) charted'
    stands').bind ?_
  · exact accessor?_draws drawsDown charted stands (Schema.mem_types_of_concrete step)
      ((Traversal.ahead_concrete acyclic step trail).trans_le (Nat.lt_succ_iff.mp enough))
  · intro fragments more later charted'' keeps' _
    have stands'' := stands'.grown more keeps'
    exact fill_draws charted'' stands''.chart stands''.fits

end Parts

/-- Going down draws on within any bound that is more than what is to come. -/
theorem populate_drawsDown (acyclic : traversal.schema.UnionsAcyclic) (bound : Nat) :
    DrawsDown traversal (traversal.populate bound) bound := by
  induction bound with
  | zero => exact fun _ _ _ _ _ _ _ _ _ enough => absurd enough (Nat.not_lt_zero _)
  | succ bound ih =>
    intro base charts workspace site type trail known charted stands enough
    exact populateBy_draws ih charted known stands enough acyclic

/-- A root is opened with an empty chart and filled from there. -/
theorem openRoot_draws (charted : Charted traversal.schema base charts workspace.forest)
    (start : base ≤ charts.length) (name : String) (path : List String) (type : String)
    (inside : NodeId → Building Unit)
    (fills : ∀ later : Workspace, Charted traversal.schema base (charts ++ [[]]) later.forest →
      Stands base (charts ++ [[]]) later
        ⟨charts.length, name, .root, none, charts.length, 0, path⟩ type [] →
      Draws traversal base (charts ++ [[]]) later (inside charts.length)
        fun last => (last.forest.node? charts.length).isSome) :
    Draws traversal base charts workspace
      (do
        let id ← openNode name
        inside id
        return some id)
      fun _ => True :=
  openNode_draws charted List.nodup_nil (List.nil_subset _) name some fun later _ charted' =>
    fills later charted' ⟨by simp, start, by simp [passedFields],
      ⟨fun _ => rfl, .inl ⟨rfl, by simp⟩⟩, by simp⟩

theorem rootAt_draws (acyclic : traversal.schema.UnionsAcyclic) (path : List String)
    (field : FieldDefinition) (workspace : Workspace) :
    Draws traversal workspace.forest.size (List.replicate workspace.forest.size []) workspace
      (traversal.rootAt path field none) fun _ => True := by
  have charted := Charted.start traversal.schema workspace.forest
  refine Ensures.bind (ofExcept_ensures ?_) ?_
  · intro fault unresolved
    rw [Schema.target_eq_error unresolved]
    exact ⟨nofun, [], by simpa using charted⟩
  · rintro target workspace ⟨leads, rfl⟩
    cases target with
    | leaf => exact Draws.pure charted trivial
    | composite type =>
      refine Draws.claimed path NameSupply.rootSuffix fun claimed names _ => ?_
      obtain ⟨name, isNew⟩ := claimed
      have charted : Charted traversal.schema _ _ (Workspace.mk names workspace.forest).forest :=
        charted
      cases isNew with
      | false =>
        exact (linkTo_draws charted name).bind fun _ _ _ charted' _ _ => Draws.pure charted' trivial
      | true =>
        exact openRoot_draws charted (by simp) name path type.name _
          fun later charted' stands =>
            populate_drawsDown acyclic _ _ _ later _ type [] (Schema.mem_types_of_target leads)
              charted' stands (Traversal.ahead_lt_levels type)

theorem entitiesAt_draws (acyclic : traversal.schema.UnionsAcyclic) (path : List String)
    {entities : List TypeDefinition} (known : ∀ entity ∈ entities, entity ∈ traversal.schema.types)
    (workspace : Workspace) :
    Draws traversal workspace.forest.size (List.replicate workspace.forest.size []) workspace
      (traversal.entitiesAt path entities) fun _ => True := by
  have charted := Charted.start traversal.schema workspace.forest
  unfold Traversal.entitiesAt
  split
  · exact Draws.pure charted trivial
  · refine Draws.claimed path NameSupply.rootSuffix fun claimed names _ => ?_
    obtain ⟨name, isNew⟩ := claimed
    have charted : Charted traversal.schema _ _ (Workspace.mk names workspace.forest).forest :=
      charted
    cases isNew with
    | false => exact Ensures.throw ⟨nofun, [], by simpa using charted⟩
    | true =>
      have opens := openRoot_draws charted (by simp) name path Traversal.entityUnion
        (fun id => do
          let site : Site := ⟨id, name, .root, none, id, 0, path⟩
          let fragments ← gather
            (Traversal.accessor? (traversal.populate (traversal.levels none)) site [] none) entities
          fill { site with
            type := Traversal.entityUnion, methods := [], fragments, truncated := false })
        fun later charted' stands =>
          (gather_draws (fun entity member charts workspace charted stands =>
            accessor?_draws (populate_drawsDown acyclic _) charted stands (known entity member)
              (Traversal.ahead_lt_levels entity)) charted' stands).bind
            fun fragments new last charted'' keeps _ =>
              have stands' := stands.grown new keeps
              fill_draws charted'' stands'.chart stands'.fits
      simpa only [Bool.not_true, Bool.false_eq_true, if_false, bind_assoc] using opens

end Steps

/-- What has come to a forest since it had some size: no line of ancestors passes a field to the same
type twice, and projections stand no deeper than there are such pairs. -/
structure Forest.Bounded (schema : Schema) (size : Nat) (forest : Forest) : Prop where
  lines : ∀ id line, size ≤ id → forest.Lineage id line → (fieldsAlong line).Nodup
  depths : ∀ id node, size ≤ id → forest.node? id = some node → node.kind ≠ .argumentWrapper →
    node.depth ≤ schema.fieldPairs.dedup.length

theorem Charted.bounded {schema : Schema} {forest : Forest}
    (charted : Charted schema base charts forest) : forest.Bounded schema base :=
  ⟨fun _ _ later lineage => charted.nodup_fieldsAlong lineage later,
    fun _ _ later held kind => charted.depth_le later held kind⟩

/-- What has come from where a forest had no charts yet is bounded, and filled after a success. -/
theorem Draws.bounded {step : Building α} {good : Workspace → Prop}
    (draws : Draws traversal workspace.forest.size charts workspace step good)
    {result : Except Error α} {later : Workspace}
    (ran : step.outcome workspace = (result, later)) :
    later.forest.Bounded traversal.schema workspace.forest.size ∧
      (result.isOk → ∀ id, workspace.forest.size ≤ id → id < later.forest.size →
        (later.forest.node? id).isSome) := by
  cases result with
  | ok value =>
    obtain ⟨⟨new, charted⟩, -, closes, -⟩ := draws.of_ok ran
    exact ⟨charted.bounded, fun _ => closes.1⟩
  | error fault =>
    obtain ⟨-, new, charted⟩ := draws.of_error ran
    exact ⟨charted.bounded, nofun⟩

/-- If no union contains itself, a traversal without a filter comes to an end from any workspace: it
never runs out of its bound, and any larger bound gives the same. What it has opened is bounded, and
filled if it succeeds. -/
theorem rootAt_ends (acyclic : traversal.schema.UnionsAcyclic) (path : List String)
    (field : FieldDefinition) (workspace : Workspace) :
    ¬Exhausts (traversal.rootAt path field none) workspace ∧
      (∀ bound, traversal.levels none ≤ bound →
        (traversal.rootWithin bound path field none).outcome workspace =
          (traversal.rootAt path field none).outcome workspace) ∧
      ∀ result later, (traversal.rootAt path field none).outcome workspace = (result, later) →
        later.forest.Bounded traversal.schema workspace.forest.size ∧
        (result.isOk → ∀ id, workspace.forest.size ≤ id → id < later.forest.size →
          (later.forest.node? id).isSome) := by
  have draws := rootAt_draws acyclic path field workspace
  refine ⟨draws.not_exhausts, fun bound enough => ?_, fun _ _ => draws.bounded⟩
  obtain ⟨more, rfl⟩ := Nat.exists_eq_add_of_le enough
  exact Traversal.rootWithin_extends _ more path field none workspace draws.not_exhausts

def nestedDocument : String :=
  "type Query \x7b search: Result \x7d
  union Result = Person | Place
  union Place = Town
  type Person \x7b friends: Person \x7d
  type Town \x7b search: Result \x7d"

theorem rootAt_ends_nestedDocument : ∃ schema field id later,
    Schema.ofDocuments [nestedDocument] .standard = .ok schema ∧ schema.UnionsAcyclic ∧
    (∃ outer inner, schema.UnionMember outer inner) ∧
    Building.outcome (Traversal.root ⟨schema, none⟩ field none) (.empty false) =
      (.ok (some id), later) ∧ later.forest.Bounded schema 0 ∧ 10 ≤ later.forest.size ∧
    ∀ id < later.forest.size, (later.forest.node? id).isSome := by
  obtain ⟨schema, _, field, start, id, later, read, -, -, leads, ran, facts⟩ :=
    exists_first_root nestedDocument (fun schema start forest _ =>
      decide (10 ≤ forest.size) && start.isUnion &&
      ((schema.members start.name).any (·.isUnion) &&
      schema.types.all fun outer => !outer.isUnion || (schema.members outer.name).all fun inner =>
        !inner.isUnion ||
          decide ((schema.members inner.name).length < (schema.members outer.name).length)))
      (by decide +kernel)
  simp only [Bool.and_eq_true, decide_eq_true_eq] at facts
  obtain ⟨⟨large, isUnion⟩, nested, falls⟩ := facts
  obtain ⟨inner, member, isUnion'⟩ := List.any_eq_true.mp nested
  have acyclic : schema.UnionsAcyclic := by
    refine Schema.unionsAcyclic_of_rank (fun type => (schema.members type.name).length) ?_
    intro outer known isUnion inner member isUnion'
    have falls := List.all_eq_true.mp falls outer known
    rw [isUnion, Bool.not_true, Bool.false_or] at falls
    simpa [isUnion'] using List.all_eq_true.mp falls inner member
  obtain ⟨bounded, filled⟩ :=
    (rootAt_ends acyclic [field.name] field (.empty false)).2.2 _ _ ran
  exact ⟨schema, field, id, later, read, acyclic, ⟨start, inner, isUnion, isUnion', member⟩, ran,
    bounded, large, fun id => filled rfl id (Nat.zero_le _)⟩

/-- The look-up of entities comes to an end as well. -/
theorem entitiesAt_ends (acyclic : traversal.schema.UnionsAcyclic) (path : List String)
    {entities : List TypeDefinition} (known : ∀ entity ∈ entities, entity ∈ traversal.schema.types)
    (workspace : Workspace) :
    ¬Exhausts (traversal.entitiesAt path entities) workspace ∧
      (∀ bound, traversal.levels none ≤ bound →
        (traversal.entitiesWithin bound path entities).outcome workspace =
          (traversal.entitiesAt path entities).outcome workspace) ∧
      ∀ result later, (traversal.entitiesAt path entities).outcome workspace = (result, later) →
        later.forest.Bounded traversal.schema workspace.forest.size ∧
        (result.isOk → ∀ id, workspace.forest.size ≤ id → id < later.forest.size →
          (later.forest.node? id).isSome) := by
  have draws := entitiesAt_draws acyclic path known workspace
  refine ⟨draws.not_exhausts, fun bound enough => ?_, fun _ _ => draws.bounded⟩
  obtain ⟨more, rfl⟩ := Nat.exists_eq_add_of_le enough
  exact Traversal.entitiesWithin_extends _ more path entities workspace draws.not_exhausts

end GraphQLProjections
