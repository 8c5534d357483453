import GraphQLProjections.Proofs.Projection.Growth

/-! One tree beside others. Two runs of the same steps, one of them from a workspace that has grown
other trees before, keep in step: what is opened in the one is opened in the other, under a number
that is larger by a fixed offset and under a name that may differ. -/
namespace GraphQLProjections

open Building

variable {α β : Type}

namespace Workspace

/-- The number that was opened under the name of a path key. -/
def idOf? (workspace : Workspace) (key : String) : Option NodeId :=
  (workspace.names.assigned[key]?).bind workspace.forest.id?

/-- All names are names of projections: they are reserved, and a projection was opened under each. -/
structure Tidy (workspace : Workspace) : Prop where
  consistent : workspace.names.Consistent
  entered : ∀ key name : String, workspace.names.assigned[key]? = some name →
    workspace.names.isReserved name = true ∧ (workspace.forest.id? name).isSome
  owned : ∀ name : String, workspace.names.isReserved name = true →
    ∃ key : String, workspace.names.assigned[key]? = some name

namespace Tidy

variable {workspace : Workspace} {path : List String} {suffix name : String} {names : NameSupply}

theorem empty (abbreviated : Bool) : (Workspace.empty abbreviated).Tidy where
  consistent := NameSupply.consistent_empty abbreviated
  entered key name held := by simp [Workspace.empty, NameSupply.empty] at held
  owned name held := by simp [Workspace.empty, NameSupply.empty, NameSupply.isReserved] at held

/-- A path is claimed for the second time if and only if its key has a name. -/
theorem claim_cases (tidy : workspace.Tidy) (path : List String) (suffix : String) :
    (∃ name id, workspace.names.claim path suffix = ((name, false), workspace.names.reserve name) ∧
        workspace.names.assigned[NameSupply.pathKey path suffix]? = some name ∧
        workspace.forest.id? name = some id) ∨
      ∃ name, workspace.names.claim path suffix = ((name, true),
          (workspace.names.assign (NameSupply.pathKey path suffix) name).reserve name) ∧
        workspace.names.assigned[NameSupply.pathKey path suffix]? = none ∧
        workspace.names.owners[name]? = none := by
  cases known : workspace.names.assigned[NameSupply.pathKey path suffix]? with
  | some name =>
    obtain ⟨reserved, opened⟩ := tidy.entered _ _ known
    obtain ⟨id, opened⟩ := Option.isSome_iff_exists.mp opened
    refine .inl ⟨name, id, ?_, rfl, opened⟩
    rw [NameSupply.claim_of_assigned known, reserved]
    rfl
  | none =>
    have free := NameSupply.owners_freshName workspace.names path suffix
    refine .inr ⟨_, ?_, rfl, free⟩
    -- A reserved name has an owner, so a fresh name is not reserved.
    have unreserved :
        workspace.names.isReserved (workspace.names.freshName path suffix) = false := by
      by_contra reserved
      obtain ⟨key, held⟩ := tidy.owned _ (Bool.not_eq_false _ ▸ reserved)
      rw [(tidy.consistent.inverse _ _).mp held] at free
      cases free
    rw [NameSupply.claim_of_unassigned known, unreserved]
    rfl

theorem reserve (tidy : workspace.Tidy) {key name : String}
    (held : workspace.names.assigned[key]? = some name) :
    Tidy { workspace with names := workspace.names.reserve name } where
  consistent := tidy.consistent.reserve name
  entered other text held' := by
    obtain ⟨reserved, opened⟩ := tidy.entered other text held'
    exact ⟨by simp [NameSupply.isReserved_reserve, reserved], opened⟩
  owned text reserved := by
    rw [NameSupply.isReserved_reserve, Bool.or_eq_true, beq_iff_eq] at reserved
    rcases reserved with rfl | reserved
    · exact ⟨key, held⟩
    · exact tidy.owned text reserved

/-- A path that is claimed for the first time gets the next number. -/
theorem idOf?_opened (tidy : workspace.Tidy) {key name : String}
    (free : workspace.names.owners[name]? = none) (other : String) :
    idOf? ⟨(workspace.names.assign key name).reserve name, workspace.forest.opened name⟩ other =
      if key = other then some workspace.forest.size else workspace.idOf? other := by
  change ((workspace.names.assign key name).assigned[other]?).bind _ = _
  rw [NameSupply.assigned_assign]
  split
  next => simp [Forest.id?_opened]
  next =>
    unfold idOf?
    cases held : workspace.names.assigned[other]? with
    | none => rfl
    | some text =>
      have apart : name ≠ text := by
        rintro rfl
        rw [(tidy.consistent.inverse _ _).mp held] at free
        cases free
      simp [Forest.id?_opened, apart]

theorem opened (tidy : workspace.Tidy) {key name : String}
    (unnamed : workspace.names.assigned[key]? = none)
    (free : workspace.names.owners[name]? = none) :
    Tidy ⟨(workspace.names.assign key name).reserve name, workspace.forest.opened name⟩ where
  consistent := (tidy.consistent.assign unnamed free).reserve name
  entered other text held := by
    change (workspace.names.assign key name).assigned[other]? = some text at held
    rw [NameSupply.assigned_assign] at held
    rw [NameSupply.isReserved_reserve, Forest.id?_opened]
    by_cases same : name = text
    · simp [same]
    · split at held
      next => exact absurd (Option.some.inj held) same
      next =>
        obtain ⟨reserved, opened⟩ := tidy.entered other text held
        simp only [same, if_false]
        exact ⟨by simpa [NameSupply.assign, NameSupply.isReserved] using .inr reserved, opened⟩
  owned text reserved := by
    rw [NameSupply.isReserved_reserve, Bool.or_eq_true, beq_iff_eq] at reserved
    change ∃ other : String, (workspace.names.assign key name).assigned[other]? = some text
    rcases reserved with rfl | reserved
    · exact ⟨key, by simp [NameSupply.assigned_assign]⟩
    · obtain ⟨other, held⟩ := tidy.owned text reserved
      refine ⟨other, ?_⟩
      rw [NameSupply.assigned_assign, if_neg, held]
      rintro rfl
      rw [unnamed] at held
      cases held

theorem filled (tidy : workspace.Tidy) (node : ProjectionNode) :
    Tidy { workspace with forest := workspace.forest.filled node } where
  consistent := tidy.consistent
  entered := tidy.entered
  owned := tidy.owned

end Tidy

variable {workspace later : Workspace} {allowed : List String → Prop} {root : NodeId}

/-- Moves at the allowed paths keep the numbers at all keys of other paths. -/
theorem Move.tidy (move : workspace.Move allowed root later) (tidy : workspace.Tidy) :
    later.Tidy ∧ ∀ key, (∀ path suffix, allowed path → NameSupply.pathKey path suffix ≠ key) →
      later.idOf? key = workspace.idOf? key := by
  cases move with
  | @claim path suffix _ _ within claims =>
    rcases tidy.claim_cases path suffix with ⟨name, id, claimed, held, -⟩ | ⟨name, claimed, -⟩
    · obtain ⟨⟨rfl, -⟩, rfl⟩ := claims.symm.trans claimed
      exact ⟨tidy.reserve held, fun _ _ => rfl⟩
    · cases claims.symm.trans claimed
  | @enter path suffix _ _ within claims =>
    rcases tidy.claim_cases path suffix with ⟨name, id, claimed, -⟩ | ⟨name, claimed, unnamed, free⟩
    · cases claims.symm.trans claimed
    · obtain ⟨⟨rfl, -⟩, rfl⟩ := claims.symm.trans claimed
      refine ⟨tidy.opened unnamed free, fun key apart => ?_⟩
      rw [tidy.idOf?_opened free, if_neg (apart path suffix within)]
  | fill => exact ⟨tidy.filled _, fun _ _ => rfl⟩

theorem Moves.tidy (moves : workspace.Moves allowed root later) (tidy : workspace.Tidy) :
    later.Tidy ∧ ∀ key, (∀ path suffix, allowed path → NameSupply.pathKey path suffix ≠ key) →
      later.idOf? key = workspace.idOf? key := by
  induction moves with
  | refl => exact ⟨tidy, fun _ _ => rfl⟩
  | tail _ move ih =>
    obtain ⟨tidy', keeps⟩ := move.tidy ih.1
    exact ⟨tidy', fun key apart => (keeps key apart).trans (ih.2 key apart)⟩

end Workspace

/-! ### Shifted numbers -/

section Shifts

variable (offset : Nat)

def Link.Shifts (link other : Link) : Prop := other.target = offset + link.target

structure SelectionMethod.Shifts (method other : SelectionMethod) : Prop where
  field : other.field = method.field
  link : Option.Rel (Link.Shifts offset) method.link other.link

structure FragmentAccessor.Shifts (accessor other : FragmentAccessor) : Prop where
  type : other.type = accessor.type
  link : accessor.link.Shifts offset other.link

/-- The same site up to its name, in a tree that has moved by the offset. -/
structure Site.Shifts (site other : Site) : Prop where
  id : other.id = offset + site.id
  kind : other.kind = site.kind
  parent : other.parent = site.parent.map (offset + ·)
  root : other.root = offset + site.root
  depth : other.depth = site.depth
  path : other.path = site.path

structure ProjectionNode.Shifts (node other : ProjectionNode) : Prop where
  site : node.toSite.Shifts offset other.toSite
  type : other.type = node.type
  methods : List.Forall₂ (SelectionMethod.Shifts offset) node.methods other.methods
  fragments : List.Forall₂ (FragmentAccessor.Shifts offset) node.fragments other.fragments
  truncated : other.truncated = node.truncated

end Shifts

/-- Below a first segment, one workspace is as another one that has more slots in front. -/
structure Workspace.Beside (segment : String) (front : List (Option ProjectionNode))
    (alone other : Workspace) : Prop where
  tidy : alone.Tidy
  tidy' : other.Tidy
  ids : ∀ (path : List String) (suffix : String), path.head? = some segment →
    other.idOf? (NameSupply.pathKey path suffix) =
      (alone.idOf? (NameSupply.pathKey path suffix)).map (front.length + ·)
  slots : ∃ rest, other.forest.slots.toList = front ++ rest ∧
    List.Forall₂ (Option.Rel (ProjectionNode.Shifts front.length)) alone.forest.slots.toList rest

namespace Workspace.Beside

variable {segment : String} {front : List (Option ProjectionNode)} {alone other : Workspace}
  (beside : alone.Beside segment front other)
include beside

theorem size_eq : other.forest.size = front.length + alone.forest.size := by
  obtain ⟨rest, split, each⟩ := beside.slots
  have lengths := congrArg List.length split
  rw [List.length_append, ← each.length_eq] at lengths
  simpa [Forest.size] using lengths

/-- A path is claimed for the second time in both workspaces, or opened in both. -/
theorem claim {path : List String} (head : path.head? = some segment) (suffix : String) :
    (∃ name name' id names names',
        alone.names.claim path suffix = ((name, false), names) ∧
        other.names.claim path suffix = ((name', false), names') ∧
        alone.forest.id? name = some id ∧ other.forest.id? name' = some (front.length + id) ∧
        Beside segment front { alone with names } { other with names := names' }) ∨
      ∃ name name' names names',
        alone.names.claim path suffix = ((name, true), names) ∧
        other.names.claim path suffix = ((name', true), names') ∧
        Beside segment front ⟨names, alone.forest.opened name⟩ ⟨names', other.forest.opened name'⟩ := by
  have same := beside.ids path suffix head
  rcases beside.tidy.claim_cases path suffix with
    ⟨name, id, claims, held, known⟩ | ⟨name, claims, unnamed, free⟩ <;>
  rcases beside.tidy'.claim_cases path suffix with
    ⟨name', id', claims', held', known'⟩ | ⟨name', claims', unnamed', free'⟩
  · refine .inl ⟨name, name', id, _, _, claims, claims', known, ?_, beside.tidy.reserve held,
      beside.tidy'.reserve held', beside.ids, beside.slots⟩
    simp only [idOf?, held, held', Option.bind_some, known, known', Option.map_some] at same
    rw [known', same]
  · simp [idOf?, held, unnamed', known] at same
  · simp [idOf?, unnamed, held', known'] at same
  · refine .inr ⟨name, name', _, _, claims, claims', beside.tidy.opened unnamed free,
      beside.tidy'.opened unnamed' free', fun path' suffix' head' => ?_, ?_⟩
    · rw [beside.tidy.idOf?_opened free, beside.tidy'.idOf?_opened free']
      split
      · rw [beside.size_eq]
        rfl
      · exact beside.ids path' suffix' head'
    · obtain ⟨rest, split, each⟩ := beside.slots
      refine ⟨rest ++ [none], by simp [Forest.opened, split], ?_⟩
      simpa [Forest.opened] using List.rel_append each (.cons .none .nil)

theorem filled {node node' : ProjectionNode} (shifts : node.Shifts front.length node') :
    Beside segment front { alone with forest := alone.forest.filled node }
      { other with forest := other.forest.filled node' } where
  tidy := beside.tidy.filled node
  tidy' := beside.tidy'.filled node'
  ids := beside.ids
  slots := by
    obtain ⟨rest, split, each⟩ := beside.slots
    refine ⟨rest.set node.id (some node'), ?_, ?_⟩
    · simp [Forest.filled, split, shifts.site.id]
    · simpa [Forest.filled] using forall₂_set each node.id (.some shifts)

end Workspace.Beside

/-! ### Parallel steps -/

inductive EndBeside (segment : String) (front : List (Option ProjectionNode))
    (good : α → β → Prop) : Except Error α × Workspace → Except Error β × Workspace → Prop
  | ok {value : α} {value' : β} {alone other : Workspace} (beside : alone.Beside segment front other)
      (holds : good value value') : EndBeside segment front good (.ok value, alone) (.ok value', other)
  | error (fault : Error) {alone other : Workspace} :
      EndBeside segment front good (.error fault, alone) (.error fault, other)

/-- Wherever one workspace is beside another, the two steps end in the same way. -/
def Parallel (segment : String) (front : List (Option ProjectionNode)) (step : Building α)
    (step' : Building β) (good : α → β → Prop) : Prop :=
  ∀ alone other : Workspace, alone.Beside segment front other →
    EndBeside segment front good (step.run.run alone) (step'.run.run other)

namespace Parallel

variable {segment : String} {front : List (Option ProjectionNode)} {α' β' : Type}
  {good : α → α' → Prop} {good' : β → β' → Prop} {step : Building α} {step' : Building α'}

theorem pure {value : α} {value' : α'} (holds : good value value') :
    Parallel segment front (pure value) (pure value') good :=
  fun _ _ beside => .ok beside holds

theorem throw (fault : Error) :
    Parallel segment front (throw fault : Building α) (throw fault : Building α') good :=
  fun _ _ _ => .error fault

theorem bind {next : α → Building β} {next' : α' → Building β'}
    (first : Parallel segment front step step' good)
    (second : ∀ value value', good value value' →
      Parallel segment front (next value) (next' value') good') :
    Parallel segment front (step >>= next) (step' >>= next') good' := by
  intro alone other beside
  have ends := first alone other beside
  rw [run_bind, run_bind]
  generalize step.run.run alone = ran, step'.run.run other = ran' at ends
  cases ends with
  | ok beside holds => exact second _ _ holds _ _ beside
  | error fault => exact .error fault

theorem ofExcept (result : Except Error α) :
    Parallel segment front (Building.ofExcept result) (Building.ofExcept result) Eq := by
  cases result with
  | ok value => exact pure rfl
  | error fault => exact throw fault

theorem gather {items : List α} {build : α → Building (Option β)}
    {build' : α → Building (Option β')}
    (each : ∀ item ∈ items, Parallel segment front (build item) (build' item) (Option.Rel good')) :
    Parallel segment front (Building.gather build items) (Building.gather build' items)
      (List.Forall₂ good') := by
  induction items with
  | nil => exact pure .nil
  | cons item rest ih =>
    refine (each item List.mem_cons_self).bind fun _ _ first => ?_
    refine (ih fun item member => each item (List.mem_cons_of_mem _ member)).bind fun _ _ others => ?_
    apply pure
    cases first with
    | none => exact others
    | some holds => exact .cons holds others

theorem fill {node node' : ProjectionNode} (shifts : node.Shifts front.length node') :
    Parallel segment front (fill node) (fill node') fun _ _ => True :=
  fun _ _ beside => .ok (beside.filled shifts) trivial

/-- A path below the segment is claimed, and either there is a projection already that is linked to,
or one is opened. -/
theorem claim {path : List String} {suffix : String} (head : path.head? = some segment)
    {next : String × Bool → Building α} {next' : String × Bool → Building α'}
    {linked : Link → Building α} {linked' : Link → Building α'}
    {inside : String → NodeId → Building α} {inside' : String → NodeId → Building α'}
    (old : ∀ name, next (name, false) = linkTo name >>= linked)
    (old' : ∀ name, next' (name, false) = linkTo name >>= linked')
    (new : ∀ name, next (name, true) = openNode name >>= inside name)
    (new' : ∀ name, next' (name, true) = openNode name >>= inside' name)
    (linking : ∀ link link', link.Shifts front.length link' →
      Parallel segment front (linked link) (linked' link') good)
    (opening : ∀ name name' id,
      Parallel segment front (inside name id) (inside' name' (front.length + id)) good) :
    Parallel segment front (Building.claim path suffix >>= next)
      (Building.claim path suffix >>= next') good := by
  intro alone other beside
  rw [run_bind, run_bind, run_claim, run_claim]
  rcases beside.claim head suffix with
    ⟨name, name', id, names, names', claims, claims', held, held', beside'⟩ |
    ⟨name, name', names, names', claims, claims', beside'⟩
  · rw [claims, claims']
    have found : (linkTo name).run.run { alone with names } = _ := run_linkTo held
    have found' : (linkTo name').run.run { other with names := names' } = _ := run_linkTo held'
    simp only [old, old', run_bind, found, found']
    exact linking ⟨id, name⟩ ⟨front.length + id, name'⟩ rfl _ _ beside'
  · rw [claims, claims']
    simp only [new, new', run_bind]
    have size : other.forest.size = front.length + alone.forest.size := beside.size_eq
    change EndBeside segment front good ((inside name alone.forest.size).run.run _)
      ((inside' name' other.forest.size).run.run _)
    rw [size]
    exact opening name name' alone.forest.size _ _ beside'

end Parallel

end GraphQLProjections
