import GraphQLProjections.Proofs.Projection.Population

/-! The bound on how far down a traversal goes. A traversal that does not run out of its bound does
the same within any larger one. -/
namespace GraphQLProjections

open Building

variable {α β : Type}

def Exhausts (step : Building α) (workspace : Workspace) : Prop :=
  ∃ type, (step.outcome workspace).1 = .error (.endlessUnion type)

theorem not_exhausts_iff {step : Building α} : (∀ workspace, ¬Exhausts step workspace) ↔
    FailsWith step fun fault => ∀ type, fault ≠ .endlessUnion type := by
  refine forall_congr' fun workspace => ?_
  unfold Exhausts Ensures Building.outcome
  rcases step.run.run workspace with ⟨result, later⟩
  cases result <;> simp

/-- Wherever a step does not run out of its bound, a wider one does the same. -/
def Extends (step wider : Building α) : Prop :=
  ∀ workspace, ¬Exhausts step workspace → wider.outcome workspace = step.outcome workspace

theorem extends_iff {step wider : Building α} : Extends step wider ↔
    AgreesUnless (fun fault => ∃ type, fault = .endlessUnion type) step wider := by
  refine forall_congr' fun workspace => imp_congr_left ⟨?_, ?_⟩
  · rintro inside _ fails ⟨type, rfl⟩
    exact inside ⟨type, fails⟩
  · rintro inside ⟨type, fails⟩
    exact inside _ fails ⟨type, rfl⟩

namespace Extends

theorem refl (step : Building α) : Extends step step := fun _ _ => rfl

theorem bind {step wider : Building α} {next next' : α → Building β} (first : Extends step wider)
    (second : ∀ value, Extends (next value) (next' value)) :
    Extends (step >>= next) (wider >>= next') :=
  extends_iff.mpr ((extends_iff.mp first).bind fun value => extends_iff.mp (second value))

theorem gather {build build' : α → Building (Option β)}
    (each : ∀ item, Extends (build item) (build' item)) (items : List α) :
    Extends (gather build items) (gather build' items) :=
  extends_iff.mpr (.gather (fun item => extends_iff.mp (each item)) items)

theorem enter {inside inside' : NodeId → String → Building Unit}
    (widens : ∀ id name, Extends (inside id name) (inside' id name)) (path : List String)
    (otherwise : String → Building β) (result : Link → β) :
    Extends (enter path inside otherwise result) (enter path inside' otherwise result) := by
  refine (Extends.refl _).bind fun claimed => ?_
  obtain ⟨name, isNew⟩ := claimed
  cases isNew with
  | false => exact .refl _
  | true => exact (Extends.refl _).bind fun id => (widens id name).bind fun _ => .refl _

end Extends

namespace Traversal

variable {traversal : Traversal} {descend descend' : Descent}
  (widens : ∀ site type trail filter,
    Extends (descend site type trail filter) (descend' site type trail filter))
include widens

theorem child_extends (site : Site) (field : FieldDefinition) (type : TypeDefinition)
    (trail : List TrailStep) (filter : Option Filter) :
    Extends (child descend site field type trail filter)
      (child descend' site field type trail filter) := by
  rw [child_eq, child_eq]
  exact .enter (fun id name => widens _ _ _ _) _ _ _

theorem fragment_extends (site : Site) (type : TypeDefinition) (trail : List TrailStep)
    (filter : Option Filter) :
    Extends (fragment descend site type trail filter)
      (fragment descend' site type trail filter) := by
  rw [fragment_eq, fragment_eq]
  exact .enter (fun id name => widens _ _ _ _) _ _ _

theorem method?_extends (site : Site) (trail : List TrailStep) (scope : Option Filter)
    (field : FieldDefinition) :
    Extends (traversal.method? descend site trail scope field)
      (traversal.method? descend' site trail scope field) := by
  unfold method?
  cases partScope scope (·.field? field.name) with
  | none => exact .refl _
  | some filter =>
    refine (Extends.refl _).bind fun target => ?_
    cases target with
    | leaf => exact .refl _
    | composite type =>
      dsimp only
      split
      · exact .refl _
      · exact (child_extends widens site field type trail filter).bind fun _ => .refl _

theorem accessor?_extends (site : Site) (trail : List TrailStep) (scope : Option Filter)
    (type : TypeDefinition) :
    Extends (accessor? descend site trail scope type)
      (accessor? descend' site trail scope type) := by
  unfold accessor?
  cases partScope scope (·.fragment? type.name) with
  | none => exact .refl _
  | some filter => exact (fragment_extends widens site type trail filter).bind fun _ => .refl _

theorem populateBy_extends (site : Site) (type : TypeDefinition) (trail : List TrailStep)
    (filter : Option Filter) :
    Extends (traversal.populateBy descend site type trail filter)
      (traversal.populateBy descend' site type trail filter) := by
  refine (Extends.gather (method?_extends widens site trail _) _).bind fun methods => ?_
  exact (Extends.gather (accessor?_extends widens site trail _) _).bind fun _ => .refl _

omit widens

/-- Going down within a larger bound does the same, unless the smaller one runs out. -/
theorem populate_extends (bound more : Nat) (site : Site) (type : TypeDefinition)
    (trail : List TrailStep) (filter : Option Filter) :
    Extends (traversal.populate bound site type trail filter)
      (traversal.populate (bound + more) site type trail filter) := by
  induction bound generalizing site type trail filter with
  | zero => exact fun workspace inside => absurd ⟨type.name, rfl⟩ inside
  | succ bound ih =>
    rw [Nat.add_right_comm]
    exact populateBy_extends ih site type trail filter

/-- The projection of a root field, going down at most some levels. -/
def rootWithin (traversal : Traversal) (bound : Nat) (path : List String) (field : FieldDefinition)
    (filter : Option Filter) : Building (Option NodeId) := do
  match ← Building.ofExcept (traversal.schema.target field) with
  | .leaf => return none
  | .composite type =>
    let (name, isNew) ← claim path NameSupply.rootSuffix
    if isNew then
      let id ← openNode name
      traversal.populate bound ⟨id, name, .root, none, id, 0, path⟩ type [] filter
      return some id
    else return some (← linkTo name).target

theorem rootAt_eq_rootWithin (path : List String) (field : FieldDefinition)
    (filter : Option Filter) : traversal.rootAt path field filter =
      traversal.rootWithin (traversal.levels filter) path field filter := rfl

theorem rootWithin_extends (bound more : Nat) (path : List String) (field : FieldDefinition)
    (filter : Option Filter) : Extends (traversal.rootWithin bound path field filter)
      (traversal.rootWithin (bound + more) path field filter) := by
  refine (Extends.refl _).bind fun target => ?_
  cases target with
  | leaf => exact .refl _
  | composite type =>
    refine (Extends.refl _).bind fun claimed => ?_
    obtain ⟨name, isNew⟩ := claimed
    cases isNew with
    | false => exact .refl _
    | true =>
      refine (Extends.refl _).bind fun id => ?_
      exact (populate_extends bound more _ type [] filter).bind fun _ => .refl _

def entitiesWithin (traversal : Traversal) (bound : Nat) (path : List String)
    (entities : List TypeDefinition) : Building (Option NodeId) := do
  if entities.isEmpty then return none
  let (name, isNew) ← claim path NameSupply.rootSuffix
  if !isNew then throw (.nameCollision name)
  let id ← openNode name
  let site : Site := ⟨id, name, .root, none, id, 0, path⟩
  let fragments ← gather (accessor? (traversal.populate bound) site [] none) entities
  fill { site with type := entityUnion, methods := [], fragments, truncated := false }
  return some id

theorem entitiesWithin_extends (bound more : Nat) (path : List String)
    (entities : List TypeDefinition) : Extends (traversal.entitiesWithin bound path entities)
      (traversal.entitiesWithin (bound + more) path entities) := by
  unfold entitiesWithin
  split
  · exact .refl _
  · refine (Extends.refl _).bind fun claimed => ?_
    obtain ⟨name, isNew⟩ := claimed
    cases isNew with
    | false => exact .refl _
    | true =>
      refine (Extends.refl _).bind fun id => ?_
      exact (Extends.gather (accessor?_extends (populate_extends bound more) _ [] none) _).bind
        fun _ => .refl _

end Traversal
end GraphQLProjections
