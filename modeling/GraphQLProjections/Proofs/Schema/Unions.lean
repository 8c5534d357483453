import Mathlib.Logic.Relation
import GraphQLProjections.Proofs.Projection.Spot

/-! Unions among the members of unions. If no union contains itself through unions alone, then the
concrete types of concrete types come to an end, and the number of types that can still follow
counts them down. -/
namespace GraphQLProjections

theorem TypeDefinition.not_isInterface_of_isUnion {type : TypeDefinition}
    (isUnion : type.isUnion = true) : type.isInterface = false := by
  unfold TypeDefinition.isUnion at isUnion
  unfold TypeDefinition.isInterface
  cases content : type.content <;> simp_all

def TypeDefinition.memberNames (type : TypeDefinition) : List String :=
  match type.content with
  | .union names => names
  | _ => []

namespace Schema

open Relation

def UnionMember (schema : Schema) (outer inner : TypeDefinition) : Prop :=
  outer.isUnion = true ∧ inner.isUnion = true ∧ inner ∈ schema.members outer.name

/-- No union contains itself through unions alone. -/
def UnionsAcyclic (schema : Schema) : Prop :=
  ∀ union, ¬TransGen schema.UnionMember union union

def Concrete (schema : Schema) (type concrete : TypeDefinition) : Prop :=
  concrete ∈ schema.concreteTypes type

variable {schema : Schema} {type member : TypeDefinition}

/-- Only interfaces and unions have concrete types. Those of interfaces are objects, which have none
themselves. -/
theorem Concrete.cases (step : schema.Concrete type member) :
    type.isInterface = true ∧ member.isObject = true ∨
      type.isUnion = true ∧ member ∈ schema.members type.name := by
  unfold Concrete concreteTypes at step
  split at step
  next isInterface =>
    have filtered := (List.mem_filter.mp step).2
    simp only [Bool.and_eq_true] at filtered
    exact .inl ⟨isInterface, filtered.1⟩
  next =>
    split at step
    next isUnion => exact .inr ⟨isUnion, step⟩
    next => exact absurd step List.not_mem_nil

theorem Concrete.not_isObject (step : schema.Concrete type member) : type.isObject = false := by
  have kinds : type.isInterface = true ∨ type.isUnion = true := step.cases.imp And.left And.left
  unfold TypeDefinition.isInterface TypeDefinition.isUnion at kinds
  unfold TypeDefinition.isObject
  cases content : type.content <;> simp_all

/-- A type whose concrete types have concrete types is a union. -/
theorem Concrete.isUnion_of_concrete {further : TypeDefinition}
    (step : schema.Concrete type member) (next : schema.Concrete member further) :
    type.isUnion = true ∧ member ∈ schema.members type.name := by
  rcases step.cases with ⟨-, isObject⟩ | found
  · exact absurd (next.not_isObject.symm.trans isObject) Bool.false_ne_true
  · exact found

theorem concrete_of_unionMember (contains : schema.UnionMember type member) :
    schema.Concrete type member := by
  obtain ⟨isUnion, -, inside⟩ := contains
  have other := TypeDefinition.not_isInterface_of_isUnion isUnion
  simpa [Concrete, concreteTypes, isUnion, other] using inside

/-- A way through concrete types leads through unions alone, as long as two more steps follow. -/
theorem unionMember_of_concrete {next last : TypeDefinition}
    (path : TransGen schema.Concrete type member) (step : schema.Concrete member next)
    (step' : schema.Concrete next last) : TransGen schema.UnionMember type member := by
  induction path generalizing next last with
  | single first =>
    exact .single ⟨(first.isUnion_of_concrete step).1, (step.isUnion_of_concrete step').1,
      (first.isUnion_of_concrete step).2⟩
  | tail path first ih =>
    exact (ih first step).tail ⟨(first.isUnion_of_concrete step).1,
      (step.isUnion_of_concrete step').1, (first.isUnion_of_concrete step).2⟩

/-- A type among its own concrete types is a union that contains itself. -/
theorem UnionsAcyclic.concrete (acyclic : schema.UnionsAcyclic) (type : TypeDefinition) :
    ¬TransGen schema.Concrete type type := by
  intro cycle
  obtain ⟨next, step, back⟩ := TransGen.head'_iff.mp cycle
  obtain ⟨last, step', -⟩ := TransGen.head'_iff.mp (TransGen.trans_right back cycle)
  exact acyclic type (unionMember_of_concrete cycle step step')

/-- Unions that are ranked above the unions among their members do not contain themselves. -/
theorem unionsAcyclic_of_rank (rank : TypeDefinition → Nat)
    (falls : ∀ outer ∈ schema.types, outer.isUnion = true →
      ∀ inner ∈ schema.members outer.name, inner.isUnion = true → rank inner < rank outer) :
    schema.UnionsAcyclic := by
  have known {outer inner : TypeDefinition} (path : TransGen schema.UnionMember outer inner) :
      inner ∈ schema.types := by
    obtain ⟨_, -, member⟩ := TransGen.tail'_iff.mp path
    exact mem_types_of_concrete (concrete_of_unionMember member)
  have below {outer inner : TypeDefinition} (path : TransGen schema.UnionMember outer inner)
      (inside : outer ∈ schema.types) : rank inner < rank outer := by
    induction path with
    | single member => exact falls _ inside member.1 _ member.2.2 member.2.1
    | tail path member ih =>
      exact (falls _ (known path) member.1 _ member.2.2 member.2.1).trans ih
  intro union cycle
  exact absurd (below cycle (known cycle)) (Nat.lt_irrefl _)

open Classical in
/-- The number of types that can still follow as concrete types of concrete types. -/
noncomputable def height (schema : Schema) (type : TypeDefinition) : Nat :=
  schema.types.countP fun other => TransGen schema.Concrete type other

theorem height_le (type : TypeDefinition) : schema.height type ≤ schema.types.length :=
  List.countP_le_length

/-- Fewer types can follow a concrete type, as it does not follow itself. -/
theorem UnionsAcyclic.height_lt (acyclic : schema.UnionsAcyclic)
    (step : schema.Concrete type member) : schema.height member < schema.height type := by
  classical
  have fewer : (schema.types.filter fun other => TransGen schema.Concrete member other).Sublist
      (schema.types.filter fun other => TransGen schema.Concrete type other) := by
    apply List.monotone_filter_right
    intro other follows
    exact decide_eq_true (TransGen.head step (of_decide_eq_true follows))
  unfold height
  rw [List.countP_eq_length_filter, List.countP_eq_length_filter]
  refine Nat.lt_of_le_of_ne fewer.length_le fun same => ?_
  have inside : member ∈ schema.types.filter fun other => TransGen schema.Concrete type other :=
    List.mem_filter.mpr ⟨mem_types_of_concrete step, decide_eq_true (.single step)⟩
  rw [← fewer.eq_of_length same] at inside
  exact acyclic.concrete member (of_decide_eq_true (List.mem_filter.mp inside).2)

end Schema
end GraphQLProjections
