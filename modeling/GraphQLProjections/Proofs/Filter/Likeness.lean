import GraphQLProjections.Proofs.Filter.Height

/-! Filters that select the same words. They may list their parts in different orders, but a
traversal cannot tell them apart: their parts by name are alike, they narrow to filters that are
alike, and they are of one height. -/
namespace GraphQLProjections

theorem isSome_eq_of_rel {α β : Type} {related : α → β → Prop} {left : Option α} {right : Option β}
    (alike : Option.Rel related left right) : left.isSome = right.isSome := by
  cases alike <;> rfl

namespace Filter

variable {filter other : Filter}

theorem step?_eq_some_of_has {step : SelectionStep} (has : filter.Has [step]) :
    ∃ child, filter.step? step = some child := by
  obtain ⟨child, found, -⟩ := has
  exact ⟨child, found⟩

theorem has_cons_of_step {child : Filter} {step : SelectionStep}
    (found : filter.step? step = some child) {word : List SelectionStep} :
    filter.Has (step :: word) ↔ child.Has word := by
  simp [Has, found]

/-- The filters select the same words, and no level of either names a part twice. -/
structure Alike (filter other : Filter) : Prop where
  distinct : filter.Distinct
  distinct' : other.Distinct
  has : ∀ word, filter.Has word ↔ other.Has word

namespace Alike

theorem symm (alike : filter.Alike other) : other.Alike filter :=
  ⟨alike.distinct', alike.distinct, fun word => (alike.has word).symm⟩

theorem below (alike : filter.Alike other) {step : SelectionStep} {child : Filter}
    (found : filter.step? step = some child) :
    ∃ child', other.step? step = some child' ∧ child.Alike child' := by
  obtain ⟨child', found'⟩ := step?_eq_some_of_has
    ((alike.has [step]).mp ((has_cons_of_step found).mpr trivial))
  refine ⟨child', found', alike.distinct.step step found, alike.distinct'.step step found',
    fun word => ?_⟩
  rw [← has_cons_of_step found, ← has_cons_of_step found', alike.has]

/-- Both filters have a part, and the two are alike, or neither has it. -/
theorem step? (alike : filter.Alike other) (step : SelectionStep) :
    Option.Rel Alike (filter.step? step) (other.step? step) := by
  cases found : filter.step? step with
  | some child =>
    obtain ⟨child', found', alike'⟩ := alike.below found
    rw [found']
    exact .some alike'
  | none =>
    cases found' : other.step? step with
    | none => exact .none
    | some child' =>
      obtain ⟨child, found'', -⟩ := alike.symm.below found'
      exact absurd (found''.symm.trans found) (Option.some_ne_none child)

theorem narrowed (alike : filter.Alike other) (type : String) :
    (filter.narrowed type).Alike (other.narrowed type) := by
  refine ⟨alike.distinct.narrowed type, alike.distinct'.narrowed type, fun word => ?_⟩
  cases word with
  | nil => exact Iff.rfl
  | cons step rest =>
    rw [has_narrowed alike.distinct, has_narrowed alike.distinct', alike.has, alike.has]

theorem height (alike : filter.Alike other) : filter.height = other.height :=
  Nat.le_antisymm (alike.distinct.height_le fun word => (alike.has word).mp)
    (alike.distinct'.height_le fun word => (alike.has word).mpr)

end Alike
end Filter
end GraphQLProjections
