import GraphQLProjections.Proofs.NameSupply

/-! Sequences of calls to a supply of names. Whatever is asked of a fresh supply, and in whatever
order, a path is always answered with one and the same name, and two plain paths or suffixes that
differ with two. -/
namespace GraphQLProjections
namespace NameSupply

/-- Mark a name as emitted, and tell whether it was yet to be. -/
def tryReserve (supply : NameSupply) (name : String) : Bool × NameSupply :=
  (!supply.isReserved name, supply.reserve name)

inductive Call where
  | allocate (path : List String) (suffix : String)
  | tryReserve (name : String)
  | isReserved (name : String)
  deriving DecidableEq, Repr, Inhabited

inductive Answer where
  | name (text : String)
  | flag (holds : Bool)
  deriving DecidableEq, Repr, Inhabited

def answer (supply : NameSupply) : Call → Answer × NameSupply
  | .allocate path suffix =>
    let (name, later) := supply.allocate path suffix
    (.name name, later)
  | .tryReserve name =>
    let (isNew, later) := supply.tryReserve name
    (.flag isNew, later)
  | .isReserved name => (.flag (supply.isReserved name), supply)

def after (supply : NameSupply) : List Call → NameSupply
  | [] => supply
  | call :: calls => (supply.answer call).2.after calls

def transcript (supply : NameSupply) : List Call → List (Call × Answer)
  | [] => []
  | call :: calls => (call, (supply.answer call).1) :: (supply.answer call).2.transcript calls

/-- A claim is a call for a name and a call to reserve it. -/
theorem claim_eq_tryReserve (supply : NameSupply) (path : List String) (suffix : String) :
    supply.claim path suffix =
      let (name, named) := supply.allocate path suffix
      let (isNew, later) := named.tryReserve name
      ((name, isNew), later) :=
  rfl

/-! ### One call -/

theorem Consistent.answer {supply : NameSupply} (consistent : supply.Consistent) (call : Call) :
    (supply.answer call).2.Consistent := by
  cases call with
  | allocate path suffix => exact consistent.allocate path suffix
  | tryReserve name => exact consistent.reserve name
  | isReserved name => exact consistent

theorem keeps_answer (supply : NameSupply) (call : Call) : supply.Keeps (supply.answer call).2 := by
  cases call with
  | allocate path suffix => exact keeps_allocate supply path suffix
  | tryReserve name => exact keeps_reserve supply name
  | isReserved name => exact .refl supply

/-- The answer to a call for a name is the name that the path has from then on. -/
theorem nameOf?_answer {supply : NameSupply} {path : List String} {suffix name : String}
    (answered : (supply.answer (.allocate path suffix)).1 = .name name) :
    (supply.answer (.allocate path suffix)).2.nameOf? path suffix = some name := by
  obtain rfl : (supply.allocate path suffix).1 = name := Answer.name.inj answered
  exact nameOf?_allocate supply path suffix

/-! ### All calls -/

theorem Consistent.after {supply : NameSupply} (consistent : supply.Consistent)
    (calls : List Call) : (supply.after calls).Consistent := by
  induction calls generalizing supply with
  | nil => exact consistent
  | cons call calls ih => exact ih (consistent.answer call)

theorem keeps_after (supply : NameSupply) (calls : List Call) :
    supply.Keeps (supply.after calls) := by
  induction calls generalizing supply with
  | nil => exact .refl supply
  | cons call calls ih => exact (keeps_answer supply call).trans (ih _)

/-- After all calls each path that was asked for has the name it was answered with. -/
theorem nameOf?_after {supply : NameSupply} {calls : List Call} {path : List String}
    {suffix name : String}
    (granted : (Call.allocate path suffix, Answer.name name) ∈ supply.transcript calls) :
    (supply.after calls).nameOf? path suffix = some name := by
  induction calls generalizing supply with
  | nil => exact absurd granted List.not_mem_nil
  | cons call calls ih =>
    rcases List.mem_cons.mp granted with here | later
    · obtain ⟨rfl, answered⟩ := Prod.mk.inj here
      exact (keeps_after _ calls).nameOf? (nameOf?_answer answered.symm)
    · exact ih later

/-- A fresh supply answers each path with one name for ever. Two plain paths are never answered
with the same name, unless they and their suffixes are the same. -/
theorem names_of_transcript (abbreviated : Bool) (calls : List Call) (path other : List String)
    (suffix suffix' name name' : String)
    (granted : (Call.allocate path suffix, Answer.name name) ∈
      (empty abbreviated).transcript calls)
    (granted' : (Call.allocate other suffix', Answer.name name') ∈
      (empty abbreviated).transcript calls) :
    (path = other ∧ suffix = suffix' → name = name') ∧
      (IsPlainPath path → IsPlainPath other → ¬(path = other ∧ suffix = suffix') →
        name ≠ name') := by
  have named := nameOf?_after granted
  have named' := nameOf?_after granted'
  constructor
  · rintro ⟨rfl, rfl⟩
    exact Option.some.inj (named.symm.trans named')
  · rintro plain plain' differ rfl
    have consistent := (consistent_empty abbreviated).after calls
    exact differ (consistent.nameOf?_injective plain plain' named named')

def joinedCalls : List Call :=
  [.allocate ["fooBar"] projectionSuffix, .tryReserve "FooBarProjection",
    .allocate ["foo", "bar"] projectionSuffix, .isReserved "FooBar2Projection",
    .allocate ["fooBar"] projectionSuffix]

theorem names_of_joinedCalls :
    (empty false).transcript joinedCalls =
        joinedCalls.zip [.name "FooBarProjection", .flag true, .name "FooBar2Projection",
          .flag false, .name "FooBarProjection"] ∧
      "FooBarProjection" ≠ "FooBar2Projection" := by
  have answers : (empty false).transcript joinedCalls =
      joinedCalls.zip [.name "FooBarProjection", .flag true, .name "FooBar2Projection",
        .flag false, .name "FooBarProjection"] := by decide +kernel
  have first : (Call.allocate ["fooBar"] projectionSuffix, Answer.name "FooBarProjection") ∈
      (empty false).transcript joinedCalls := answers ▸ by decide
  have second : (Call.allocate ["foo", "bar"] projectionSuffix, Answer.name "FooBar2Projection") ∈
      (empty false).transcript joinedCalls := answers ▸ by decide
  have apart := names_of_transcript false joinedCalls _ _ _ _ _ _ first second
  exact ⟨answers, apart.2 (by decide) (by decide) (by decide)⟩

end NameSupply
end GraphQLProjections
