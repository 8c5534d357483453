import GraphQLProjections.Proofs.Operation.Selected

/-! Root fields in fragments. The fields of an operation's filter become root fields, but not what
the filter selects on a type. So a root field is selected only if it is open in some operation: in
no fragment but inline fragments without a type. -/
namespace GraphQLProjections

namespace Selection

/-- Selections contain a field, with what it selects: directly, or in any nesting of fragments. -/
inductive Contains (fragments : String → Option NamedFragment) :
    List Selection → String → List Selection → Prop
  | field {selections inner : List Selection} {name : String}
      (listed : .field name inner ∈ selections) : Contains fragments selections name inner
  | inlined {selections within inner : List Selection} {type : Option String} {name : String}
      (listed : .inlineFragment type within ∈ selections)
      (below : Contains fragments within name inner) : Contains fragments selections name inner
  | spread {selections inner : List Selection} {spread name : String} {fragment : NamedFragment}
      (listed : .spread spread ∈ selections) (defined : fragments spread = some fragment)
      (below : Contains fragments fragment.selections name inner) :
      Contains fragments selections name inner

/-- Fields lead down through selections, in no fragment but inline fragments without a type. -/
inductive Opens : List Selection → List String → Prop
  | nil (selections : List Selection) : Opens selections []
  | field {selections inner : List Selection} {name : String} {names : List String}
      (listed : .field name inner ∈ selections) (shown : name ≠ "__typename")
      (below : Opens inner names) : Opens selections (name :: names)
  | plain {selections inner : List Selection} {names : List String}
      (listed : .inlineFragment none inner ∈ selections) (below : Opens inner names) :
      Opens selections names

/-- Some fragment with a type stands at the level of the selections. -/
inductive Fragmented : List Selection → Prop
  | inlined {selections inner : List Selection} {type : String}
      (listed : .inlineFragment (some type) inner ∈ selections) : Fragmented selections
  | spread {selections : List Selection} {name : String} (listed : .spread name ∈ selections) :
      Fragmented selections
  | plain {selections inner : List Selection} (listed : .inlineFragment none inner ∈ selections)
      (below : Fragmented inner) : Fragmented selections

variable {fragments : String → Option NamedFragment} {selections inner : List Selection}

/-- The words without a fragment are collected exactly from what is open. -/
theorem collects_fields {expand : Expansion} (names : List String) :
    Collects expand selections (names.map .field) ↔ Opens selections names := by
  constructor
  · intro collects
    generalize fields : names.map SelectionStep.field = word at collects
    induction collects generalizing names with
    | nil =>
      obtain rfl := List.map_eq_nil_iff.mp fields
      exact .nil _
    | field listed shown _ ih =>
      obtain ⟨name, rest, rfl, same, below⟩ := List.map_eq_cons_iff.mp fields
      obtain rfl := SelectionStep.field.inj same
      exact .field listed shown (ih _ below)
    | plain listed _ ih => exact .plain listed (ih _ fields)
    | inlined | spread =>
      obtain ⟨name, rest, rfl, same, -⟩ := List.map_eq_cons_iff.mp fields
      cases same
  · intro opens
    induction opens with
    | nil => exact .nil _
    | field listed shown _ ih => exact .field listed shown ih
    | plain listed _ ih => exact .plain listed ih

/-- What a level without fragments contains is open. -/
theorem Contains.opens {name : String} (contains : Contains fragments selections name inner)
    (whole : ¬Fragmented selections) (shown : name ≠ "__typename") {names : List String}
    (below : Opens inner names) : Opens selections (name :: names) := by
  induction contains with
  | field listed => exact .field listed shown below
  | @inlined _ _ _ type _ listed _ ih =>
    cases type with
    | none => exact .plain listed (ih (fun within => whole (.plain listed within)) shown below)
    | some type => exact absurd (.inlined listed) whole
  | spread listed => exact absurd (.spread listed) whole

end Selection

namespace SelectedRoots

open Selection

variable {documents : List (List ExecutableDefinition)} {kind : OperationKind}

def ContainedIn (documents : List (List ExecutableDefinition)) (kind : OperationKind)
    (name : String) (inner : List Selection) : Prop :=
  ∃ document ∈ documents, ∃ operation, .operation operation ∈ document ∧ operation.kind = kind ∧
    Contains (fragmentIn document) operation.selections name inner

def OpenIn (documents : List (List ExecutableDefinition)) (kind : OperationKind)
    (names : List String) : Prop :=
  ∃ document ∈ documents, ∃ operation, .operation operation ∈ document ∧ operation.kind = kind ∧
    Opens operation.selections names

/-- A root field is selected, and below it all the fields that are listed there. -/
def HonoursField (selected : SelectedRoots) (kind : OperationKind) (name : String)
    (inner : List Selection) : Prop :=
  name ∈ selected.rootFields kind ∧ ∃ filter, selected.filter? kind name = some filter ∧
    ∀ child below, .field child below ∈ inner → child ≠ "__typename" →
      (filter.field? child).isSome

/-- Every root field that an operation contains is selected, with the fields listed below it. -/
def Honours (selected : SelectedRoots) (documents : List (List ExecutableDefinition)) : Prop :=
  ∀ kind name inner, ContainedIn documents kind name inner → name ≠ "__typename" →
    selected.HonoursField kind name inner

/-- Fields below a root field are selected plainly if they are open in some operation. -/
theorem selects_fields (name : String) (names : List String) :
    (selectedBy documents).Selects kind name (names.map .field) ↔
      OpenIn documents kind (name :: names) := by
  rw [(selects_selectedBy documents).2]
  refine exists_congr fun document => and_congr_right fun _ => ?_
  refine exists_congr fun operation => and_congr_right fun _ => and_congr_right fun _ => ?_
  exact (has_collectAll_empty (NamedFragment.distinct_expansion _ _)).trans
    (collects_fields (name :: names))

theorem honoursField_iff {name : String} {inner : List Selection} :
    (selectedBy documents).HonoursField kind name inner ↔
      OpenIn documents kind [name] ∧ ∀ child below, .field child below ∈ inner →
        child ≠ "__typename" → OpenIn documents kind [name, child] := by
  have root : OpenIn documents kind [name] ↔ (selectedBy documents).Selects kind name [] :=
    (selects_fields name []).symm
  have child (child : String) : OpenIn documents kind [name, child] ↔
      (selectedBy documents).Selects kind name [.field child] :=
    (selects_fields name [child]).symm
  simp only [HonoursField, root, child, mem_rootFields, Selects]
  cases (selectedBy documents).filter? kind name with
  | none => simp
  | some filter => simp [Filter.Has, Filter.step?, Option.isSome_iff_exists]

/-- Root fields in fragments are honoured exactly if each is open in some operation of its kind too,
and so is every field below it. -/
theorem honours_iff_open : (selectedBy documents).Honours documents ↔
    ∀ kind name inner, ContainedIn documents kind name inner → name ≠ "__typename" →
      OpenIn documents kind [name] ∧ ∀ child below, .field child below ∈ inner →
        child ≠ "__typename" → OpenIn documents kind [name, child] := by
  simp only [Honours, honoursField_iff]

/-- They are honoured if no operation has a fragment with a type at its root. -/
theorem honours_of_not_fragmented
    (whole : ∀ document ∈ documents, ∀ operation, .operation operation ∈ document →
      ¬Fragmented operation.selections) : (selectedBy documents).Honours documents := by
  rintro kind name inner ⟨document, member, operation, listed, kindOf, contains⟩ shown
  have opens {names : List String} (below : Opens inner names) :=
    contains.opens (whole document member operation listed) shown below
  refine honoursField_iff.mpr
    ⟨⟨document, member, operation, listed, kindOf, opens (.nil inner)⟩, ?_⟩
  intro child below inside shown'
  exact ⟨document, member, operation, listed, kindOf, opens (.field inside shown' (.nil below))⟩

def rootFragmentDefinitions : List ExecutableDefinition :=
  [.operation ⟨.query, [.spread "R"]⟩,
    .fragment ⟨"R", "Query", [.field "show" [.field "title" []]]⟩]

/-- The root field is not selected. -/
theorem not_honours_rootFragmentDefinitions : Defined rootFragmentDefinitions ∧
    Acyclic (fragmentIn rootFragmentDefinitions) ∧
    ¬(selectedBy [rootFragmentDefinitions]).Honours [rootFragmentDefinitions] := by
  have defined : Defined rootFragmentDefinitions := by
    unfold Defined
    decide
  refine ⟨defined, acyclic_fragmentIn (fun _ => 0) (by decide), fun honours => ?_⟩
  have fragment : fragmentIn rootFragmentDefinitions "R" =
      some ⟨"R", "Query", [.field "show" [.field "title" []]]⟩ := rfl
  have contained : ContainedIn [rootFragmentDefinitions] .query "show" [.field "title" []] :=
    ⟨_, List.mem_cons_self, _, List.mem_cons_self, rfl,
      .spread List.mem_cons_self fragment (.field List.mem_cons_self)⟩
  obtain ⟨selected, -⟩ := honours .query "show" _ contained (by decide)
  exact absurd selected (by decide)

end SelectedRoots
end GraphQLProjections
