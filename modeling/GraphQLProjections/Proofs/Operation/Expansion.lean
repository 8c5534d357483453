import GraphQLProjections.Proofs.Building
import GraphQLProjections.Proofs.Operation.Selected

/-! Collecting with the fragments entered so far on a stack, and no bound: it ends for all
documents. If no fragment needs itself, spreads can be written out as inline fragments. -/
namespace GraphQLProjections

def ExecutableDefinition.selections : ExecutableDefinition → List Selection
  | .operation ⟨_, selections⟩ => selections
  | .fragment ⟨_, _, selections⟩ => selections

namespace Selection

/-- Collecting from selections inside some fragments ends, and takes a filter to a filter. -/
inductive Ends (fragments : String → Option NamedFragment) :
    List String → Filter → List Selection → Filter → Prop
  | nil (inside : List String) (filter : Filter) : Ends fragments inside filter [] filter
  | hidden {inside : List String} {filter result : Filter} {inner rest : List Selection}
      (later : Ends fragments inside filter rest result) :
      Ends fragments inside filter (.field "__typename" inner :: rest) result
  | field {inside : List String} {filter child result : Filter} {name : String}
      {inner rest : List Selection} (shown : name ≠ "__typename")
      (below : Ends fragments inside .empty inner child)
      (later : Ends fragments inside (filter.withField name child) rest result) :
      Ends fragments inside filter (.field name inner :: rest) result
  | inlined {inside : List String} {filter child result : Filter} {type : String}
      {inner rest : List Selection} (below : Ends fragments inside .empty inner child)
      (later : Ends fragments inside (filter.withFragment type child) rest result) :
      Ends fragments inside filter (.inlineFragment (some type) inner :: rest) result
  | plain {inside : List String} {filter child result : Filter} {inner rest : List Selection}
      (below : Ends fragments inside .empty inner child)
      (later : Ends fragments inside (filter.merge child) rest result) :
      Ends fragments inside filter (.inlineFragment none inner :: rest) result
  | reentrant {inside : List String} {filter result : Filter} {name : String}
      {rest : List Selection} (entered : name ∈ inside)
      (later : Ends fragments inside filter rest result) :
      Ends fragments inside filter (.spread name :: rest) result
  | undefined {inside : List String} {filter result : Filter} {name : String}
      {rest : List Selection} (undefined : fragments name = none)
      (later : Ends fragments inside filter rest result) :
      Ends fragments inside filter (.spread name :: rest) result
  | spread {inside : List String} {filter child result : Filter} {name : String}
      {fragment : NamedFragment} {rest : List Selection} (outside : name ∉ inside)
      (defined : fragments name = some fragment)
      (below : Ends fragments (name :: inside) .empty fragment.selections child)
      (later : Ends fragments inside (filter.withFragment fragment.type child) rest result) :
      Ends fragments inside filter (.spread name :: rest) result

variable {fragments : String → Option NamedFragment}

theorem Ends.unique {inside : List String} {filter result other : Filter}
    {selections : List Selection} (ends : Ends fragments inside filter selections result)
    (ends' : Ends fragments inside filter selections other) : result = other := by
  induction ends generalizing other with
  | nil =>
    cases ends'
    rfl
  | hidden _ ih =>
    cases ends' with
    | hidden later => exact ih later
    | field shown => exact absurd rfl shown
  | field shown _ _ ihBelow ihLater =>
    cases ends' with
    | hidden => exact absurd rfl shown
    | field _ below later =>
      cases ihBelow below
      exact ihLater later
  | inlined _ _ ihBelow ihLater =>
    cases ends' with
    | inlined below later =>
      cases ihBelow below
      exact ihLater later
  | plain _ _ ihBelow ihLater =>
    cases ends' with
    | plain below later =>
      cases ihBelow below
      exact ihLater later
  | reentrant entered _ ih =>
    cases ends' with
    | reentrant _ later | undefined _ later => exact ih later
    | spread outside => exact absurd entered outside
  | undefined undefined _ ih =>
    cases ends' with
    | reentrant _ later | undefined _ later => exact ih later
    | spread _ defined => cases undefined.symm.trans defined
  | spread outside defined _ _ ihBelow ihLater =>
    cases ends' with
    | reentrant entered => exact absurd entered outside
    | undefined undefined => cases undefined.symm.trans defined
    | spread _ defined' below later =>
      cases defined.symm.trans defined'
      cases ihBelow below
      exact ihLater later

/-- A spread inside some fragments stands for what collecting from its fragment ends with. -/
def Stands (fragments : String → Option NamedFragment) (inside : List String) (name : String) :
    Option (String × Filter) → Prop
  | none => name ∈ inside ∨ fragments name = none
  | some (type, child) => name ∉ inside ∧ ∃ fragment, fragments name = some fragment ∧
      fragment.type = type ∧ Ends fragments (name :: inside) .empty fragment.selections child

theorem stands_none {inside : List String} {name : String}
    (unavailable : (if name ∈ inside then none else fragments name) = none) :
    Stands fragments inside name none := by
  split at unavailable
  next entered => exact .inl entered
  next => exact .inr unavailable

/-- If all spreads are expanded to what they stand for, collecting ends with the filter. -/
theorem ends_collectAll {expand : Expansion} {inside : List String}
    (stands : ∀ name, Stands fragments inside name (expand name)) (filter : Filter) :
    (selections : List Selection) →
      Ends fragments inside filter selections (collectAll expand filter selections)
  | [] => .nil inside filter
  | .field name inner :: rest => by
    rw [collectAll, collect]
    split
    next hidden =>
      subst hidden
      exact .hidden (ends_collectAll stands filter rest)
    next shown =>
      exact .field shown (ends_collectAll stands .empty inner) (ends_collectAll stands _ rest)
  | .inlineFragment (some type) inner :: rest => by
    rw [collectAll, collect]
    exact .inlined (ends_collectAll stands .empty inner) (ends_collectAll stands _ rest)
  | .inlineFragment none inner :: rest => by
    rw [collectAll, collect]
    exact .plain (ends_collectAll stands .empty inner) (ends_collectAll stands _ rest)
  | .spread name :: rest => by
    have stood := stands name
    rw [collectAll, collect]
    split
    next type child expanded =>
      rw [expanded] at stood
      obtain ⟨outside, fragment, defined, rfl, below⟩ := stood
      exact .spread outside defined below (ends_collectAll stands _ rest)
    next expanded =>
      rw [expanded] at stood
      rcases stood with entered | undefined
      · exact .reentrant entered (ends_collectAll stands filter rest)
      · exact .undefined undefined (ends_collectAll stands filter rest)

/-! ### Spreads written out -/

/-- Every spread of a defined fragment is written out as an inline fragment, every other spread
is left out. -/
inductive Inlines (fragments : String → Option NamedFragment) :
    List Selection → List Selection → Prop
  | nil : Inlines fragments [] []
  | field {name : String} {inner inner' rest rest' : List Selection}
      (below : Inlines fragments inner inner') (later : Inlines fragments rest rest') :
      Inlines fragments (.field name inner :: rest) (.field name inner' :: rest')
  | inlineFragment {type : Option String} {inner inner' rest rest' : List Selection}
      (below : Inlines fragments inner inner') (later : Inlines fragments rest rest') :
      Inlines fragments (.inlineFragment type inner :: rest) (.inlineFragment type inner' :: rest')
  | spread {name : String} {fragment : NamedFragment} {inner rest rest' : List Selection}
      (defined : fragments name = some fragment)
      (below : Inlines fragments fragment.selections inner)
      (later : Inlines fragments rest rest') :
      Inlines fragments (.spread name :: rest) (.inlineFragment (some fragment.type) inner :: rest')
  | undefined {name : String} {rest rest' : List Selection} (undefined : fragments name = none)
      (later : Inlines fragments rest rest') : Inlines fragments (.spread name :: rest) rest'

theorem Inlines.spreadNames_eq_nil {selections inlined : List Selection}
    (inlines : Inlines fragments selections inlined) : spreadNames inlined = [] := by
  induction inlines with
  | nil => rfl
  | undefined _ _ ih => exact ih
  | field _ _ ihBelow ihLater | inlineFragment _ _ ihBelow ihLater | spread _ _ _ ihBelow ihLater =>
    rw [spreadNames, spreadNamesOf, ihBelow, ihLater, List.append_nil]

/-- Spreads can be written out if they can be written out in the fragments they name. -/
theorem exists_inlines : (selections : List Selection) →
    (∀ name ∈ spreadNames selections, ∀ fragment, fragments name = some fragment →
      ∃ inner, Inlines fragments fragment.selections inner) →
    ∃ inlined, Inlines fragments selections inlined
  | [], _ => ⟨[], .nil⟩
  | .field name inner :: rest, within => by
    obtain ⟨inner', below⟩ := exists_inlines inner fun other spread =>
      within other (List.mem_append_left _ spread)
    obtain ⟨rest', later⟩ := exists_inlines rest fun other spread =>
      within other (List.mem_append_right _ spread)
    exact ⟨_, .field below later⟩
  | .inlineFragment type inner :: rest, within => by
    obtain ⟨inner', below⟩ := exists_inlines inner fun other spread =>
      within other (List.mem_append_left _ spread)
    obtain ⟨rest', later⟩ := exists_inlines rest fun other spread =>
      within other (List.mem_append_right _ spread)
    exact ⟨_, .inlineFragment below later⟩
  | .spread name :: rest, within => by
    obtain ⟨rest', later⟩ := exists_inlines rest fun other spread =>
      within other (List.mem_append_right _ spread)
    cases defined : fragments name with
    | none => exact ⟨_, .undefined defined later⟩
    | some fragment =>
      obtain ⟨inner, below⟩ := within name List.mem_cons_self fragment defined
      exact ⟨_, .spread defined below later⟩

/-- Selections need none of the fragments they are inside. -/
def Apart (fragments : String → Option NamedFragment) (inside : List String)
    (selections : List Selection) : Prop :=
  ∀ name ∈ inside, ¬Needs fragments selections name

theorem Apart.of_subset {inside : List String} {some all : List Selection}
    (apart : Apart fragments inside all) (within : spreadNames some ⊆ spreadNames all) :
    Apart fragments inside some := by
  intro name entered needs
  refine apart name entered ?_
  cases needs with
  | direct spread => exact .direct (within spread)
  | through spread defined needs => exact .through (within spread) defined needs

theorem Apart.rest {inside : List String} {selection : Selection} {rest : List Selection}
    (apart : Apart fragments inside (selection :: rest)) : Apart fragments inside rest :=
  apart.of_subset (List.subset_append_right _ _)

theorem Apart.inner {inside : List String} {selection : Selection} {inner rest : List Selection}
    (nested : spreadNamesOf selection = spreadNames inner)
    (apart : Apart fragments inside (selection :: rest)) : Apart fragments inside inner :=
  apart.of_subset (nested ▸ List.subset_append_left _ _)

theorem Apart.entered (acyclic : Acyclic fragments) {inside : List String}
    {selections : List Selection} (apart : Apart fragments inside selections) {name : String}
    {fragment : NamedFragment} (spread : name ∈ spreadNames selections)
    (defined : fragments name = some fragment) :
    Apart fragments (name :: inside) fragment.selections := by
  intro other entered needs
  rcases List.mem_cons.mp entered with rfl | entered
  · exact acyclic other fragment defined needs
  · exact apart other entered (.through spread defined needs)

/-- If no fragment needs itself, the stack stops no spread, and with the spreads written out
collecting ends with the same filter, in any document. -/
theorem Ends.inline (acyclic : Acyclic fragments) {inside : List String} {filter result : Filter}
    {selections inlined : List Selection}
    (ends : Ends fragments inside filter selections result)
    (apart : Apart fragments inside selections) (inlines : Inlines fragments selections inlined)
    (fragments' : String → Option NamedFragment) (inside' : List String) :
    Ends fragments' inside' filter inlined result := by
  induction ends generalizing inlined with
  | nil =>
    cases inlines
    exact .nil _ _
  | hidden _ ih =>
    cases inlines with
    | field _ later => exact .hidden (ih apart.rest later)
  | field shown _ _ ihBelow ihLater =>
    cases inlines with
    | field below later =>
      exact .field shown (ihBelow (apart.inner rfl) below) (ihLater apart.rest later)
  | inlined _ _ ihBelow ihLater =>
    cases inlines with
    | inlineFragment below later =>
      exact .inlined (ihBelow (apart.inner rfl) below) (ihLater apart.rest later)
  | plain _ _ ihBelow ihLater =>
    cases inlines with
    | inlineFragment below later =>
      exact .plain (ihBelow (apart.inner rfl) below) (ihLater apart.rest later)
  | reentrant entered => exact absurd (.direct List.mem_cons_self) (apart _ entered)
  | undefined undefined _ ih =>
    cases inlines with
    | undefined _ later => exact ih apart.rest later
    | spread defined => cases undefined.symm.trans defined
  | spread outside defined _ _ ihBelow ihLater =>
    cases inlines with
    | undefined undefined => cases undefined.symm.trans defined
    | spread defined' below later =>
      cases defined.symm.trans defined'
      exact .inlined (ihBelow (apart.entered acyclic List.mem_cons_self defined) below)
        (ihLater apart.rest later)

end Selection

namespace NamedFragment

open Selection

variable {fragments : String → Option NamedFragment}

/-- As many levels as fragments are available suffice, so that a spread is expanded to what it
stands for. -/
theorem stands_expansion {bound : Nat} {available : List NamedFragment}
    (enough : available.length ≤ bound) {inside : List String}
    (agree : ∀ name, available.find? (·.name == name) =
      if name ∈ inside then none else fragments name) (name : String) :
    Stands fragments inside name (expansion bound available name) := by
  induction bound generalizing available inside name with
  | zero =>
    refine stands_none ((agree name).symm.trans ?_)
    rw [List.length_eq_zero_iff.mp (Nat.le_zero.mp enough), List.find?_nil]
  | succ bound ih =>
    rw [expansion]
    split
    next unavailable => exact stands_none ((agree name).symm.trans unavailable)
    next fragment found =>
      have available' := (agree name).symm.trans found
      split at available'
      next => cases available'
      next outside =>
        have fewer := Nat.le_of_lt_succ (Nat.lt_of_lt_of_le (length_remaining_lt found) enough)
        have agree' (other : String) : (available.filter (·.name != name)).find? (·.name == other) =
            if other ∈ name :: inside then none else fragments other := by
          rw [find?_remaining, agree]
          by_cases same : other = name <;> simp [same]
        exact ⟨outside, fragment, available', rfl, ends_collectAll (ih fewer agree') _ _⟩

/-- Spreads can be written out if no fragment needs itself. -/
theorem exists_inlines_of_acyclic (acyclic : Acyclic fragments) {bound : Nat}
    {available : List NamedFragment} (enough : available.length ≤ bound)
    {selections : List Selection}
    (agree : ∀ name, Needs fragments selections name →
      available.find? (·.name == name) = fragments name) :
    ∃ inlined, Inlines fragments selections inlined := by
  induction bound generalizing available selections with
  | zero =>
    refine exists_inlines selections fun name spread fragment defined => ?_
    rw [← agree name (.direct spread),
      List.length_eq_zero_iff.mp (Nat.le_zero.mp enough)] at defined
    cases defined
  | succ bound ih =>
    refine exists_inlines selections fun name spread fragment defined => ?_
    have found := (agree name (.direct spread)).trans defined
    exact ih (Nat.le_of_lt_succ (Nat.lt_of_lt_of_le (length_remaining_lt found) enough))
      fun _ => find?_remaining_of_needs acyclic agree spread defined

end NamedFragment

namespace SelectedRoots

open Selection

theorem ends_expansionIn (definitions : List ExecutableDefinition) (filter : Filter)
    (selections : List Selection) :
    Ends (fragmentIn definitions) [] filter selections
      (collectAll (expansionIn definitions) filter selections) :=
  ends_collectAll (NamedFragment.stands_expansion (Nat.le_refl _) fun _ => by
    simp [fragmentIn]) filter selections

/-- A fragment that is spread inside itself is collected once. -/
example : collectAll (expansionIn [.fragment ⟨"F", "A", [.field "x" [], .spread "F"]⟩]) .empty
    [.field "a" [.spread "F"]] =
      Filter.empty.withField "a" (.withFragment .empty "A" (.withField .empty "x" .empty)) := by
  rfl

inductive InlinesDefinition (fragments : String → Option NamedFragment) :
    ExecutableDefinition → ExecutableDefinition → Prop
  | operation {kind : OperationKind} {selections inlined : List Selection}
      (inlines : Inlines fragments selections inlined) :
      InlinesDefinition fragments (.operation ⟨kind, selections⟩) (.operation ⟨kind, inlined⟩)
  | fragment {name type : String} {selections inlined : List Selection}
      (inlines : Inlines fragments selections inlined) :
      InlinesDefinition fragments (.fragment ⟨name, type, selections⟩)
        (.fragment ⟨name, type, inlined⟩)

def InlinesDocument (definitions inlined : List ExecutableDefinition) : Prop :=
  List.Forall₂ (InlinesDefinition (fragmentIn definitions)) definitions inlined

theorem exists_inlinesDocument {definitions : List ExecutableDefinition}
    (acyclic : Acyclic (fragmentIn definitions)) :
    ∃ inlined, InlinesDocument definitions inlined := by
  have inlinable (selections : List Selection) :
      ∃ inlined, Inlines (fragmentIn definitions) selections inlined :=
    NamedFragment.exists_inlines_of_acyclic acyclic (Nat.le_refl _) fun _ _ => rfl
  have written (definition : ExecutableDefinition) :
      ∃ inlined, InlinesDefinition (fragmentIn definitions) definition inlined := by
    cases definition with
    | operation operation =>
      obtain ⟨inlined, inlines⟩ := inlinable operation.selections
      exact ⟨_, .operation inlines⟩
    | fragment fragment =>
      obtain ⟨inlined, inlines⟩ := inlinable fragment.selections
      exact ⟨_, .fragment inlines⟩
  choose write writes using written
  exact ⟨definitions.map write, List.forall₂_map_right_iff.mpr
    (List.forall₂_same.mpr fun definition _ => writes definition)⟩

theorem collectAll_inlines {definitions : List ExecutableDefinition}
    (acyclic : Acyclic (fragmentIn definitions)) {selections inlined : List Selection}
    (inlines : Inlines (fragmentIn definitions) selections inlined)
    (others : List ExecutableDefinition) :
    collectAll (expansionIn definitions) .empty selections =
      collectAll (expansionIn others) .empty inlined := by
  have ends := ends_expansionIn definitions .empty selections
  have apart : Apart (fragmentIn definitions) [] selections :=
    fun _ entered => absurd entered List.not_mem_nil
  exact (ends.inline acyclic apart inlines (fragmentIn others) []).unique
    (ends_expansionIn others .empty inlined)

theorem addDocument_inlines {definitions inlined : List ExecutableDefinition}
    (acyclic : Acyclic (fragmentIn definitions)) (inlines : InlinesDocument definitions inlined)
    (selected : SelectedRoots) :
    selected.addDocument definitions = selected.addDocument inlined := by
  refine List.rel_foldl (P := Eq) (R := InlinesDefinition (fragmentIn definitions)) ?_ rfl inlines
  rintro selected _ rfl definition definition' inlines
  cases inlines with
  | fragment => rfl
  | operation inlines =>
    dsimp only
    rw [addOperation, addOperation, collectAll_inlines acyclic inlines inlined]

/-- Collecting ends for all selections of a document, with the filter that the bounded expansion
gives. If no fragment needs itself, the spreads can be written out, and a document with the
spreads written out selects the same fields in the same order, among any other documents. -/
theorem selectedBy_inlined (definitions : List ExecutableDefinition) :
    (∀ selections filter, Ends (fragmentIn definitions) [] .empty selections filter ↔
      filter = collectAll (expansionIn definitions) .empty selections) ∧
    (Acyclic (fragmentIn definitions) → (∃ inlined, InlinesDocument definitions inlined) ∧
      ∀ inlined, InlinesDocument definitions inlined →
        (∀ definition ∈ inlined, spreadNames definition.selections = []) ∧
        ∀ before after, selectedBy (before ++ definitions :: after) =
          selectedBy (before ++ inlined :: after)) := by
  refine ⟨fun selections filter => ?_, fun acyclic => ?_⟩
  · have ends := ends_expansionIn definitions .empty selections
    constructor
    · intro ends'
      exact ends'.unique ends
    · rintro rfl
      exact ends
  refine ⟨exists_inlinesDocument acyclic, fun inlined inlines => ⟨?_, fun before after => ?_⟩⟩
  · intro definition listed
    obtain ⟨_, -, inlines⟩ := exists_left_of_forall₂ inlines listed
    cases inlines with
    | operation inlines | fragment inlines => exact inlines.spreadNames_eq_nil
  · rw [selectedBy, selectedBy, List.foldl_append, List.foldl_append, List.foldl_cons,
      List.foldl_cons, addDocument_inlines acyclic inlines]

def spreadTwice : List ExecutableDefinition :=
  [.operation ⟨.query, [.field "shows" [.spread "Movie", .field "title" [], .spread "Cast"]]⟩,
    .fragment ⟨"Movie", "Movie", [.field "year" [], .spread "Cast", .spread "Missing"]⟩,
    .fragment ⟨"Cast", "Staged", [.field "cast" [.field "name" []]]⟩]

def writtenOut : List ExecutableDefinition :=
  let cast : Selection := .inlineFragment (some "Staged") [.field "cast" [.field "name" []]]
  [.operation ⟨.query, [.field "shows"
      [.inlineFragment (some "Movie") [.field "year" [], cast], .field "title" [], cast]]⟩,
    .fragment ⟨"Movie", "Movie", [.field "year" [], cast]⟩,
    .fragment ⟨"Cast", "Staged", [.field "cast" [.field "name" []]]⟩]

theorem acyclic_spreadTwice : Acyclic (fragmentIn spreadTwice) :=
  acyclic_fragmentIn (fun name => if name = "Movie" then 1 else 0) (by decide)

theorem inlinesDocument_spreadTwice : InlinesDocument spreadTwice writtenOut := by
  have foundCast : fragmentIn spreadTwice "Cast" =
      some ⟨"Cast", "Staged", [.field "cast" [.field "name" []]]⟩ := rfl
  have foundMovie : fragmentIn spreadTwice "Movie" =
      some ⟨"Movie", "Movie", [.field "year" [], .spread "Cast", .spread "Missing"]⟩ := rfl
  have cast : Inlines (fragmentIn spreadTwice) [.field "cast" [.field "name" []]]
      [.field "cast" [.field "name" []]] := .field (.field .nil .nil) .nil
  have movie : Inlines (fragmentIn spreadTwice)
      [.field "year" [], .spread "Cast", .spread "Missing"]
      [.field "year" [], .inlineFragment (some "Staged") [.field "cast" [.field "name" []]]] :=
    .field .nil (.spread foundCast cast (.undefined rfl .nil))
  refine .cons (.operation (.field ?_ .nil)) (.cons (.fragment movie) (.cons (.fragment cast) .nil))
  exact .spread foundMovie movie (.field .nil (.spread foundCast cast .nil))

theorem selectedBy_inlined_spreadTwice :
    Acyclic (fragmentIn spreadTwice) ∧ InlinesDocument spreadTwice writtenOut ∧
      selectedBy [spreadTwice] = selectedBy [writtenOut] :=
  ⟨acyclic_spreadTwice, inlinesDocument_spreadTwice,
    (((selectedBy_inlined spreadTwice).2 acyclic_spreadTwice).2 writtenOut
      inlinesDocument_spreadTwice).2 [] []⟩

end SelectedRoots
end GraphQLProjections
