import GraphQLProjections.Operation.Selected
import GraphQLProjections.Proofs.Filter

/-! The filters of root fields have exactly the words that occur in the operations. A word may go
through any nesting of fragments, but through none twice. -/
namespace GraphQLProjections

namespace Selection

/-- A word goes down through selections; a spread stands for its fragment. -/
inductive Occurs (fragments : String → Option NamedFragment) :
    List Selection → List SelectionStep → Prop
  | nil (selections : List Selection) : Occurs fragments selections []
  | field {selections inner : List Selection} {name : String} {word : List SelectionStep}
      (listed : .field name inner ∈ selections) (shown : name ≠ "__typename")
      (below : Occurs fragments inner word) : Occurs fragments selections (.field name :: word)
  | plain {selections inner : List Selection} {word : List SelectionStep}
      (listed : .inlineFragment none inner ∈ selections) (below : Occurs fragments inner word) :
      Occurs fragments selections word
  | inlined {selections inner : List Selection} {type : String} {word : List SelectionStep}
      (listed : .inlineFragment (some type) inner ∈ selections)
      (below : Occurs fragments inner word) :
      Occurs fragments selections (.fragment type :: word)
  | spread {selections : List Selection} {name : String} {fragment : NamedFragment}
      {word : List SelectionStep} (listed : .spread name ∈ selections)
      (defined : fragments name = some fragment)
      (below : Occurs fragments fragment.selections word) :
      Occurs fragments selections (.fragment fragment.type :: word)

/-- A word goes down through selections; a spread stands for the filter it is expanded to. -/
inductive Collects (expand : Expansion) : List Selection → List SelectionStep → Prop
  | nil (selections : List Selection) : Collects expand selections []
  | field {selections inner : List Selection} {name : String} {word : List SelectionStep}
      (listed : .field name inner ∈ selections) (shown : name ≠ "__typename")
      (below : Collects expand inner word) : Collects expand selections (.field name :: word)
  | plain {selections inner : List Selection} {word : List SelectionStep}
      (listed : .inlineFragment none inner ∈ selections) (below : Collects expand inner word) :
      Collects expand selections word
  | inlined {selections inner : List Selection} {type : String} {word : List SelectionStep}
      (listed : .inlineFragment (some type) inner ∈ selections)
      (below : Collects expand inner word) :
      Collects expand selections (.fragment type :: word)
  | spread {selections : List Selection} {name type : String} {child : Filter}
      {word : List SelectionStep} (listed : .spread name ∈ selections)
      (expanded : expand name = some (type, child)) (below : child.Has word) :
      Collects expand selections (.fragment type :: word)

variable {expand : Expansion}

theorem collects_cons {selection : Selection} {rest : List Selection} {word : List SelectionStep} :
    Collects expand (selection :: rest) word ↔
      Collects expand [selection] word ∨ Collects expand rest word := by
  constructor
  · intro collects
    cases collects with
    | nil => exact .inl (.nil _)
    | field listed shown below =>
      rcases List.mem_cons.mp listed with rfl | listed
      · exact .inl (.field List.mem_cons_self shown below)
      · exact .inr (.field listed shown below)
    | plain listed below =>
      rcases List.mem_cons.mp listed with rfl | listed
      · exact .inl (.plain List.mem_cons_self below)
      · exact .inr (.plain listed below)
    | inlined listed below =>
      rcases List.mem_cons.mp listed with rfl | listed
      · exact .inl (.inlined List.mem_cons_self below)
      · exact .inr (.inlined listed below)
    | spread listed expanded below =>
      rcases List.mem_cons.mp listed with rfl | listed
      · exact .inl (.spread List.mem_cons_self expanded below)
      · exact .inr (.spread listed expanded below)
  · have grown {some all : List Selection} (inside : some ⊆ all)
        (collects : Collects expand some word) : Collects expand all word := by
      cases collects with
      | nil => exact .nil _
      | field listed shown below => exact .field (inside listed) shown below
      | plain listed below => exact .plain (inside listed) below
      | inlined listed below => exact .inlined (inside listed) below
      | spread listed expanded below => exact .spread (inside listed) expanded below
    rintro (collects | collects)
    · exact grown (by simp) collects
    · exact grown (by simp) collects

/-! What is collected from a single selection. -/

theorem collects_field {name : String} {inner : List Selection} {word : List SelectionStep} :
    Collects expand [.field name inner] word ↔ word = [] ∨ name ≠ "__typename" ∧
      ∃ rest, word = .field name :: rest ∧ Collects expand inner rest := by
  constructor
  · intro collects
    cases collects with
    | nil => exact .inl rfl
    | field listed shown below =>
      cases List.mem_singleton.mp listed
      exact .inr ⟨shown, _, rfl, below⟩
    | plain listed | inlined listed | spread listed => cases List.mem_singleton.mp listed
  · rintro (rfl | ⟨shown, rest, rfl, below⟩)
    · exact .nil _
    · exact .field List.mem_cons_self shown below

theorem collects_inlined {type : String} {inner : List Selection} {word : List SelectionStep} :
    Collects expand [.inlineFragment (some type) inner] word ↔ word = [] ∨
      ∃ rest, word = .fragment type :: rest ∧ Collects expand inner rest := by
  constructor
  · intro collects
    cases collects with
    | nil => exact .inl rfl
    | inlined listed below =>
      cases List.mem_singleton.mp listed
      exact .inr ⟨_, rfl, below⟩
    | field listed | plain listed | spread listed => cases List.mem_singleton.mp listed
  · rintro (rfl | ⟨rest, rfl, below⟩)
    · exact .nil _
    · exact .inlined List.mem_cons_self below

theorem collects_plain {inner : List Selection} {word : List SelectionStep} :
    Collects expand [.inlineFragment none inner] word ↔ Collects expand inner word := by
  refine ⟨fun collects => ?_, .plain List.mem_cons_self⟩
  cases collects with
  | nil => exact .nil inner
  | plain listed below =>
    cases List.mem_singleton.mp listed
    exact below
  | field listed | inlined listed | spread listed => cases List.mem_singleton.mp listed

theorem collects_spread {name : String} {word : List SelectionStep} :
    Collects expand [.spread name] word ↔ word = [] ∨ ∃ type child,
      expand name = some (type, child) ∧ ∃ rest, word = .fragment type :: rest ∧ child.Has rest := by
  constructor
  · intro collects
    cases collects with
    | nil => exact .inl rfl
    | spread listed expanded has =>
      cases List.mem_singleton.mp listed
      exact .inr ⟨_, _, expanded, _, rfl, has⟩
    | field listed | plain listed | inlined listed => cases List.mem_singleton.mp listed
  · rintro (rfl | ⟨type, child, expanded, rest, rfl, has⟩)
    · exact .nil _
    · exact .spread List.mem_cons_self expanded has

mutual
theorem distinct_collectAll
    (expanded : ∀ name type child, expand name = some (type, child) → child.Distinct)
    (filter : Filter) (distinct : filter.Distinct) (selections : List Selection) :
    (collectAll expand filter selections).Distinct :=
  match selections with
  | [] => distinct
  | selection :: rest =>
    distinct_collectAll expanded _ (distinct_collect expanded filter distinct selection) rest

theorem distinct_collect
    (expanded : ∀ name type child, expand name = some (type, child) → child.Distinct)
    (filter : Filter) (distinct : filter.Distinct) (selection : Selection) :
    (collect expand filter selection).Distinct :=
  match selection with
  | .field name inner => by
    rw [collect]
    split
    · exact distinct
    · exact distinct.withField (distinct_collectAll expanded _ Filter.distinct_empty inner) name
  | .inlineFragment (some type) inner => by
    rw [collect]
    exact distinct.withFragment (distinct_collectAll expanded _ Filter.distinct_empty inner) type
  | .inlineFragment none inner => by
    rw [collect]
    exact distinct.merge (distinct_collectAll expanded _ Filter.distinct_empty inner)
  | .spread name => by
    rw [collect]
    split
    next type child found => exact distinct.withFragment (expanded name type child found) type
    next => exact distinct
end

/-- The empty word goes down through every filter. -/
theorem has_or_nil_or {filter : Filter} {word : List SelectionStep} {other : Prop} :
    filter.Has word ∨ word = [] ∨ other ↔ filter.Has word ∨ other := by
  have nil : word = [] → filter.Has word := by
    rintro rfl
    trivial
  rw [← or_assoc, or_iff_left_of_imp nil]

theorem collects_of_has_empty {selections : List Selection} {word : List SelectionStep}
    (has : Filter.empty.Has word) : Collects expand selections word := by
  cases word with
  | nil => exact .nil selections
  | cons step rest => exact absurd has (Filter.not_has_empty step rest)

mutual
/-- Collecting adds the words of the selections. -/
theorem has_collectAll
    (expanded : ∀ name type child, expand name = some (type, child) → child.Distinct)
    (filter : Filter) (selections : List Selection) (word : List SelectionStep) :
    (collectAll expand filter selections).Has word ↔
      filter.Has word ∨ Collects expand selections word :=
  match selections with
  | [] => by
    refine (or_iff_left_of_imp fun collects => ?_).symm
    cases collects with
    | nil => trivial
    | field listed | plain listed | inlined listed | spread listed =>
      exact absurd listed List.not_mem_nil
  | selection :: rest => by
    rw [collectAll, has_collectAll expanded _ rest, has_collect expanded filter selection, or_assoc]
    exact or_congr_right collects_cons.symm

theorem has_collect
    (expanded : ∀ name type child, expand name = some (type, child) → child.Distinct)
    (filter : Filter) (selection : Selection) (word : List SelectionStep) :
    (collect expand filter selection).Has word ↔
      filter.Has word ∨ Collects expand [selection] word :=
  match selection with
  | .field name inner => by
    have below (word : List SelectionStep) :=
      (has_collectAll expanded .empty inner word).trans (or_iff_right_of_imp collects_of_has_empty)
    rw [collect, collects_field, has_or_nil_or]
    split
    next hidden => simp [hidden]
    next shown =>
      rw [Filter.has_withField (distinct_collectAll expanded _ Filter.distinct_empty inner),
        and_iff_right shown]
      simp only [below]
  | .inlineFragment (some type) inner => by
    have below (word : List SelectionStep) :=
      (has_collectAll expanded .empty inner word).trans (or_iff_right_of_imp collects_of_has_empty)
    rw [collect, collects_inlined, has_or_nil_or,
      Filter.has_withFragment (distinct_collectAll expanded _ Filter.distinct_empty inner)]
    simp only [below]
  | .inlineFragment none inner => by
    rw [collect, collects_plain,
      Filter.has_merge (distinct_collectAll expanded _ Filter.distinct_empty inner),
      has_collectAll expanded .empty inner word, or_iff_right_of_imp collects_of_has_empty]
  | .spread name => by
    rw [collect, collects_spread, has_or_nil_or]
    split
    next type child found =>
      rw [Filter.has_withFragment (expanded name type child found)]
      refine or_congr_right ⟨fun has => ⟨type, child, found, has⟩, ?_⟩
      rintro ⟨_, _, found', has⟩
      obtain ⟨rfl, rfl⟩ := Prod.mk.inj (Option.some.inj (found.symm.trans found'))
      exact has
    next none => simp [none]
end

theorem has_collectAll_empty
    (expanded : ∀ name type child, expand name = some (type, child) → child.Distinct)
    {selections : List Selection} {word : List SelectionStep} :
    (collectAll expand .empty selections).Has word ↔ Collects expand selections word :=
  (has_collectAll expanded .empty selections word).trans (or_iff_right_of_imp collects_of_has_empty)

/-! ### Named fragments -/

mutual
def spreadNames : List Selection → List String
  | [] => []
  | selection :: rest => spreadNamesOf selection ++ spreadNames rest

def spreadNamesOf : Selection → List String
  | field _ inner => spreadNames inner
  | inlineFragment _ inner => spreadNames inner
  | spread fragment => [fragment]
end

theorem mem_spreadNames {selections : List Selection} {selection : Selection} {name : String}
    (listed : selection ∈ selections) (spread : name ∈ spreadNamesOf selection) :
    name ∈ spreadNames selections := by
  induction selections with
  | nil => exact absurd listed List.not_mem_nil
  | cons first rest ih =>
    rw [spreadNames]
    rcases List.mem_cons.mp listed with rfl | listed
    · exact List.mem_append_left _ spread
    · exact List.mem_append_right _ (ih listed)

/-- Selections spread a fragment, directly or through other fragments. -/
inductive Needs (fragments : String → Option NamedFragment) : List Selection → String → Prop
  | direct {selections : List Selection} {name : String} (spread : name ∈ spreadNames selections) :
      Needs fragments selections name
  | through {selections : List Selection} {name other : String} {fragment : NamedFragment}
      (spread : other ∈ spreadNames selections) (defined : fragments other = some fragment)
      (needs : Needs fragments fragment.selections name) : Needs fragments selections name

def Acyclic (fragments : String → Option NamedFragment) : Prop :=
  ∀ name fragment, fragments name = some fragment → ¬Needs fragments fragment.selections name

/-- Fragments that only spread fragments of lower rank do not need themselves. -/
theorem acyclic_of_rank {fragments : String → Option NamedFragment} (rank : String → Nat)
    (falls : ∀ name fragment, fragments name = some fragment →
      ∀ other ∈ spreadNames fragment.selections, rank other < rank name) : Acyclic fragments := by
  have lower {selections : List Selection} {name : String} (needs : Needs fragments selections name)
      (bound : Nat) (below : ∀ other ∈ spreadNames selections, rank other < bound) :
      rank name < bound := by
    induction needs with
    | direct spread => exact below _ spread
    | through spread defined _ ih =>
      exact ih fun other inside => Nat.lt_trans (falls _ _ defined other inside) (below _ spread)
  exact fun name fragment defined needs =>
    Nat.lt_irrefl _ (lower needs (rank name) (falls name fragment defined))

/-- If every spread is expanded to words that its fragment selects, what is collected occurs. -/
theorem occurs_of_collects {fragments : String → Option NamedFragment} {selections : List Selection}
    (sound : ∀ name ∈ spreadNames selections, ∀ type child word,
      expand name = some (type, child) → child.Has word →
        ∃ fragment, fragments name = some fragment ∧ fragment.type = type ∧
          Occurs fragments fragment.selections word) {word : List SelectionStep}
    (collects : Collects expand selections word) : Occurs fragments selections word := by
  induction collects with
  | nil => exact .nil _
  | field listed shown _ ih =>
    exact .field listed shown (ih fun name below => sound name (mem_spreadNames listed below))
  | plain listed _ ih =>
    exact .plain listed (ih fun name below => sound name (mem_spreadNames listed below))
  | inlined listed _ ih =>
    exact .inlined listed (ih fun name below => sound name (mem_spreadNames listed below))
  | spread listed expanded has =>
    obtain ⟨fragment, defined, rfl, occurs⟩ :=
      sound _ (mem_spreadNames listed List.mem_cons_self) _ _ _ expanded has
    exact .spread listed defined occurs

/-- If every spread is expanded to what its fragment selects, what is collected is what occurs. -/
theorem collects_iff_occurs {fragments : String → Option NamedFragment} {selections : List Selection}
    (agree : ∀ name ∈ spreadNames selections, ∀ type word,
      (∃ child, expand name = some (type, child) ∧ child.Has word) ↔
        ∃ fragment, fragments name = some fragment ∧ fragment.type = type ∧
          Occurs fragments fragment.selections word) {word : List SelectionStep} :
    Collects expand selections word ↔ Occurs fragments selections word := by
  constructor
  · exact occurs_of_collects fun name spread type child word expanded has =>
      (agree name spread type word).mp ⟨child, expanded, has⟩
  · intro occurs
    induction occurs with
    | nil => exact .nil _
    | field listed shown _ ih =>
      exact .field listed shown (ih fun name below => agree name (mem_spreadNames listed below))
    | plain listed _ ih =>
      exact .plain listed (ih fun name below => agree name (mem_spreadNames listed below))
    | inlined listed _ ih =>
      exact .inlined listed (ih fun name below => agree name (mem_spreadNames listed below))
    | spread listed defined occurs =>
      obtain ⟨child, expanded, has⟩ :=
        (agree _ (mem_spreadNames listed List.mem_cons_self) _ _).mpr ⟨_, defined, rfl, occurs⟩
      exact .spread listed expanded has

end Selection

namespace NamedFragment

open Selection

theorem distinct_expansion (bound : Nat) (available : List NamedFragment) (name type : String)
    (child : Filter) (expanded : expansion bound available name = some (type, child)) :
    child.Distinct := by
  induction bound generalizing available name type child with
  | zero => cases expanded
  | succ bound ih =>
    unfold expansion at expanded
    split at expanded
    · cases expanded
    · obtain ⟨-, rfl⟩ := Prod.mk.inj (Option.some.inj expanded)
      exact distinct_collectAll (ih _) _ Filter.distinct_empty _

/-- Inside a fragment exactly its own name is not available. -/
theorem find?_remaining (available : List NamedFragment) (name other : String) :
    (available.filter (·.name != name)).find? (·.name == other) =
      if other = name then none else available.find? (·.name == other) := by
  rw [List.find?_filter]
  split
  next same =>
    subst same
    exact List.find?_eq_none.mpr fun candidate _ => by simp
  next differs =>
    congr 1
    funext candidate
    by_cases named : candidate.name = other
    · simp [named, differs]
    · simp [named]

theorem length_remaining_lt {available : List NamedFragment} {name : String}
    {fragment : NamedFragment} (found : available.find? (·.name == name) = some fragment) :
    (available.filter (·.name != name)).length < available.length := by
  refine List.length_filter_lt_length_iff_exists.mpr
    ⟨fragment, List.mem_of_find?_eq_some found, ?_⟩
  have named := List.find?_some found
  simpa using named

theorem find?_of_find?_remaining {available : List NamedFragment} {name other : String}
    {fragment : NamedFragment}
    (found : (available.filter (·.name != name)).find? (·.name == other) = some fragment) :
    available.find? (·.name == other) = some fragment := by
  rw [find?_remaining] at found
  split at found
  · cases found
  · exact found

/-- What a fragment that does not need itself needs stays available inside it. -/
theorem find?_remaining_of_needs {fragments : String → Option NamedFragment}
    (acyclic : Acyclic fragments) {available : List NamedFragment} {selections : List Selection}
    (agree : ∀ name, Needs fragments selections name →
      available.find? (·.name == name) = fragments name)
    {name other : String} {fragment : NamedFragment} (spread : name ∈ spreadNames selections)
    (defined : fragments name = some fragment) (needs : Needs fragments fragment.selections other) :
    (available.filter (·.name != name)).find? (·.name == other) = fragments other := by
  have differs : other ≠ name := by
    rintro rfl
    exact acyclic _ fragment defined needs
  rw [find?_remaining, if_neg differs]
  exact agree other (.through spread defined needs)

/-- If fragments do not need themselves, taking each away inside itself changes nothing. -/
theorem collects_expansion {fragments : String → Option NamedFragment} (acyclic : Acyclic fragments)
    {bound : Nat} {available : List NamedFragment} (enough : available.length ≤ bound)
    {selections : List Selection}
    (agree : ∀ name, Needs fragments selections name →
      available.find? (·.name == name) = fragments name) {word : List SelectionStep} :
    Collects (expansion bound available) selections word ↔ Occurs fragments selections word := by
  induction bound generalizing available selections word with
  | zero =>
    apply collects_iff_occurs
    intro name spread type word
    have undefined : fragments name = none := by
      rw [← agree name (.direct spread), List.length_eq_zero_iff.mp (Nat.le_zero.mp enough)]
      rfl
    simp [expansion, undefined]
  | succ bound ih =>
    apply collects_iff_occurs
    intro name spread type word
    have same := agree name (.direct spread)
    cases defined : fragments name with
    | none => simp [expansion, same.trans defined]
    | some fragment =>
      have found := same.trans defined
      have fewer : (available.filter (·.name != name)).length ≤ bound :=
        Nat.le_of_lt_succ (Nat.lt_of_lt_of_le (length_remaining_lt found) enough)
      have collected : (collectAll (expansion bound (available.filter (·.name != name))) .empty
          fragment.selections).Has word ↔ Occurs fragments fragment.selections word :=
        (has_collectAll_empty (distinct_expansion bound _)).trans
          (ih fewer fun _ => find?_remaining_of_needs acyclic agree spread defined)
      simp [expansion, found, collected, and_assoc]

/-- Whatever the fragments need, what is collected from their expansion occurs in them. -/
theorem occurs_of_collects_expansion {fragments : String → Option NamedFragment} {bound : Nat}
    {available : List NamedFragment}
    (known : ∀ name fragment, available.find? (·.name == name) = some fragment →
      fragments name = some fragment) {selections : List Selection} {word : List SelectionStep}
    (collects : Collects (expansion bound available) selections word) :
    Occurs fragments selections word := by
  induction bound generalizing available selections word with
  | zero =>
    refine occurs_of_collects (fun name _ type child word expanded => ?_) collects
    cases expanded
  | succ bound ih =>
    refine occurs_of_collects (fun name _ type child word expanded has => ?_) collects
    unfold expansion at expanded
    split at expanded
    · cases expanded
    next fragment found =>
      obtain ⟨rfl, rfl⟩ := Prod.mk.inj (Option.some.inj expanded)
      have collects := (has_collectAll_empty (distinct_expansion bound _)).mp has
      exact ⟨fragment, known name fragment found, rfl,
        ih (fun _ _ found => known _ _ (find?_of_find?_remaining found)) collects⟩

end NamedFragment

namespace SelectedRoots

open Selection

def fragmentIn (definitions : List ExecutableDefinition) (name : String) : Option NamedFragment :=
  (namedFragments definitions).reverse.find? (·.name == name)

def Defined (definitions : List ExecutableDefinition) : Prop :=
  ∀ definition ∈ definitions, ∀ name ∈ spreadNames (match definition with
    | .operation operation => operation.selections
    | .fragment fragment => fragment.selections), (fragmentIn definitions name).isSome

theorem acyclic_fragmentIn {definitions : List ExecutableDefinition} (rank : String → Nat)
    (falls : ∀ fragment ∈ namedFragments definitions, ∀ other ∈ spreadNames fragment.selections,
      rank other < rank fragment.name) : Acyclic (fragmentIn definitions) := by
  apply acyclic_of_rank rank
  intro name fragment defined other inside
  have named : fragment.name = name := by simpa using List.find?_some defined
  have listed := List.mem_reverse.mp (List.mem_of_find?_eq_some defined)
  exact named ▸ falls fragment listed other inside

theorem has_collectAll_expansionIn {definitions : List ExecutableDefinition}
    (acyclic : Acyclic (fragmentIn definitions)) {selections : List Selection}
    {word : List SelectionStep} :
    (collectAll (expansionIn definitions) .empty selections).Has word ↔
      Occurs (fragmentIn definitions) selections word :=
  (has_collectAll_empty (NamedFragment.distinct_expansion _ _)).trans
    (NamedFragment.collects_expansion acyclic (Nat.le_refl _) fun _ _ => rfl)

def Selects (selected : SelectedRoots) (kind : OperationKind) (field : String)
    (word : List SelectionStep) : Prop :=
  ∃ filter, selected.filter? kind field = some filter ∧ filter.Has word

theorem mem_rootFields {selected : SelectedRoots} {kind : OperationKind} {field : String} :
    field ∈ selected.rootFields kind ↔ (selected.filter? kind field).isSome :=
  Entries.isSome_lookup.symm

def Distinct (selected : SelectedRoots) : Prop :=
  ∀ kind, (Filter.mk (selected.roots kind) []).Distinct

theorem selects_iff_has {selected : SelectedRoots} {kind : OperationKind} {field : String}
    {word : List SelectionStep} : selected.Selects kind field word ↔
      (Filter.mk (selected.roots kind) []).Has (.field field :: word) := Iff.rfl

theorem Distinct.filter {selected : SelectedRoots} (distinct : selected.Distinct)
    {kind : OperationKind} {field : String} {filter : Filter}
    (found : selected.filter? kind field = some filter) : filter.Distinct :=
  (distinct kind).step (.field field) found

theorem roots_setRoots (selected : SelectedRoots) (kind other : OperationKind)
    (roots : Entries Filter) :
    (selected.setRoots kind roots).roots other =
      if other = kind then roots else selected.roots other := by
  cases kind <;> cases other <;> rfl

/-- Adding an operation adds the words below its root fields. -/
theorem selects_addOperation {expand : Expansion} {selected : SelectedRoots} {operation : Operation}
    (collected : (collectAll expand .empty operation.selections).Distinct) {kind : OperationKind}
    {field : String} {word : List SelectionStep} :
    (selected.addOperation expand operation).Selects kind field word ↔
      selected.Selects kind field word ∨ operation.kind = kind ∧
        (collectAll expand .empty operation.selections).Has (.field field :: word) := by
  rw [selects_iff_has, addOperation, roots_setRoots]
  split
  next same =>
    subst same
    have fields := Filter.fields_merge (selected.roots operation.kind) []
      (collectAll expand .empty operation.selections)
    rw [← fields, selects_iff_has, and_iff_right rfl, ← Filter.has_merge collected]
    exact Filter.has_field_congr rfl
  next differs =>
    have other : operation.kind ≠ kind := fun same => differs same.symm
    simp [selects_iff_has, other]

theorem Distinct.addOperation {expand : Expansion} {selected : SelectedRoots} {operation : Operation}
    (distinct : selected.Distinct)
    (collected : (collectAll expand .empty operation.selections).Distinct) :
    (selected.addOperation expand operation).Distinct := by
  intro kind
  rw [SelectedRoots.addOperation, roots_setRoots]
  split
  · rw [← Filter.fields_merge _ []]
    exact ((distinct operation.kind).merge collected).onlyFields
  · exact distinct kind

/-- What a document selects: below a root field a word occurs in one of its operations. -/
def SelectedIn (definitions : List ExecutableDefinition) (kind : OperationKind) (field : String)
    (word : List SelectionStep) : Prop :=
  ∃ operation, .operation operation ∈ definitions ∧ operation.kind = kind ∧
    Occurs (fragmentIn definitions) operation.selections (.field field :: word)

/-- What a run collects from a document: below a root field, from one of its operations. -/
def CollectedIn (definitions : List ExecutableDefinition) (kind : OperationKind) (field : String)
    (word : List SelectionStep) : Prop :=
  ∃ operation, .operation operation ∈ definitions ∧ operation.kind = kind ∧
    (collectAll (expansionIn definitions) .empty operation.selections).Has (.field field :: word)

theorem selectedIn_of_collectedIn {definitions : List ExecutableDefinition} {kind : OperationKind}
    {field : String} {word : List SelectionStep}
    (collected : CollectedIn definitions kind field word) :
    SelectedIn definitions kind field word := by
  obtain ⟨operation, listed, kindOf, has⟩ := collected
  refine ⟨operation, listed, kindOf, NamedFragment.occurs_of_collects_expansion ?_
    ((has_collectAll_empty (NamedFragment.distinct_expansion _ _)).mp has)⟩
  exact fun _ _ found => found

theorem collectedIn_iff_selectedIn {definitions : List ExecutableDefinition}
    (acyclic : Acyclic (fragmentIn definitions)) {kind : OperationKind} {field : String}
    {word : List SelectionStep} :
    CollectedIn definitions kind field word ↔ SelectedIn definitions kind field word := by
  simp only [CollectedIn, SelectedIn, has_collectAll_expansionIn acyclic]

theorem selects_addDocument (definitions : List ExecutableDefinition) {selected : SelectedRoots}
    (distinct : selected.Distinct) :
    (selected.addDocument definitions).Distinct ∧ ∀ kind field word,
      (selected.addDocument definitions).Selects kind field word ↔
        selected.Selects kind field word ∨ CollectedIn definitions kind field word := by
  have collected (operation : Operation) :
      (collectAll (expansionIn definitions) .empty operation.selections).Distinct :=
    distinct_collectAll (NamedFragment.distinct_expansion _ _) _ Filter.distinct_empty _
  -- The fragments stay those of the whole document while its operations are added in turn.
  have added (some : List ExecutableDefinition) (selected : SelectedRoots)
      (distinct : selected.Distinct) :
      let later := some.foldl (fun selected definition => match definition with
        | .operation operation => selected.addOperation (expansionIn definitions) operation
        | .fragment _ => selected) selected
      later.Distinct ∧ ∀ kind field word, later.Selects kind field word ↔
        selected.Selects kind field word ∨ ∃ operation, .operation operation ∈ some ∧
          operation.kind = kind ∧ (collectAll (expansionIn definitions) .empty
            operation.selections).Has (.field field :: word) := by
    induction some generalizing selected with
    | nil => exact ⟨distinct, by simp⟩
    | cons definition rest ih =>
      cases definition with
      | fragment fragment => simpa using ih selected distinct
      | operation operation =>
        obtain ⟨distinct', selects⟩ := ih _ (distinct.addOperation (collected operation))
        refine ⟨distinct', fun kind field word => (selects kind field word).trans ?_⟩
        rw [selects_addOperation (collected operation), or_assoc]
        simp only [List.mem_cons, ExecutableDefinition.operation.injEq, or_and_right, exists_or,
          exists_eq_left]
  exact added definitions selected distinct

def selectedBy (documents : List (List ExecutableDefinition)) : SelectedRoots :=
  documents.foldl addDocument empty

/-- The filters of root fields have exactly the words that are collected from operations. -/
theorem selects_selectedBy (documents : List (List ExecutableDefinition)) :
    (selectedBy documents).Distinct ∧ ∀ kind field word,
      (selectedBy documents).Selects kind field word ↔
        ∃ document ∈ documents, CollectedIn document kind field word := by
  have added (selected : SelectedRoots) (distinct : selected.Distinct) :
      (documents.foldl addDocument selected).Distinct ∧ ∀ kind field word,
        (documents.foldl addDocument selected).Selects kind field word ↔
          selected.Selects kind field word ∨
            ∃ document ∈ documents, CollectedIn document kind field word := by
    induction documents generalizing selected with
    | nil => exact ⟨distinct, by simp⟩
    | cons document rest ih =>
      obtain ⟨distinct', selects⟩ := selects_addDocument document distinct
      obtain ⟨distinct'', selects'⟩ := ih _ distinct'
      refine ⟨distinct'', fun kind field word => ?_⟩
      rw [List.foldl_cons, selects', selects, or_assoc]
      simp only [List.mem_cons, or_and_right, exists_or, exists_eq_left]
  have none (kind : OperationKind) : empty.roots kind = [] := by cases kind <;> rfl
  have distinct : empty.Distinct := by
    intro kind
    rw [none]
    exact Filter.distinct_empty
  obtain ⟨distinct, selects⟩ := added empty distinct
  refine ⟨distinct, fun kind field word => (selects kind field word).trans (or_iff_right ?_)⟩
  rintro ⟨filter, found, -⟩
  rw [filter?, none] at found
  cases found

/-- If no fragment needs itself, the words are exactly those that occur in operations. -/
theorem selectedBy_spec {documents : List (List ExecutableDefinition)}
    (acyclic : ∀ document ∈ documents, Acyclic (fragmentIn document)) :
    (selectedBy documents).Distinct ∧ ∀ kind field word,
      (selectedBy documents).Selects kind field word ↔
        ∃ document ∈ documents, SelectedIn document kind field word := by
  obtain ⟨distinct, selects⟩ := selects_selectedBy documents
  refine ⟨distinct, fun kind field word => (selects kind field word).trans ?_⟩
  refine exists_congr fun document => and_congr_right fun member => ?_
  exact collectedIn_iff_selectedIn (acyclic document member)

/-- In any case they occur there. -/
theorem selectedIn_of_selects {documents : List (List ExecutableDefinition)} {kind : OperationKind}
    {field : String} {word : List SelectionStep}
    (selects : (selectedBy documents).Selects kind field word) :
    ∃ document ∈ documents, SelectedIn document kind field word := by
  obtain ⟨document, member, collected⟩ := ((selects_selectedBy documents).2 _ _ _).mp selects
  exact ⟨document, member, selectedIn_of_collectedIn collected⟩

end SelectedRoots
end GraphQLProjections
