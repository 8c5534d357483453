import GraphQLProjections.Filter

/-! Filters as sets of words. A word goes down through selected fields and types; merging two filters
selects the words of both, and narrowing to a type folds in one step to that type. -/
namespace GraphQLProjections

inductive SelectionStep where
  | field (name : String)
  | fragment (type : String)
  deriving DecidableEq, Repr

namespace Entries

variable {α : Type _}

theorem mem_upsert {name : String} {f : Option α → α} {entries : Entries α} {entry : String × α}
    (member : entry ∈ entries.upsert name f) :
    entry ∈ entries ∨ entry = (name, f (entries.lookup name)) := by
  induction entries with
  | nil => exact .inr (List.mem_singleton.mp member)
  | cons first rest ih =>
    obtain ⟨other, value⟩ := first
    unfold upsert at member
    split at member
    next same =>
      subst same
      rcases List.mem_cons.mp member with rfl | member
      · exact .inr (by simp)
      · exact .inl (List.mem_cons_of_mem _ member)
    next differs =>
      rcases List.mem_cons.mp member with rfl | member
      · exact .inl List.mem_cons_self
      · apply (ih member).imp (List.mem_cons_of_mem _)
        intro same
        rw [same, lookup_cons, if_neg fun same => differs same.symm]

theorem nodup_upsert {entries : Entries α} (distinct : entries.names.Nodup) (name : String)
    (f : Option α → α) : (entries.upsert name f).names.Nodup := by
  rw [names_upsert]
  split
  · exact distinct
  next free => exact List.nodup_append.mpr ⟨distinct, by simp, by grind⟩

theorem mem_of_lookup {entries : Entries α} {name : String} {value : α}
    (found : entries.lookup name = some value) : (name, value) ∈ entries := by
  obtain ⟨before, after, rfl, -⟩ := List.lookup_eq_some_iff.mp found
  exact List.mem_append_right _ List.mem_cons_self

theorem lookup_of_mem {entries : Entries α} (distinct : entries.names.Nodup)
    {name : String} {value : α} (member : (name, value) ∈ entries) :
    entries.lookup name = some value := by
  induction entries with
  | nil => exact absurd member List.not_mem_nil
  | cons entry rest ih =>
    obtain ⟨key, held⟩ := entry
    obtain ⟨free, distinct⟩ := List.nodup_cons.mp distinct
    rw [lookup_cons]
    rcases List.mem_cons.mp member with same | inside
    · obtain ⟨rfl, rfl⟩ := Prod.mk.inj same
      exact if_pos rfl
    · have differs : name ≠ key := by
        rintro rfl
        exact free (List.mem_map.mpr ⟨_, inside, rfl⟩)
      rw [if_neg differs, ih distinct inside]

theorem isSome_lookup {entries : Entries α} {name : String} :
    (entries.lookup name).isSome ↔ name ∈ entries.names := by
  induction entries with
  | nil => simp [names]
  | cons entry rest ih =>
    obtain ⟨key, value⟩ := entry
    rw [lookup_cons]
    by_cases same : name = key <;> simp_all [names]

theorem lookup_erase (entries : Entries α) (name other : String) :
    (entries.erase name).lookup other = if other = name then none else entries.lookup other := by
  induction entries with
  | nil => simp [erase]
  | cons entry rest ih =>
    obtain ⟨key, held⟩ := entry
    by_cases erased : key = name
    · have gone : erase name ((key, held) :: rest) = erase name rest := by simp [erase, erased]
      rw [gone, ih, lookup_cons, erased]
      by_cases same : other = name <;> simp [same]
    · have stays : erase name ((key, held) :: rest) = (key, held) :: erase name rest := by
        simp [erase, erased]
      rw [stays, lookup_cons, lookup_cons, ih]
      by_cases same : other = key
      · subst same
        simp [erased]
      · simp [same]

end Entries

namespace Filter

def step? (filter : Filter) : SelectionStep → Option Filter
  | .field name => filter.field? name
  | .fragment type => filter.fragment? type

def Has : Filter → List SelectionStep → Prop
  | _, [] => True
  | filter, step :: rest => ∃ child, filter.step? step = some child ∧ child.Has rest

theorem Has.front {filter : Filter} {front back : List SelectionStep}
    (has : filter.Has (front ++ back)) : filter.Has front := by
  induction front generalizing filter with
  | nil => trivial
  | cons step rest ih =>
    obtain ⟨child, found, below⟩ := has
    exact ⟨child, found, ih below⟩

inductive Distinct : Filter → Prop
  | level {fields fragments : List (String × Filter)} (fieldNames : (Entries.names fields).Nodup)
      (fragmentNames : (Entries.names fragments).Nodup)
      (belowFields : ∀ entry ∈ fields, entry.2.Distinct)
      (belowFragments : ∀ entry ∈ fragments, entry.2.Distinct) : Distinct (mk fields fragments)

theorem distinct_empty : empty.Distinct :=
  .level List.nodup_nil List.nodup_nil (by simp) (by simp)

theorem Distinct.ofField {child : Filter} (distinct : child.Distinct) (name : String) :
    (mk [(name, child)] []).Distinct :=
  .level (by simp [Entries.names]) List.nodup_nil (by simpa) (by simp)

theorem Distinct.ofFragment {child : Filter} (distinct : child.Distinct) (type : String) :
    (mk [] [(type, child)]).Distinct :=
  .level List.nodup_nil (by simp [Entries.names]) (by simp) (by simpa)

theorem Distinct.step {filter child : Filter} (distinct : filter.Distinct) (step : SelectionStep)
    (found : filter.step? step = some child) : child.Distinct := by
  cases distinct with
  | level _ _ fields fragments =>
    cases step with
    | field name => exact fields _ (Entries.mem_of_lookup found)
    | fragment type => exact fragments _ (Entries.mem_of_lookup found)

theorem lookup_mergeEntries {entries : Entries Filter} (distinct : entries.names.Nodup)
    (held : Entries Filter) (name : String) :
    (mergeEntries held entries).lookup name =
      match entries.lookup name with
      | none => held.lookup name
      | some child => some (((held.lookup name).getD empty).merge child) := by
  induction entries generalizing held with
  | nil => simp [mergeEntries]
  | cons entry rest ih =>
    obtain ⟨key, child⟩ := entry
    obtain ⟨free, distinct⟩ := List.nodup_cons.mp distinct
    rw [mergeEntries, ih distinct, Entries.lookup_upsert, Entries.lookup_cons]
    by_cases same : name = key
    · subst same
      have absent : List.lookup name rest = none := by
        apply List.lookup_eq_none_iff.mpr
        intro entry member
        exact bne_iff_ne.mpr fun same => free (List.mem_map.mpr ⟨entry, member, same.symm⟩)
      simp [absent]
    · simp [same]

theorem step?_merge {filter other : Filter} (distinct : other.Distinct) (step : SelectionStep) :
    (filter.merge other).step? step =
      match other.step? step with
      | none => filter.step? step
      | some child => some (((filter.step? step).getD empty).merge child) := by
  cases distinct with
  | level fieldNames fragmentNames _ _ =>
    rw [merge]
    cases step with
    | field name => exact lookup_mergeEntries fieldNames filter.fields name
    | fragment type => exact lookup_mergeEntries fragmentNames filter.fragments type

theorem not_has_empty (step : SelectionStep) (rest : List SelectionStep) :
    ¬empty.Has (step :: rest) := by
  rintro ⟨child, found, -⟩
  cases step <;> cases found

/-- A merged filter has the words of both. -/
theorem has_merge {filter other : Filter} (distinct : other.Distinct) {word : List SelectionStep} :
    (filter.merge other).Has word ↔ filter.Has word ∨ other.Has word := by
  induction word generalizing filter other with
  | nil => simp [Has]
  | cons step rest ih =>
    simp only [Has, step?_merge distinct]
    cases found : other.step? step with
    | none => simp
    | some child =>
      have below : (((filter.step? step).getD empty).merge child).Has rest ↔ _ :=
        ih (distinct.step step found)
      cases held : filter.step? step with
      | none =>
        rw [held] at below
        cases rest with
        | nil => simp [Has]
        | cons next rest => simpa [not_has_empty] using below
      | some old => simpa [held] using below

theorem distinct_mergeEntries {held entries : Entries Filter} (names : held.names.Nodup)
    (below : ∀ entry ∈ held, entry.2.Distinct)
    (merges : ∀ entry ∈ entries, ∀ filter : Filter, filter.Distinct →
      (filter.merge entry.2).Distinct) :
    (Entries.names (mergeEntries held entries)).Nodup ∧
      ∀ entry ∈ mergeEntries held entries, entry.2.Distinct := by
  induction entries generalizing held with
  | nil => exact ⟨names, below⟩
  | cons entry rest ih =>
    obtain ⟨name, child⟩ := entry
    rw [mergeEntries]
    refine ih (Entries.nodup_upsert names _ _) (fun entry member => ?_)
      fun entry member => merges entry (List.mem_cons_of_mem _ member)
    rcases Entries.mem_upsert member with member | rfl
    · exact below entry member
    · apply merges (name, child) List.mem_cons_self _
      cases found : List.lookup name held with
      | none => exact distinct_empty
      | some old => exact below _ (Entries.mem_of_lookup found)

theorem Distinct.merge {filter other : Filter} (distinct : filter.Distinct)
    (distinct' : other.Distinct) : (filter.merge other).Distinct := by
  induction distinct' generalizing filter with
  | level _ _ _ _ fields fragments =>
    cases distinct with
    | level fieldNames fragmentNames fields' fragments' =>
      rw [Filter.merge]
      obtain ⟨names, below⟩ := distinct_mergeEntries fieldNames fields'
        fun entry member filter distinct => fields entry member distinct
      obtain ⟨names', below'⟩ := distinct_mergeEntries fragmentNames fragments'
        fun entry member filter distinct => fragments entry member distinct
      exact .level names names' below below'

theorem fields_merge (fields fragments : Entries Filter) (other : Filter) :
    ((mk fields fragments).merge other).fields = mergeEntries fields other.fields := by
  cases other
  rw [merge]
  rfl

/-- The words that begin with a field depend on the fields only. -/
theorem has_field_congr {filter other : Filter} (same : filter.fields = other.fields) {name : String}
    {rest : List SelectionStep} :
    filter.Has (.field name :: rest) ↔ other.Has (.field name :: rest) := by
  simp only [Has, step?, field?, same]

theorem Distinct.onlyFields {filter : Filter} (distinct : filter.Distinct) :
    (mk filter.fields []).Distinct := by
  cases distinct with
  | level fieldNames _ belowFields _ => exact .level fieldNames List.nodup_nil belowFields (by simp)

/-! ### Adding one part -/

theorem withField_eq (filter : Filter) (name : String) (child : Filter) :
    filter.withField name child = filter.merge (mk [(name, child)] []) := by
  simp [withField, merge, mergeEntries]

theorem withFragment_eq (filter : Filter) (type : String) (child : Filter) :
    filter.withFragment type child = filter.merge (mk [] [(type, child)]) := by
  simp [withFragment, merge, mergeEntries]

theorem has_withField {filter child : Filter} (distinct : child.Distinct) {name : String}
    {word : List SelectionStep} : (filter.withField name child).Has word ↔
      filter.Has word ∨ ∃ rest, word = .field name :: rest ∧ child.Has rest := by
  rw [withField_eq, has_merge (distinct.ofField name)]
  cases word with
  | nil => simp [Has]
  | cons step rest =>
    apply or_congr_right
    cases step with
    | field other =>
      by_cases same : other = name <;>
        simp [Has, step?, field?, fields, Entries.lookup_cons, same]
    | fragment type => simp [Has, step?, fragment?, fragments]

theorem has_withFragment {filter child : Filter} (distinct : child.Distinct) {type : String}
    {word : List SelectionStep} : (filter.withFragment type child).Has word ↔
      filter.Has word ∨ ∃ rest, word = .fragment type :: rest ∧ child.Has rest := by
  rw [withFragment_eq, has_merge (distinct.ofFragment type)]
  cases word with
  | nil => simp [Has]
  | cons step rest =>
    apply or_congr_right
    cases step with
    | field name => simp [Has, step?, field?, fields]
    | fragment other =>
      by_cases same : other = type <;>
        simp [Has, step?, fragment?, fragments, Entries.lookup_cons, same]

theorem Distinct.withField {filter child : Filter} (distinct : filter.Distinct)
    (distinct' : child.Distinct) (name : String) : (filter.withField name child).Distinct := by
  rw [withField_eq]
  exact distinct.merge (distinct'.ofField name)

theorem Distinct.withFragment {filter child : Filter} (distinct : filter.Distinct)
    (distinct' : child.Distinct) (type : String) : (filter.withFragment type child).Distinct := by
  rw [withFragment_eq]
  exact distinct.merge (distinct'.ofFragment type)

/-! ### Narrowing -/

theorem Distinct.erased {filter : Filter} (distinct : filter.Distinct) (type : String) :
    (mk filter.fields (filter.fragments.erase type)).Distinct := by
  cases distinct with
  | level fieldNames fragmentNames fields fragments =>
    refine .level fieldNames ?_ fields ?_
    · exact List.Nodup.sublist (List.filter_sublist.map _) fragmentNames
    · intro entry member
      exact fragments entry (List.mem_filter.mp member).1

theorem Distinct.narrowed {filter : Filter} (distinct : filter.Distinct) (type : String) :
    (filter.narrowed type).Distinct := by
  unfold Filter.narrowed
  split
  · exact distinct
  next own found => exact (distinct.erased type).merge (distinct.step (.fragment type) found)

/-- Narrowing to a type takes the step to that type away and puts what follows it in its place. -/
theorem has_narrowed {filter : Filter} (distinct : filter.Distinct) {type : String}
    {step : SelectionStep} {rest : List SelectionStep} :
    (filter.narrowed type).Has (step :: rest) ↔
      (step ≠ .fragment type ∧ filter.Has (step :: rest)) ∨
        filter.Has (.fragment type :: step :: rest) := by
  unfold narrowed
  split
  next none =>
    have differs (has : filter.Has (step :: rest)) : step ≠ .fragment type := by
      rintro rfl
      obtain ⟨child, found, -⟩ := has
      exact Option.some_ne_none child (found.symm.trans none)
    simp only [Has, step?, none, reduceCtorEq, false_and, exists_false, or_false]
    exact ⟨fun has => ⟨differs has, has⟩, And.right⟩
  next own found =>
    have erased : (mk filter.fields (filter.fragments.erase type)).step? step =
        if step = .fragment type then none else filter.step? step := by
      cases step with
      | field name => simp [step?, field?, fields]
      | fragment other =>
        simp only [step?, fragment?, fragments, SelectionStep.fragment.injEq]
        exact Entries.lookup_erase _ _ _
    rw [has_merge (distinct.step (.fragment type) found)]
    apply or_congr
    · simp only [Has, erased]
      by_cases same : step = .fragment type <;> simp [same]
    · simp [Has, step?, found]

/-- A field is selected on values of a type plainly, or in one fragment on that type. -/
theorem has_narrowed_field {filter : Filter} (distinct : filter.Distinct) {type name : String}
    {rest : List SelectionStep} : (filter.narrowed type).Has (.field name :: rest) ↔
      filter.Has (.field name :: rest) ∨ filter.Has (.fragment type :: .field name :: rest) := by
  simp [has_narrowed distinct]

/-- Narrowing to a type adds no word but what follows a step to the type. -/
theorem has_of_has_narrowed {filter : Filter} (distinct : filter.Distinct) {type : String}
    {word : List SelectionStep} (has : (filter.narrowed type).Has word) :
    filter.Has word ∨ filter.Has (.fragment type :: word) := by
  cases word with
  | nil => exact .inl trivial
  | cons step rest => exact ((has_narrowed distinct).mp has).imp_left And.right

/-! ### Nesting -/

mutual
/-- How many fields the filter selects within each other, on whatever types. -/
def nesting : Filter → Nat
  | mk fields fragments => max (entriesNesting 1 fields) (entriesNesting 0 fragments)

/-- The greatest nesting of an entry, with what it costs to go into one. -/
def entriesNesting (cost : Nat) : List (String × Filter) → Nat
  | [] => 0
  | (_, child) :: rest => max (nesting child + cost) (entriesNesting cost rest)
end

theorem entriesNesting_le {cost bound : Nat} {entries : Entries Filter} :
    entriesNesting cost entries ≤ bound ↔ ∀ entry ∈ entries, entry.2.nesting + cost ≤ bound := by
  induction entries with
  | nil => simp [entriesNesting]
  | cons entry rest ih => simp only [entriesNesting, Nat.max_le, ih, List.forall_mem_cons]

theorem nesting_le {filter : Filter} {bound : Nat} : filter.nesting ≤ bound ↔
    entriesNesting 1 filter.fields ≤ bound ∧ entriesNesting 0 filter.fragments ≤ bound := by
  cases filter
  rw [nesting, Nat.max_le]
  rfl

mutual
/-- A merge nests no deeper than what it is made of. -/
theorem nesting_merge {filter : Filter} {bound : Nat} (held : filter.nesting ≤ bound) :
    ∀ other : Filter, other.nesting ≤ bound → (filter.merge other).nesting ≤ bound
  | mk fields fragments, merged => by
    obtain ⟨heldFields, heldFragments⟩ := nesting_le.mp held
    obtain ⟨mergedFields, mergedFragments⟩ := nesting_le.mp merged
    rw [merge]
    exact nesting_le.mpr ⟨entriesNesting_merge heldFields fields mergedFields,
      entriesNesting_merge heldFragments fragments mergedFragments⟩

theorem entriesNesting_merge {cost bound : Nat} {held : Entries Filter}
    (within : entriesNesting cost held ≤ bound) : ∀ entries : List (String × Filter),
      entriesNesting cost entries ≤ bound → entriesNesting cost (mergeEntries held entries) ≤ bound
  | [], _ => within
  | (name, child) :: rest, merged => by
    obtain ⟨first, others⟩ := Nat.max_le.mp merged
    rw [mergeEntries]
    refine entriesNesting_merge (entriesNesting_le.mpr fun entry member => ?_) rest others
    rcases Entries.mem_upsert member with member | rfl
    · exact entriesNesting_le.mp within entry member
    · have old : ((List.lookup name held).getD empty).nesting ≤ bound - cost := by
        cases found : List.lookup name held with
        | none => exact Nat.zero_le _
        | some old =>
          have := entriesNesting_le.mp within _ (Entries.mem_of_lookup found)
          exact Nat.le_sub_of_add_le this
      have := nesting_merge old child (Nat.le_sub_of_add_le first)
      exact Nat.add_le_of_le_sub (by omega) this
end

theorem nesting_narrowed (filter : Filter) (type : String) :
    (filter.narrowed type).nesting ≤ filter.nesting := by
  obtain ⟨fields, fragments⟩ := nesting_le.mp filter.nesting.le_refl
  unfold narrowed
  split
  · exact Nat.le_refl _
  next own found =>
    have others : entriesNesting 0 (filter.fragments.erase type) ≤ filter.nesting :=
      entriesNesting_le.mpr fun entry member =>
        entriesNesting_le.mp fragments entry ((List.mem_filter.mp member).1)
    have rest : (mk filter.fields (filter.fragments.erase type)).nesting ≤ filter.nesting :=
      nesting_le.mpr ⟨fields, others⟩
    exact nesting_merge rest own (entriesNesting_le.mp fragments _ (Entries.mem_of_lookup found))

theorem nesting_lt_of_field {filter child : Filter} {name : String}
    (found : filter.field? name = some child) : child.nesting < filter.nesting :=
  entriesNesting_le.mp (nesting_le.mp filter.nesting.le_refl).1 _ (Entries.mem_of_lookup found)

theorem nesting_le_of_fragment {filter child : Filter} {type : String}
    (found : filter.fragment? type = some child) : child.nesting ≤ filter.nesting :=
  entriesNesting_le.mp (nesting_le.mp filter.nesting.le_refl).2 _ (Entries.mem_of_lookup found)

end Filter
end GraphQLProjections
