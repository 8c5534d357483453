import GraphQLProjections.Proofs.KeyTree.Merging

/-! Key selections as they are written, and the trees they stand for. A field may be written several
times, with a group or without; in the tree it stands once, where it comes first, with all that its
groups contain. -/
namespace GraphQLProjections.KeyTree

/-- A field as it is written once: a name, or a name with a group of at least one item. -/
inductive Item where
  | field (name : String)
  | group (name : String) (first : Item) (rest : List Item)
  deriving Repr, Inhabited

namespace Item

def name : Item → String
  | field name | group name _ _ => name

def inner : Item → List Item
  | field _ => []
  | group _ first rest => first :: rest

def isGroup : Item → Bool
  | field _ => false
  | group .. => true

theorem isGroup_eq_false {item : Item} : item.isGroup = false ↔ item.inner = [] := by
  cases item <;> simp [isGroup, inner]

end Item

/-- An item occurs at a path: it is written at the top, or in a group of an item above. -/
inductive Occurs : List Item → List String → Item → Prop
  | here {items : List Item} {item : Item} (listed : item ∈ items) : Occurs items [item.name] item
  | inside {items : List Item} {outer item : Item} {path : List String} (listed : outer ∈ items)
      (below : Occurs outer.inner path item) : Occurs items (outer.name :: path) item

def under (name : String) (items : List Item) : List Item :=
  (items.filter (·.name == name)).flatMap Item.inner

/-- The items in the groups at a path, in the order in which they are written. -/
def itemsAt : List Item → List String → List Item
  | items, [] => items
  | items, name :: path => itemsAt (under name items) path

variable {items others : List Item} {item : Item} {tree other group : KeyTree} {name : String}
  {path : List String}

theorem mem_under : item ∈ under name items ↔
    ∃ outer ∈ items, outer.name = name ∧ item ∈ outer.inner := by
  simp [under, and_assoc]

theorem under_append : under name (items ++ others) = under name items ++ under name others := by
  simp [under]

theorem itemsAt_append (path : List String) :
    itemsAt (items ++ others) path = itemsAt items path ++ itemsAt others path := by
  induction path generalizing items others with
  | nil => rfl
  | cons name path ih => rw [itemsAt, under_append, ih, itemsAt, itemsAt]

theorem itemsAt_nil (path : List String) : itemsAt [] path = [] := by
  induction path with
  | nil => rfl
  | cons name path ih => exact ih

theorem itemsAt_concat (path : List String) :
    itemsAt items (path ++ [name]) = under name (itemsAt items path) := by
  induction path generalizing items with
  | nil => rfl
  | cons first path ih => exact ih

theorem occurs_cons {rest : List String} : Occurs items (name :: rest) item ↔
    (rest = [] ∧ item ∈ items ∧ item.name = name) ∨ Occurs (under name items) rest item := by
  constructor
  · intro occurs
    cases occurs with
    | here listed => exact .inl ⟨rfl, listed, rfl⟩
    | inside listed below =>
      refine .inr ?_
      cases below with
      | here inside => exact .here (mem_under.mpr ⟨_, listed, rfl, inside⟩)
      | inside inside below => exact .inside (mem_under.mpr ⟨_, listed, rfl, inside⟩) below
  · rintro (⟨rfl, listed, rfl⟩ | below)
    · exact .here listed
    · cases below with
      | here inside =>
        obtain ⟨outer, listed, rfl, within⟩ := mem_under.mp inside
        exact .inside listed (.here within)
      | inside inside below =>
        obtain ⟨outer, listed, rfl, within⟩ := mem_under.mp inside
        exact .inside listed (.inside within below)

theorem not_occurs_nil : ¬Occurs items [] item := by
  intro occurs
  cases occurs

theorem occurs_concat : Occurs items (path ++ [name]) item ↔
    item ∈ itemsAt items path ∧ item.name = name := by
  induction path generalizing items with
  | nil => simp [occurs_cons, not_occurs_nil, itemsAt]
  | cons first path ih => simp [occurs_cons, ih, itemsAt]

/-- The fields of a tree, by the paths that lead to them. -/
inductive HasPath : KeyTree → List String → Prop
  | field {tree : KeyTree} {name : String} (listed : name ∈ tree.fieldNames) : HasPath tree [name]
  | inside {tree group : KeyTree} {name : String} {path : List String}
      (nested : tree.nested? name = some group) (below : HasPath group path) :
      HasPath tree (name :: path)

theorem not_hasPath_nil : ¬tree.HasPath [] := by
  intro leads
  cases leads

theorem hasPath_concat : tree.HasPath (path ++ [name]) ↔
    ∃ level, tree.level? path = some level ∧ name ∈ level.fieldNames := by
  induction path generalizing tree with
  | nil =>
    simp only [List.nil_append, level?, Option.some.injEq, exists_eq_left']
    constructor
    · intro leads
      cases leads with
      | field listed => exact listed
      | inside _ below => exact absurd below not_hasPath_nil
    · exact .field
  | cons first path ih =>
    constructor
    · intro leads
      generalize whole : first :: path ++ [name] = steps at leads
      cases leads with
      | field listed => simp at whole
      | inside nested below =>
        obtain ⟨rfl, rfl⟩ := List.cons.inj whole
        obtain ⟨level, reached, listed⟩ := ih.mp below
        exact ⟨level, (level?_cons nested path).trans reached, listed⟩
    · rintro ⟨level, reached, listed⟩
      obtain ⟨group, nested, below⟩ := Option.bind_eq_some_iff.mp reached
      exact .inside nested (ih.mpr ⟨level, below, listed⟩)

/-- The tree of what is written: its paths are those of the items, each level has its fields in
order of first occurrence, a field has a group exactly if it is written with one, and no group is
empty. -/
structure IsTreeOf (items : List Item) (tree : KeyTree) : Prop where
  paths : ∀ path, tree.HasPath path ↔ ∃ item, Occurs items path item
  order : ∀ path level, tree.level? path = some level →
    level.fieldNames = ((itemsAt items path).map Item.name).eraseDups
  leaves : ∀ path, tree.HasPath path →
    (tree.level? path = none ↔ ∀ item, Occurs items path item → item.isGroup = false)
  filled : ∀ path level, tree.level? path = some level → level.fieldNames ≠ []

/-! ### Levels -/

/-- The names of the level at a path. The top is there even if nothing is written. -/
def levelNames? (items : List Item) (path : List String) : Option (List String) :=
  if path ≠ [] ∧ itemsAt items path = [] then none
  else some ((itemsAt items path).map Item.name).eraseDups

def Lists (items : List Item) (tree : KeyTree) : Prop :=
  ∀ path, (tree.level? path).map fieldNames = levelNames? items path

theorem levelNames?_eq_none : levelNames? items path = none ↔
    path ≠ [] ∧ itemsAt items path = [] := by
  simp [levelNames?]

theorem names_of_levelNames? {names : List String} (known : levelNames? items path = some names) :
    names = ((itemsAt items path).map Item.name).eraseDups := by
  unfold levelNames? at known
  split at known
  · cases known
  · exact (Option.some.inj known).symm

theorem eraseDups_eq_nil {names : List String} : names.eraseDups = [] ↔ names = [] := by
  cases names <;> simp [List.eraseDups_cons]

namespace Lists

theorem names (lists : Lists items tree) {level : KeyTree}
    (reached : tree.level? path = some level) :
    level.fieldNames = ((itemsAt items path).map Item.name).eraseDups :=
  names_of_levelNames? ((lists path).symm.trans (by rw [reached]; rfl))

theorem distinct (lists : Lists items tree) : tree.Distinct := by
  intro path level reached
  rw [lists.names reached]
  exact nodup_eraseDups _

theorem unique (lists : Lists items tree) (lists' : Lists items other) : tree = other :=
  eq_of_levels lists.distinct fun path => (lists path).trans (lists' path).symm

theorem level?_eq_none (lists : Lists items tree) :
    tree.level? path = none ↔ path ≠ [] ∧ itemsAt items path = [] := by
  rw [← levelNames?_eq_none, ← lists path, Option.map_eq_none_iff]

theorem merge (lists : Lists items tree) (lists' : Lists others other) :
    Lists (items ++ others) (tree.merge other) := by
  intro path
  rw [level?_merge lists'.distinct]
  cases reached : tree.level? path with
  | none =>
    obtain ⟨below, none⟩ := lists.level?_eq_none.mp reached
    rw [Option.merge_none_left, lists' path]
    simp [levelNames?, itemsAt_append, none]
  | some level =>
    have known := lists path
    rw [reached] at known
    cases reached' : other.level? path with
    | none =>
      obtain ⟨below, none⟩ := lists'.level?_eq_none.mp reached'
      rw [Option.merge_none_right, known]
      simp [levelNames?, itemsAt_append, none]
    | some level' =>
      have here : ¬(path ≠ [] ∧ itemsAt items path = []) := by
        rw [← lists.level?_eq_none, reached]
        simp
      have distinct := lists.distinct path level reached
      simp only [Option.merge_some_some, Option.map_some, fieldNames_merge distinct,
        lists.names reached, lists'.names reached']
      rw [eraseDups_eraseDups_append, eraseDups_append_eraseDups, ← List.map_append,
        ← itemsAt_append, levelNames?, if_neg]
      rintro ⟨below, none⟩
      rw [itemsAt_append] at none
      exact here ⟨below, (List.append_eq_nil_iff.mp none).1⟩

end Lists

theorem lists_empty : Lists [] empty := by
  intro path
  cases path with
  | nil => rfl
  | cons name path => simp [levelNames?, itemsAt_nil, level?, nested?, empty, KeyTree.fields]

theorem lists_field (name : String) : Lists [.field name] (mk [(name, none)]) := by
  intro path
  cases path with
  | nil => rfl
  | cons first path =>
    have nothing : under first [.field name] = [] := by
      by_cases same : name = first <;> simp [under, Item.name, Item.inner, same]
    have flat : (mk [(name, none)]).nested? first = none := by
      by_cases same : first = name <;>
        simp [nested?, KeyTree.fields, Entries.lookup_cons, same]
    simp [levelNames?, itemsAt, nothing, itemsAt_nil, level?, flat]

theorem lists_group {first : Item} {rest : List Item} (name : String)
    (lists : Lists (first :: rest) group) :
    Lists [.group name first rest] (mk [(name, some group)]) := by
  intro path
  cases path with
  | nil => rfl
  | cons other path =>
    by_cases same : other = name
    · subst same
      have nested : (mk [(other, some group)]).nested? other = some group := by
        simp [nested?, KeyTree.fields]
      have inside : under other [.group other first rest] = first :: rest := by
        simp [under, Item.name, Item.inner]
      rw [level?_cons nested, lists path]
      cases path with
      | nil => simp [levelNames?, itemsAt, inside]
      | cons second path => simp [levelNames?, itemsAt, inside]
    · have nothing : under other [.group name first rest] = [] := by
        simp [under, Item.name, Ne.symm same]
      have flat : (mk [(name, some group)]).nested? other = none := by
        simp [nested?, KeyTree.fields, Entries.lookup_cons, same]
      simp [levelNames?, itemsAt, nothing, itemsAt_nil, level?, flat]

theorem IsTreeOf.lists (isTree : IsTreeOf items tree) : Lists items tree := by
  intro path
  cases reached : tree.level? path with
  | some level =>
    have names := isTree.order path level reached
    have filled := isTree.filled path level reached
    rw [names, Ne, eraseDups_eq_nil, List.map_eq_nil_iff] at filled
    rw [levelNames?, if_neg fun nothing => filled nothing.2, Option.map_some, names]
  | none =>
    refine (levelNames?_eq_none.mpr ?_).symm
    rcases List.eq_nil_or_concat' path with rfl | ⟨path, name, rfl⟩
    · cases reached
    refine ⟨by simp, List.eq_nil_iff_forall_not_mem.mpr fun item inside => ?_⟩
    rw [itemsAt_concat] at inside
    obtain ⟨outer, listed, named, inside⟩ := mem_under.mp inside
    have occurs : Occurs items (path ++ [name]) outer := occurs_concat.mpr ⟨listed, named⟩
    have leads := (isTree.paths _).mpr ⟨outer, occurs⟩
    have flat := (isTree.leaves _ leads).mp reached outer occurs
    rw [Item.isGroup_eq_false.mp flat] at inside
    exact List.not_mem_nil inside

theorem Lists.hasPath_iff (lists : Lists items tree) (path : List String) :
    tree.HasPath path ↔ ∃ item, Occurs items path item := by
  rcases List.eq_nil_or_concat' path with rfl | ⟨path, name, rfl⟩
  · simp [not_hasPath_nil, not_occurs_nil]
  · simp only [hasPath_concat, occurs_concat]
    cases reached : tree.level? path with
    | some level => simp [lists.names reached, List.mem_eraseDups]
    | none => simp [(lists.level?_eq_none.mp reached).2]

theorem Lists.isTreeOf (lists : Lists items tree) (nonempty : items ≠ []) :
    IsTreeOf items tree := by
  refine ⟨lists.hasPath_iff, fun path level => lists.names, fun path leads => ?_, ?_⟩
  · rcases List.eq_nil_or_concat' path with rfl | ⟨path, name, rfl⟩
    · exact absurd leads not_hasPath_nil
    rw [lists.level?_eq_none, itemsAt_concat]
    simp only [occurs_concat, Item.isGroup_eq_false]
    simp [under]
  · intro path level reached none
    rw [lists.names reached, eraseDups_eq_nil, List.map_eq_nil_iff] at none
    by_cases top : path = []
    · subst top
      exact nonempty none
    · have missing := lists.level?_eq_none.mpr ⟨top, none⟩
      cases missing.symm.trans reached

/-- A tree of what is written is one that lists it at every level. -/
theorem isTreeOf_iff_lists (nonempty : items ≠ []) : IsTreeOf items tree ↔ Lists items tree :=
  ⟨IsTreeOf.lists, fun lists => lists.isTreeOf nonempty⟩

/-! ### Gathering items one by one -/

mutual
def gather (tree : KeyTree) : Item → KeyTree
  | .field name => tree.addField name
  | .group name first rest => tree.addGroup name (gatherAll (gather empty first) rest)

def gatherAll (tree : KeyTree) : List Item → KeyTree
  | [] => tree
  | item :: rest => gatherAll (gather tree item) rest
end

theorem addField_eq (tree : KeyTree) (name : String) :
    tree.addField name = tree.merge (mk [(name, none)]) := by
  simp [addField, KeyTree.merge, mergeFields]

theorem addGroup_eq (tree : KeyTree) (name : String) (group : KeyTree) :
    tree.addGroup name group = tree.merge (mk [(name, some group)]) := by
  simp [addGroup, KeyTree.merge, mergeFields]

mutual
theorem Lists.gather {items : List Item} {tree : KeyTree} (lists : Lists items tree) :
    ∀ item, Lists (items ++ [item]) (KeyTree.gather tree item)
  | .field name => by
    rw [KeyTree.gather, addField_eq]
    exact lists.merge (lists_field name)
  | .group name first rest => by
    rw [KeyTree.gather, addGroup_eq]
    exact lists.merge (lists_group name ((lists_empty.gather first).gatherAll rest))

theorem Lists.gatherAll {items : List Item} {tree : KeyTree} (lists : Lists items tree) :
    ∀ more, Lists (items ++ more) (KeyTree.gatherAll tree more)
  | [] => by rwa [List.append_nil, KeyTree.gatherAll]
  | item :: rest => by
    rw [KeyTree.gatherAll, List.append_cons]
    exact (lists.gather item).gatherAll rest
end

theorem lists_gatherAll (items : List Item) : Lists items (gatherAll empty items) :=
  lists_empty.gatherAll items

theorem isEmpty_gatherAll (items : List Item) :
    (gatherAll empty items).isEmpty = items.isEmpty := by
  have names : (gatherAll empty items).fieldNames = (items.map Item.name).eraseDups :=
    (lists_gatherAll items).names (show (gatherAll empty items).level? [] = some _ from rfl)
  rw [Bool.eq_iff_iff, isEmpty, List.isEmpty_iff, List.isEmpty_iff]
  rw [fieldNames, Entries.names] at names
  rw [← List.map_eq_nil_iff, names, eraseDups_eq_nil, List.map_eq_nil_iff]

theorem gatherAll_concat (tree : KeyTree) (items : List Item) (item : Item) :
    gatherAll tree (items ++ [item]) = gather (gatherAll tree items) item := by
  induction items generalizing tree with
  | nil => rfl
  | cons first rest ih => exact ih _

/-- A field that gets a group next need not have been added. -/
theorem addGroup_addField (tree : KeyTree) (name : String) (group : KeyTree) :
    (tree.addField name).addGroup name group = tree.addGroup name group := by
  rw [addField, addGroup, addGroup]
  exact congrArg mk (Entries.upsert_upsert tree.fields name _ _)

end GraphQLProjections.KeyTree
