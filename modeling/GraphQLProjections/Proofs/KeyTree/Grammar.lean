import GraphQLProjections.Proofs.KeyTree.Items
import GraphQLProjections.Proofs.KeyTree.Tokens

/-! The grammar of key selections. A selection is one or more items, and an item is a name or a name
with a selection in braces. Reading with a stack of open groups accepts exactly this and gives the
tree of what is written; everything else is malformed. -/
namespace GraphQLProjections.KeyTree

mutual
def tokensOf : Item → List Token
  | .field name => [.name name]
  | .group name first rest =>
    .name name :: .opening :: (tokensOf first ++ tokensOfAll rest ++ [.closing])

def tokensOfAll : List Item → List Token
  | [] => []
  | item :: rest => tokensOf item ++ tokensOfAll rest
end

/-- A text is a selection of one or more items. -/
structure Derives (selection : String) (items : List Item) : Prop where
  nonempty : items ≠ []
  spells : Spells selection.toList (tokensOfAll items)

variable {items : List Item} {tree : KeyTree} {last : Option String}

theorem tokensOfAll_append (items others : List Item) :
    tokensOfAll (items ++ others) = tokensOfAll items ++ tokensOfAll others := by
  induction items with
  | nil => rfl
  | cons item rest ih => simp [tokensOfAll, ih]

/-! ### What the grammar derives is read -/

mutual
/-- Reading an item adds it to the current tree, whatever groups are open. -/
theorem readTokens_tokensOf (groups : OpenGroups) (current : KeyTree) (last : Option String)
    (rest : List Token) : ∀ item, ∃ last',
      readTokens groups current last (tokensOf item ++ rest) =
        readTokens groups (gather current item) last' rest
  | .field name => ⟨some name, rfl⟩
  | .group name first others => by
    have filled : (gatherAll (gather empty first) others).isEmpty = false :=
      isEmpty_gatherAll (first :: others)
    obtain ⟨middle, head⟩ := readTokens_tokensOf ((name, current.addField name) :: groups) empty
      none (tokensOfAll others ++ .closing :: rest) first
    obtain ⟨last', tail⟩ := readTokens_tokensOfAll ((name, current.addField name) :: groups)
      (gather empty first) middle (.closing :: rest) others
    refine ⟨none, ?_⟩
    calc readTokens groups current last (tokensOf (.group name first others) ++ rest)
      _ = readTokens ((name, current.addField name) :: groups) empty none
            (tokensOf first ++ (tokensOfAll others ++ .closing :: rest)) := by
          simp [tokensOf, readTokens]
      _ = readTokens groups ((current.addField name).addGroup name
            (gatherAll (gather empty first) others)) none rest := by
          rw [head, tail, readTokens, filled]
          rfl
      _ = readTokens groups (gather current (.group name first others)) none rest := by
          rw [addGroup_addField, gather]

theorem readTokens_tokensOfAll (groups : OpenGroups) (current : KeyTree) (last : Option String)
    (rest : List Token) : ∀ items, ∃ last',
      readTokens groups current last (tokensOfAll items ++ rest) =
        readTokens groups (gatherAll current items) last' rest
  | [] => ⟨last, rfl⟩
  | item :: others => by
    obtain ⟨middle, first⟩ :=
      readTokens_tokensOf groups current last (tokensOfAll others ++ rest) item
    obtain ⟨last', second⟩ :=
      readTokens_tokensOfAll groups (gather current item) middle rest others
    refine ⟨last', ?_⟩
    rw [tokensOfAll, List.append_assoc, first, second]
    rfl
end

theorem readTokens_items (nonempty : items ≠ []) :
    readTokens [] empty none (tokensOfAll items) = .ok (gatherAll empty items) := by
  obtain ⟨last, read⟩ := readTokens_tokensOfAll [] empty none [] items
  rw [List.append_nil] at read
  simp [read, readTokens, isEmpty_gatherAll, nonempty]

/-! ### What is read the grammar derives -/

/-- A group that is open: the items before it at its level, and its field. -/
abbrev Pending := List Item × String

def Pending.opened (pending : Pending) : String × KeyTree :=
  (pending.2, (gatherAll empty pending.1).addField pending.2)

def pendingTokens : List Pending → List Token
  | [] => []
  | (before, name) :: outer =>
    pendingTokens outer ++ tokensOfAll before ++ [.name name, .opening]

/-- What is read to the end is the items of the open groups and of the current one, then what the
tokens after them add. -/
theorem exists_items_of_readTokens {pending : List Pending} {rest : List Token}
    (lastField : ∀ name, last = some name → ∃ before, items = before ++ [.field name])
    (read : readTokens (pending.map Pending.opened) (gatherAll empty items) last rest = .ok tree) :
    ∃ all, all ≠ [] ∧ pendingTokens pending ++ tokensOfAll items ++ rest = tokensOfAll all ∧
      tree = gatherAll empty all := by
  induction rest generalizing pending items last with
  | nil =>
    cases pending with
    | nil =>
      rw [List.map_nil, readTokens, isEmpty_gatherAll] at read
      split at read
      · cases read
      next filled =>
        refine ⟨items, by simpa using filled, ?_, (Except.ok.inj read).symm⟩
        simp [pendingTokens]
    | cons innermost outer => cases read
  | cons token rest ih =>
    cases token with
    | name name =>
      have added :
          gatherAll empty (items ++ [.field name]) = (gatherAll empty items).addField name :=
        gatherAll_concat _ _ _
      rw [readTokens, ← added] at read
      have ended : ∀ name', some name = some name' →
          ∃ before, items ++ [.field name] = before ++ [.field name'] :=
        fun name' same => ⟨items, by rw [Option.some.inj same]⟩
      simpa [tokensOfAll_append, tokensOfAll, tokensOf] using ih ended read
    | opening =>
      cases last with
      | none => cases read
      | some name =>
        obtain ⟨before, rfl⟩ := lastField name rfl
        rw [readTokens, gatherAll_concat] at read
        have begun : readTokens (((before, name) :: pending).map Pending.opened)
            (gatherAll empty []) none rest = .ok tree := read
        simpa [pendingTokens, tokensOfAll_append, tokensOfAll, tokensOf] using ih (by simp) begun
    | closing =>
      cases pending with
      | nil => cases read
      | cons innermost outer =>
        obtain ⟨before, name⟩ := innermost
        rw [List.map_cons, Pending.opened, readTokens, isEmpty_gatherAll] at read
        cases items with
        | nil => cases read
        | cons first others =>
          have closed : gatherAll empty (before ++ [.group name first others]) =
              ((gatherAll empty before).addField name).addGroup name
                (gatherAll empty (first :: others)) := by
            rw [gatherAll_concat, addGroup_addField]
            rfl
          simp only [List.isEmpty_cons, Bool.false_eq_true, if_false, ← closed] at read
          simpa [pendingTokens, tokensOfAll_append, tokensOfAll, tokensOf] using ih (by simp) read

theorem readTokens_eq_ok {tokens : List Token} : readTokens [] empty none tokens = .ok tree ↔
    ∃ items, items ≠ [] ∧ tokensOfAll items = tokens ∧ tree = gatherAll empty items := by
  constructor
  · intro read
    have begun : readTokens (List.map Pending.opened []) (gatherAll empty []) none tokens =
        .ok tree := read
    obtain ⟨items, nonempty, same, gathered⟩ := exists_items_of_readTokens (by simp) begun
    exact ⟨items, nonempty, same.symm, gathered⟩
  · rintro ⟨items, nonempty, rfl, rfl⟩
    exact readTokens_items nonempty

/-! ### Reading a selection -/

theorem derives_iff {selection : String} :
    Derives selection items ↔ items ≠ [] ∧ tokensOfAll items = tokens selection := by
  rw [eq_comm, ← spells_iff]
  exact ⟨fun derives => ⟨derives.nonempty, derives.spells⟩,
    fun ⟨nonempty, spells⟩ => ⟨nonempty, spells⟩⟩

theorem parse_eq_ok {entity selection : String} : parse entity selection = .ok tree ↔
    ∃ items, Derives selection items ∧ tree = gatherAll empty items := by
  simp only [derives_iff, and_assoc, ← readTokens_eq_ok]
  unfold parse
  cases readTokens [] empty none (tokens selection) <;> simp

theorem parse_of_derives {selection : String} (derives : Derives selection items)
    (entity : String) : parse entity selection = .ok (gatherAll empty items) :=
  parse_eq_ok.mpr ⟨items, derives, rfl⟩

/-- A key selection is read exactly if the grammar derives it, and then as the one tree of what is
written; every other text is malformed. -/
theorem parse_grammatical (entity selection : String) :
    ((∃ tree, parse entity selection = .ok tree) ↔ ∃ items, Derives selection items) ∧
      (∀ items tree, Derives selection items →
        (parse entity selection = .ok tree ↔ IsTreeOf items tree)) ∧
      ((¬∃ items, Derives selection items) →
        ∃ fault, parse entity selection = .error (.malformedKey entity selection fault)) := by
  have accepted :
      (∃ tree, parse entity selection = .ok tree) ↔ ∃ items, Derives selection items := by
    simp only [parse_eq_ok]
    exact ⟨fun ⟨_, items, derives, _⟩ => ⟨items, derives⟩,
      fun ⟨items, derives⟩ => ⟨_, items, derives, rfl⟩⟩
  refine ⟨accepted, ?_, ?_⟩
  · intro items tree derives
    rw [isTreeOf_iff_lists derives.nonempty, parse_of_derives derives, Except.ok.injEq]
    constructor
    · rintro rfl
      exact lists_gatherAll items
    · exact (lists_gatherAll items).unique
  · intro refused
    rw [← accepted] at refused
    unfold parse at refused ⊢
    cases read : readTokens [] empty none (tokens selection) with
    | ok tree => exact absurd ⟨tree, by rw [read]⟩ refused
    | error fault => exact ⟨fault, rfl⟩

def actorSelection : String := "actor \x7b name \x7d id actor, actor\x7bid,name\x7d"

def actorItems : List Item :=
  [.group "actor" (.field "name") [], .field "id", .field "actor",
    .group "actor" (.field "id") [.field "name"]]

def actorTree : KeyTree :=
  ⟨[("actor", some ⟨[("name", none), ("id", none)]⟩), ("id", none)]⟩

theorem parse_grammatical_actorSelection : Derives actorSelection actorItems ∧
    parse "Movie" actorSelection = .ok actorTree ∧ IsTreeOf actorItems actorTree := by
  have derives : Derives actorSelection actorItems :=
    derives_iff.mpr ⟨List.cons_ne_nil _ _, by decide +kernel⟩
  have read : parse "Movie" actorSelection = .ok actorTree := parse_of_derives derives "Movie"
  exact ⟨derives, read, ((parse_grammatical "Movie" actorSelection).2.1 _ _ derives).mp read⟩

end GraphQLProjections.KeyTree
