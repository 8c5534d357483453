import GraphQLProjections.Proofs.Generation.EntityKeys
import GraphQLProjections.Proofs.KeyTree.Grammar

/-! Several selections and one. Reading selections one by one and merging their trees gives what
reading them gives once they are joined by blanks, so an entity may declare its key in one directive
or in several. -/
namespace GraphQLProjections

namespace KeyTree

variable {entity : String} {selections : List String} {trees : List KeyTree} {items : List Item}
  {tree : KeyTree}

/-- Selections that can be read are written by items, which a merge of their trees lists after those
of the tree it starts from. -/
theorem exists_items_of_read
    (read : List.Forall₂ (fun selection tree => parse entity selection = .ok tree)
      selections trees) :
    ∃ items, tokensOfAll items = selections.flatMap tokens ∧ (selections ≠ [] → items ≠ []) ∧
      ∀ held start, Lists held start → Lists (held ++ items) (trees.foldl merge start) := by
  induction read with
  | nil => exact ⟨[], rfl, by simp, fun held start lists => by simpa using lists⟩
  | cons first _ ih =>
    obtain ⟨written, derives, rfl⟩ := parse_eq_ok.mp first
    obtain ⟨nonempty, spelled⟩ := derives_iff.mp derives
    obtain ⟨items, spelled', -, lists⟩ := ih
    refine ⟨written ++ items, ?_, by simp [nonempty], fun held start listed => ?_⟩
    · rw [tokensOfAll_append, spelled, spelled', List.flatMap_cons]
    · rw [← List.append_assoc]
      exact lists _ _ (listed.merge (lists_gatherAll written))

theorem merged_singleton (lists : Lists items tree) : merged [tree] = tree :=
  (lists_empty.merge lists).unique lists

/-- The tree of joined selections is the merge of their trees. -/
theorem parse_intercalate (nonempty : selections ≠ [])
    (read : selections.mapM (parse entity) = .ok trees) :
    parse entity (" ".intercalate selections) = .ok (merged trees) ∧
      merged [merged trees] = merged trees := by
  obtain ⟨items, spelled, written, lists⟩ := exists_items_of_read (forall₂_of_mapM_ok read)
  have listed : Lists items (merged trees) := lists [] empty lists_empty
  have derives : Derives (" ".intercalate selections) items :=
    derives_iff.mpr ⟨written nonempty, by rw [spelled, tokens_intercalate]⟩
  refine ⟨?_, merged_singleton listed⟩
  rw [parse_of_derives derives, (lists_gatherAll items).unique listed]

/-- Joined by blanks, selections that can be read give the merge of their trees, level by level in
the same order; so they are one key, be they in one directive or in several. -/
theorem parse_joined (nonempty : selections ≠ [])
    (read : selections.mapM (parse entity) = .ok trees) :
    parse entity (" ".intercalate selections) = .ok (merged trees) ∧
      ∀ type : TypeDefinition, type.name = entity →
        (Cataloguing.keyTexts type = selections ∨
          Cataloguing.keyTexts type = [" ".intercalate selections]) →
        Schema.ownKey? type = some (merged trees) := by
  obtain ⟨joined, once⟩ := parse_intercalate nonempty read
  refine ⟨joined, ?_⟩
  rintro type rfl (several | one)
  · rw [← several] at read
    rw [ownKey?_of_readable read, if_neg (several ▸ nonempty)]
  · have read' : (Cataloguing.keyTexts type).mapM (parse type.name) = .ok [merged trees] := by
      rw [one, List.mapM_cons, joined]
      rfl
    rw [ownKey?_of_readable read', if_neg (by simp [one]), once]

def movieSelections : List String := ["id actor \x7b name \x7d", "title, actor \x7b id name \x7d"]

def movieTrees : List KeyTree :=
  [⟨[("id", none), ("actor", some ⟨[("name", none)]⟩)]⟩,
    ⟨[("title", none), ("actor", some ⟨[("id", none), ("name", none)]⟩)]⟩]

def keyedMovie (selections : List String) : TypeDefinition :=
  ⟨"Movie", .object [] [], selections.map fun text => ⟨"key", [("fields", .string text)]⟩⟩

theorem parse_joined_movieSelections :
    movieSelections ≠ [] ∧ movieSelections.mapM (parse "Movie") = .ok movieTrees ∧
      parse "Movie" (" ".intercalate movieSelections) =
        .ok ⟨[("id", none), ("actor", some ⟨[("name", none), ("id", none)]⟩), ("title", none)]⟩ ∧
      Schema.ownKey? (keyedMovie movieSelections) =
        Schema.ownKey? (keyedMovie [" ".intercalate movieSelections]) := by
  have first : Derives "id actor \x7b name \x7d" [.field "id", .group "actor" (.field "name") []] :=
    derives_iff.mpr ⟨by simp, by decide +kernel⟩
  have second : Derives "title, actor \x7b id name \x7d"
      [.field "title", .group "actor" (.field "id") [.field "name"]] :=
    derives_iff.mpr ⟨by simp, by decide +kernel⟩
  have nonempty : movieSelections ≠ [] := List.cons_ne_nil _ _
  have read : movieSelections.mapM (parse "Movie") = .ok movieTrees := by
    rw [movieSelections, List.mapM_cons, List.mapM_cons, parse_of_derives first,
      parse_of_derives second]
    rfl
  obtain ⟨joined, keyed⟩ := parse_joined nonempty read
  refine ⟨nonempty, read, joined, ?_⟩
  rw [keyed (keyedMovie movieSelections) rfl (.inl rfl), keyed (keyedMovie [_]) rfl (.inr rfl)]

end KeyTree
end GraphQLProjections
