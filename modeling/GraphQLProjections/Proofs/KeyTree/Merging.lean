import Mathlib.Data.List.Induction
import Mathlib.Data.List.Nodup
import GraphQLProjections.KeyTree
import GraphQLProjections.Proofs.Filter

/-! Key trees level by level. A tree is known from the names of its levels; merging two trees lists
the names of both at every level, those of the first before the new ones of the second. -/
namespace GraphQLProjections

/-! ### First occurrences -/

section FirstOccurrences

variable {α : Type} [DecidableEq α]

theorem eraseDups_concat (items : List α) (item : α) : (items ++ [item]).eraseDups =
    if item ∈ items then items.eraseDups else items.eraseDups ++ [item] := by
  rw [List.eraseDups_append]
  by_cases known : item ∈ items <;> simp [List.removeAll, List.eraseDups_cons, known]

theorem nodup_eraseDups (items : List α) : items.eraseDups.Nodup := by
  induction items using List.reverseRecOn with
  | nil => simp
  | append_singleton items item ih =>
    rw [eraseDups_concat]
    split
    · exact ih
    next new => exact List.nodup_append.mpr ⟨ih, by simp, by grind [List.mem_eraseDups]⟩

theorem eraseDups_of_nodup {items : List α} (distinct : items.Nodup) : items.eraseDups = items := by
  induction items using List.reverseRecOn with
  | nil => simp
  | append_singleton items item ih =>
    obtain ⟨distinct, -, apart⟩ := List.nodup_append.mp distinct
    have new : item ∉ items := fun known => apart item known item (by simp) rfl
    rw [eraseDups_concat, if_neg new, ih distinct]

theorem eraseDups_eraseDups_append (items others : List α) :
    (items.eraseDups ++ others).eraseDups = (items ++ others).eraseDups := by
  induction others using List.reverseRecOn with
  | nil => simpa using eraseDups_of_nodup (nodup_eraseDups items)
  | append_singleton others other ih =>
    rw [← List.append_assoc, ← List.append_assoc, eraseDups_concat, eraseDups_concat, ih]
    simp

theorem eraseDups_append_eraseDups (items others : List α) :
    (items ++ others.eraseDups).eraseDups = (items ++ others).eraseDups := by
  induction others using List.reverseRecOn with
  | nil => simp
  | append_singleton others other ih =>
    rw [eraseDups_concat, ← List.append_assoc, eraseDups_concat]
    split
    next known => rw [ih, if_pos (List.mem_append_right _ known)]
    next new =>
      rw [← List.append_assoc, eraseDups_concat, ih]
      simp

end FirstOccurrences

namespace Entries

variable {α : Type}

theorem lookup_eq_none {entries : Entries α} {name : String} (free : name ∉ entries.names) :
    entries.lookup name = none :=
  Option.not_isSome_iff_eq_none.mp (mt isSome_lookup.mp free)

/-- Entries are known from their names and what each name leads to. -/
theorem eq_of_lookup {entries others : Entries α} (distinct : entries.names.Nodup)
    (named : entries.names = others.names)
    (same : ∀ name ∈ entries.names, entries.lookup name = others.lookup name) :
    entries = others := by
  induction entries generalizing others with
  | nil => exact (List.map_eq_nil_iff.mp named.symm).symm
  | cons entry rest ih =>
    obtain ⟨name, value⟩ := entry
    obtain ⟨⟨name', value'⟩, rest', rfl, heads, tails⟩ := List.map_eq_cons_iff.mp named.symm
    obtain rfl : name' = name := heads
    obtain ⟨free, distinct⟩ := List.nodup_cons.mp distinct
    have first : value = value' := by simpa using same name' List.mem_cons_self
    have others : rest = rest' := by
      refine ih distinct tails.symm fun name member => ?_
      have differs : name ≠ name' := fun same => free (same ▸ member)
      simpa [lookup_cons, differs] using same name (List.mem_cons_of_mem _ member)
    rw [first, others]

theorem upsert_upsert (entries : Entries α) (name : String) (f g : Option α → α) :
    Entries.upsert name f (entries.upsert name g) =
      entries.upsert name fun held => f (some (g held)) := by
  induction entries with
  | nil => simp [upsert]
  | cons entry rest ih =>
    obtain ⟨key, value⟩ := entry
    by_cases same : key = name <;> simp [upsert, same, ih]

theorem names_upsert_eq {entries : Entries α} (distinct : entries.names.Nodup) (name : String)
    (f : Option α → α) : (entries.upsert name f).names = (entries.names ++ [name]).eraseDups := by
  rw [names_upsert, eraseDups_concat, eraseDups_of_nodup distinct]

end Entries

namespace KeyTree

/-- The tree under a path of composite fields. -/
def level? : KeyTree → List String → Option KeyTree
  | tree, [] => some tree
  | tree, name :: path => (tree.nested? name).bind (level? · path)

def Distinct (tree : KeyTree) : Prop :=
  ∀ path level, tree.level? path = some level → level.fieldNames.Nodup

variable {tree other group : KeyTree} {name : String}

theorem level?_cons (found : tree.nested? name = some group) (path : List String) :
    tree.level? (name :: path) = group.level? path := by
  rw [level?, found, Option.bind_some]

theorem Distinct.nested (distinct : tree.Distinct) (found : tree.nested? name = some group) :
    group.Distinct :=
  fun path level reached => distinct (name :: path) level ((level?_cons found path).trans reached)

/-! ### Merging -/

theorem names_mergeFields {held : Entries (Option KeyTree)} (distinct : held.names.Nodup)
    (additions : List (String × Option KeyTree)) :
    Entries.names (mergeFields held additions) =
      (held.names ++ Entries.names additions).eraseDups := by
  induction additions generalizing held with
  | nil => simpa [mergeFields, Entries.names] using (eraseDups_of_nodup distinct).symm
  | cons addition rest ih =>
    obtain ⟨name, group⟩ := addition
    have step (f : Option (Option KeyTree) → Option KeyTree) :
        ((held.upsert name f).names ++ Entries.names rest).eraseDups =
          (held.names ++ Entries.names ((name, group) :: rest)).eraseDups := by
      rw [Entries.names_upsert_eq distinct, eraseDups_eraseDups_append, List.append_assoc]
      rfl
    cases group with
    | none => rw [mergeFields, ih (Entries.nodup_upsert distinct _ _), step]
    | some group => rw [mergeFields, ih (Entries.nodup_upsert distinct _ _), step]

theorem fieldNames_merge (distinct : tree.fieldNames.Nodup) (other : KeyTree) :
    (tree.merge other).fieldNames = (tree.fieldNames ++ other.fieldNames).eraseDups := by
  cases other with
  | mk additions =>
    rw [merge]
    exact names_mergeFields distinct additions

theorem join_lookup_mergeFields {additions : Entries (Option KeyTree)}
    (distinct : additions.names.Nodup) (held : Entries (Option KeyTree)) (name : String) :
    (List.lookup name (mergeFields held additions)).join =
      Option.merge merge (held.lookup name).join (additions.lookup name).join := by
  induction additions generalizing held with
  | nil => simp [mergeFields]
  | cons addition rest ih =>
    obtain ⟨key, group⟩ := addition
    obtain ⟨free, others⟩ := List.nodup_cons.mp distinct
    have absent := Entries.lookup_eq_none free
    cases group with
    | none =>
      rw [mergeFields, ih others, Entries.lookup_upsert, Entries.lookup_cons]
      by_cases same : name = key <;> simp [same, absent]
    | some group =>
      rw [mergeFields, ih others, Entries.lookup_upsert, Entries.lookup_cons]
      by_cases same : name = key
      · subst same
        cases (held.lookup name).join <;> simp [absent]
      · simp [same]

theorem nested?_merge (distinct : other.fieldNames.Nodup) (tree : KeyTree) (name : String) :
    (tree.merge other).nested? name =
      Option.merge merge (tree.nested? name) (other.nested? name) := by
  cases other with
  | mk additions =>
    rw [merge]
    exact join_lookup_mergeFields distinct tree.fields name

/-- Merging two trees merges each two levels at one path. -/
theorem level?_merge (distinct : other.Distinct) (tree : KeyTree) (path : List String) :
    (tree.merge other).level? path =
      Option.merge merge (tree.level? path) (other.level? path) := by
  induction path generalizing tree other with
  | nil => rfl
  | cons name path ih =>
    rw [level?, nested?_merge (distinct [] other rfl), level?, level?]
    cases nested : other.nested? name with
    | none => simp
    | some group =>
      cases tree.nested? name with
      | none => simp
      | some held => simpa using ih (distinct.nested nested) held

/-- A tree is known from the names of its levels. -/
theorem eq_of_levels : ∀ {tree other : KeyTree}, tree.Distinct →
    (∀ path, (tree.level? path).map fieldNames = (other.level? path).map fieldNames) →
    tree = other
  | ⟨fields⟩, ⟨others⟩, distinct, same => by
    have named : Entries.names fields = Entries.names others := Option.some.inj (same [])
    congr 1
    refine Entries.eq_of_lookup (distinct [] _ rfl) named fun name member => ?_
    obtain ⟨held, found⟩ := Option.isSome_iff_exists.mp (Entries.isSome_lookup.mpr member)
    obtain ⟨held', found'⟩ :=
      Option.isSome_iff_exists.mp (Entries.isSome_lookup.mpr (named ▸ member))
    have nested : nested? ⟨fields⟩ name = held := by simp [nested?, KeyTree.fields, found]
    have nested' : nested? ⟨others⟩ name = held' := by simp [nested?, KeyTree.fields, found']
    rw [found, found']
    cases held with
    | none =>
      cases held' with
      | none => rfl
      | some group' => simpa [level?, nested, nested'] using same [name]
    | some group =>
      cases held' with
      | none => simpa [level?, nested, nested'] using same [name]
      | some group' =>
        have below (path : List String) :
            (group.level? path).map fieldNames = (group'.level? path).map fieldNames := by
          rw [← level?_cons nested, ← level?_cons nested', same]
        rw [eq_of_levels (distinct.nested nested) below]
termination_by tree => tree
decreasing_by
  have := List.sizeOf_lt_of_mem (Entries.mem_of_lookup found)
  simp at this ⊢
  omega

end KeyTree
end GraphQLProjections
