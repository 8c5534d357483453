/-! Ordered maps from names: lists of pairs in the order in which their names first came.
A later value for a name takes the place of the earlier one, so each name occurs once. -/
namespace GraphQLProjections

/-- Named values in order of first occurrence. Look-up is `List.lookup`. -/
abbrev Entries (α : Type _) := List (String × α)

namespace Entries

variable {α : Type _}

def names (entries : Entries α) : List String := entries.map Prod.fst

/-- Replace the value of `name` by `f` of it, or append `f none` under a new name. -/
def upsert (name : String) (f : Option α → α) : Entries α → Entries α
  | [] => [(name, f none)]
  | (other, value) :: rest =>
    if other = name then (other, f (some value)) :: rest
    else (other, value) :: upsert name f rest

def insert (name : String) (value : α) (entries : Entries α) : Entries α :=
  entries.upsert name fun _ => value

/-- The value of a later pair wins, the place of the earlier one stays. -/
def ofPairs (pairs : List (String × α)) : Entries α :=
  pairs.foldl (fun entries pair => entries.insert pair.1 pair.2) []

def insertSorted (name : String) (value : α) : Entries α → Entries α
  | [] => [(name, value)]
  | (other, held) :: rest =>
    if name < other then (name, value) :: (other, held) :: rest
    else if name = other then (name, value) :: rest
    else (other, held) :: insertSorted name value rest

/-- The pairs in ascending order of names, a later value winning. -/
def sorted (pairs : List (String × α)) : Entries α :=
  pairs.foldl (fun entries pair => insertSorted pair.1 pair.2 entries) []

def erase (name : String) (entries : Entries α) : Entries α :=
  entries.filter fun entry => entry.1 ≠ name

theorem lookup_cons (key : String) (value : α) (rest : Entries α) (name : String) :
    List.lookup name ((key, value) :: rest) =
      if name = key then some value else List.lookup name rest := by
  by_cases h : name = key
  · subst h; simp
  · simp [List.lookup_cons, beq_false_of_ne h, h]

theorem lookup_upsert (entries : Entries α) (name other : String) (f : Option α → α) :
    (entries.upsert name f).lookup other =
      if other = name then some (f (entries.lookup name)) else entries.lookup other := by
  induction entries with
  | nil => simp [upsert, lookup_cons]
  | cons entry rest ih =>
    obtain ⟨key, value⟩ := entry
    by_cases hk : key = name
    · subst hk
      by_cases h : other = key <;> simp [upsert, lookup_cons, h]
    · have hk' : ¬name = key := fun h => hk h.symm
      by_cases h : other = key
      · subst h; simp [upsert, hk]
      · simp [upsert, lookup_cons, hk, hk', h, ih]

theorem names_upsert (entries : Entries α) (name : String) (f : Option α → α) :
    (entries.upsert name f).names =
      if name ∈ entries.names then entries.names else entries.names ++ [name] := by
  induction entries with
  | nil => simp [upsert, names]
  | cons entry rest ih =>
    obtain ⟨key, value⟩ := entry
    by_cases hk : key = name
    · subst hk; simp [upsert, names]
    · have hk' : ¬name = key := fun h => hk h.symm
      have step : (upsert name f ((key, value) :: rest)).names =
          key :: (upsert name f rest).names := by simp [upsert, names, hk]
      rw [step, ih]
      by_cases hm : name ∈ names rest
      · simp_all [names]
      · simp_all [names]

theorem mem_insertSorted {entries : Entries α} {entry : String × α} {name : String} {value : α}
    (member : entry ∈ entries.insertSorted name value) :
    entry = (name, value) ∨ entry ∈ entries := by
  induction entries with
  | nil => exact .inl (List.mem_singleton.mp member)
  | cons held rest ih =>
    rw [insertSorted] at member
    split at member
    · exact List.mem_cons.mp member
    · split at member
      · rcases List.mem_cons.mp member with same | later
        · exact .inl same
        · exact .inr (List.mem_cons_of_mem _ later)
      · rcases List.mem_cons.mp member with same | later
        · exact .inr (same ▸ List.mem_cons_self)
        · exact (ih later).imp_right (List.mem_cons_of_mem _)

/-- Sorting makes no entries. -/
theorem mem_of_mem_sorted {pairs : List (String × α)} {entry : String × α}
    (member : entry ∈ sorted pairs) : entry ∈ pairs := by
  have general (later : List (String × α)) (entries : Entries α) (member : entry ∈
      later.foldl (fun entries pair => entries.insertSorted pair.1 pair.2) entries) :
      entry ∈ entries ∨ entry ∈ later := by
    induction later generalizing entries with
    | nil => exact .inl member
    | cons pair rest ih =>
      rcases ih _ member with held | later
      · rcases mem_insertSorted held with rfl | held
        · exact .inr List.mem_cons_self
        · exact .inl held
      · exact .inr (List.mem_cons_of_mem _ later)
  exact (general pairs [] member).resolve_left List.not_mem_nil

end Entries
end GraphQLProjections
