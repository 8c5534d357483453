import Mathlib.Order.MinMax
import GraphQLProjections.Proofs.Filter

/-! The height of a filter, which is the length of its longest word. Each step into a filter leaves
one that is lower, and neither merging nor narrowing makes a filter higher. -/
namespace GraphQLProjections
namespace Filter

variable {filter other : Filter}

theorem lt_entriesHeight {entries : Entries Filter} {bound : Nat} :
    bound < entriesHeight entries ↔ ∃ entry ∈ entries, bound ≤ entry.2.height := by
  induction entries with
  | nil => simp [entriesHeight]
  | cons entry rest ih =>
    rw [entriesHeight, lt_max_iff, ih, Nat.lt_succ_iff]
    simp only [List.mem_cons, exists_eq_or_imp]

theorem height_lt_of_step {child : Filter} {step : SelectionStep}
    (found : filter.step? step = some child) : child.height < filter.height := by
  obtain ⟨fields, fragments⟩ := filter
  rw [height, lt_max_iff]
  cases step with
  | field name => exact .inl (lt_entriesHeight.mpr ⟨_, Entries.mem_of_lookup found, Nat.le_refl _⟩)
  | fragment type =>
    exact .inr (lt_entriesHeight.mpr ⟨_, Entries.mem_of_lookup found, Nat.le_refl _⟩)

theorem Has.length_le {word : List SelectionStep} (has : filter.Has word) :
    word.length ≤ filter.height := by
  induction word generalizing filter with
  | nil => exact Nat.zero_le _
  | cons step rest ih =>
    obtain ⟨child, found, below⟩ := has
    exact Nat.lt_of_le_of_lt (ih below) (height_lt_of_step found)

theorem Distinct.exists_step (distinct : filter.Distinct) {bound : Nat}
    (lower : bound < filter.height) :
    ∃ step child, filter.step? step = some child ∧ bound ≤ child.height := by
  cases distinct with
  | level fieldNames fragmentNames =>
    rw [height, lt_max_iff] at lower
    rcases lower with lower | lower
    · obtain ⟨⟨name, child⟩, member, deep⟩ := lt_entriesHeight.mp lower
      exact ⟨.field name, child, Entries.lookup_of_mem fieldNames member, deep⟩
    · obtain ⟨⟨type, child⟩, member, deep⟩ := lt_entriesHeight.mp lower
      exact ⟨.fragment type, child, Entries.lookup_of_mem fragmentNames member, deep⟩

theorem Distinct.exists_word (distinct : filter.Distinct) {length : Nat}
    (bound : length ≤ filter.height) : ∃ word, filter.Has word ∧ word.length = length := by
  induction length generalizing filter with
  | zero => exact ⟨[], trivial, rfl⟩
  | succ length ih =>
    obtain ⟨step, child, found, deep⟩ := distinct.exists_step bound
    obtain ⟨word, has, same⟩ := ih (distinct.step step found) deep
    exact ⟨step :: word, ⟨child, found, has⟩, congrArg Nat.succ same⟩

theorem Distinct.height_le (distinct : filter.Distinct)
    (has : ∀ word, filter.Has word → other.Has word) : filter.height ≤ other.height := by
  obtain ⟨word, along, same⟩ := distinct.exists_word (Nat.le_refl _)
  exact same ▸ (has word along).length_le

/-! ### Merging and narrowing -/

theorem entriesHeight_le {entries others : Entries Filter}
    (within : ∀ entry ∈ entries, entry ∈ others) : entriesHeight entries ≤ entriesHeight others := by
  refine le_of_forall_lt fun bound lower => ?_
  obtain ⟨entry, member, deep⟩ := lt_entriesHeight.mp lower
  exact lt_entriesHeight.mpr ⟨entry, within entry member, deep⟩

theorem entriesHeight_upsert_le {f : Option Filter → Filter} {bound : Nat}
    (each : ∀ old, (f old).height ≤ max (old.getD empty).height bound) (name : String)
    (entries : Entries Filter) :
    entriesHeight (entries.upsert name f) ≤ max (entriesHeight entries) (bound + 1) := by
  induction entries with
  | nil =>
    have new := each none
    simp only [Option.getD_none, empty, height, entriesHeight] at new
    simp only [Entries.upsert, entriesHeight]
    omega
  | cons entry rest ih =>
    obtain ⟨other, value⟩ := entry
    have changed := each (some value)
    rw [Option.getD_some] at changed
    unfold Entries.upsert
    split <;> simp only [entriesHeight] <;> omega

mutual
theorem height_merge_le (filter : Filter) :
    ∀ other : Filter, (filter.merge other).height ≤ max filter.height other.height
  | mk fields fragments => by
    obtain ⟨ownFields, ownFragments⟩ := filter
    have inFields := entriesHeight_mergeEntries_le ownFields fields
    have inFragments := entriesHeight_mergeEntries_le ownFragments fragments
    simp only [merge, height]
    exact max_le (inFields.trans (max_le_max (le_max_left _ _) (le_max_left _ _)))
      (inFragments.trans (max_le_max (le_max_right _ _) (le_max_right _ _)))

theorem entriesHeight_mergeEntries_le (held : Entries Filter) :
    ∀ entries : List (String × Filter),
      entriesHeight (mergeEntries held entries) ≤ max (entriesHeight held) (entriesHeight entries)
  | [] => le_max_left _ _
  | (name, child) :: rest => by
    have inserted := entriesHeight_upsert_le
      (fun old => height_merge_le (old.getD empty) child) name held
    have others := entriesHeight_mergeEntries_le
      (held.upsert name fun old => (old.getD empty).merge child) rest
    simp only [mergeEntries, entriesHeight]
    omega
end

/-- What is folded in is lower by the step to the type. -/
theorem height_narrowed_le (filter : Filter) (type : String) :
    (filter.narrowed type).height ≤ filter.height := by
  unfold narrowed
  split
  next => exact Nat.le_refl _
  next own found =>
    have lower : own.height < filter.height :=
      height_lt_of_step (show filter.step? (.fragment type) = some own from found)
    have kept : (mk filter.fields (filter.fragments.erase type)).height ≤ filter.height := by
      obtain ⟨fields, fragments⟩ := filter
      exact max_le_max (Nat.le_refl _) (entriesHeight_le fun _ inside => (List.mem_filter.mp inside).1)
    exact (height_merge_le _ own).trans (max_le kept lower.le)

end Filter
end GraphQLProjections
