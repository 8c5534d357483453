import Mathlib.Data.Nat.Find
import Mathlib.Order.Bounds.Basic
import GraphQLProjections.Proofs.NameSupply.Calls

/-! The search for a free name. It tries one candidate after the other without a bound, and yet it
ends after at most as many steps as there are taken names: at the base and the suffix alone if no
path has that name, or else at the least number from two on that makes it free. -/
namespace GraphQLProjections.NameSupply

variable {isTaken : String → Bool} {base suffix name name' : String}
  {index steps steps' bound : Nat}

/-! ### Segments of a name -/

/-- The segments as a name shows them: capitalised, and all but the last one cut if names are
abbreviated. -/
def shownSegments (abbreviated : Bool) (path : List String) : List String :=
  path.mapIdx fun index segment =>
    if abbreviated && index + 1 < path.length then shortened (Text.capitalized segment)
    else Text.capitalized segment

theorem shownSegments_cons (abbreviated : Bool) (segment : String) {rest : List String}
    (more : rest ≠ []) :
    shownSegments abbreviated (segment :: rest) =
      (if abbreviated then shortened (Text.capitalized segment) else Text.capitalized segment) ::
        shownSegments abbreviated rest := by
  have := List.length_pos_iff.mpr more
  simp [shownSegments, List.mapIdx_cons, this]

theorem baseName_eq_join (abbreviated : Bool) (path : List String) :
    baseName abbreviated path = String.join (shownSegments abbreviated path) := by
  induction path with
  | nil => rfl
  | cons segment rest ih =>
    cases rest with
    | nil => simp [baseName, shownSegments]
    | cons next others =>
      rw [baseName, ih, shownSegments_cons abbreviated segment (List.cons_ne_nil _ _),
        String.join_cons]
      exact List.cons_ne_nil _ _

/-! ### The search without a bound -/

/-- From a candidate on the search goes past those that are taken, one in each step, and ends at
the first that is free. -/
inductive Search (isTaken : String → Bool) (base suffix : String) : Nat → Nat → String → Prop
  | found {index : Nat} (free : isTaken (candidate base suffix index) = false) :
      Search isTaken base suffix index 0 (candidate base suffix index)
  | past {index steps : Nat} {name : String}
      (taken : isTaken (candidate base suffix index) = true)
      (further : Search isTaken base suffix (index + 1) steps name) :
      Search isTaken base suffix index (steps + 1) name

theorem Search.unique (search : Search isTaken base suffix index steps name)
    (other : Search isTaken base suffix index steps' name') : steps' = steps ∧ name' = name := by
  induction search generalizing steps' with
  | found free =>
    cases other with
    | found => exact ⟨rfl, rfl⟩
    | past taken => exact absurd (free.symm.trans taken) Bool.false_ne_true
  | past taken _ ih =>
    cases other with
    | found free => exact absurd (free.symm.trans taken) Bool.false_ne_true
    | past _ further =>
      obtain ⟨rfl, rfl⟩ := ih further
      exact ⟨rfl, rfl⟩

theorem Search.firstFree (search : Search isTaken base suffix index steps name)
    (within : steps ≤ bound) : firstFree isTaken base suffix bound index = name := by
  induction search generalizing bound with
  | found free => cases bound <;> simp [NameSupply.firstFree, free]
  | past taken _ ih =>
    obtain ⟨bound, rfl⟩ := Nat.exists_eq_succ_of_ne_zero (Nat.ne_zero_of_lt within)
    rw [NameSupply.firstFree, if_pos taken]
    exact ih (Nat.le_of_succ_le_succ within)

theorem search_of_taken (free : isTaken (candidate base suffix (index + steps)) = false)
    (taken : ∀ k < steps, isTaken (candidate base suffix (index + k)) = true) :
    Search isTaken base suffix index steps (candidate base suffix (index + steps)) := by
  induction steps generalizing index with
  | zero => exact .found free
  | succ steps ih =>
    have shift (k : Nat) : index + (k + 1) = index + 1 + k := by omega
    rw [shift] at free ⊢
    refine .past (taken 0 (Nat.succ_pos steps)) (ih free fun k below => ?_)
    rw [← shift]
    exact taken (k + 1) (Nat.succ_lt_succ below)

/-! ### The least free candidate -/

def IsFirstFree (isTaken : String → Bool) (base suffix : String) (index : Nat) : Prop :=
  IsLeast {k | isTaken (candidate base suffix k) = false} index

theorem exists_isFirstFree (supply : NameSupply) (base suffix : String) :
    ∃ index ≤ supply.owners.size, IsFirstFree supply.isTaken base suffix index := by
  obtain ⟨index, within, free⟩ := exists_free supply base suffix
  have some : ∃ k, supply.isTaken (candidate base suffix k) = false := ⟨index, free⟩
  exact ⟨Nat.find some, Nat.le_trans (Nat.find_min' some free) within, Nat.find_spec some,
    fun _ free => Nat.find_min' some free⟩

theorem IsFirstFree.search (first : IsFirstFree isTaken base suffix index) :
    Search isTaken base suffix 0 index (candidate base suffix index) := by
  have taken (k : Nat) (below : k < index) : isTaken (candidate base suffix (0 + k)) = true := by
    by_contra free
    rw [Nat.zero_add, Bool.not_eq_true] at free
    exact absurd (first.2 free) (Nat.not_le_of_lt below)
  have free : isTaken (candidate base suffix (0 + index)) = false := by
    rw [Nat.zero_add]
    exact first.1
  simpa using search_of_taken free taken

theorem IsFirstFree.eq_zero (first : IsFirstFree isTaken base suffix index)
    (free : isTaken (base ++ suffix) = false) : index = 0 :=
  Nat.le_zero.mp (first.2 free)

/-- Where the name without a number is taken, the number of the first free candidate is the least
one from two on. -/
theorem IsFirstFree.number (first : IsFirstFree isTaken base suffix index)
    (taken : isTaken (base ++ suffix) = true) :
    ∃ number, IsLeast {k | 2 ≤ k ∧ isTaken (base ++ toString k ++ suffix) = false} number ∧
      candidate base suffix index = base ++ toString number ++ suffix := by
  cases index with
  | zero => exact absurd (taken.symm.trans first.1) Bool.false_ne_true.symm
  | succ index =>
    refine ⟨index + 2, ⟨⟨by omega, first.1⟩, ?_⟩, rfl⟩
    rintro k ⟨two, free⟩
    obtain ⟨k, rfl⟩ := Nat.exists_eq_add_of_le' two
    have here : isTaken (candidate base suffix (k + 1)) = false := free
    exact Nat.succ_le_succ (first.2 here)

/-! ### What calls leave -/

variable {supply : NameSupply} {path : List String}

theorem abbreviated_answer (supply : NameSupply) (call : Call) :
    (supply.answer call).2.abbreviated = supply.abbreviated := by
  cases call with
  | allocate path suffix =>
    unfold answer NameSupply.allocate
    dsimp only
    split <;> rfl
  | tryReserve name => rfl
  | isReserved name => rfl

theorem abbreviated_after (supply : NameSupply) (calls : List Call) :
    (supply.after calls).abbreviated = supply.abbreviated := by
  induction calls generalizing supply with
  | nil => rfl
  | cons call calls ih => exact (ih _).trans (abbreviated_answer supply call)

theorem isTaken_assign (supply : NameSupply) (key name other : String) :
    (supply.assign key name).isTaken other = (name == other || supply.isTaken other) := by
  unfold isTaken
  rw [← Std.ExtTreeMap.isSome_getElem?_eq_contains, ← Std.ExtTreeMap.isSome_getElem?_eq_contains,
    owners_assign]
  by_cases same : name = other <;> simp [same]

theorem isTaken_answer (consistent : supply.Consistent) (call : Call) (name : String) :
    (supply.answer call).2.isTaken name = true ↔ supply.isTaken name = true ∨
      ∃ path suffix, call = .allocate path suffix ∧ (supply.answer call).1 = .name name := by
  cases call with
  | allocate path suffix =>
    simp only [answer, NameSupply.allocate, Call.allocate.injEq, Answer.name.injEq]
    split
    next held known =>
      have owner := (consistent.inverse _ _).mp known
      have taken : supply.isTaken held = true := by
        rw [isTaken, ← Std.ExtTreeMap.isSome_getElem?_eq_contains, owner]
        rfl
      constructor
      · exact .inl
      · rintro (taken' | ⟨_, _, _, rfl⟩)
        · exact taken'
        · exact taken
    next =>
      rw [isTaken_assign]
      simp only [Bool.or_eq_true, beq_iff_eq]
      grind
  | tryReserve name => simp [answer, tryReserve, reserve, isTaken]
  | isReserved name => simp [answer]

/-- The names that are taken after some calls are those that were given in answer. -/
theorem isTaken_after (abbreviated : Bool) (calls : List Call) (name : String) :
    ((empty abbreviated).after calls).isTaken name = true ↔
      ∃ path suffix, (Call.allocate path suffix, Answer.name name) ∈
        (empty abbreviated).transcript calls := by
  have general (supply : NameSupply) (consistent : supply.Consistent) :
      (supply.after calls).isTaken name = true ↔ supply.isTaken name = true ∨
        ∃ path suffix, (Call.allocate path suffix, Answer.name name) ∈ supply.transcript calls := by
    induction calls generalizing supply with
    | nil => simp [after, transcript]
    | cons call calls ih =>
      rw [after, ih _ (consistent.answer call), isTaken_answer consistent, or_assoc]
      simp only [transcript, List.mem_cons, Prod.mk.injEq, exists_or]
      grind
  rw [general _ (consistent_empty abbreviated)]
  simp [empty, isTaken]

/-- A call gives a name to a path of its key, and to no other. -/
theorem nameOf?_answer_eq_none (supply : NameSupply) (call : Call) (path : List String)
    (suffix : String) :
    (supply.answer call).2.nameOf? path suffix = none ↔ supply.nameOf? path suffix = none ∧
      ∀ other suffix', call = .allocate other suffix' →
        pathKey other suffix' ≠ pathKey path suffix := by
  cases call with
  | allocate other suffix' =>
    simp only [answer, NameSupply.allocate, nameOf?]
    split
    · grind
    · grind [assigned_assign]
  | tryReserve name => simp [answer, tryReserve, reserve, nameOf?]
  | isReserved name => simp [answer]

/-- After some calls a path has a name if one of them asked for a path of its key. -/
theorem nameOf?_after_eq_none (abbreviated : Bool) (calls : List Call) (path : List String)
    (suffix : String) :
    ((empty abbreviated).after calls).nameOf? path suffix = none ↔
      ∀ other suffix', .allocate other suffix' ∈ calls →
        pathKey other suffix' ≠ pathKey path suffix := by
  have general (supply : NameSupply) :
      (supply.after calls).nameOf? path suffix = none ↔ supply.nameOf? path suffix = none ∧
        ∀ other suffix', .allocate other suffix' ∈ calls →
          pathKey other suffix' ≠ pathKey path suffix := by
    induction calls generalizing supply with
    | nil => simp [after]
    | cons call calls ih =>
      rw [after, ih, nameOf?_answer_eq_none]
      grind
  rw [general]
  simp [empty, nameOf?]

/-- Among plain paths one has no name until it is asked for itself. -/
theorem nameOf?_after_of_plain (abbreviated : Bool) {calls : List Call} (plain : IsPlainPath path)
    (others : ∀ other suffix', .allocate other suffix' ∈ calls → IsPlainPath other)
    (fresh : .allocate path suffix ∉ calls) :
    ((empty abbreviated).after calls).nameOf? path suffix = none := by
  rw [nameOf?_after_eq_none]
  rintro other suffix' asked same
  obtain ⟨rfl, rfl⟩ := pathKey_injective (others other suffix' asked) plain same
  exact fresh asked

/-! ### The name that is granted -/

/-- A path without a name is given the first free candidate. -/
theorem allocate_of_isFirstFree (unnamed : supply.nameOf? path suffix = none)
    (within : index ≤ supply.owners.size)
    (first : IsFirstFree supply.isTaken (baseName supply.abbreviated path) suffix index) :
    (supply.allocate path suffix).1 =
      candidate (baseName supply.abbreviated path) suffix index := by
  unfold nameOf? at unnamed
  rw [NameSupply.allocate, unnamed]
  exact first.search.firstFree within

/-- Whatever a supply was asked before, its search for the name of a path that has none ends after
at most as many steps as there are taken names, which are those that were given before. It grants
the segments of the path and the suffix if that is free, or else puts the least number from two on
between them that makes it free, and the path keeps the name whatever is asked later. -/
theorem allocate_least (abbreviated : Bool) (calls : List Call) (path : List String)
    (suffix : String)
    (unnamed : ((empty abbreviated).after calls).nameOf? path suffix = none) :
    let supply := (empty abbreviated).after calls
    let base := String.join (shownSegments abbreviated path)
    let granted := (supply.allocate path suffix).1
    (∀ name, supply.isTaken name = true ↔ ∃ other suffix',
      (Call.allocate other suffix', Answer.name name) ∈ (empty abbreviated).transcript calls) ∧
      (∃ steps ≤ supply.owners.size, ∀ steps' name,
        Search supply.isTaken base suffix 0 steps' name ↔ steps' = steps ∧ name = granted) ∧
      (supply.isTaken (base ++ suffix) = false → granted = base ++ suffix) ∧
      (supply.isTaken (base ++ suffix) = true → ∃ number,
        IsLeast {k | 2 ≤ k ∧ supply.isTaken (base ++ toString k ++ suffix) = false} number ∧
          granted = base ++ toString number ++ suffix) ∧
      ∀ later : List Call,
        (((supply.allocate path suffix).2.after later).allocate path suffix).1 = granted := by
  intro supply base granted
  have shown : baseName supply.abbreviated path = base := by
    rw [abbreviated_after, baseName_eq_join]
    rfl
  obtain ⟨index, within, first⟩ := exists_isFirstFree supply base suffix
  have name : granted = candidate base suffix index := by
    rw [← shown] at first ⊢
    exact allocate_of_isFirstFree unnamed within first
  refine ⟨isTaken_after abbreviated calls,
    ⟨index, within, fun steps' name' => ⟨?_, ?_⟩⟩, ?_, ?_, ?_⟩
  · rw [name]
    exact first.search.unique
  · rintro ⟨rfl, rfl⟩
    exact name ▸ first.search
  · intro free
    rw [name, first.eq_zero free]
    rfl
  · intro taken
    rw [name]
    exact first.number taken
  · intro later
    have kept := (keeps_after _ later).nameOf? (nameOf?_allocate supply path suffix)
    rw [allocate_of_assigned _ _ _ _ kept]

def reviewCalls : List Call :=
  [.allocate ["shows", "reviews", "author"] projectionSuffix,
    .tryReserve "ShoRevAuthorProjection",
    .allocate ["shows", "reviews", "author2"] projectionSuffix,
    .allocate ["shows"] rootSuffix]

theorem allocate_least_reviewCalls :
    let supply := (empty true).after reviewCalls
    let path := ["shows", "revenue", "author"]
    supply.nameOf? path projectionSuffix = none ∧
      String.join (shownSegments true path) = "ShoRevAuthor" ∧
      (supply.allocate path projectionSuffix).1 = "ShoRevAuthor3Projection" ∧
      ∀ later : List Call,
        (((supply.allocate path projectionSuffix).2.after later).allocate path
          projectionSuffix).1 = "ShoRevAuthor3Projection" := by
  intro supply path
  have unnamed : supply.nameOf? path projectionSuffix = none := by
    refine nameOf?_after_of_plain true (by decide) ?_ (by decide)
    intro other suffix' asked
    simp only [reviewCalls, List.mem_cons, Call.allocate.injEq, reduceCtorEq, List.not_mem_nil,
      false_or, or_false] at asked
    obtain ⟨rfl, -⟩ | ⟨rfl, -⟩ | ⟨rfl, -⟩ := asked <;> decide
  have base : String.join (shownSegments true path) = "ShoRevAuthor" := by decide +kernel
  obtain ⟨-, -, -, numbered, kept⟩ := allocate_least true reviewCalls path projectionSuffix unnamed
  rw [base] at numbered
  obtain ⟨number, least, granted⟩ := numbered (by decide +kernel)
  have three : IsLeast {k | 2 ≤ k ∧
      supply.isTaken ("ShoRevAuthor" ++ toString k ++ projectionSuffix) = false} 3 := by
    refine ⟨⟨by decide, by decide +kernel⟩, ?_⟩
    rintro k ⟨two, free⟩
    have taken : supply.isTaken ("ShoRevAuthor" ++ toString 2 ++ projectionSuffix) = true := by
      decide +kernel
    have other : k ≠ 2 := by
      rintro rfl
      exact absurd (free.symm.trans taken) Bool.false_ne_true
    omega
  obtain rfl := least.unique three
  have name : (supply.allocate path projectionSuffix).1 = "ShoRevAuthor3Projection" := granted
  exact ⟨unnamed, base, name, fun later => (kept later).trans name⟩

end GraphQLProjections.NameSupply
