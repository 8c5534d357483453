import GraphQLProjections.KeyTree

/-! The tokens of a key selection are its braces and its maximal runs of characters that separate
nothing. So texts with a blank between them have the tokens of one after those of the other. -/
namespace GraphQLProjections.KeyTree

/-- A text is spelled by tokens: braces stand for themselves, other separators for nothing, and a
run of other characters for a name if it cannot be longer. -/
inductive Spells : List Char → List Token → Prop
  | nil : Spells [] []
  | separator {c : Char} {rest : List Char} {tokens : List Token}
      (separates : Text.isBlank c = true ∨ c = ',') (below : Spells rest tokens) :
      Spells (c :: rest) tokens
  | opening {rest : List Char} {tokens : List Token} (below : Spells rest tokens) :
      Spells ('\x7b' :: rest) (.opening :: tokens)
  | closing {rest : List Char} {tokens : List Token} (below : Spells rest tokens) :
      Spells ('\x7d' :: rest) (.closing :: tokens)
  | name {run rest : List Char} {tokens : List Token} (some : run ≠ [])
      (inside : ∀ c ∈ run, isSeparator c = false)
      (ends : ∀ c ∈ rest.head?, isSeparator c = true) (below : Spells rest tokens) :
      Spells (run ++ rest) (.name (String.ofList run) :: tokens)

/-- A run is gathered from the front. -/
theorem tokensFrom_run {run : List Char} (inside : ∀ c ∈ run, isSeparator c = false)
    (gathered rest : List Char) :
    tokensFrom gathered (run ++ rest) = tokensFrom (run.reverse ++ gathered) rest := by
  induction run generalizing gathered with
  | nil => rfl
  | cons c run ih =>
    obtain ⟨plain, inside⟩ := List.forall_mem_cons.mp inside
    rw [List.cons_append, tokensFrom, if_neg (by simp [plain]), ih inside]
    simp

/-- Where a run ends, what is gathered of it is a name. -/
theorem tokensFrom_ended {rest : List Char} (ends : ∀ c ∈ rest.head?, isSeparator c = true)
    (gathered : List Char) :
    tokensFrom gathered rest = pendingName gathered ++ tokensFrom [] rest := by
  cases rest with
  | nil => simp [tokensFrom, pendingName]
  | cons c rest =>
    have separates : isSeparator c = true := ends c rfl
    simp [tokensFrom, separates, pendingName]

theorem tokensFrom_of_spells {cs : List Char} {tokens : List Token} (spells : Spells cs tokens) :
    tokensFrom [] cs = tokens := by
  induction spells with
  | nil => rfl
  | @separator c rest tokens separates below ih =>
    have plain : c ≠ '\x7b' ∧ c ≠ '\x7d' := by
      constructor <;> rintro rfl <;> exact absurd separates (by decide)
    have separates' : isSeparator c = true := by
      rcases separates with blank | rfl <;> simp [isSeparator, *]
    simp [tokensFrom, separates', pendingName, plain, ih]
  | opening below ih => simp [tokensFrom, isSeparator, pendingName, ih]
  | closing below ih => simp [tokensFrom, isSeparator, pendingName, ih]
  | @name run rest tokens some inside ends below ih =>
    rw [tokensFrom_run inside, tokensFrom_ended ends, ih]
    simp [pendingName, some]

theorem spells_tokensFrom (gathered : List Char) (inside : ∀ c ∈ gathered, isSeparator c = false)
    (cs : List Char) : Spells (gathered.reverse ++ cs) (tokensFrom gathered cs) := by
  -- What is gathered becomes a name as soon as a separator, or the end, follows it.
  have ended {gathered rest : List Char} {tokens : List Token}
      (inside : ∀ c ∈ gathered, isSeparator c = false)
      (ends : ∀ c ∈ rest.head?, isSeparator c = true) (below : Spells rest tokens) :
      Spells (gathered.reverse ++ rest) (pendingName gathered ++ tokens) := by
    cases gathered with
    | nil => simpa [pendingName] using below
    | cons c gathered =>
      exact .name (by simp) (fun c member => inside c (List.mem_reverse.mp member)) ends below
  induction cs generalizing gathered with
  | nil => simpa [tokensFrom] using ended inside (by simp) .nil
  | cons c rest ih =>
    cases separates : isSeparator c with
    | false =>
      have grown : ∀ other ∈ c :: gathered, isSeparator other = false :=
        List.forall_mem_cons.mpr ⟨separates, inside⟩
      simpa [tokensFrom, separates] using ih _ grown
    | true =>
      have rest' : Spells rest (tokensFrom [] rest) := ih [] (by simp)
      rw [tokensFrom, if_pos separates, List.append_assoc]
      refine ended inside (by simp [separates]) ?_
      split
      next same => exact same ▸ .opening rest'
      next apart =>
        split
        next same => exact same ▸ .closing rest'
        next apart' =>
          refine .separator ?_ rest'
          simpa [isSeparator, apart, apart'] using separates

/-- Each text is spelled by its tokens and by no others. -/
theorem spells_iff {selection : String} {tokens : List Token} :
    Spells selection.toList tokens ↔ KeyTree.tokens selection = tokens :=
  ⟨tokensFrom_of_spells, fun same => same ▸ spells_tokensFrom [] (by simp) selection.toList⟩

/-- A blank ends the run before it. -/
theorem Spells.joined {cs ds : List Char} {tokens others : List Token} (blank : Char)
    (separates : Text.isBlank blank = true) (spells : Spells cs tokens)
    (spells' : Spells ds others) : Spells (cs ++ blank :: ds) (tokens ++ others) := by
  induction spells with
  | nil => exact .separator (.inl separates) spells'
  | separator separates' _ ih => exact .separator separates' ih
  | opening _ ih => exact .opening ih
  | closing _ ih => exact .closing ih
  | @name run rest _ some inside ends _ ih =>
    rw [List.append_assoc]
    refine .name some inside ?_ ih
    cases rest with
    | nil => simp [isSeparator, separates]
    | cons c rest => simpa using ends

theorem tokens_intercalate (selections : List String) :
    tokens (" ".intercalate selections) = selections.flatMap tokens := by
  induction selections with
  | nil => rfl
  | cons selection rest ih =>
    by_cases last : rest = []
    · simp [last]
    · rw [String.intercalate_cons_of_ne_nil last, List.flatMap_cons, ← ih]
      apply spells_iff.mp
      rw [String.toList_append, String.toList_append, List.append_assoc]
      exact .joined ' ' (by decide) (spells_iff.mpr rfl) (spells_iff.mpr rfl)

end GraphQLProjections.KeyTree
