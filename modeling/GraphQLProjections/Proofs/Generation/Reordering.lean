import GraphQLProjections.Proofs.Generation.Soundness
import GraphQLProjections.Proofs.Projection.Likeness

/-! Operation documents are a set: neither their order nor how often one is given makes a difference
to what is generated. Their filters are alike, so every root field is generated by the same steps.
Only which of several unknown fields is reported depends on the order. -/
namespace GraphQLProjections

open Generation Building

/-- Wherever a step succeeds, another one does the same. -/
abbrev SucceedsAs {α : Type} (step other : Building α) : Prop :=
  AgreesUnless (fun _ => True) step other

/-! ### The same documents -/

namespace SelectedRoots

variable {selected other : SelectedRoots} {documents documents' : List (List ExecutableDefinition)}

/-- For each kind of operation the same root fields are selected, by filters that are alike. -/
def Alike (selected other : SelectedRoots) : Prop :=
  ∀ kind, (Filter.mk (selected.roots kind) []).Alike (.mk (other.roots kind) [])

theorem Alike.symm (alike : selected.Alike other) : other.Alike selected :=
  fun kind => (alike kind).symm

theorem Alike.filter? (alike : selected.Alike other) (kind : OperationKind) (field : String) :
    Option.Rel Filter.Alike (selected.filter? kind field) (other.filter? kind field) :=
  (alike kind).step? (.field field)

theorem Alike.mem_rootFields (alike : selected.Alike other) {kind : OperationKind}
    {field : String} : field ∈ selected.rootFields kind ↔ field ∈ other.rootFields kind := by
  rw [SelectedRoots.mem_rootFields, SelectedRoots.mem_rootFields,
    isSome_eq_of_rel (alike.filter? kind field)]

/-- The same documents select alike, in whatever order they are merged. -/
theorem selectedBy_alike (same : ∀ document, document ∈ documents ↔ document ∈ documents') :
    (selectedBy documents).Alike (selectedBy documents') := by
  obtain ⟨distinct, selects⟩ := selects_selectedBy documents
  obtain ⟨distinct', selects'⟩ := selects_selectedBy documents'
  refine fun kind => ⟨distinct kind, distinct' kind, fun word => ?_⟩
  rcases word with _ | ⟨field | type, word⟩
  · exact Iff.rfl
  · rw [← selects_iff_has, ← selects_iff_has, selects, selects']
    simp only [same]
  · simp [Filter.Has, Filter.step?, Filter.fragment?, Filter.fragments]

theorem exists_documents {texts texts' : List String} (same : ∀ text, text ∈ texts ↔ text ∈ texts')
    (read : texts.mapM readDocument = .ok documents) :
    ∃ documents', texts'.mapM readDocument = .ok documents' ∧
      ∀ document, document ∈ documents ↔ document ∈ documents' := by
  have each := forall₂_of_mapM_ok read
  cases read' : texts'.mapM readDocument with
  | error fault =>
    obtain ⟨text, member, fails⟩ := exists_of_mapM_error read'
    obtain ⟨document, -, reads⟩ := exists_right_of_forall₂ each ((same text).mpr member)
    cases fails.symm.trans reads
  | ok documents' =>
    have each' := forall₂_of_mapM_ok read'
    refine ⟨documents', rfl, fun document => ⟨fun member => ?_, fun member => ?_⟩⟩
    · obtain ⟨text, listed, reads⟩ := exists_left_of_forall₂ each member
      obtain ⟨document', member', reads'⟩ := exists_right_of_forall₂ each' ((same text).mp listed)
      exact Except.ok.inj (reads'.symm.trans reads) ▸ member'
    · obtain ⟨text, listed, reads⟩ := exists_left_of_forall₂ each' member
      obtain ⟨document', member', reads'⟩ := exists_right_of_forall₂ each ((same text).mpr listed)
      exact Except.ok.inj (reads'.symm.trans reads) ▸ member'

/-- The selected roots of a list of documents, if there are any documents. -/
theorem exists_ofDocuments {texts texts' : List String}
    (same : ∀ text, text ∈ texts ↔ text ∈ texts') (read : ofDocuments texts = .ok selected) :
    ∃ other, ofDocuments texts' = .ok other ∧ selected.Alike other := by
  unfold ofDocuments at read ⊢
  cases parsed : texts.mapM readDocument with
  | error fault => simp [parsed, Bind.bind, Except.bind] at read
  | ok documents =>
    rw [parsed] at read
    obtain rfl := Except.ok.inj read
    obtain ⟨documents', parsed', same'⟩ := exists_documents same parsed
    rw [parsed']
    exact ⟨selectedBy documents', rfl, selectedBy_alike same'⟩

end SelectedRoots

/-! ### The same steps -/

namespace Generation

variable {settings : Settings} {schema : Schema} {traversal : Traversal}
  {selected other : Option SelectedRoots}

theorem rootOperation_congr {filter filter' : Option Filter}
    (alike : Option.Rel Filter.Alike filter filter') (kind : OperationKind)
    (field : FieldDefinition) :
    rootOperation traversal kind filter field = rootOperation traversal kind filter' field := by
  simp only [rootOperation, Traversal.rootAt_congr alike]

theorem checkRoots_succeedsAs (alike : Option.Rel SelectedRoots.Alike selected other)
    (kind : OperationKind) (type : TypeDefinition) :
    SucceedsAs (checkRoots selected kind type) (checkRoots other kind type) := by
  cases alike with
  | none => exact .refl _
  | @some selected other alike =>
    unfold checkRoots
    cases known : unknownRoot? selected kind type with
    | some name =>
      intro workspace succeeds
      simp only [Option.bind_some, known] at succeeds
      exact absurd trivial (succeeds _ rfl)
    | none =>
      have known' : unknownRoot? other kind type = none := by
        rw [unknownRoot?_eq_none] at known ⊢
        exact fun name member => known name (alike.mem_rootFields.mpr member)
      simp only [Option.bind_some, known, known']
      exact .refl _

theorem rootTypeOperations_succeedsAs (alike : Option.Rel SelectedRoots.Alike selected other)
    (kind : OperationKind) (type : TypeDefinition) :
    SucceedsAs (rootTypeOperations traversal selected kind type)
      (rootTypeOperations traversal other kind type) := by
  refine (checkRoots_succeedsAs alike kind type).bind fun _ => ?_
  cases alike with
  | none => exact .refl _
  | @some selected other alike =>
    refine .gather (fun field => ?_) type.fields
    have filters := alike.filter? kind field.name
    dsimp only
    generalize selected.filter? kind field.name = filter,
      other.filter? kind field.name = filter' at filters
    cases filters with
    | none => exact .refl _
    | some alike =>
      dsimp only
      rw [rootOperation_congr (.some alike)]
      exact .refl _

theorem rootOperations_succeedsAs (alike : Option.Rel SelectedRoots.Alike selected other)
    (types : List (OperationKind × TypeDefinition)) :
    SucceedsAs (rootOperations settings traversal selected types)
      (rootOperations settings traversal other types) := by
  induction types with
  | nil => exact .refl _
  | cons first rest ih =>
    unfold rootOperations
    split
    · refine (rootTypeOperations_succeedsAs alike _ _).bind fun _ => ?_
      exact ih.bind fun _ => .refl _
    · exact ih

theorem run_succeedsAs (alike : Option.Rel SelectedRoots.Alike selected other) :
    SucceedsAs (run settings schema selected) (run settings schema other) :=
  (rootOperations_succeedsAs alike _).bind fun _ => .refl _

theorem scope_alike (alike : Option.Rel SelectedRoots.Alike selected other)
    {kept : Option SelectedRoots} (keeping : scope settings selected = .ok kept) :
    ∃ kept', scope settings other = .ok kept' ∧ Option.Rel SelectedRoots.Alike kept kept' := by
  unfold scope at keeping ⊢
  split at keeping
  next only =>
    cases alike with
    | none => cases keeping
    | some alike =>
      obtain rfl := Except.ok.inj keeping
      exact ⟨_, if_pos only, .some alike⟩
  next only =>
    obtain rfl := Except.ok.inj keeping
    exact ⟨none, if_neg only, .none⟩

/-- Whatever is generated for some selected roots is generated for others that are alike. -/
theorem generate_of_alike (alike : Option.Rel SelectedRoots.Alike selected other) {output : Output}
    (ok : generate settings schema selected = .ok output) :
    generate settings schema other = .ok output := by
  obtain ⟨kept, operations, representations, workspace, keeping, ran, made, free⟩ :=
    generate_eq_ok.mp ok
  obtain ⟨kept', keeping', alike'⟩ := scope_alike alike keeping
  have same : (run settings schema kept').outcome (.empty settings.shortNames) = _ :=
    run_succeedsAs alike' _ (by simp [ran])
  exact generate_eq_ok.mpr ⟨kept', operations, representations, workspace, keeping',
    same.trans ran, made, free⟩

/-- Whatever is generated with some operation documents is generated with the same ones again. -/
theorem generateFromDocuments_of_same {schemas queries queries' : List String}
    (same : ∀ text, text ∈ queries ↔ text ∈ queries') {output : Output}
    (ok : generateFromDocuments settings schemas queries = .ok output) :
    generateFromDocuments settings schemas queries' = .ok output := by
  have empty : queries.isEmpty = queries'.isEmpty := by
    rw [Bool.eq_iff_iff, List.isEmpty_iff, List.isEmpty_iff]
    simp only [List.eq_nil_iff_forall_not_mem, same]
  unfold generateFromDocuments at ok ⊢
  rw [← empty]
  cases read : Schema.ofDocuments schemas settings with
  | error fault => simp [read, Bind.bind, Except.bind] at ok
  | ok schema =>
    rw [read] at ok
    cases none : queries.isEmpty with
    | true => simpa only [none, if_true] using ok
    | false =>
      cases queried : SelectedRoots.ofDocuments queries with
      | error fault => simp [none, queried, Bind.bind, Except.bind] at ok
      | ok selected =>
        obtain ⟨other, queried', alike⟩ := SelectedRoots.exists_ofDocuments same queried
        simp only [none, queried] at ok
        simp only [queried']
        exact generate_of_alike (.some alike) ok

/-- Generation succeeds with the one list of operation documents if and only if it succeeds with the
other, and gives the same, if both lists have the same documents. -/
theorem generateFromDocuments_reordered {schemas queries queries' : List String}
    (same : ∀ text, text ∈ queries ↔ text ∈ queries') (output : Output) :
    generateFromDocuments settings schemas queries = .ok output ↔
      generateFromDocuments settings schemas queries' = .ok output :=
  ⟨generateFromDocuments_of_same same, generateFromDocuments_of_same fun text => (same text).symm⟩

def titleQuery : String := "query \x7b show \x7b title \x7d \x7d"

def nextQuery : String := "query \x7b show \x7b next \x7b title \x7d \x7d \x7d"

theorem reordered_titleQuery :
    (∀ text, text ∈ [titleQuery, nextQuery] ↔ text ∈ [nextQuery, titleQuery, nextQuery]) ∧
      ∃ output, (∃ node ∈ output.projections, node.methodNames = ["title", "next"]) ∧
        generateFromDocuments queriedSettings [chainedDocument] [titleQuery, nextQuery] =
          .ok output ∧
        generateFromDocuments queriedSettings [chainedDocument]
          [nextQuery, titleQuery, nextQuery] = .ok output := by
  have same : ∀ text, text ∈ [titleQuery, nextQuery] ↔
      text ∈ [nextQuery, titleQuery, nextQuery] := by
    intro text
    simp only [List.mem_cons, List.not_mem_nil, or_false]
    tauto
  have merged : (generateFromDocuments queriedSettings [chainedDocument]
      [titleQuery, nextQuery]).toOption.any (fun output =>
        decide (∃ node ∈ output.projections, node.methodNames = ["title", "next"])) = true := by
    decide +kernel
  obtain ⟨output, given, merged⟩ := (Option.any_eq_true _ _).mp merged
  cases ok : generateFromDocuments queriedSettings [chainedDocument] [titleQuery, nextQuery] with
  | error fault =>
    rw [ok] at given
    cases given
  | ok made =>
    rw [ok] at given
    obtain rfl := Option.some.inj given
    exact ⟨same, made, of_decide_eq_true merged, rfl,
      (generateFromDocuments_reordered same made).mp ok⟩

end Generation
end GraphQLProjections
