import GraphQLProjections.Proofs.Generation.Faults
import GraphQLProjections.Proofs.Generation.Soundness

/-! Selected root fields that the schema lacks. They are looked for in the root types that there
are, so a root field of a kind of operation without a root type is passed over. -/
namespace GraphQLProjections

open Generation SelectedRoots

theorem RunFault.ne_unknownOperationField {schema : Schema} {fault : Error}
    (fails : RunFault schema fault) (type field : String) :
    fault ≠ .unknownOperationField type field := by
  rintro rfl
  cases fails with
  | unresolved _ _ _ _ unresolved => cases Schema.target_eq_error unresolved
  | malformedKey _ _ _ _ malformed =>
    obtain ⟨cause, same⟩ := KeyTree.parse_eq_error malformed
    cases same

namespace Generation

variable {settings : Settings} {schema : Schema} {traversal : Traversal}

/-- A selected root field of an included kind is no field of the root type of that kind, be it that
there is no such type. -/
structure Unknown (settings : Settings) (schema : Schema) (selected : SelectedRoots)
    (kind : OperationKind) (name : String) : Prop where
  included : includes settings kind = true
  selected : name ∈ selected.rootFields kind
  lacking : ∀ type, schema.rootType? kind = some type → ∀ field ∈ type.fields, field.name ≠ name

/-- Generation does not succeed if a selected root field is unknown, and if it blames a field, then
the field is unknown, and the type is the root type that lacks it. -/
structure ReportsUnknown (settings : Settings) (schema : Schema) (selected : SelectedRoots) :
    Prop where
  refuses : ∀ kind name, Unknown settings schema selected kind name →
    ∀ output, generate settings schema (some selected) ≠ .ok output
  blames : ∀ type field,
    generate settings schema (some selected) = .error (.unknownOperationField type field) →
      ∃ kind, Unknown settings schema selected kind field ∧
        ∃ root, schema.rootType? kind = some root ∧ root.name = type

theorem rootTypeOperations_tells (selected : SelectedRoots) (kind : OperationKind)
    (type : TypeDefinition) : Tells (rootTypeOperations traversal (some selected) kind type)
      (unknownRoot? selected kind type = none) := by
  refine Tells.first ?_
  unfold checkRoots
  rw [Option.bind_some]
  cases unknownRoot? selected kind type with
  | some name => exact fun _ => .throw trivial
  | none => exact .of_holds rfl

/-- A run that succeeds has found the selected root fields in all root types that are included. -/
theorem rootOperations_tells (selected : SelectedRoots)
    (types : List (OperationKind × TypeDefinition)) :
    Tells (rootOperations settings traversal (some selected) types)
      (∀ entry ∈ types, includes settings entry.1 = true →
        unknownRoot? selected entry.1 entry.2 = none) := by
  induction types with
  | nil => exact .of_holds (List.forall_mem_nil _)
  | cons first rest ih =>
    unfold rootOperations
    split
    next included =>
      refine ((rootTypeOperations_tells selected _ _).bind fun _ => ih.first).mono fun told => ?_
      exact List.forall_mem_cons.mpr ⟨fun _ => told.1, told.2⟩
    next excluded =>
      refine ih.mono fun told => List.forall_mem_cons.mpr ⟨fun included => ?_, told⟩
      exact absurd included excluded

theorem known_of_generate (only : settings.definedOnly = true) {selected : SelectedRoots}
    {output : Output} (ok : generate settings schema (some selected) = .ok output)
    {kind : OperationKind} {type : TypeDefinition} (root : schema.rootType? kind = some type)
    (included : includes settings kind = true) {name : String}
    (listed : name ∈ selected.rootFields kind) : ∃ field ∈ type.fields, field.name = name := by
  obtain ⟨kept, _, _, workspace, keeping, ran, -⟩ := generate_eq_ok.mp ok
  obtain rfl : kept = some selected := (scope_eq keeping).trans (if_pos only)
  have tells : Tells (run settings schema (some selected)) _ :=
    (rootOperations_tells selected schema.rootTypes).first
  have known := (tells _).of_ok ran (kind, type) (mem_rootTypes.mpr root) included
  exact unknownRoot?_eq_none.mp known name listed

/-- An unknown root field of a kind that has a root type is not passed over. -/
theorem generate_ne_ok (only : settings.definedOnly = true) {selected : SelectedRoots}
    {kind : OperationKind} {type : TypeDefinition} (root : schema.rootType? kind = some type)
    {name : String} (unknown : Unknown settings schema selected kind name) (output : Output) :
    generate settings schema (some selected) ≠ .ok output := by
  intro ok
  obtain ⟨field, declared, named⟩ :=
    known_of_generate only ok root unknown.included unknown.selected
  exact unknown.lacking type root field declared named

/-- A root field that is blamed is unknown, and the type that it is blamed on is a root type. -/
theorem unknown_of_generate_error (only : settings.definedOnly = true) {selected : SelectedRoots}
    {type field : String}
    (fails : generate settings schema (some selected) = .error (.unknownOperationField type field)) :
    ∃ kind, Unknown settings schema selected kind field ∧
      ∃ root, schema.rootType? kind = some root ∧ root.name = type := by
  rcases generate_error fails with fault | unknown | unscoped
  · exact absurd rfl (fault.ne_unknownOperationField type field)
  · have kept : keptRoots settings (some selected) = some selected := if_pos only
    rw [kept] at unknown
    cases unknown with
    | lacks roots kind root name same listed included unknown =>
      obtain rfl := Option.some.inj same
      obtain ⟨selected, lacking⟩ := of_unknownRoot? unknown
      have root' := mem_rootTypes.mp listed
      refine ⟨kind, ⟨included, selected, fun type found => ?_⟩, root, root', rfl⟩
      exact Option.some.inj (root'.symm.trans found) ▸ lacking
  · cases scope_eq_error unscoped

/-! ### Kinds without a root type -/

theorem rootTypeOperations_congr {selected selected' : SelectedRoots} {kind : OperationKind}
    (same : selected.roots kind = selected'.roots kind) (type : TypeDefinition) :
    rootTypeOperations traversal (some selected) kind type =
      rootTypeOperations traversal (some selected') kind type := by
  have unknown : unknownRoot? selected kind type = unknownRoot? selected' kind type := by
    unfold unknownRoot? SelectedRoots.rootFields
    rw [same]
  have filters (field : String) : selected.filter? kind field = selected'.filter? kind field :=
    congrArg (List.lookup field) same
  simp only [rootTypeOperations, checkRoots, Option.bind_some, unknown, filters]

theorem rootOperations_congr {selected selected' : SelectedRoots}
    {types : List (OperationKind × TypeDefinition)}
    (same : ∀ entry ∈ types, selected.roots entry.1 = selected'.roots entry.1) :
    rootOperations settings traversal (some selected) types =
      rootOperations settings traversal (some selected') types := by
  induction types with
  | nil => rfl
  | cons first rest ih =>
    obtain ⟨here, others⟩ := List.forall_mem_cons.mp same
    rw [rootOperations, rootOperations, rootTypeOperations_congr here, ih others]

/-- What is selected of a kind that has no root type makes no difference. -/
theorem generate_setRoots {kind : OperationKind} (rootless : schema.rootType? kind = none)
    (selected : SelectedRoots) (roots : Entries Filter) :
    generate settings schema (some (selected.setRoots kind roots)) =
      generate settings schema (some selected) := by
  have listed : ∀ entry ∈ schema.rootTypes,
      (selected.setRoots kind roots).roots entry.1 = selected.roots entry.1 := by
    intro entry listed
    rw [roots_setRoots, if_neg]
    rintro rfl
    cases rootless.symm.trans (mem_rootTypes.mp listed)
  have same : run settings schema (some (selected.setRoots kind roots)) =
      run settings schema (some selected) := by
    simp only [run, rootOperations_congr listed]
  unfold generate scope
  split
  · simp only [bind, Except.bind, same]
  · rfl

/-- Unknown root fields are reported exactly if generation never succeeds with root fields selected
of an included kind that has no root type. -/
theorem reportsUnknown_iff (only : settings.definedOnly = true) (selected : SelectedRoots) :
    ReportsUnknown settings schema selected ↔
      ∀ output, generate settings schema (some selected) = .ok output →
        ∀ kind, includes settings kind = true → schema.rootType? kind = none →
          selected.rootFields kind = [] := by
  constructor
  · intro reports output ok kind included rootless
    refine List.eq_nil_iff_forall_not_mem.mpr fun name listed => ?_
    refine reports.refuses kind name ⟨included, listed, fun type root => ?_⟩ output ok
    cases rootless.symm.trans root
  · intro rooted
    refine ⟨fun kind name unknown output ok => ?_, fun _ _ => unknown_of_generate_error only⟩
    cases root : schema.rootType? kind with
    | none =>
      have nothing := rooted output ok kind unknown.included root
      exact List.not_mem_nil (nothing ▸ unknown.selected)
    | some type => exact generate_ne_ok only root unknown output ok

def movieQuery : String := "query \x7b movie \x7b title \x7d \x7d"

theorem reportsUnknown_movieQuery : ∃ schema selected,
    Schema.ofDocuments [chainedDocument] queriedSettings = .ok schema ∧
      SelectedRoots.ofDocuments [movieQuery] = .ok selected ∧
      queriedSettings.definedOnly = true ∧
      Unknown queriedSettings schema selected .query "movie" ∧
      ReportsUnknown queriedSettings schema selected := by
  obtain ⟨schema, selected, read, queried, holds⟩ := exists_read queriedSettings chainedDocument
    movieQuery (fun schema selected => (schema.rootType? .query).any (fun (type : TypeDefinition) =>
        decide (∀ field ∈ type.fields, field.name ≠ "movie")) &&
      decide (selected.rootFields .query = ["movie"]) &&
      decide (selected.rootFields .mutation = []) &&
      decide (selected.rootFields .subscription = [])) (by decide +kernel)
  simp only [Bool.and_eq_true, decide_eq_true_eq] at holds
  obtain ⟨⟨⟨lacking, query⟩, mutation⟩, subscription⟩ := holds
  obtain ⟨type, root, lacking⟩ := (Option.any_eq_true _ _).mp lacking
  refine ⟨schema, selected, read, queried, rfl, ⟨rfl, by simp [query], fun other found => ?_⟩,
    (reportsUnknown_iff rfl selected).mpr fun output ok kind included rootless => ?_⟩
  · exact Option.some.inj (root.symm.trans found) ▸ of_decide_eq_true lacking
  · cases kind with
    | query => cases root.symm.trans rootless
    | mutation => exact mutation
    | subscription => exact subscription

def addShowQuery : String := "mutation \x7b addShow \x7b title \x7d \x7d"

/-- Nothing is reported. -/
theorem not_reportsUnknown_addShowQuery : ∃ schema selected output,
    Schema.ofDocuments [chainedDocument] queriedSettings = .ok schema ∧
      SelectedRoots.ofDocuments [addShowQuery] = .ok selected ∧
      queriedSettings.definedOnly = true ∧
      Unknown queriedSettings schema selected .mutation "addShow" ∧
      generate queriedSettings schema (some selected) = .ok output ∧
      ¬ReportsUnknown queriedSettings schema selected := by
  obtain ⟨schema, selected, read, queried, holds⟩ := exists_read queriedSettings chainedDocument
    addShowQuery (fun schema selected => (schema.rootType? .mutation).isNone &&
      decide ("addShow" ∈ selected.rootFields .mutation) &&
      (generate queriedSettings schema (some selected)).isOk) (by decide +kernel)
  simp only [Bool.and_eq_true, decide_eq_true_eq, Option.isNone_iff_eq_none] at holds
  obtain ⟨⟨rootless, listed⟩, ends⟩ := holds
  cases ok : generate queriedSettings schema (some selected) with
  | error fault => simp [ok, Except.isOk, Except.toBool] at ends
  | ok output =>
    have unknown : Unknown queriedSettings schema selected .mutation "addShow" :=
      ⟨rfl, listed, fun type root => by cases rootless.symm.trans root⟩
    exact ⟨schema, selected, output, read, queried, rfl, unknown, ok,
      fun reports => reports.refuses _ _ unknown output ok⟩

end Generation
end GraphQLProjections
