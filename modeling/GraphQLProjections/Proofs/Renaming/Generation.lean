import Mathlib.Data.Set.Function
import GraphQLProjections.Proofs.Renaming.Representation
import GraphQLProjections.Proofs.Renaming.Traversal

/-! Abbreviated names. Two runs that differ in whether names are abbreviated give outputs that differ
in names alone: the names of the one and of the other are in one-to-one correspondence, and nothing
else changes. -/
namespace GraphQLProjections

open Building Renamable

namespace Matched

variable {supply supply' : NameSupply}

theorem nodeName {node node' : Option ProjectionNode} (matched : Matched supply supply' node node') :
    Matched supply supply' (node.map (·.name)) (node'.map (·.name)) := by
  obtain ⟨paired, rfl⟩ := matched
  cases node with
  | none => exact .none
  | some node =>
    refine ⟨List.forall_mem_singleton.mpr (paired node.name ?_), rfl⟩
    exact List.mem_append_left _ (List.mem_append_left _ List.mem_cons_self)

theorem descriptor {name name' : String} {root root' : Option String}
    (named : Matched supply supply' name name') (rooted : Matched supply supply' root root')
    (kind : OperationKind) (field : String) (arguments : List ArgumentDefinition) :
    Matched supply supply' (⟨name, kind, field, arguments, root⟩ : OperationDescriptor)
      ⟨name', kind, field, arguments, root'⟩ := by
  refine ⟨List.forall_mem_append.mpr ⟨named.paired, rooted.paired⟩, ?_⟩
  rw [named.renamed, rooted.renamed]
  rfl

theorem output {operations operations' : List OperationDescriptor}
    {projections projections' : List ProjectionNode}
    {representations representations' : List Representation}
    (first : Matched supply supply' operations operations')
    (second : Matched supply supply' projections projections')
    (third : Matched supply supply' representations representations')
    (constants : List ConstantTable) :
    Matched supply supply' (⟨operations, projections, representations, constants⟩ : Output)
      ⟨operations', projections', representations', constants⟩ := by
  refine ⟨List.forall_mem_append.mpr ⟨List.forall_mem_append.mpr ⟨first.paired, second.paired⟩,
    third.paired⟩, ?_⟩
  rw [first.renamed, second.renamed, third.renamed]
  rfl

theorem filled {α : Type} [Renamable α] {slots slots' : List (Option α)}
    (matched : Matched supply supply' slots slots') :
    Matched supply supply' (slots.filterMap id) (slots'.filterMap id) := by
  obtain ⟨paired, rfl⟩ := matched
  refine ⟨fun name inside => ?_, ?_⟩
  · obtain ⟨value, member, inside⟩ := List.mem_flatMap.mp inside
    obtain ⟨slot, held, rfl⟩ := List.mem_filterMap.mp member
    exact paired name (List.mem_flatMap.mpr ⟨_, held, inside⟩)
  · change (slots.map _).filterMap id = (slots.filterMap id).map _
    rw [List.filterMap_map, List.map_filterMap]
    rfl

end Matched

namespace Generation

variable {workspace other : Workspace}

theorem isTaken_inStep (alike : workspace.Alike other) (path : List String) :
    InStep (isTaken path) (isTaken path) workspace other fun taken taken' _ _ =>
      taken = taken' := by
  refine (allocate_inStep alike path NameSupply.rootSuffix).bind ?_
  intro root root' middle middle' advance pairs
  refine (allocate_inStep advance.alike path NameSupply.querySuffix).bind ?_
  intro query query' later later' further pairs'
  refine (InStep.get further.alike).bind ?_
  rintro _ _ later later' - ⟨rfl, rfl, rfl, rfl⟩
  apply InStep.pure further.alike
  rw [further.alike.names.isReserved_eq (pairs.grown further.keeps further.keeps'),
    further.alike.names.isReserved_eq pairs']

theorem rootPath_inStep (alike : workspace.Alike other) (kind : OperationKind) (field : String) :
    InStep (rootPath kind field) (rootPath kind field) workspace other fun path path' _ _ =>
      path = path' := by
  unfold rootPath
  split
  · exact .pure alike rfl
  · refine (isTaken_inStep alike [field]).bind ?_
    rintro taken _ later later' advance rfl
    split
    · exact .pure advance.alike rfl
    · exact .pure advance.alike rfl

theorem entitiesPath_inStep (alike : workspace.Alike other) :
    InStep entitiesPath entitiesPath workspace other fun path path' _ _ => path = path' := by
  refine (isTaken_inStep alike [Traversal.entitiesSegment]).bind ?_
  rintro taken _ later later' advance rfl
  split
  · exact .pure advance.alike rfl
  · exact .pure advance.alike rfl

theorem nameOfNode_inStep (alike : workspace.Alike other) (id : Option NodeId) :
    InStep (nameOfNode id) (nameOfNode id) workspace other Tied := by
  refine (InStep.get alike).bind ?_
  rintro _ _ workspace other - ⟨rfl, rfl, rfl, rfl⟩
  apply InStep.pure alike
  cases id with
  | none => exact .none
  | some id => exact (alike.node? id).nodeName

theorem reserveNew_inStep (alike : workspace.Alike other) (path : List String) (suffix : String) :
    InStep (reserveNew path suffix) (reserveNew path suffix) workspace other Tied := by
  refine (claim_inStep alike path suffix).bind ?_
  rintro ⟨name, isNew⟩ ⟨name', isNew'⟩ later later' advance ⟨pairs, rfl⟩
  cases isNew with
  | false => exact .throw trivial
  | true => exact .pure advance.alike (.of_pairs pairs advance.alike.names.there.consistent)

theorem rootOperation_inStep (traversal : Traversal) (kind : OperationKind)
    (filter : Option Filter) (field : FieldDefinition) (alike : workspace.Alike other) :
    InStep (rootOperation traversal kind filter field) (rootOperation traversal kind filter field)
      workspace other Tied := by
  refine (rootPath_inStep alike kind field.name).bind ?_
  rintro path _ first first' advance rfl
  refine (Traversal.rootAt_inStep advance.alike path field filter).bind ?_
  rintro root _ second second' advance' rfl
  refine (nameOfNode_inStep advance'.alike root).bind ?_
  intro name name' third third' advance'' rooted
  refine (reserveNew_inStep advance''.alike path NameSupply.querySuffix).bind ?_
  intro query query' last last' further named
  exact .pure further.alike
    (.descriptor named (rooted.advance advance''.alike further) kind field.name _)

theorem rootTypeOperations_inStep (traversal : Traversal) (selected : Option SelectedRoots)
    (kind : OperationKind) (type : TypeDefinition) (alike : workspace.Alike other) :
    InStep (rootTypeOperations traversal selected kind type)
      (rootTypeOperations traversal selected kind type) workspace other Tied := by
  have checked : InStep (checkRoots selected kind type) (checkRoots selected kind type) workspace
      other fun _ _ _ _ => True := by
    unfold checkRoots
    split
    · exact .throw rfl
    · exact .pure alike trivial
  refine checked.bind fun _ _ later later' advance _ => ?_
  refine gather_inStep (fun field _ last last' further => ?_) advance.alike
  cases selected with
  | none =>
    exact (rootOperation_inStep traversal kind none field further.alike).bind
      fun _ _ _ _ done tied => .pure done.alike tied.some
  | some selected =>
    dsimp only
    cases selected.filter? kind field.name with
    | none => exact .pure further.alike .none
    | some filter =>
      exact (rootOperation_inStep traversal kind (some filter) field further.alike).bind
        fun _ _ _ _ done tied => .pure done.alike tied.some

theorem rootOperations_inStep (settings : Settings) (traversal : Traversal)
    (selected : Option SelectedRoots) (types : List (OperationKind × TypeDefinition))
    (alike : workspace.Alike other) :
    InStep (rootOperations settings traversal selected types)
      (rootOperations settings traversal selected types) workspace other Tied := by
  induction types generalizing workspace other with
  | nil => exact .pure alike .nil
  | cons entry rest ih =>
    obtain ⟨kind, type⟩ := entry
    unfold rootOperations
    split
    · refine (rootTypeOperations_inStep traversal selected kind type alike).bind ?_
      intro first first' later later' advance tied
      exact (ih advance.alike).bind fun _ _ _ _ further tied' =>
        .pure further.alike ((tied.advance advance.alike further).append tied')
    · exact ih alike

/-- What the representations of entities do to a workspace. -/
theorem run_entityRepresentations (schema : Schema) (entities : List TypeDefinition)
    (workspace : Workspace) :
    (entityRepresentations schema entities).run.run workspace =
      match (Cataloguing.representAll schema entities).run.run ⟨workspace.names, #[]⟩ with
      | (.ok _, catalogue) =>
        (.ok catalogue.representations.toList, { workspace with names := catalogue.names })
      | (.error fault, catalogue) => (.error fault, { workspace with names := catalogue.names }) := by
  rcases ran : (Cataloguing.representAll schema entities).run.run ⟨workspace.names, #[]⟩
    with ⟨result, catalogue⟩
  have outcome : (Cataloguing.representAll schema entities).outcome ⟨workspace.names, #[]⟩ =
      (result, catalogue) := ran
  have split : (entityRepresentations schema entities).run.run workspace =
      ((do
        set { workspace with names := catalogue.names }
        Building.ofExcept result
        return catalogue.representations.toList : Building _)).run.run workspace := by
    unfold entityRepresentations
    rw [run_bind]
    have reads : (get : Building Workspace).run.run workspace = (.ok workspace, workspace) := rfl
    simp only [reads, outcome]
  cases result <;> exact split

theorem entityRepresentations_inStep (schema : Schema) (entities : List TypeDefinition)
    (alike : workspace.Alike other) :
    InStep (entityRepresentations schema entities) (entityRepresentations schema entities) workspace
      other Tied := by
  have start : Catalogue.Alike ⟨workspace.names, #[]⟩ ⟨other.names, #[]⟩ := ⟨alike.names, .nil⟩
  have all := Cataloguing.representAll_inStep schema entities start
  unfold InStep at all ⊢
  rw [run_entityRepresentations, run_entityRepresentations]
  generalize (Cataloguing.representAll schema entities).run.run ⟨workspace.names, #[]⟩ = ran,
    (Cataloguing.representAll schema entities).run.run ⟨other.names, #[]⟩ = ran' at all
  cases all with
  | ok advance _ =>
    exact .ok ⟨alike.named advance.alike.names advance.keeps advance.keeps', advance.keeps,
      advance.keeps'⟩ advance.alike.representations
  | error fault => exact .error fault

def TiedResults (results results' : List OperationDescriptor × List Representation)
    (workspace other : Workspace) : Prop :=
  Tied results.1 results'.1 workspace other ∧ Tied results.2 results'.2 workspace other

theorem entityOperations_inStep (settings : Settings) (traversal : Traversal)
    (alike : workspace.Alike other) :
    InStep (entityOperations settings traversal) (entityOperations settings traversal) workspace
      other TiedResults := by
  unfold entityOperations
  dsimp only
  split
  · exact .pure alike ⟨.nil, .nil⟩
  · refine (entitiesPath_inStep alike).bind ?_
    rintro path _ first first' advance rfl
    refine (Traversal.entitiesAt_inStep advance.alike path _).bind ?_
    rintro root _ second second' advance' rfl
    refine (nameOfNode_inStep advance'.alike root).bind ?_
    intro name name' third third' advance'' rooted
    refine (entityRepresentations_inStep traversal.schema _ advance''.alike).bind ?_
    intro representations representations' fourth fourth' represented tied
    refine (reserveNew_inStep represented.alike path NameSupply.querySuffix).bind ?_
    intro query query' last last' further named
    have rooted := rooted.advance advance''.alike (represented.trans further)
    exact .pure further.alike ⟨(Matched.descriptor named rooted _ _ _).singleton,
      tied.advance represented.alike further⟩

theorem run_inStep (settings : Settings) (schema : Schema) (selected : Option SelectedRoots)
    (alike : workspace.Alike other) :
    InStep (run settings schema selected) (run settings schema selected) workspace other
      TiedResults := by
  refine (rootOperations_inStep settings _ selected schema.rootTypes alike).bind ?_
  intro operations operations' later later' advance tied
  refine (entityOperations_inStep settings _ advance.alike).bind ?_
  rintro ⟨more, representations⟩ ⟨more', representations'⟩ last last' further ⟨tied', tied''⟩
  exact .pure further.alike ⟨(tied.advance advance.alike further).append tied', tied''⟩

end Generation

/-! ### Class names -/

namespace Output

theorem classNames_renamed (rename : String → String) (output : Output) :
    (renamed rename output).classNames = output.classNames.map rename := by
  simp only [classNames, projectionNames, representationNames, renamed, List.map_append,
    List.map_map]
  rfl

theorem mem_names_of_mem_classNames {output : Output} {name : String}
    (member : name ∈ output.classNames) : name ∈ names output := by
  rcases List.mem_append.mp member with member | member
  · rcases List.mem_append.mp member with member | member
    · obtain ⟨node, listed, rfl⟩ := List.mem_map.mp member
      apply List.mem_append_left _ (List.mem_append_right _ (List.mem_flatMap.mpr ⟨node, listed, ?_⟩))
      exact List.mem_append_left _ (List.mem_append_left _ List.mem_cons_self)
    · obtain ⟨representation, listed, rfl⟩ := List.mem_map.mp member
      apply List.mem_append_right _ (List.mem_flatMap.mpr ⟨representation, listed, ?_⟩)
      exact List.mem_append_left _ List.mem_cons_self
  · obtain ⟨operation, listed, rfl⟩ := List.mem_map.mp member
    apply List.mem_append_left _ (List.mem_append_left _ (List.mem_flatMap.mpr ⟨operation, listed, ?_⟩))
    exact List.mem_append_left _ List.mem_cons_self

/-- A name that is repeated stays so under a renaming that keeps names apart. -/
theorem repeatedName?_map {rename : String → String} {listed : List String}
    (apart : ∀ name ∈ listed, ∀ other ∈ listed, rename name = rename other → name = other)
    {seen seen' : Std.ExtTreeSet String}
    (agree : ∀ name ∈ listed, seen'.contains (rename name) = seen.contains name) :
    repeatedName? seen' (listed.map rename) = (repeatedName? seen listed).map rename := by
  induction listed generalizing seen seen' with
  | nil => rfl
  | cons name rest ih =>
    unfold repeatedName?
    rw [List.map_cons]
    dsimp only
    rw [agree name List.mem_cons_self]
    split
    · rfl
    · apply ih
      · intro first inside second inside'
        exact apart first (List.mem_cons_of_mem _ inside) second (List.mem_cons_of_mem _ inside')
      · intro other inside
        have inside := List.mem_cons_of_mem name inside
        have same : (compare (rename name) (rename other) == .eq) = (compare name other == .eq) := by
          rw [Bool.eq_iff_iff, beq_iff_eq, beq_iff_eq, Std.LawfulEqCmp.compare_eq_iff_eq,
            Std.LawfulEqCmp.compare_eq_iff_eq]
          exact ⟨apart name List.mem_cons_self other inside, congrArg rename⟩
        rw [Std.ExtTreeSet.contains_insert, Std.ExtTreeSet.contains_insert, same,
          agree other inside]

end Output

/-! ### Whole runs -/

namespace Generation

/-- Two runs of generation differ in names alone. -/
inductive Alike : Except Error Output → Except Error Output → Prop
  /-- Both fail for the same reason. -/
  | fault {fault other : Error} (alike : fault.Alike other) : Alike (.error fault) (.error other)
  /-- The second output is the first under a renaming, which is one-to-one between the names of the
  two. -/
  | output {output other : Output} (rename : String → String)
      (same : other = renamed rename output)
      (bijective : Set.BijOn rename {name | name ∈ names output} {name | name ∈ names other}) :
      Alike (.ok output) (.ok other)

/-- What matches in twin supplies differs by a renaming that is one-to-one. -/
theorem bijOn_translation {α : Type} [Renamable α] {supply other : NameSupply}
    (twins : supply.Twins other) {value value' : α} (matched : Matched supply other value value') :
    Set.BijOn (supply.translation other) {name | name ∈ names value}
      {name | name ∈ names value'} := by
  rw [matched.renamed, names_renamed]
  refine ⟨fun name inside => List.mem_map_of_mem inside, ?_, fun name inside => ?_⟩
  · intro name inside partner inside' same
    obtain ⟨name', pairs⟩ := matched.paired name inside
    obtain ⟨partner', pairs'⟩ := matched.paired partner inside'
    rw [pairs.translation twins.there.consistent, pairs'.translation twins.there.consistent] at same
    exact pairs.symm.unique twins.back.consistent (same ▸ pairs'.symm)
  · obtain ⟨source, held, rfl⟩ := List.mem_map.mp inside
    exact ⟨source, held, rfl⟩

theorem rootOperations_shortNames (settings : Settings) (short : Bool) (traversal : Traversal)
    (selected : Option SelectedRoots) (types : List (OperationKind × TypeDefinition)) :
    rootOperations { settings with shortNames := short } traversal selected types =
      rootOperations settings traversal selected types := by
  induction types with
  | nil => rfl
  | cons entry rest ih =>
    obtain ⟨kind, type⟩ := entry
    unfold rootOperations
    rw [ih]
    rfl

/-- The settings of names matter to the supply alone. -/
theorem run_shortNames (settings : Settings) (short : Bool) (schema : Schema)
    (selected : Option SelectedRoots) :
    run { settings with shortNames := short } schema selected = run settings schema selected := by
  unfold run
  dsimp only
  rw [rootOperations_shortNames]
  rfl

/-- Outputs that match are refused together, and differ in names alone when they are not. -/
theorem checked_alike {supply other : NameSupply} (twins : supply.Twins other)
    {output output' : Output} (matched : Matched supply other output output') :
    Alike
      (match Output.repeatedName? ∅ output.classNames with
        | some name => throw (.nameCollision name)
        | none => return output)
      (match Output.repeatedName? ∅ output'.classNames with
        | some name => throw (.nameCollision name)
        | none => return output') := by
  have bijective := bijOn_translation twins matched
  have same : Output.repeatedName? ∅ output'.classNames =
      (Output.repeatedName? ∅ output.classNames).map (supply.translation other) := by
    rw [matched.renamed, Output.classNames_renamed]
    apply Output.repeatedName?_map
    · intro name inside partner inside' same
      exact bijective.injOn (Output.mem_names_of_mem_classNames inside)
        (Output.mem_names_of_mem_classNames inside') same
    · intro name _
      simp
  rw [same]
  cases Output.repeatedName? ∅ output.classNames with
  | some name => exact .fault trivial
  | none => exact .output (supply.translation other) matched.renamed bijective

theorem generate_alike (settings : Settings) (short : Bool) (schema : Schema)
    (selected : Option SelectedRoots) :
    Alike (generate settings schema selected)
      (generate { settings with shortNames := short } schema selected) := by
  have scopes : scope { settings with shortNames := short } selected = scope settings selected := rfl
  unfold generate
  rw [scopes]
  cases scope settings selected with
  | error fault => exact .fault (.refl fault)
  | ok kept =>
    have ran := run_inStep settings schema kept (.empty settings.shortNames short)
    unfold InStep at ran
    simp only [run_shortNames, outcome, bind, Except.bind]
    generalize (run settings schema kept).run.run (.empty settings.shortNames) = first,
      (run settings schema kept).run.run (.empty short) = second at ran ⊢
    cases ran with
    | error alike => exact .fault alike
    | ok advance holds =>
      have projections := advance.alike.slots.filled
      exact checked_alike advance.alike.names
        (.output holds.1 projections holds.2 (ConstantTable.ofSchema schema))

/-- Abbreviating names changes names and nothing else: either both runs fail for the same reason, or
the outputs are the same up to a one-to-one renaming. -/
theorem generateFromDocuments_alike (settings : Settings) (short : Bool)
    (schemas queries : List String) :
    Alike (generateFromDocuments settings schemas queries)
      (generateFromDocuments { settings with shortNames := short } schemas queries) := by
  have same : Schema.ofDocuments schemas { settings with shortNames := short } =
    Schema.ofDocuments schemas settings := rfl
  unfold generateFromDocuments
  rw [same]
  cases Schema.ofDocuments schemas settings with
  | error fault => exact .fault (.refl fault)
  | ok schema =>
    dsimp only [bind, Except.bind]
    split
    · exact generate_alike settings short schema none
    · cases SelectedRoots.ofDocuments queries with
      | error fault => exact .fault (.refl fault)
      | ok selected => exact generate_alike settings short schema (some selected)

end Generation
end GraphQLProjections
