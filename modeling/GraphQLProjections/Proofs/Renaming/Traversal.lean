import GraphQLProjections.Proofs.Projection.Population
import GraphQLProjections.Proofs.Renaming.InStep

/-! Traversals in step. From workspaces that differ in names alone, two traversals open the same
projections in the same order: whether a path is entered depends on its key and not on its name. -/
namespace GraphQLProjections

open Building Renamable

variable {β : Type} {traversal : Traversal} {workspace other : Workspace}

namespace Matched

variable {supply supply' : NameSupply}

theorem method {link link' : Option Link} (matched : Matched supply supply' link link')
    (field : FieldDefinition) :
    Matched supply supply' (⟨field, link⟩ : SelectionMethod) ⟨field, link'⟩ :=
  ⟨matched.paired, congrArg (SelectionMethod.mk field) matched.renamed⟩

theorem accessor {link link' : Link} (matched : Matched supply supply' link link')
    (type : String) : Matched supply supply' (⟨type, link⟩ : FragmentAccessor) ⟨type, link'⟩ :=
  ⟨matched.paired, congrArg (FragmentAccessor.mk type) matched.renamed⟩

theorem site {name name' : String} (pairs : supply.Pairs supply' name name')
    (consistent : supply.Consistent) (id : NodeId) (kind : ProjectionKind)
    (parent : Option NodeId) (root : NodeId) (depth : Nat) (path : List String) :
    Matched supply supply' (⟨id, name, kind, parent, root, depth, path⟩ : Site)
      ⟨id, name', kind, parent, root, depth, path⟩ :=
  ⟨List.forall_mem_singleton.mpr ⟨name', pairs⟩,
    congrArg (fun name => (⟨id, name, kind, parent, root, depth, path⟩ : Site))
      (pairs.translation consistent).symm⟩

/-- Matched sites differ in the name alone. -/
theorem exists_name {site site' : Site} (matched : Matched supply supply' site site') :
    ∃ name', site' = { site with name := name' } :=
  ⟨_, matched.renamed⟩

theorem node {site site' : Site} {methods methods' : List SelectionMethod}
    {fragments fragments' : List FragmentAccessor} (place : Matched supply supply' site site')
    (first : Matched supply supply' methods methods')
    (second : Matched supply supply' fragments fragments') (type : String) (truncated : Bool) :
    Matched supply supply' (⟨site, type, methods, fragments, truncated⟩ : ProjectionNode)
      ⟨site', type, methods', fragments', truncated⟩ := by
  refine ⟨List.forall_mem_append.mpr ⟨List.forall_mem_append.mpr ⟨place.paired, first.paired⟩,
    second.paired⟩, ?_⟩
  rw [place.renamed, first.renamed, second.renamed]
  rfl

end Matched

def DescendsInStep (descend : Descent) : Prop :=
  ∀ (workspace other : Workspace) (site site' : Site) (type : TypeDefinition)
    (trail : List TrailStep) (filter : Option Filter), workspace.Alike other →
    Tied site site' workspace other →
    InStep (descend site type trail filter) (descend site' type trail filter) workspace other
      fun _ _ _ _ => True

/-- To enter a path keeps in step: both open it, or both link to what is there. -/
theorem enter_inStep [Renamable β] (alike : workspace.Alike other) {path : List String}
    {inside inside' : NodeId → String → Building Unit} {otherwise otherwise' : String → Building β}
    {result : Link → β}
    (fills : ∀ id name name' later later', Advance workspace other later later' →
      later.names.Pairs later'.names name name' →
      InStep (inside id name) (inside' id name') later later' fun _ _ _ _ => True)
    (links : ∀ name name' later later', Advance workspace other later later' →
      later.names.Pairs later'.names name name' →
      InStep (otherwise name) (otherwise' name') later later' Tied)
    (results : ∀ link link' later later', Advance workspace other later later' →
      Tied link link' later later' → Tied (result link) (result link') later later') :
    InStep (enter path inside otherwise result) (enter path inside' otherwise' result) workspace
      other Tied := by
  refine (claim_inStep alike path NameSupply.projectionSuffix).bind ?_
  rintro ⟨name, isNew⟩ ⟨name', isNew'⟩ later later' advance ⟨pairs, rfl⟩
  cases isNew with
  | false => exact links name name' later later' advance pairs
  | true =>
    refine (openNode_inStep advance.alike pairs).bind ?_
    rintro id _ last last' opened rfl
    have pairs' := pairs.grown opened.keeps opened.keeps'
    refine (fills id name name' last last' (advance.trans opened) pairs').bind ?_
    rintro _ _ done done' filled -
    have pairs'' := pairs'.grown filled.keeps filled.keeps'
    refine .pure filled.alike (results _ _ _ _ ((advance.trans opened).trans filled) ?_)
    exact .link pairs'' filled.alike.names.there.consistent id

namespace Traversal

section Parts

variable {descend : Descent} (descends : DescendsInStep descend) {site site' : Site}
  (alike : workspace.Alike other) (tied : Tied site site' workspace other)

include alike tied

theorem argumentWrapper_inStep (field : FieldDefinition) :
    InStep (argumentWrapper site field) (argumentWrapper site' field) workspace other Tied := by
  obtain ⟨_, rfl⟩ := tied.exists_name
  rw [argumentWrapper_eq, argumentWrapper_eq]
  refine enter_inStep alike ?_ (fun name name' later later' advance pairs =>
    linkTo_inStep advance.alike pairs) fun _ _ _ _ _ => id
  intro id name name' later later' advance pairs
  have consistent := advance.alike.names.there.consistent
  exact fill_inStep advance.alike (.node (.site pairs consistent _ _ _ _ _ _) .nil .nil _ _)

include descends

theorem child_inStep (field : FieldDefinition) (type : TypeDefinition) (trail : List TrailStep)
    (filter : Option Filter) :
    InStep (child descend site field type trail filter) (child descend site' field type trail filter)
      workspace other Tied := by
  obtain ⟨_, rfl⟩ := tied.exists_name
  rw [child_eq, child_eq]
  refine enter_inStep alike ?_ (fun name name' later later' advance pairs =>
    linkTo_inStep advance.alike pairs) fun _ _ _ _ _ => id
  intro id name name' later later' advance pairs
  have consistent := advance.alike.names.there.consistent
  exact descends _ _ _ _ _ _ _ advance.alike (Matched.site pairs consistent _ _ _ _ _ _)

theorem fragment_inStep (type : TypeDefinition) (trail : List TrailStep) (filter : Option Filter) :
    InStep (fragment descend site type trail filter) (fragment descend site' type trail filter)
      workspace other Tied := by
  obtain ⟨_, rfl⟩ := tied.exists_name
  rw [fragment_eq, fragment_eq]
  refine enter_inStep alike ?_ ?_ fun _ _ _ _ _ tied => tied.accessor type.name
  · intro id name name' later later' advance pairs
    have consistent := advance.alike.names.there.consistent
    exact descends _ _ _ _ _ _ _ advance.alike (Matched.site pairs consistent _ _ _ _ _ _)
  · intro name name' later later' advance pairs
    exact (linkTo_inStep advance.alike pairs).bind fun _ _ _ _ further tied =>
      .pure further.alike (tied.accessor type.name)

theorem method?_inStep (trail : List TrailStep) (scope : Option Filter) (field : FieldDefinition) :
    InStep (traversal.method? descend site trail scope field)
      (traversal.method? descend site' trail scope field) workspace other Tied := by
  have bounds : traversal.atBound site' = traversal.atBound site := by
    obtain ⟨_, rfl⟩ := tied.exists_name
    rfl
  unfold method?
  rw [bounds]
  cases partScope scope (·.field? field.name) with
  | none => exact .pure alike .none
  | some filter =>
    refine (InStep.ofExcept alike _).bind ?_
    rintro target _ later later' advance rfl
    have tied' := tied.advance alike advance
    cases target with
    | leaf =>
      dsimp only
      split
      · exact .pure advance.alike (Matched.none.method field).some
      · exact (argumentWrapper_inStep advance.alike tied' field).bind fun _ _ _ _ further linked =>
          .pure further.alike (linked.some.method field).some
    | composite type =>
      dsimp only
      split
      · exact .pure advance.alike .none
      · exact (child_inStep descends advance.alike tied' field type trail filter).bind
          fun _ _ _ _ further linked => .pure further.alike (linked.some.method field).some

theorem accessor?_inStep (trail : List TrailStep) (scope : Option Filter) (type : TypeDefinition) :
    InStep (accessor? descend site trail scope type) (accessor? descend site' trail scope type)
      workspace other Tied := by
  unfold accessor?
  cases partScope scope (·.fragment? type.name) with
  | none => exact .pure alike .none
  | some filter =>
    exact (fragment_inStep descends alike tied type trail filter).bind
      fun _ _ _ _ further tied => .pure further.alike tied.some

theorem populateBy_inStep (type : TypeDefinition) (trail : List TrailStep)
    (filter : Option Filter) :
    InStep (traversal.populateBy descend site type trail filter)
      (traversal.populateBy descend site' type trail filter) workspace other
      fun _ _ _ _ => True := by
  have cuts (scope : Option Filter) :
      traversal.cuts site' scope type = traversal.cuts site scope type := by
    obtain ⟨_, rfl⟩ := tied.exists_name
    rfl
  unfold populateBy
  dsimp only
  rw [cuts]
  refine (gather_inStep (fun field _ later later' advance => method?_inStep descends advance.alike
    (tied.advance alike advance) trail _ field) alike).bind ?_
  intro methods methods' middle middle' advance tied'
  refine (gather_inStep (fun type _ later later' further => accessor?_inStep descends further.alike
    (tied.advance alike (advance.trans further)) trail _ type) advance.alike).bind ?_
  intro fragments fragments' last last' further tied''
  exact fill_inStep further.alike (.node (tied.advance alike (advance.trans further))
    (tied'.advance advance.alike further) tied'' _ _)

end Parts

theorem populate_inStep (bound : Nat) : DescendsInStep (traversal.populate bound) := by
  induction bound with
  | zero => exact fun _ _ _ _ type _ _ _ _ => .throw rfl
  | succ bound ih =>
    intro workspace other site site' type trail filter alike tied
    exact populateBy_inStep ih alike tied type trail filter

/-- The projection of a root field has one number in both runs. -/
theorem rootAt_inStep (alike : workspace.Alike other) (path : List String)
    (field : FieldDefinition) (filter : Option Filter) :
    InStep (traversal.rootAt path field filter) (traversal.rootAt path field filter) workspace other
      fun id id' _ _ => id = id' := by
  refine (InStep.ofExcept alike _).bind ?_
  rintro target _ middle middle' resolved rfl
  cases target with
  | leaf => exact .pure resolved.alike rfl
  | composite type =>
    refine (claim_inStep resolved.alike path NameSupply.rootSuffix).bind ?_
    rintro ⟨name, isNew⟩ ⟨name', isNew'⟩ later later' advance ⟨pairs, rfl⟩
    cases isNew with
    | false =>
      exact (linkTo_inStep advance.alike pairs).bind fun link link' _ _ further tied =>
        .pure further.alike (by rw [tied.renamed]; rfl)
    | true =>
      refine (openNode_inStep advance.alike pairs).bind ?_
      rintro id _ last last' opened rfl
      have pairs' := pairs.grown opened.keeps opened.keeps'
      have site := Matched.site pairs' opened.alike.names.there.consistent id .root none id 0 path
      exact (populate_inStep _ _ _ _ _ type [] filter opened.alike site).bind
        fun _ _ _ _ filled _ => .pure filled.alike rfl

theorem entitiesAt_inStep (alike : workspace.Alike other) (path : List String)
    (entities : List TypeDefinition) :
    InStep (traversal.entitiesAt path entities) (traversal.entitiesAt path entities) workspace other
      fun id id' _ _ => id = id' := by
  unfold entitiesAt
  split
  · exact .pure alike rfl
  · refine (claim_inStep alike path NameSupply.rootSuffix).bind ?_
    rintro ⟨name, isNew⟩ ⟨name', isNew'⟩ later later' advance ⟨pairs, rfl⟩
    cases isNew with
    | false => exact .throw trivial
    | true =>
      refine (openNode_inStep advance.alike pairs).bind ?_
      rintro id _ last last' opened rfl
      have pairs' := pairs.grown opened.keeps opened.keeps'
      have site := Matched.site pairs' opened.alike.names.there.consistent id .root none id 0 path
      refine (gather_inStep (fun type _ _ _ further => accessor?_inStep (populate_inStep _)
        further.alike (Tied.advance site opened.alike further) [] none type) opened.alike).bind ?_
      intro fragments fragments' done done' further tied
      refine (fill_inStep further.alike (.node (Tied.advance site opened.alike further) .nil tied _
        _)).bind fun _ _ _ _ filled _ => .pure filled.alike rfl

end Traversal
end GraphQLProjections
