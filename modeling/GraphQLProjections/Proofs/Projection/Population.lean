import GraphQLProjections.Proofs.Building
import GraphQLProjections.Proofs.Projection.History

/-! What populating a site does. It continues the history faithfully, fills every projection that it
opens if it succeeds, and gives the node of the site the links to what its spot requests. -/
namespace GraphQLProjections

inductive TraversalFault (schema : Schema) : Error → Prop
  | unresolved (type : TypeDefinition) (field : FieldDefinition) (fault : Error)
      (known : type ∈ schema.types) (declared : field ∈ type.fields)
      (unresolved : schema.target field = .error fault) : TraversalFault schema fault
  | endlessUnion (type : String) : TraversalFault schema (.endlessUnion type)

open Building

variable {α β : Type} {traversal : Traversal} {openings : List Opening}
  {others : List (List String × String)} {workspace : Workspace}

/-- What a traversal fails for: a selected field of an opening that leads nowhere, or a union that
contains itself. -/
inductive Blamed (traversal : Traversal) (openings : List Opening) : Error → Prop
  | unresolved {opening : Opening} {field : FieldDefinition} {fault : Error}
      (member : opening ∈ openings) (declared : field ∈ opening.purpose.fields)
      (selected : (partScope opening.purpose.scope (·.field? field.name)).isSome)
      (unresolved : traversal.schema.target field = .error fault) : Blamed traversal openings fault
  | endlessUnion (type : String) : Blamed traversal openings (.endlessUnion type)

theorem Blamed.traversalFault {fault : Error} (blamed : Blamed traversal openings fault)
    (faithful : Faithful traversal openings others workspace) :
    TraversalFault traversal.schema fault := by
  cases blamed with
  | unresolved member declared _ unresolved =>
    obtain ⟨type, known, declaredBy⟩ := (faithful.grounded _ member).declaring declared
    exact .unresolved type _ fault known declaredBy unresolved
  | endlessUnion type => exact .endlessUnion type

/-- A step continues the history below the roots, and fills what it opens if it succeeds. -/
def Builds (traversal : Traversal) (openings : List Opening)
    (others : List (List String × String)) (workspace : Workspace) (step : Building α)
    (good : α → Workspace → Prop) : Prop :=
  Ensures step workspace
    (fun fault later => ∃ new, Faithful traversal (openings ++ new) others later ∧
      workspace.Advances later ∧ (∀ opening ∈ new, opening.kind ≠ .root) ∧
      Blamed traversal (openings ++ new) fault)
    fun value later => ∃ new, Faithful traversal (openings ++ new) others later ∧
      workspace.Advances later ∧ (∀ opening ∈ new, opening.kind ≠ .root) ∧
      (∀ opening ∈ new, (later.forest.node? opening.id).isSome) ∧ good value later

namespace Builds

theorem pure (faithful : Faithful traversal openings others workspace) {value : α}
    {good : α → Workspace → Prop} (holds : good value workspace) :
    Builds traversal openings others workspace (pure value) good :=
  Ensures.pure ⟨[], by simpa using faithful, .refl _, by simp, by simp, holds⟩

theorem throw (faithful : Faithful traversal openings others workspace) {fault : Error}
    {good : α → Workspace → Prop} (blamed : Blamed traversal openings fault) :
    Builds traversal openings others workspace (throw fault) good :=
  Ensures.throw ⟨[], by simpa using faithful, .refl _, by simp, by simpa using blamed⟩

theorem bind {step : Building α} {next : α → Building β} {good : α → Workspace → Prop}
    {good' : β → Workspace → Prop} (first : Builds traversal openings others workspace step good)
    (second : ∀ value new later, Faithful traversal (openings ++ new) others later →
      workspace.Advances later → good value later →
      Builds traversal (openings ++ new) others later (next value) good') :
    Builds traversal openings others workspace (step >>= next) good' := by
  apply Ensures.bind first
  rintro value later ⟨new, faithful, advances, kinds, filled, holds⟩
  refine (second value new later faithful advances holds).mono ?_ ?_
  · rintro fault last ⟨more, faithful', advances', kinds', blamed⟩
    exact ⟨new ++ more, by rwa [← List.append_assoc], advances.trans advances',
      List.forall_mem_append.mpr ⟨kinds, kinds'⟩, by rwa [← List.append_assoc]⟩
  · rintro result last ⟨more, faithful', advances', kinds', filled', holds'⟩
    refine ⟨new ++ more, by rwa [← List.append_assoc], advances.trans advances',
      List.forall_mem_append.mpr ⟨kinds, kinds'⟩,
      List.forall_mem_append.mpr ⟨fun opening member => ?_, filled'⟩, holds'⟩
    exact advances'.filled (filled opening member)

theorem mono {step : Building α} {good good' : α → Workspace → Prop}
    (builds : Builds traversal openings others workspace step good)
    (implies : ∀ value later, workspace.Advances later → good value later → good' value later) :
    Builds traversal openings others workspace step good' := by
  apply Ensures.giving builds
  rintro value later ⟨new, faithful, advances, kinds, filled, holds⟩
  exact ⟨new, faithful, advances, kinds, filled, implies value later advances holds⟩

/-- What a step tells by its success holds with what it builds. -/
theorem telling {step : Building α} {good : α → Workspace → Prop} {told : Prop}
    (builds : Builds traversal openings others workspace step good) (tells : Tells step told) :
    Builds traversal openings others workspace step fun value later => good value later ∧ told := by
  refine (Ensures.and builds (tells workspace)).mono (fun _ _ fails => fails.1) ?_
  rintro value later ⟨⟨new, faithful, advances, kinds, filled, holds⟩, told⟩
  exact ⟨new, faithful, advances, kinds, filled, holds, told⟩

end Builds

structure Underway (traversal : Traversal) (openings : List Opening) (workspace : Workspace)
    (opening : Opening) (done rest : List Spot) : Prop where
  member : opening ∈ openings
  requests : traversal.requests opening.toSpot = done ++ rest
  linked : ∀ request ∈ done, (workspace.linkAt request.path).isSome

namespace Underway

variable {opening : Opening} {done rest : List Spot}

theorem grown (underway : Underway traversal openings workspace opening done rest)
    (new : List Opening) {later : Workspace} (advances : workspace.Advances later) :
    Underway traversal (openings ++ new) later opening done rest :=
  ⟨List.mem_append_left _ underway.member, underway.requests,
    fun request member => advances.linked (underway.linked request member)⟩

theorem done_append {more : List Spot}
    (underway : Underway traversal openings workspace opening done (more ++ rest))
    (linked : ∀ request ∈ more, (workspace.linkAt request.path).isSome) :
    Underway traversal openings workspace opening (done ++ more) rest := by
  refine ⟨underway.member, by rw [underway.requests, List.append_assoc], ?_⟩
  intro request member
  rcases List.mem_append.mp member with member | member
  · exact underway.linked request member
  · exact linked request member

theorem mem_requests {request : Spot}
    (underway : Underway traversal openings workspace opening done (request :: rest)) :
    request ∈ traversal.requests opening.toSpot := by
  simp [underway.requests]

end Underway
def Opening.below (parent : Opening) (request : Spot) (id : NodeId) (name : String) : Opening :=
  { request with id, name, parent := some parent.id, root := parent.root }

/-- A request whose name is new is the first at its path, and its path is one segment further. -/
theorem Underway.derived (faithful : Faithful traversal openings others workspace)
    {opening : Opening} {request : Spot} {done rest : List Spot}
    (underway : Underway traversal openings workspace opening done (request :: rest))
    {names : NameSupply} {name : String} (keeps : workspace.names.Keeps names)
    (named : names.nameOf? request.path NameSupply.projectionSuffix = some name)
    (isNew : workspace.names.isReserved name = false) :
    (opening.below request workspace.forest.size name).Derived traversal openings := by
  have requested := underway.mem_requests
  have unlinked (link : Link) : workspace.linkAt request.path ≠ some link := by
    intro linked
    obtain ⟨known, reserved⟩ := faithful.reserved_of_linkAt linked
    have same := Option.some.inj (named.symm.trans (keeps.nameOf? known))
    exact Bool.false_ne_true (isNew.symm.trans (same ▸ reserved))
  refine .below opening underway.member ?_ (Traversal.kind_of_mem_requests requested) rfl rfl ?_ ?_
  · exact faithful.size ▸ faithful.id_lt underway.member
  · rcases Traversal.path_of_mem_requests requested with further | ⟨step, passed, path⟩
    · exact further
    · obtain ⟨above, member, place, kind, -⟩ := faithful.opening_of_trail underway.member passed
      have plain := (faithful.grounded above member).path
      have linked := (faithful.linkAt_eq_some plain).mpr
        ⟨above, member, rfl, by simp [kind], rfl⟩
      rw [place, ← path] at linked
      exact absurd linked (unlinked _)
  · refine List.find?_eq_some_iff_append.mpr ⟨by simp [Opening.below], done, rest,
      underway.requests, ?_⟩
    intro other member
    obtain ⟨link, linked⟩ := Option.isSome_iff_exists.mp (underway.linked other member)
    have differs : other.path ≠ request.path := fun same => unlinked link (same ▸ linked)
    simpa [Opening.below] using differs

/-- Open and populate the projection of a path, or else turn to the one that is there. -/
def Building.enter (path : List String) (inside : NodeId → String → Building Unit)
    (otherwise : String → Building β) (result : Link → β) : Building β := do
  let (name, isNew) ← claim path NameSupply.projectionSuffix
  if isNew then
    let id ← openNode name
    inside id name
    return result ⟨id, name⟩
  else otherwise name

namespace Traversal

variable (descend : Descent) (site : Site) (field : FieldDefinition) (type : TypeDefinition)
  (trail : List TrailStep) (filter : Option Filter)

theorem child_eq : child descend site field type trail filter =
    enter (childPath site field type trail filter)
      (fun id name =>
        descend ⟨id, name, .sub, some site.id, site.root, site.depth + 1,
          childPath site field type trail filter⟩ type
          (trail ++ [⟨field.name, type.name, childPath site field type trail filter⟩]) filter)
      linkTo id := rfl

theorem fragment_eq : fragment descend site type trail filter =
    enter (site.path ++ [type.name])
      (fun id name =>
        descend ⟨id, name, .fragment, some site.id, site.root, site.depth,
          site.path ++ [type.name]⟩ type trail filter)
      (fun name => return ⟨type.name, ← linkTo name⟩) (⟨type.name, ·⟩) := rfl

theorem argumentWrapper_eq : argumentWrapper site field =
    enter (site.path ++ [field.name])
      (fun id name => fill
        { id, name, kind := .argumentWrapper, parent := some site.id, root := site.root
          depth := site.depth + 1, path := site.path ++ [field.name]
          type := field.type.innermost, methods := [], fragments := [], truncated := false })
      linkTo id := rfl

end Traversal

section Enter

variable {opening : Opening} {request : Spot} {done rest : List Spot}

/-- To enter a request is to open and populate its projection, or to link to the one that is there.
-/
theorem enter_builds (wellFormed : traversal.schema.WellFormed)
    (faithful : Faithful traversal openings others workspace)
    (underway : Underway traversal openings workspace opening done (request :: rest))
    {inside : NodeId → String → Building Unit} {otherwise : String → Building β}
    {result : Link → β}
    (fills : ∀ (below : Opening) (later : Workspace), below.toSpot = request →
      below.parent = some opening.id → below.root = opening.root →
      Faithful traversal (openings ++ [below]) others later → workspace.Advances later →
      Builds traversal (openings ++ [below]) others later (inside below.id below.name)
        fun _ last => (last.forest.node? below.id).isSome)
    (links : ∀ (name : String) (id : NodeId) (later : Workspace)
      (failed : Error → Workspace → Prop), later.forest.id? name = some id →
      Ensures (otherwise name) later failed fun value last =>
        value = result ⟨id, name⟩ ∧ last = later) :
    Builds traversal openings others workspace (enter request.path inside otherwise result)
      fun value later => ∃ link, later.linkAt request.path = some link ∧ value = result link := by
  have requested := underway.mem_requests
  have grounded := (faithful.grounded opening underway.member).request wellFormed requested
  obtain ⟨names, name, claimed, keeps, named, reserved, consistent⟩ :=
    workspace.names.claim_eq request.path NameSupply.projectionSuffix
  apply Ensures.bind (claim_ensures claimed)
  rintro _ _ ⟨rfl, rfl⟩
  cases old : workspace.names.isReserved name with
  | false =>
    let below := opening.below request workspace.forest.size name
    have named' : names.nameOf? below.path below.suffix = some below.name := by
      rw [show below.suffix = _ from Traversal.suffix_of_mem_requests requested]
      exact named
    have faithful' : Faithful traversal (openings ++ [below]) others
        ⟨names, workspace.forest.opened name⟩ :=
      faithful.opened keeps (consistent faithful.consistent) old named' reserved rfl grounded
        (underway.derived faithful keeps named old)
    have advances := faithful.advances_opened keeps old
    apply (openNode_ensures name).bind
    rintro _ _ ⟨rfl, rfl⟩
    have entered : Builds traversal (openings ++ [below]) others
        ⟨names, workspace.forest.opened name⟩
        (do inside below.id name; return result ⟨below.id, name⟩)
        fun value last => (last.forest.node? below.id).isSome ∧
          ∃ link, last.linkAt request.path = some link ∧ value = result link :=
      (fills below _ rfl rfl rfl faithful' advances).bind
        fun _ new later faithful'' _ filled => .pure faithful'' ⟨filled, _,
          (faithful''.linkAt_eq_some grounded.path).mpr ⟨below, by simp, rfl,
            Traversal.kind_of_mem_requests requested, rfl⟩, rfl⟩
    have kind : below.kind ≠ .root := Traversal.kind_of_mem_requests requested
    refine Ensures.mono entered ?_ ?_
    · rintro fault last ⟨new, continued, advances', kinds, blamed⟩
      exact ⟨below :: new, by simpa using continued, advances.trans advances',
        List.forall_mem_cons.mpr ⟨kind, kinds⟩, by simpa using blamed⟩
    · rintro value last ⟨new, continued, advances', kinds, filled, filledBelow, holds⟩
      exact ⟨below :: new, by simpa using continued, advances.trans advances',
        List.forall_mem_cons.mpr ⟨kind, kinds⟩, List.forall_mem_cons.mpr ⟨filledBelow, filled⟩,
        holds⟩
  | true =>
    have faithful' : Faithful traversal openings others { workspace with names } :=
      faithful.renamed keeps (consistent faithful.consistent)
        (NameSupply.isReserved_of_old reserved old)
    obtain ⟨held, member, path, suffix, rfl⟩ := faithful'.opening_of_reserved grounded.path
      (.inr rfl) named (keeps.reserved _ old)
    have linked := (faithful'.linkAt_eq_some grounded.path).mpr
      ⟨held, member, path, Faithful.suffix_eq_projectionSuffix.mp suffix, rfl⟩
    apply (links _ held.id _ _ (faithful'.id?_name member)).giving
    rintro _ _ ⟨rfl, rfl⟩
    exact ⟨[], by simpa using faithful', .of_names keeps rfl, by simp, by simp, _, linked, rfl⟩

theorem fill_builds (faithful : Faithful traversal openings others workspace) {opening : Opening}
    {node : ProjectionNode} (underway : Underway traversal openings workspace opening done [])
    (resolves : traversal.Resolves opening.toSpot)
    (rendered : node = traversal.render workspace.linkAt opening) :
    Builds traversal openings others workspace (fill node)
      fun _ later => (later.forest.node? opening.id).isSome := by
  subst rendered
  have linked := underway.linked
  rw [← List.append_nil done, ← underway.requests] at linked
  refine (fill_ensures _).mono (fun _ _ => False.elim) ?_
  rintro _ _ rfl
  refine ⟨[], by simpa using faithful.filledWith underway.member resolves linked,
    faithful.advances_filled underway.member, by simp, by simp, ?_⟩
  have inside : opening.id < workspace.forest.size :=
    faithful.size ▸ faithful.id_lt underway.member
  change ((workspace.forest.filled _).node? opening.id).isSome
  rw [Forest.node?_filled, if_pos ⟨rfl, inside⟩]
  rfl

end Enter

def Descends (traversal : Traversal) (descend : Descent) : Prop :=
  ∀ (openings : List Opening) (others : List (List String × String)) (workspace : Workspace)
    (opening : Opening) (type : TypeDefinition) (trail : List TrailStep) (filter : Option Filter),
    Faithful traversal openings others workspace → opening ∈ openings →
    opening.purpose = .type type trail filter →
    Builds traversal openings others workspace (descend opening.site type trail filter)
      fun _ later => (later.forest.node? opening.id).isSome

section Parts

variable {descend : Descent} {opening : Opening} {done rest : List Spot}

theorem child_builds (wellFormed : traversal.schema.WellFormed)
    (descends : Descends traversal descend)
    (faithful : Faithful traversal openings others workspace) {field : FieldDefinition}
    {type : TypeDefinition} {filter : Option Filter} {request : Spot}
    (place : request = ⟨.sub, opening.depth + 1, opening.fieldPath field type filter,
      .type type (opening.purpose.trail ++
        [⟨field.name, type.name, opening.fieldPath field type filter⟩]) filter⟩)
    (underway : Underway traversal openings workspace opening done (request :: rest)) :
    Builds traversal openings others workspace
      (Traversal.child descend opening.site field type opening.purpose.trail filter)
      fun link later => later.linkAt request.path = some link := by
  subst place
  rw [Traversal.child_eq]
  refine (enter_builds wellFormed faithful underway ?_ ?_).mono ?_
  · rintro ⟨_, id, name, parent, root⟩ later rfl rfl rfl faithful' advances
    exact descends _ _ _ _ _ _ _ faithful' (by simp) rfl
  · exact fun name id later failed => linkTo_ensures
  · rintro link later - ⟨_, linked, rfl⟩
    exact linked

theorem fragment_builds (wellFormed : traversal.schema.WellFormed)
    (descends : Descends traversal descend)
    (faithful : Faithful traversal openings others workspace) {type : TypeDefinition}
    {filter : Option Filter} {request : Spot}
    (place : request = ⟨.fragment, opening.depth, opening.path ++ [type.name],
      .type type opening.purpose.trail filter⟩)
    (underway : Underway traversal openings workspace opening done (request :: rest)) :
    Builds traversal openings others workspace
      (Traversal.fragment descend opening.site type opening.purpose.trail filter)
      fun accessor later => ∃ link, later.linkAt request.path = some link ∧
        accessor = ⟨type.name, link⟩ := by
  subst place
  rw [Traversal.fragment_eq]
  refine enter_builds wellFormed faithful underway ?_ ?_
  · rintro ⟨_, id, name, parent, root⟩ later rfl rfl rfl faithful' advances
    exact descends _ _ _ _ _ _ _ faithful' (by simp) rfl
  · intro name id later failed known
    apply (linkTo_ensures known).bind
    rintro _ _ ⟨rfl, rfl⟩
    exact .pure ⟨rfl, rfl⟩

theorem argumentWrapper_builds (wellFormed : traversal.schema.WellFormed)
    (faithful : Faithful traversal openings others workspace) {field : FieldDefinition}
    {request : Spot}
    (place : request = ⟨.argumentWrapper, opening.depth + 1, opening.path ++ [field.name],
      .arguments field⟩)
    (underway : Underway traversal openings workspace opening done (request :: rest)) :
    Builds traversal openings others workspace (Traversal.argumentWrapper opening.site field)
      fun link later => later.linkAt request.path = some link := by
  subst place
  rw [Traversal.argumentWrapper_eq]
  refine (enter_builds wellFormed faithful underway ?_ ?_).mono ?_
  · rintro ⟨_, id, name, parent, root⟩ later rfl rfl rfl faithful' advances
    refine fill_builds faithful' ⟨by simp, (List.append_nil []).symm, List.forall_mem_nil _⟩
      (List.forall_mem_nil _) ?_
    simp [Traversal.render, Traversal.cutsAt, Purpose.fields, Purpose.types, Purpose.typeName,
      Opening.site]
  · exact fun name id later failed => linkTo_ensures
  · rintro link later - ⟨_, linked, rfl⟩
    exact linked

def MethodMade (traversal : Traversal) (opening : Opening) (field : FieldDefinition)
    (method : Option SelectionMethod) (later : Workspace) : Prop :=
  method = traversal.methodAt later.linkAt opening.toSpot field ∧
    ∀ request ∈ traversal.requestOfField opening.toSpot field,
      (later.linkAt request.path).isSome

/-- The method of a selected leaf has an input wrapper for its arguments above the depth bound. -/
theorem leafMethod_builds (wellFormed : traversal.schema.WellFormed)
    (faithful : Faithful traversal openings others workspace) {field : FieldDefinition}
    {filter : Option Filter}
    (selected : partScope opening.purpose.scope (·.field? field.name) = some filter)
    (leads : traversal.schema.target field = .ok .leaf)
    (underway : Underway traversal openings workspace opening done
      ((traversal.requestOfField opening.toSpot field).toList ++ rest)) :
    Builds traversal openings others workspace
      (if field.arguments.isEmpty || traversal.boundsAt opening.depth then
        return some ⟨field, none⟩
      else return some ⟨field, some (← Traversal.argumentWrapper opening.site field)⟩)
      (MethodMade traversal opening field) := by
  have kept : traversal.keepsField opening.toSpot field = true := by
    simp [Traversal.keepsField, selected, leads]
  cases bare : field.arguments.isEmpty || traversal.boundsAt opening.depth with
  | true =>
    have requested : traversal.requestOfField opening.toSpot field = none := by
      simp only [Traversal.requestOfField, selected, leads, bare, if_true]
    rw [if_pos rfl]
    exact .pure faithful (by simp [MethodMade, Traversal.methodAt, requested, kept])
  | false =>
    have requested : traversal.requestOfField opening.toSpot field =
        some ⟨.argumentWrapper, opening.depth + 1, opening.path ++ [field.name],
          .arguments field⟩ := by
      simp [Traversal.requestOfField, selected, leads, bare]
    rw [requested] at underway
    rw [if_neg Bool.false_ne_true]
    apply (argumentWrapper_builds wellFormed faithful rfl underway).bind
    intro link new later faithful' _ linked
    exact .pure faithful' (by simp [MethodMade, Traversal.methodAt, requested, kept, linked])

/-- A selected composite field has a method with a projection above the depth bound. -/
theorem compositeMethod_builds (wellFormed : traversal.schema.WellFormed)
    (descends : Descends traversal descend)
    (faithful : Faithful traversal openings others workspace) {field : FieldDefinition}
    {type : TypeDefinition} {filter : Option Filter}
    (selected : partScope opening.purpose.scope (·.field? field.name) = some filter)
    (leads : traversal.schema.target field = .ok (.composite type))
    (underway : Underway traversal openings workspace opening done
      ((traversal.requestOfField opening.toSpot field).toList ++ rest)) :
    Builds traversal openings others workspace
      (if traversal.boundsAt opening.depth then return none
      else return some ⟨field, some (← Traversal.child descend opening.site field type
        opening.purpose.trail filter)⟩)
      (MethodMade traversal opening field) := by
  cases bound : traversal.boundsAt opening.depth with
  | true =>
    have requested : traversal.requestOfField opening.toSpot field = none := by
      simp [Traversal.requestOfField, selected, leads, bound]
    have dropped : traversal.keepsField opening.toSpot field = false := by
      simp [Traversal.keepsField, leads, bound]
    rw [if_pos rfl]
    exact .pure faithful (by simp [MethodMade, Traversal.methodAt, requested, dropped])
  | false =>
    have requested : traversal.requestOfField opening.toSpot field =
        some ⟨.sub, opening.depth + 1, opening.fieldPath field type filter,
          .type type (opening.purpose.trail ++
            [⟨field.name, type.name, opening.fieldPath field type filter⟩]) filter⟩ := by
      simp [Traversal.requestOfField, selected, leads, bound]
    have kept : traversal.keepsField opening.toSpot field = true := by
      simp [Traversal.keepsField, selected, leads, bound]
    rw [requested] at underway
    rw [if_neg Bool.false_ne_true]
    apply (child_builds wellFormed descends faithful rfl underway).bind
    intro link new later faithful' _ linked
    exact .pure faithful' (by simp [MethodMade, Traversal.methodAt, requested, kept, linked])

theorem method?_builds (wellFormed : traversal.schema.WellFormed)
    (descends : Descends traversal descend)
    (faithful : Faithful traversal openings others workspace) {field : FieldDefinition}
    (declared : field ∈ opening.purpose.fields)
    (underway : Underway traversal openings workspace opening done
      ((traversal.requestOfField opening.toSpot field).toList ++ rest)) :
    Builds traversal openings others workspace
      (traversal.method? descend opening.site opening.purpose.trail opening.purpose.scope field)
      (MethodMade traversal opening field) := by
  unfold Traversal.method?
  cases selected : partScope opening.purpose.scope (·.field? field.name) with
  | none =>
    have requested : traversal.requestOfField opening.toSpot field = none := by
      simp [Traversal.requestOfField, selected]
    exact .pure faithful
      (by simp [MethodMade, Traversal.methodAt, Traversal.keepsField, requested, selected])
  | some filter =>
    refine Ensures.bind (ofExcept_ensures ?_) ?_
    · intro fault unresolved
      have blamed : Blamed traversal openings fault :=
        .unresolved underway.member declared (by rw [selected]; rfl) unresolved
      exact ⟨[], by simpa using faithful, .refl _, by simp, by simpa using blamed⟩
    · rintro target _ ⟨leads, rfl⟩
      cases target with
      | leaf => exact leafMethod_builds wellFormed faithful selected leads underway
      | composite type =>
        exact compositeMethod_builds wellFormed descends faithful selected leads underway

theorem accessor?_builds (wellFormed : traversal.schema.WellFormed)
    (descends : Descends traversal descend)
    (faithful : Faithful traversal openings others workspace) {type : TypeDefinition}
    (underway : Underway traversal openings workspace opening done
      ((Traversal.requestOfType opening.toSpot type).toList ++ rest)) :
    Builds traversal openings others workspace
      (Traversal.accessor? descend opening.site opening.purpose.trail opening.purpose.scope type)
      fun accessor later =>
        accessor = Traversal.accessorAt later.linkAt opening.toSpot type ∧
        ∀ request ∈ Traversal.requestOfType opening.toSpot type,
          (later.linkAt request.path).isSome := by
  unfold Traversal.accessor?
  cases selected : partScope opening.purpose.scope (·.fragment? type.name) with
  | none =>
    have requested : Traversal.requestOfType opening.toSpot type = none := by
      simp [Traversal.requestOfType, selected]
    exact .pure faithful (by simp [Traversal.accessorAt, requested])
  | some filter =>
    have requested : Traversal.requestOfType opening.toSpot type =
        some ⟨.fragment, opening.depth, opening.path ++ [type.name],
          .type type opening.purpose.trail filter⟩ := by
      simp [Traversal.requestOfType, selected]
    rw [requested] at underway
    apply (fragment_builds wellFormed descends faithful rfl underway).bind
    rintro _ new later faithful' - ⟨link, linked, rfl⟩
    exact .pure faithful' (by simp [Traversal.accessorAt, requested, linked])

/-- Gathering over parts enters what they request one after the other. -/
theorem gather_builds {build : α → Building (Option β)} {request : α → Option Spot}
    (result : (List String → Option Link) → α → Option β) {items : List α}
    (congr : ∀ (link link' : List String → Option Link) (item : α),
      (∀ spot ∈ request item, link spot.path = link' spot.path) →
      result link item = result link' item)
    (each : ∀ item ∈ items, ∀ (openings : List Opening) (workspace : Workspace) (done rest),
      Faithful traversal openings others workspace →
      Underway traversal openings workspace opening done ((request item).toList ++ rest) →
      Builds traversal openings others workspace (build item) fun value later =>
        value = result later.linkAt item ∧
          ∀ spot ∈ request item, (later.linkAt spot.path).isSome)
    (faithful : Faithful traversal openings others workspace)
    (underway : Underway traversal openings workspace opening done
      (items.filterMap request ++ rest)) :
    Builds traversal openings others workspace (gather build items) fun values later =>
      values = items.filterMap (result later.linkAt) ∧
        ∀ spot ∈ items.filterMap request, (later.linkAt spot.path).isSome := by
  induction items generalizing openings workspace done with
  | nil => exact .pure faithful (by simp)
  | cons item others' ih =>
    have split : (item :: others').filterMap request =
        (request item).toList ++ others'.filterMap request := by
      cases requested : request item <;> simp [requested]
    rw [split, List.append_assoc] at underway
    apply (each item List.mem_cons_self openings workspace done _ faithful underway).bind
    rintro _ new middle faithful' advances ⟨rfl, linked⟩
    have next := (underway.grown new advances).done_append (fun spot member =>
      linked spot (Option.mem_toList.mp member))
    refine (ih (fun item member => each item (List.mem_cons_of_mem _ member)) faithful' next).bind
      ?_
    rintro _ more later faithful'' advances' ⟨rfl, linked'⟩
    have stable := congr middle.linkAt later.linkAt item fun spot member =>
      advances'.agree (linked spot member)
    refine .pure faithful'' ⟨?_, ?_⟩
    · rw [stable]
      cases first : result later.linkAt item <;> simp [first]
    · intro spot member
      rw [split] at member
      rcases List.mem_append.mp member with member | member
      · exact advances'.linked (linked spot (Option.mem_toList.mp member))
      · exact linked' spot member

/-- A field has a method only if it leads somewhere, unless it is not selected. -/
theorem method?_tells (site : Site) (trail : List TrailStep) (scope : Option Filter)
    (field : FieldDefinition) : Tells (traversal.method? descend site trail scope field)
      ((partScope scope (·.field? field.name)).isSome →
        ∃ target, traversal.schema.target field = .ok target) := by
  unfold Traversal.method?
  cases partScope scope (·.field? field.name) with
  | none => exact .of_holds nofun
  | some filter =>
    cases leads : traversal.schema.target field with
    | error fault => exact fun workspace => .throw trivial
    | ok target => exact .of_holds fun _ => ⟨target, rfl⟩

/-- The fragments of an opening, which come after all its fields. -/
theorem fragments_build (wellFormed : traversal.schema.WellFormed)
    (descends : Descends traversal descend)
    (faithful : Faithful traversal openings others workspace)
    (underway : Underway traversal openings workspace opening done
      ((opening.purpose.types traversal.schema).filterMap
        (Traversal.requestOfType opening.toSpot))) :
    Builds traversal openings others workspace
      (gather (Traversal.accessor? descend opening.site opening.purpose.trail opening.purpose.scope)
        (opening.purpose.types traversal.schema))
      fun fragments later =>
        fragments = (opening.purpose.types traversal.schema).filterMap
          (Traversal.accessorAt later.linkAt opening.toSpot) ∧
        ∀ request ∈ (opening.purpose.types traversal.schema).filterMap
          (Traversal.requestOfType opening.toSpot), (later.linkAt request.path).isSome := by
  rw [← List.append_nil ((opening.purpose.types traversal.schema).filterMap _)] at underway
  refine gather_builds (fun link => Traversal.accessorAt link opening.toSpot)
    (fun link link' type => Traversal.accessorAt_congr) ?_ faithful underway
  intro type _ openings workspace done rest faithful underway
  exact accessor?_builds wellFormed descends faithful underway

/-- Populating the site of an opening, in terms of what it is opened for. -/
theorem populateBy_eq {type : TypeDefinition} {trail : List TrailStep} {filter : Option Filter}
    (purpose : opening.purpose = .type type trail filter) :
    traversal.populateBy descend opening.site type trail filter = (do
      let methods ← gather
        (traversal.method? descend opening.site opening.purpose.trail opening.purpose.scope)
        opening.purpose.fields
      let fragments ← gather
        (Traversal.accessor? descend opening.site opening.purpose.trail opening.purpose.scope)
        (opening.purpose.types traversal.schema)
      fill
        { opening.site with
          type := opening.purpose.typeName, methods, fragments
          truncated := traversal.cutsAt opening.toSpot }) := by
  obtain ⟨⟨kind, depth, path, _⟩, id, name, parent, root⟩ := opening
  subst purpose
  rfl

/-- Populating by a way down that populates populates. -/
theorem populateBy_descends (wellFormed : traversal.schema.WellFormed)
    (descends : Descends traversal descend) : Descends traversal (traversal.populateBy descend) := by
  intro openings others workspace opening type trail filter faithful member purpose
  rw [populateBy_eq purpose]
  have underway : Underway traversal openings workspace opening []
    (opening.purpose.fields.filterMap (traversal.requestOfField opening.toSpot) ++ _) :=
    ⟨member, rfl, by simp⟩
  refine ((gather_builds (fun link => traversal.methodAt link opening.toSpot)
    (fun link link' field => Traversal.methodAt_congr) ?_ faithful underway).telling
    (.gather fun field => method?_tells _ _ _ field)).bind ?_
  · intro field declared openings workspace done rest faithful underway
    exact method?_builds wellFormed descends faithful declared underway
  · rintro _ new middle faithful' advances ⟨⟨rfl, linked⟩, resolves⟩
    have next : Underway traversal (openings ++ new) middle opening _ _ :=
      ⟨List.mem_append_left _ member, rfl, linked⟩
    apply (fragments_build wellFormed descends faithful' next).bind
    rintro _ more later faithful'' advances' ⟨rfl, linked'⟩
    refine fill_builds faithful''
      ⟨List.mem_append_left _ next.member, (List.append_nil _).symm, ?_⟩ resolves ?_
    · intro request member
      rcases List.mem_append.mp member with member | member
      · exact advances'.linked (linked request member)
      · exact linked' request member
    · have methods : ∀ field ∈ opening.purpose.fields,
          traversal.methodAt middle.linkAt opening.toSpot field =
            traversal.methodAt later.linkAt opening.toSpot field :=
        fun field declared => Traversal.methodAt_congr fun request requested =>
          advances'.agree (linked request (List.mem_filterMap.mpr ⟨field, declared, requested⟩))
      simp only [Traversal.render, List.filterMap_congr methods]

/-- Every descent of a traversal populates. -/
theorem populate_descends (wellFormed : traversal.schema.WellFormed) (bound : Nat) :
    Descends traversal (traversal.populate bound) := by
  induction bound with
  | zero =>
    intro openings others workspace opening type trail filter faithful member purpose
    exact .throw faithful (.endlessUnion type.name)
  | succ bound ih => exact populateBy_descends wellFormed ih

end Parts

end GraphQLProjections
