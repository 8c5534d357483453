import Mathlib.Data.List.Find
import GraphQLProjections.Proofs.Projection.Neighbours
import GraphQLProjections.Proofs.Projection.Termination

/-! What a depth bound does to the tree of a root field. Within the bound a spot requests what it
requests without one, so the projections that are no deeper are the same, and at the bound they only
lose the fields that lead further. -/
namespace GraphQLProjections

open Building

/-- No interface has a field that is named like one of its implementers. -/
def Schema.InterfacesApart (schema : Schema) : Prop :=
  ∀ type ∈ schema.types, type.isInterface = true →
    ∀ concrete ∈ schema.implementers type.name, ∀ field ∈ type.fields, field.name ≠ concrete.name

instance (schema : Schema) : Decidable schema.InterfacesApart :=
  inferInstanceAs (Decidable (∀ type ∈ schema.types, type.isInterface = true →
    ∀ concrete ∈ schema.implementers type.name, ∀ field ∈ type.fields, field.name ≠ concrete.name))

/-- What a projection is under a depth bound: at the bound only the fields without a composite type
have methods, and these lead nowhere. -/
def Portrait.cutAt (schema : Schema) (bound : Nat) (portrait : Portrait) : Portrait :=
  if portrait.depth < bound then portrait
  else
    { portrait with
      methods := (portrait.methods.filter fun method =>
        (schema.compositeTarget? method.1).isNone).map fun method => (method.1, none)
      truncated := portrait.methods.any fun method => (schema.compositeTarget? method.1).isSome }

/-- The projections of a forest are those of another that are no deeper than a bound, cut there.
Each has a path of its own, and all that its parts lead to is there. -/
structure Forest.CutOf (schema : Schema) (bound : Nat) (cut whole : Forest) : Prop where
  apart : (cut.nodes.map (·.path)).Nodup ∧ (whole.nodes.map (·.path)).Nodup
  linked : (∀ node ∈ cut.nodes, (cut.portrait node).Whole) ∧
    ∀ node ∈ whole.nodes, (whole.portrait node).Whole
  kept : ∀ node ∈ whole.nodes, node.depth ≤ bound →
    ∃ twin ∈ cut.nodes, cut.portrait twin = (whole.portrait node).cutAt schema bound
  only : ∀ twin ∈ cut.nodes, ∃ node ∈ whole.nodes, node.depth ≤ bound ∧
    cut.portrait twin = (whole.portrait node).cutAt schema bound

/-! ### Spots within the bound -/

namespace Spot

/-- Fields and concrete types of a spot have different names. -/
theorem Grounded.name_ne {schema : Schema} (apart : schema.InterfacesApart) {spot : Spot}
    (grounded : spot.Grounded schema) {field : FieldDefinition}
    (declared : field ∈ spot.purpose.fields) {type : TypeDefinition}
    (listed : type ∈ spot.purpose.types schema) : field.name ≠ type.name := by
  have within := grounded.within
  cases purpose : spot.purpose with
  | type definition _ _ =>
    rw [purpose] at declared listed within
    have step : schema.Concrete definition type := listed
    rcases step.cases with ⟨isInterface, -⟩ | ⟨isUnion, -⟩
    · simp only [Schema.Concrete, Schema.concreteTypes, isInterface, if_true] at step
      exact apart definition within isInterface type step field declared
    · unfold TypeDefinition.isUnion at isUnion
      simp only [Purpose.fields, TypeDefinition.fields] at declared
      cases content : definition.content <;> simp [content] at isUnion declared
  | arguments => simp [purpose, Purpose.fields] at declared
  | entities => simp [purpose, Purpose.fields] at declared

end Spot

namespace Traversal

variable {schema : Schema} {bound : Nat} {spot : Spot}

@[simp] theorem boundsAt_none (depth : Nat) : boundsAt ⟨schema, none⟩ depth = false := rfl

@[simp] theorem boundsAt_some (depth : Nat) :
    boundsAt ⟨schema, some bound⟩ depth = decide (bound ≤ depth) := rfl

theorem requestOfField_within (field : FieldDefinition) :
    requestOfField ⟨schema, some bound⟩ spot field =
      if spot.depth < bound then requestOfField ⟨schema, none⟩ spot field else none := by
  unfold requestOfField
  by_cases inside : spot.depth < bound
  · simp [boundsAt, inside, Nat.not_le.mpr inside]
  · simp only [boundsAt, Option.any_some, Nat.not_lt.mp inside, decide_true, inside]
    split
    · rfl
    · split <;> simp

/-- Within the bound a spot requests all that is no deeper. -/
theorem requests_within (within : spot.depth ≤ bound) :
    requests ⟨schema, some bound⟩ spot =
      (requests ⟨schema, none⟩ spot).filter (·.depth ≤ bound) := by
  rcases Nat.lt_or_eq_of_le within with inside | last
  · have shallow : ∀ request ∈ requests ⟨schema, none⟩ spot, request.depth ≤ bound := by
      intro request requested
      have depth := depth_of_mem_requests requested
      split at depth <;> omega
    rw [List.filter_eq_self.mpr fun request requested => decide_eq_true (shallow request requested)]
    unfold requests
    simp only [funext requestOfField_within, inside, if_true]
  · have fields : (spot.purpose.fields.filterMap (requestOfField ⟨schema, none⟩ spot)).filter
        (·.depth ≤ bound) = [] := by
      rw [List.filter_eq_nil_iff]
      intro request made
      obtain ⟨field, -, made⟩ := List.mem_filterMap.mp made
      obtain ⟨filter, -, -, ⟨-, -, rfl⟩ | ⟨type, -, rfl⟩⟩ := requestOfField_eq_some.mp made <;>
        simp [last]
    have types : ((spot.purpose.types schema).filterMap (requestOfType spot)).filter
        (·.depth ≤ bound) = (spot.purpose.types schema).filterMap (requestOfType spot) := by
      rw [List.filter_eq_self]
      intro request made
      obtain ⟨type, -, made⟩ := List.mem_filterMap.mp made
      obtain ⟨filter, -, rfl⟩ := Option.map_eq_some_iff.mp made
      simp [last]
    have nothing :
        spot.purpose.fields.filterMap (requestOfField ⟨schema, some bound⟩ spot) = [] := by
      simp [funext requestOfField_within, last]
    unfold requests
    rw [nothing, List.filter_append, fields, types]

theorem depth_le_of_mem_requests (within : spot.depth ≤ bound) {request : Spot}
    (requested : request ∈ requests ⟨schema, some bound⟩ spot) : request.depth ≤ bound := by
  rw [requests_within within] at requested
  exact of_decide_eq_true (List.mem_filter.mp requested).2

/-- What is requested at one path further has one depth. -/
theorem depth_eq_of_path (apart : schema.InterfacesApart) (grounded : spot.Grounded schema)
    {segment : String} (ahead : ∀ step ∈ spot.purpose.trail, step.path ≠ spot.path ++ [segment])
    {request other : Spot} (requested : request ∈ requests ⟨schema, none⟩ spot)
    (requested' : other ∈ requests ⟨schema, none⟩ spot)
    (further : request.path = spot.path ++ [segment])
    (further' : other.path = spot.path ++ [segment]) : request.depth = other.depth := by
  rw [depth_of_mem_requests requested, depth_of_mem_requests requested']
  rcases part_of_mem_requests ahead requested further with
      ⟨field, declared, named, -, kind⟩ | ⟨type, listed, named, -, kind⟩ <;>
    rcases part_of_mem_requests ahead requested' further' with
      ⟨field', declared', named', -, kind'⟩ | ⟨type', listed', named', -, kind'⟩
  · rw [if_neg (by rcases kind with kind | kind <;> simp [kind]),
      if_neg (by rcases kind' with kind | kind <;> simp [kind])]
  · exact absurd (named.trans named'.symm) (grounded.name_ne apart declared listed')
  · exact absurd (named'.trans named.symm) (grounded.name_ne apart declared' listed)
  · rw [kind, kind']

/-- What is requested first at a path further is the same under the bound, unless it is deeper. -/
theorem find?_requests_within (apart : schema.InterfacesApart) (grounded : spot.Grounded schema)
    (within : spot.depth ≤ bound) {segment : String}
    (ahead : ∀ step ∈ spot.purpose.trail, step.path ≠ spot.path ++ [segment]) {request : Spot} :
    (requests ⟨schema, some bound⟩ spot).find? (·.path == spot.path ++ [segment]) = some request ↔
      (requests ⟨schema, none⟩ spot).find? (·.path == spot.path ++ [segment]) = some request ∧
        request.depth ≤ bound := by
  -- If one request for the path stays, all do, so the first one is the same.
  have alike {other : Spot} (requested : other ∈ requests ⟨schema, none⟩ spot)
      (further : other.path = spot.path ++ [segment]) (shallow : other.depth ≤ bound) :
      (requests ⟨schema, some bound⟩ spot).find? (·.path == spot.path ++ [segment]) =
        (requests ⟨schema, none⟩ spot).find? (·.path == spot.path ++ [segment]) := by
    rw [requests_within within, List.find?_filter]
    apply List.find?_congr
    intro first listed
    by_cases path : first.path = spot.path ++ [segment]
    · have depth := depth_eq_of_path apart grounded ahead listed requested path further
      simp [path, depth, shallow]
    · simp [path]
  have facts {items : List Spot}
      (found : items.find? (·.path == spot.path ++ [segment]) = some request) :
      request ∈ items ∧ request.path = spot.path ++ [segment] :=
    ⟨List.mem_of_find?_eq_some found, eq_of_beq (List.find?_some found :)⟩
  constructor
  · intro found
    obtain ⟨listed, further⟩ := facts found
    rw [requests_within within] at listed
    obtain ⟨requested, shallow⟩ := List.mem_filter.mp listed
    have shallow := of_decide_eq_true shallow
    exact ⟨(alike requested further shallow).symm.trans found, shallow⟩
  · rintro ⟨found, shallow⟩
    obtain ⟨requested, further⟩ := facts found
    exact (alike requested further shallow).trans found

/-- The portrait of a spot under the bound is that without one, cut there. -/
theorem portraitAt_within (unfiltered : spot.Unfiltered) (within : spot.depth ≤ bound) :
    portraitAt ⟨schema, some bound⟩ spot = (portraitAt ⟨schema, none⟩ spot).cutAt schema bound := by
  unfold Portrait.cutAt
  rcases Nat.lt_or_eq_of_le within with inside | rfl
  · have keeps : keepsField ⟨schema, some bound⟩ spot = keepsField ⟨schema, none⟩ spot := by
      funext field
      simp [keepsField, Nat.not_le.mpr inside]
    simp [portraitAt, keeps, requestOfField_within, inside, cutsAt, Nat.not_le.mpr inside]
  · have selected (field : FieldDefinition) :
        (partScope spot.purpose.scope (·.field? field.name)).isSome = true := by
      rw [unfiltered.scope]
      rfl
    have keeps (field : FieldDefinition) : keepsField ⟨schema, some spot.depth⟩ spot field =
        ((schema.compositeTarget? field).isNone && keepsField ⟨schema, none⟩ spot field) := by
      unfold keepsField Schema.compositeTarget?
      cases schema.target field with
      | error => simp
      | ok target => cases target <;> simp [selected]
    have leads (field : FieldDefinition) : leadsToComposite ⟨schema, some spot.depth⟩ field =
        (keepsField ⟨schema, none⟩ spot field && (schema.compositeTarget? field).isSome) := by
      unfold leadsToComposite keepsField Schema.compositeTarget?
      cases schema.target field with
      | error => simp
      | ok target => cases target <;> simp [selected]
    simp [portraitAt, requestOfField_within, cutsAt, selected, List.filter_map, Function.comp_def,
      funext keeps, funext leads, List.any_filter, List.filter_filter]

end Traversal

/-! ### Two histories -/

section Histories

variable {traversal traversal' : Traversal} {openings openings' : List Opening}
  {others others' : List (List String × String)} {workspace workspace' : Workspace}

/-- Openings of which something holds have twins in another history, if the roots have them, and if
what a parent requests first in the one it requests first in the other. -/
theorem Faithful.exists_twin (faithful : Faithful traversal openings others workspace)
    (complete : Complete traversal' openings' others' workspace')
    (wellFormed : traversal'.schema.WellFormed)
    (short : ∀ root ∈ openings', root.kind = .root → root.path.length = 1) (good : Spot → Prop)
    (roots : ∀ root ∈ openings, root.kind = .root → ∃ twin ∈ openings', twin.toSpot = root.toSpot)
    (step : ∀ parent ∈ openings, ∀ (segment : String) (request : Spot),
      (traversal.requests parent.toSpot).find? (·.path == parent.path ++ [segment]) = some request →
      good request → good parent.toSpot ∧
        (traversal'.requests parent.toSpot).find? (·.path == parent.path ++ [segment]) =
          some request) :
    ∀ opening ∈ openings, good opening.toSpot →
      ∃ twin ∈ openings', twin.toSpot = opening.toSpot := by
  intro opening member holds
  induction id : opening.id using Nat.strong_induction_on generalizing opening with
  | _ number ih =>
    subst id
    cases faithful.derived opening member with
    | root kind => exact roots opening member kind
    | below parent inside earlier kind _ _ further first =>
      obtain ⟨segment, path⟩ := further
      rw [path] at first
      obtain ⟨above, first⟩ := step parent inside segment _ first holds
      obtain ⟨twin, listed, same⟩ := ih parent.id earlier parent inside above rfl
      rw [← same] at first
      obtain ⟨target, listed', place, kind', -⟩ :=
        complete.target wellFormed listed (List.mem_of_find?_eq_some first)
      have place' : target.path = twin.path ++ [segment] := by
        rw [place, path, congrArg Spot.path same]
      have first' := (complete.child_at short listed listed' kind' place').2
      rw [place', first] at first'
      exact ⟨target, listed', (Option.some.inj first').symm⟩

theorem Rooted.exists_twin {spot : Spot} (rooted : Rooted spot openings)
    (rooted' : Rooted spot openings') :
    ∀ root ∈ openings, root.kind = .root → ∃ twin ∈ openings', twin.toSpot = root.toSpot := by
  intro root member kind
  obtain ⟨name, planted⟩ := rooted'.exists_planted
  exact ⟨_, planted, (rooted.toSpot member kind).symm⟩

end Histories

theorem Faithful.depth_le_bound {schema : Schema} {bound : Nat} {openings : List Opening}
    {others : List (List String × String)} {workspace : Workspace}
    (faithful : Faithful ⟨schema, some bound⟩ openings others workspace)
    (roots : ∀ root ∈ openings, root.kind = .root → root.depth ≤ bound) :
    ∀ opening ∈ openings, opening.depth ≤ bound :=
  have step (spot request : Spot) (within : spot.depth ≤ bound)
      (requested : request ∈ Traversal.requests ⟨schema, some bound⟩ spot) : request.depth ≤ bound :=
    Traversal.depth_le_of_mem_requests within requested
  faithful.forall_of_requests roots step

section Bound

variable {schema : Schema} {bound : Nat} {openings cutOpenings : List Opening}
  {whole cut : Workspace} {spot : Spot} (wellFormed : schema.WellFormed)
  (apart : schema.InterfacesApart) (rooted : Rooted spot openings)
  (rooted' : Rooted spot cutOpenings) (single : spot.path.length = 1)
include wellFormed apart rooted rooted' single

/-- What is opened without a bound, and is no deeper, is opened within the bound as well. -/
theorem Faithful.exists_twin_within (faithful : Faithful ⟨schema, none⟩ openings [] whole)
    (complete : Complete ⟨schema, some bound⟩ cutOpenings [] cut) {opening : Opening}
    (member : opening ∈ openings) (within : opening.depth ≤ bound) :
    ∃ twin ∈ cutOpenings, twin.toSpot = opening.toSpot := by
  refine faithful.exists_twin complete wellFormed (rooted'.short single) (fun spot =>
    spot.depth ≤ bound) (rooted.exists_twin rooted') ?_ opening member within
  intro parent inside segment request first shallow
  have depth := Traversal.depth_of_mem_requests (List.mem_of_find?_eq_some first)
  have above : parent.depth ≤ bound := by split at depth <;> omega
  exact ⟨above, (Traversal.find?_requests_within apart (faithful.grounded parent inside) above
    fun _ passed => faithful.ne_of_trail inside passed segment).mpr ⟨first, shallow⟩⟩

/-- What is opened within a bound is no deeper, and is opened without one as well. -/
theorem Faithful.exists_twin_without (faithful : Faithful ⟨schema, some bound⟩ cutOpenings [] cut)
    (complete : Complete ⟨schema, none⟩ openings [] whole) (top : spot.depth ≤ bound)
    {opening : Opening} (member : opening ∈ cutOpenings) :
    opening.depth ≤ bound ∧ ∃ twin ∈ openings, twin.toSpot = opening.toSpot := by
  have within : ∀ opening ∈ cutOpenings, opening.depth ≤ bound :=
    faithful.depth_le_bound fun root inside kind => by rwa [rooted'.toSpot inside kind]
  refine ⟨within opening member, faithful.exists_twin complete wellFormed (rooted.short single)
    (fun _ => True) (rooted'.exists_twin rooted) ?_ opening member trivial⟩
  intro parent inside segment request first _
  exact ⟨trivial, ((Traversal.find?_requests_within apart (faithful.grounded parent inside)
    (within parent inside) fun _ passed => faithful.ne_of_trail inside passed segment).mp first).1⟩

/-- Two complete histories from one root are related by the bound. -/
theorem Complete.cutOf (complete : Complete ⟨schema, none⟩ openings [] whole)
    (complete' : Complete ⟨schema, some bound⟩ cutOpenings [] cut) (top : spot.depth ≤ bound)
    (unfiltered : spot.Unfiltered) : cut.forest.CutOf schema bound whole.forest := by
  have plain : ∀ opening ∈ openings, opening.Unfiltered := by
    refine complete.forall_of_requests ?_ fun _ _ unfiltered requested =>
      unfiltered.request requested
    intro root member kind
    rwa [rooted.toSpot member kind]
  have same {opening twin : Opening} (member : opening ∈ openings) (member' : twin ∈ cutOpenings)
      (alike : twin.toSpot = opening.toSpot) (within : opening.depth ≤ bound) :
      cut.forest.portrait (Traversal.render ⟨schema, some bound⟩ cut.linkAt twin) =
        (whole.forest.portrait (Traversal.render ⟨schema, none⟩ whole.linkAt opening)).cutAt
          schema bound := by
    rw [complete'.portrait_render wellFormed member', complete.portrait_render wellFormed member,
      alike, Traversal.portraitAt_within (plain opening member) within]
  refine ⟨⟨complete'.nodup_paths (rooted'.short single),
      complete.nodup_paths (rooted.short single)⟩,
    ⟨complete'.whole_of_mem_nodes wellFormed, complete.whole_of_mem_nodes wellFormed⟩,
    fun node listed within => ?_, fun node listed => ?_⟩
  · obtain ⟨opening, member, rfl⟩ := complete.mem_nodes.mp listed
    obtain ⟨twin, member', alike⟩ :=
      complete.exists_twin_within wellFormed apart rooted rooted' single complete' member within
    exact ⟨_, complete'.mem_nodes.mpr ⟨twin, member', rfl⟩, same member member' alike within⟩
  · obtain ⟨twin, member', rfl⟩ := complete'.mem_nodes.mp listed
    obtain ⟨within, opening, member, alike⟩ :=
      complete'.exists_twin_without wellFormed apart rooted rooted' single complete top member'
    have within : opening.depth ≤ bound := (congrArg Spot.depth alike).trans_le within
    exact ⟨_, complete.mem_nodes.mpr ⟨opening, member, rfl⟩, within,
      same member member' alike.symm within⟩

end Bound

theorem Traversal.root_of_leaf {schema : Schema} {field : FieldDefinition}
    (leads : schema.target field = .ok .leaf) (maxDepth : Option Nat) (filter : Option Filter)
    (workspace : Workspace) :
    (root ⟨schema, maxDepth⟩ field filter).outcome workspace = (.ok none, workspace) := by
  unfold root rootAt
  rw [leads]
  rfl

/-- If a root field is projected without a filter and without a bound, it is projected under any
bound, and the bound only cuts. -/
theorem Traversal.cut_of_root {texts : List String} {reading : Settings} {schema : Schema}
    (read : Schema.ofDocuments texts reading = .ok schema) (acyclic : schema.UnionsAcyclic)
    (apart : schema.InterfacesApart) {type : TypeDefinition} (known : type ∈ schema.types)
    {field : FieldDefinition} (declared : field ∈ type.fields) (bound : Nat) {abbreviated : Bool}
    {result : Option NodeId} {later : Workspace}
    (ran : (root ⟨schema, none⟩ field none).outcome (.empty abbreviated) = (.ok result, later)) :
    ∃ cut, (root ⟨schema, some bound⟩ field none).outcome (.empty abbreviated) =
      (.ok result, cut) ∧ cut.forest.CutOf schema bound later.forest := by
  have wellFormed := Schema.wellFormed_of_ofDocuments read
  rcases history_of_root wellFormed known declared ran with
    ⟨leaf, rfl, rfl⟩ | ⟨start, openings, leads, rfl, rooted, complete⟩
  · have empty : (Workspace.empty abbreviated).forest.nodes = [] := rfl
    refine ⟨_, root_of_leaf leaf (some bound) none _, ?_⟩
    constructor <;> simp [empty]
  · rcases ran' : (root ⟨schema, some bound⟩ field none).outcome (.empty abbreviated) with
      ⟨ended, cut⟩
    cases ended with
    | ok result =>
      rcases history_of_root wellFormed known declared ran' with
        ⟨leaf, -⟩ | ⟨start', cutOpenings, leads', rfl, rooted', complete'⟩
      · cases leads.symm.trans leaf
      · cases leads.symm.trans leads'
        exact ⟨cut, rfl, complete.cutOf wellFormed apart rooted rooted' rfl complete'
          (Nat.zero_le _) rfl⟩
    | error fault =>
      -- The projection that the bounded run fails at has a twin without a bound, which is filled.
      exfalso
      rcases blamed_of_root wellFormed known declared ran' with
        unresolved | ⟨start', cutOpenings, leads', rooted', faithful, blamed⟩
      · cases leads.symm.trans unresolved
      · cases leads.symm.trans leads'
        cases blamed with
        | unresolved member inside selected unresolved =>
          obtain ⟨-, twin, member', alike⟩ := faithful.exists_twin_without wellFormed apart rooted
            rooted' rfl complete (Nat.zero_le _) member
          have resolves := (complete.settled member').1
          rw [alike] at resolves
          obtain ⟨target, resolved⟩ := resolves _ inside selected
          cases resolved.symm.trans unresolved
        | endlessUnion type =>
          have ends : ¬Exhausts (rootAt ⟨schema, some bound⟩ [field.name] field none)
              (.empty abbreviated) := (rootAt_ends acyclic _ _ _).1
          exact ends ⟨type, congrArg Prod.fst ran'⟩

def serialDocument : String :=
  "type Query \x7b part: Part \x7d
  interface Part \x7b next: Part \x7d
  type Show implements Part \x7b title(length: Int): String next: Part \x7d"

/-- The bound cuts off the arguments of the titles further down. -/
theorem Traversal.cut_serialDocument : ∃ schema owner field start id later,
    Schema.ofDocuments [serialDocument] .standard = .ok schema ∧ schema.UnionsAcyclic ∧
      schema.InterfacesApart ∧ owner ∈ schema.types ∧ field ∈ owner.fields ∧
      schema.target field = .ok (.composite start) ∧ start.isInterface = true ∧
      (root ⟨schema, none⟩ field none).outcome (.empty false) = (.ok (some id), later) ∧
      (∃ node ∈ later.forest.nodes, node.kind = .argumentWrapper ∧ 1 < node.depth) ∧
      ∃ cut, (root ⟨schema, some 1⟩ field none).outcome (.empty false) = (.ok (some id), cut) ∧
        cut.forest.CutOf schema 1 later.forest := by
  obtain ⟨schema, owner, field, start, id, later, read, known, declared, leads, ran, facts⟩ :=
    exists_first_root serialDocument (fun schema start forest _ =>
      decide (schema.InterfacesApart ∧ (∀ type ∈ schema.types, type.isUnion = false) ∧
        start.isInterface = true ∧
        ∃ node ∈ forest.nodes, node.kind = .argumentWrapper ∧ 1 < node.depth))
      (by decide +kernel)
  obtain ⟨apart, simple, isInterface, deep⟩ := of_decide_eq_true facts
  have acyclic : schema.UnionsAcyclic :=
    Schema.unionsAcyclic_of_rank (fun _ => 0) fun outer inside isUnion =>
      absurd (isUnion.symm.trans (simple outer inside)) (by decide)
  exact ⟨schema, owner, field, start, id, later, read, acyclic, apart, known, declared, leads,
    isInterface, ran, deep, cut_of_root read acyclic apart known declared 1 ran⟩

end GraphQLProjections
