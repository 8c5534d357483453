import GraphQLProjections.Proofs.Generation.Run

/-! Class names never collide. Every class is named after a path and a suffix of its own, and a name
belongs to one path and one suffix, so generation cannot fail by a collision of names. -/
namespace GraphQLProjections

open Generation

namespace Output

theorem repeatedName?_eq_none {names : List String} (distinct : names.Nodup)
    {seen : Std.ExtTreeSet String} (unseen : ∀ name ∈ names, seen.contains name = false) :
    repeatedName? seen names = none := by
  induction names generalizing seen with
  | nil => rfl
  | cons name rest ih =>
    obtain ⟨apart, distinct⟩ := List.nodup_cons.mp distinct
    unfold repeatedName?
    rw [unseen name List.mem_cons_self]
    apply ih distinct
    intro other member
    rw [Std.ExtTreeSet.contains_insert, unseen other (List.mem_cons_of_mem _ member), Bool.or_false]
    have differs : name ≠ other := fun same => apart (same ▸ member)
    exact beq_false_of_ne fun same => differs (Std.LawfulEqCmp.eq_of_compare same)

theorem nodup_of_repeatedName? {names : List String} {seen : Std.ExtTreeSet String}
    (none : repeatedName? seen names = none) :
    names.Nodup ∧ ∀ name ∈ names, seen.contains name = false := by
  induction names generalizing seen with
  | nil => exact ⟨.nil, List.forall_mem_nil _⟩
  | cons name rest ih =>
    unfold repeatedName? at none
    split at none
    · cases none
    next unseen =>
      obtain ⟨distinct, apart⟩ := ih none
      have both : ∀ other ∈ rest, name ≠ other ∧ seen.contains other = false := by
        intro other member
        have absent := apart other member
        rw [Std.ExtTreeSet.contains_insert, Bool.or_eq_false_iff] at absent
        refine ⟨?_, absent.2⟩
        rintro rfl
        simp at absent
      refine ⟨List.nodup_cons.mpr ⟨fun member => (both name member).1 rfl, distinct⟩, ?_⟩
      exact List.forall_mem_cons.mpr ⟨Bool.eq_false_iff.mpr unseen,
        fun other member => (both other member).2⟩

end Output

/-- The names of distinct keys are distinct if no name belongs to two. -/
theorem nodup_of_named {α β : Type} {named : α → β → Prop} {keys : List α} {names : List β}
    (each : List.Forall₂ named keys names) (distinct : keys.Nodup)
    (owner : ∀ key key' name, named key name → named key' name → key = key') : names.Nodup := by
  induction each with
  | nil => exact .nil
  | @cons key name keys names first rest ih =>
    obtain ⟨apart, distinct⟩ := List.nodup_cons.mp distinct
    refine List.nodup_cons.mpr ⟨fun member => ?_, ih distinct⟩
    obtain ⟨index, inside, rfl⟩ := List.getElem_of_mem member
    have bound : index < keys.length := rest.length_eq ▸ inside
    have other := rest.get bound inside
    exact apart (owner _ _ _ first other ▸ List.getElem_mem bound)

def KeyNamed (names : NameSupply) (key : List String × String) (name : String) : Prop :=
  IsPlainPath key.1 ∧ names.nameOf? key.1 key.2 = some name

theorem KeyNamed.unique {names : NameSupply} (consistent : names.Consistent)
    {key key' : List String × String} {name : String} (named : KeyNamed names key name)
    (named' : KeyNamed names key' name) : key = key' := by
  obtain ⟨path, suffix⟩ := consistent.nameOf?_injective named.1 named'.1 named.2 named'.2
  exact Prod.ext path suffix

theorem plain_of_plan {settings : Settings} {schema : Schema} (wellFormed : schema.WellFormed)
    {selected : Option SelectedRoots} :
    ∀ path ∈ operationPaths settings schema selected, IsPlainPath path := by
  intro path member
  rcases List.mem_append.mp member with member | member
  · obtain ⟨⟨_, root⟩, planned, rfl⟩ := List.mem_map.mp member
    obtain ⟨inside, path⟩ := path_of_mem_plan planned
    obtain ⟨type, listed, -, declared, -⟩ := mem_rootFieldsOf.mp inside
    have plain := wellFormed.plain_field (mem_types_of_rootTypes listed) declared
    rcases path with path | ⟨-, path⟩
    · exact path ▸ .singleton plain
    · exact path ▸ (IsPlainPath.singleton (plain_text root.kind)).append plain
  · obtain ⟨spot, asked, rfl⟩ := List.mem_map.mp member
    obtain rfl := eq_of_mem_entitiesSpot? asked
    exact plain_entitiesPathAfter _

theorem nodup_operationPaths {settings : Settings} {schema : Schema}
    {selected : Option SelectedRoots} (fresh : Fresh [] (rootFields settings schema selected)) :
    (operationPaths settings schema selected).Nodup := by
  unfold operationPaths
  refine List.nodup_append.mpr ⟨fresh.nodup.1, ?_, ?_⟩
  · cases entitiesSpot? settings schema selected <;> simp
  · rintro _ member _ member' rfl
    obtain ⟨⟨path, root⟩, planned, rfl⟩ := List.mem_map.mp member
    obtain ⟨spot, asked, same⟩ := List.mem_map.mp member'
    have free := entitiesPathAfter_notMem (rootFields settings schema selected)
    obtain rfl := eq_of_mem_entitiesSpot? asked
    rw [show entitiesPathAfter _ = path from same] at free
    exact free (mem_takenAfter.mpr (.inr ⟨root, planned⟩))

def classKeys (settings : Settings) (schema : Schema) (selected : Option SelectedRoots)
    (openings : List Opening) (representations : List Representation) :
    List (List String × String) :=
  ((openings.map fun opening => (opening.path, opening.suffix)) ++
      representations.map fun representation => Representation.key representation.type) ++
    (operationPaths settings schema selected).map (·, NameSupply.querySuffix)

section

variable {settings : Settings} {schema : Schema} {selected : Option SelectedRoots}
  {openings : List Opening} {operations : List OperationDescriptor}
  {representations : List Representation} {workspace : Workspace}
  (carried : Carried settings schema selected openings operations representations workspace)
include carried

/-- Every class of a run is named after its path and suffix. -/
theorem classKeys_named (wellFormed : schema.WellFormed) (constants : List ConstantTable) :
    List.Forall₂ (KeyNamed workspace.names)
      (classKeys settings schema selected openings representations)
      (Output.classNames ⟨operations, workspace.forest.nodes, representations, constants⟩) := by
  obtain ⟨others, paths, standing⟩ := carried.standing
  have complete := standing.complete
  have projections : List.Forall₂ (KeyNamed workspace.names)
      (openings.map fun opening => (opening.path, opening.suffix)) (openings.map (·.name)) := by
    rw [List.forall₂_map_left_iff, List.forall₂_map_right_iff, List.forall₂_same]
    exact fun opening member =>
      ⟨(complete.grounded opening member).path, complete.named opening member⟩
  have entities : List.Forall₂ (KeyNamed workspace.names)
      (representations.map fun representation => Representation.key representation.type)
      (representations.map (·.name)) := by
    rw [List.forall₂_map_left_iff, List.forall₂_map_right_iff, List.forall₂_same]
    exact fun representation member =>
      ⟨.singleton (carried.representations.plain representation member),
        carried.representations.named representation member⟩
  have queries : List.Forall₂ (KeyNamed workspace.names)
      ((operationPaths settings schema selected).map (·, NameSupply.querySuffix))
      (operations.map (·.name)) := by
    rw [List.forall₂_map_left_iff, List.forall₂_map_right_iff]
    exact (List.forall₂_and_left _ _).mpr ⟨plain_of_plan wellFormed, carried.named⟩
  simpa only [classKeys, Output.classNames, Output.projectionNames, Output.representationNames,
    complete.nodes_eq, List.map_map, Function.comp_def, Traversal.render, Opening.site] using
    List.rel_append (List.rel_append projections entities) queries

theorem nodup_classKeys : (classKeys settings schema selected openings representations).Nodup := by
  obtain ⟨others, paths, standing⟩ := carried.standing
  have complete := standing.complete
  have opened : (openings.map fun opening => (opening.path, opening.suffix)).Nodup := by
    apply (List.nodup_map_iff_inj_on complete.nodup).mpr
    intro opening member other member' same
    obtain ⟨path, suffix⟩ := Prod.mk.inj same
    exact complete.eq_of_path member member' path suffix
  have represented : (representations.map fun representation =>
      Representation.key representation.type).Nodup := by
    have key : Function.Injective Representation.key := fun type other same =>
      List.singleton_injective (Prod.mk.inj same).1
    simpa only [List.map_map, Function.comp_def] using
      carried.representations.distinct.map key
  have planned : ((operationPaths settings schema selected).map
      (·, NameSupply.querySuffix)).Nodup :=
    (nodup_operationPaths carried.fresh).map fun path other same => (Prod.mk.inj same).1
  -- The suffixes tell the three kinds of classes apart.
  refine List.nodup_append.mpr ⟨List.nodup_append.mpr ⟨opened, represented, ?_⟩, planned, ?_⟩
  · rintro _ member _ member' rfl
    obtain ⟨opening, -, rfl⟩ := List.mem_map.mp member
    obtain ⟨representation, -, same⟩ := List.mem_map.mp member'
    have suffix : opening.suffix = NameSupply.representationSuffix := (congrArg Prod.snd same).symm
    exact opening.suffix_ne (by decide) (by decide) suffix
  · rintro _ member _ member' rfl
    obtain ⟨path, -, same⟩ := List.mem_map.mp member'
    rcases List.mem_append.mp member with member | member
    · obtain ⟨opening, -, rfl⟩ := List.mem_map.mp member
      have suffix : opening.suffix = NameSupply.querySuffix := (congrArg Prod.snd same).symm
      exact opening.suffix_ne (by decide) (by decide) suffix
    · obtain ⟨representation, -, rfl⟩ := List.mem_map.mp member
      have suffix : NameSupply.querySuffix = NameSupply.representationSuffix :=
        congrArg Prod.snd same
      exact absurd suffix (by decide)

end

theorem nodup_classNames {settings : Settings} {schema : Schema} (wellFormed : schema.WellFormed)
    {selected : Option SelectedRoots} {openings : List Opening}
    {operations : List OperationDescriptor} {representations : List Representation}
    {workspace : Workspace}
    (carried : Carried settings schema selected openings operations representations workspace)
    (constants : List ConstantTable) :
    (Output.classNames ⟨operations, workspace.forest.nodes, representations, constants⟩).Nodup := by
  obtain ⟨others, paths, standing⟩ := carried.standing
  exact nodup_of_named (classKeys_named carried wellFormed constants) (nodup_classKeys carried)
    fun key key' name => KeyNamed.unique standing.complete.consistent

/-- Generation never fails by a collision of names. -/
theorem generate_ne_nameCollision {texts : List String} {reading settings : Settings}
    {schema : Schema} (read : Schema.ofDocuments texts reading = .ok schema)
    (distinct : ∀ kind type, (kind, type) ∈ schema.rootTypes → (type.fields.map (·.name)).Nodup)
    (selected : Option SelectedRoots) (name : String) :
    generate settings schema selected ≠ .error (.nameCollision name) := by
  have wellFormed := Schema.wellFormed_of_ofDocuments read
  have fresh := fresh_rootFields settings selected distinct
  intro collides
  unfold generate at collides
  cases keeping : scope settings selected with
  | error fault =>
    simp only [keeping, bind, Except.bind, Except.error.injEq] at collides
    unfold scope at keeping
    split at keeping
    · split at keeping
      · cases keeping
      · rw [collides] at keeping
        cases keeping
    · cases keeping
  | ok kept =>
    obtain rfl := scope_eq keeping
    rcases ran : (run settings schema (keptRoots settings selected)).outcome
      (.empty settings.shortNames) with ⟨result, workspace⟩
    cases result with
    | error fault =>
      simp only [keeping, ran, bind, Except.bind, Except.error.injEq] at collides
      rcases (run_ensures wellFormed).of_error ran with other | stale
      · exact other name collides
      · exact stale fresh
    | ok produced =>
      obtain ⟨openings, carried⟩ := (run_ensures wellFormed).of_ok ran
      have unique : Output.repeatedName? ∅ _ = none := Output.repeatedName?_eq_none
        (nodup_classNames wellFormed carried (ConstantTable.ofSchema schema)) (by simp)
      simp only [keeping, ran, bind, Except.bind, unique] at collides
      cases collides

def sharedNamesDocument : String :=
  "type Query \x7b entities: Show show: Show mutation: Show \x7d
  type Mutation \x7b show: Show entities: Show \x7d
  type Show @key(fields: \"id\") \x7b id: ID show: Show \x7d"

theorem generate_ne_nameCollision_sharedNamesDocument :
    ∃ schema, Schema.ofDocuments [sharedNamesDocument] .standard = .ok schema ∧
      (∀ kind type, (kind, type) ∈ schema.rootTypes → (type.fields.map (·.name)).Nodup) ∧
      ∀ name, generate .standard schema none ≠ .error (.nameCollision name) := by
  have holds : (Schema.ofDocuments [sharedNamesDocument] .standard).toOption.any (fun schema =>
      decide (∀ entry ∈ schema.rootTypes, (entry.2.fields.map (·.name)).Nodup)) = true := by
    decide +kernel
  cases read : Schema.ofDocuments [sharedNamesDocument] .standard with
  | error fault =>
    rw [read] at holds
    cases holds
  | ok schema =>
    rw [read] at holds
    have distinct (kind : OperationKind) (type : TypeDefinition)
        (listed : (kind, type) ∈ schema.rootTypes) : (type.fields.map (·.name)).Nodup :=
      of_decide_eq_true holds (kind, type) listed
    exact ⟨schema, rfl, distinct, generate_ne_nameCollision read distinct none⟩

end GraphQLProjections
