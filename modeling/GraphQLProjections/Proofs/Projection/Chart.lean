import Mathlib.Data.List.Dedup
import GraphQLProjections.Proofs.Projection.History

/-! Charts of the way down. The chart of a node lists the fields that were passed on the way down to
it, with the types they lead to. A node stands as deep as its chart is long, and as no chart passes
a field to the same type twice, it is no longer than the schema has such pairs. -/
namespace GraphQLProjections

/-- Fields by their name and the type they lead to. -/
abbrev Chart := List (String × String)

namespace Schema

def fieldPairs (schema : Schema) : Chart :=
  schema.types.flatMap fun owner => owner.fields.filterMap fun field =>
    match schema.target field with
    | .ok (.composite type) => some (field.name, type.name)
    | _ => none

variable {schema : Schema}

theorem mem_fieldPairs {owner type : TypeDefinition} {field : FieldDefinition}
    (known : owner ∈ schema.types) (declared : field ∈ owner.fields)
    (leads : schema.target field = .ok (.composite type)) :
    (field.name, type.name) ∈ schema.fieldPairs := by
  refine List.mem_flatMap.mpr ⟨owner, known, List.mem_filterMap.mpr ⟨field, declared, ?_⟩⟩
  rw [leads]

theorem length_fieldPairs_le : schema.fieldPairs.length ≤ Traversal.fieldCount schema := by
  have each (types : List TypeDefinition) (total : Nat) :
      total + (types.flatMap fun owner => owner.fields.filterMap fun field =>
        match schema.target field with
        | .ok (.composite type) => some (field.name, type.name)
        | _ => none).length ≤
      types.foldl (fun total type => total + type.fields.length) total := by
    induction types generalizing total with
    | nil => simp
    | cons owner rest ih =>
      rw [List.flatMap_cons, List.length_append, List.foldl_cons, ← Nat.add_assoc]
      refine Nat.le_trans (Nat.add_le_add_right (Nat.add_le_add_left ?_ _) _) (ih _)
      exact List.length_filterMap_le _ _
  simpa [fieldPairs, Traversal.fieldCount] using each schema.types 0

theorem length_le_of_nodup {chart : Chart} (distinct : chart.Nodup)
    (within : chart ⊆ schema.fieldPairs) : chart.length ≤ schema.fieldPairs.dedup.length :=
  (List.subperm_of_subset distinct fun _ member => List.mem_dedup.mpr (within member)).length_le

end Schema

/-- A site has the depth of its chart, which is that of its parent and, if the site is for a field,
that field. -/
structure Fits (base : NodeId) (charts : List Chart) (site : Site) (type : String)
    (chart : Chart) : Prop where
  depth : site.kind ≠ .argumentWrapper → site.depth = chart.length
  chain : site.parent = none ∧ site.kind ≠ .sub ∨
    ∃ parent above, site.parent = some parent ∧ base ≤ parent ∧ charts[parent]? = some above ∧
      chart = if site.kind = .sub then above ++ [(site.lastSegment, type)] else above

/-- Each node from a base on has a chart without repetitions, which it fits. -/
structure Charted (schema : Schema) (base : NodeId) (charts : List Chart)
    (forest : Forest) : Prop where
  size : forest.size = charts.length
  distinct : ∀ chart ∈ charts, chart.Nodup
  within : ∀ chart ∈ charts, chart ⊆ schema.fieldPairs
  fits : ∀ id node, base ≤ id → forest.node? id = some node →
    ∃ chart, charts[id]? = some chart ∧ Fits base charts node.toSite node.type chart

namespace Fits

variable {base : NodeId} {charts : List Chart} {site : Site} {type : String} {chart : Chart}

theorem grown (fits : Fits base charts site type chart) (new : List Chart) :
    Fits base (charts ++ new) site type chart := by
  refine ⟨fits.depth, fits.chain.imp_right ?_⟩
  rintro ⟨parent, above, linked, later, known, drawn⟩
  have inside := (List.getElem?_eq_some_iff.mp known).1
  exact ⟨parent, above, linked, later, (List.getElem?_append_left inside).trans known, drawn⟩

end Fits

namespace Charted

variable {schema : Schema} {base : NodeId} {charts : List Chart} {forest : Forest}

theorem start (schema : Schema) (forest : Forest) :
    Charted schema forest.size (List.replicate forest.size []) forest where
  size := by simp
  distinct := by simp
  within := by simp
  fits := by
    intro id node later held
    have outside : forest.slots[id]? = none := Array.getElem?_eq_none later
    simp [Forest.node?, outside] at held

theorem opened (charted : Charted schema base charts forest) {chart : Chart}
    (distinct : chart.Nodup) (within : chart ⊆ schema.fieldPairs) (name : String) :
    Charted schema base (charts ++ [chart]) (forest.opened name) where
  size := by simp [charted.size]
  distinct := List.forall_mem_append.mpr ⟨charted.distinct, by simpa using distinct⟩
  within := List.forall_mem_append.mpr ⟨charted.within, by simpa using within⟩
  fits := by
    intro id node later held
    rw [Forest.node?_opened] at held
    obtain ⟨old, known, fits⟩ := charted.fits id node later held
    have inside := (List.getElem?_eq_some_iff.mp known).1
    exact ⟨old, (List.getElem?_append_left inside).trans known, fits.grown _⟩

theorem filled (charted : Charted schema base charts forest) {node : ProjectionNode}
    {chart : Chart} (known : charts[node.id]? = some chart)
    (fits : Fits base charts node.toSite node.type chart) :
    Charted schema base charts (forest.filled node) where
  size := by simp [charted.size]
  distinct := charted.distinct
  within := charted.within
  fits := by
    intro id other later held
    rw [Forest.node?_filled] at held
    split at held
    next here =>
      obtain rfl := Option.some.inj held
      exact ⟨chart, here.1 ▸ known, fits⟩
    next => exact charted.fits id other later held

end Charted

/-! ### Lines of ancestors -/

/-- A line of nodes, each of which is the parent of the one before. -/
inductive Forest.Lineage (forest : Forest) : NodeId → List ProjectionNode → Prop
  | last {id : NodeId} {node : ProjectionNode} (held : forest.node? id = some node) :
      forest.Lineage id [node]
  | up {id parent : NodeId} {node : ProjectionNode} {ancestors : List ProjectionNode}
      (held : forest.node? id = some node) (linked : node.parent = some parent)
      (above : forest.Lineage parent ancestors) : forest.Lineage id (node :: ancestors)

def fieldsAlong (line : List ProjectionNode) : Chart :=
  (line.filter (·.kind == .sub)).map fun node => (node.lastSegment, node.type)

theorem fieldsAlong_cons (node : ProjectionNode) (line : List ProjectionNode) :
    fieldsAlong (node :: line) =
      if node.kind = .sub then (node.lastSegment, node.type) :: fieldsAlong line
      else fieldsAlong line := by
  unfold fieldsAlong
  rw [List.filter_cons]
  by_cases sub : node.kind = .sub <;> simp [sub]

namespace Charted

variable {schema : Schema} {base : NodeId} {charts : List Chart} {forest : Forest}

/-- The chart of a node ends with the fields of any line from it upwards. -/
theorem fieldsAlong_suffix (charted : Charted schema base charts forest) {id : NodeId}
    {line : List ProjectionNode} (lineage : forest.Lineage id line) (later : base ≤ id)
    {chart : Chart} (known : charts[id]? = some chart) :
    (fieldsAlong line).reverse <:+ chart := by
  induction lineage generalizing chart with
  | last held =>
    obtain ⟨_, known', fits⟩ := charted.fits _ _ later held
    obtain rfl := Option.some.inj (known.symm.trans known')
    rw [fieldsAlong_cons]
    split
    next sub =>
      rcases fits.chain with ⟨-, other⟩ | ⟨parent, above, -, -, -, rfl⟩
      · exact absurd sub other
      · rw [if_pos sub]
        exact List.suffix_append _ _
    next => exact List.nil_suffix
  | up held linked lineage ih =>
    obtain ⟨_, known', fits⟩ := charted.fits _ _ later held
    obtain rfl := Option.some.inj (known.symm.trans known')
    rcases fits.chain with ⟨orphan, -⟩ | ⟨parent, above, linked', later', known'', rfl⟩
    · exact absurd (orphan.symm.trans linked) (by simp)
    · obtain rfl := Option.some.inj (linked.symm.trans linked')
      have front := ih later' known''
      rw [fieldsAlong_cons]
      split
      next =>
        rw [List.reverse_cons]
        obtain ⟨before, rfl⟩ := front
        exact ⟨before, (List.append_assoc _ _ _).symm⟩
      next => exact front

/-- No line of ancestors passes a field to the same type twice. -/
theorem nodup_fieldsAlong (charted : Charted schema base charts forest) {id : NodeId}
    {line : List ProjectionNode} (lineage : forest.Lineage id line) (later : base ≤ id) :
    (fieldsAlong line).Nodup := by
  obtain ⟨node, held⟩ : ∃ node, forest.node? id = some node := by
    cases lineage with
    | last held => exact ⟨_, held⟩
    | up held => exact ⟨_, held⟩
  obtain ⟨chart, known, -⟩ := charted.fits id node later held
  have distinct := charted.distinct chart (List.mem_of_getElem? known)
  exact List.nodup_reverse.mp
    (distinct.sublist (charted.fieldsAlong_suffix lineage later known).sublist)

theorem depth_le (charted : Charted schema base charts forest) {id : NodeId}
    {node : ProjectionNode} (later : base ≤ id) (held : forest.node? id = some node)
    (kind : node.kind ≠ .argumentWrapper) :
    node.depth ≤ schema.fieldPairs.dedup.length := by
  obtain ⟨chart, known, fits⟩ := charted.fits id node later held
  have member := List.mem_of_getElem? known
  rw [fits.depth kind]
  exact Schema.length_le_of_nodup (charted.distinct chart member) (charted.within chart member)

end Charted
end GraphQLProjections
