import GraphQLProjections.Proofs.Generation.Operations
import GraphQLProjections.Proofs.Operation.Selected

/-! Soundness of generation for defined operations: a method below a root field is there only if one
operation selects its field at the end of all the fields that lead there. Merged and narrowed filters
select no word that none of the operations has. -/
namespace GraphQLProjections

open Selection SelectedRoots Generation

def fieldNames (word : List SelectionStep) : List String :=
  word.filterMap fun step => match step with
    | .field name => some name
    | .fragment _ => none

@[simp] theorem fieldNames_append (front back : List SelectionStep) :
    fieldNames (front ++ back) = fieldNames front ++ fieldNames back := by
  simp [fieldNames]

@[simp] theorem fieldNames_field (name : String) : fieldNames [.field name] = [name] := rfl

@[simp] theorem fieldNames_fragment (type : String) : fieldNames [.fragment type] = [] := rfl

/-! ### Filters below a filter -/

/-- Whatever a filter selects, another selects it after passing some fields. -/
structure Filter.Under (top : Filter) (fields : List String) (filter : Filter) : Prop where
  distinct : filter.Distinct
  has : ∀ word, filter.Has word → ∃ front, top.Has (front ++ word) ∧ fieldNames front = fields

namespace Filter.Under

variable {top filter child : Filter} {fields : List String}

theorem refl (distinct : top.Distinct) : top.Under [] top :=
  ⟨distinct, fun _ has => ⟨[], has, rfl⟩⟩

/-- One step down passes the field of the step, if it is one into a field. -/
theorem step (under : top.Under fields filter) (step : SelectionStep)
    (found : filter.step? step = some child) : top.Under (fields ++ fieldNames [step]) child := by
  refine ⟨under.distinct.step step found, fun word has => ?_⟩
  obtain ⟨front, has, names⟩ := under.has (step :: word) ⟨child, found, has⟩
  exact ⟨front ++ [step], by simpa using has, by rw [fieldNames_append, names]⟩

/-- Narrowing adds nothing that is not selected in a fragment. -/
theorem narrowed (under : top.Under fields filter) (type : String) :
    top.Under fields (filter.narrowed type) := by
  refine ⟨under.distinct.narrowed type, fun word has => ?_⟩
  rcases has_of_has_narrowed under.distinct has with has | has
  · exact under.has word has
  · obtain ⟨front, has, names⟩ := under.has _ has
    exact ⟨front ++ [.fragment type], by simpa using has, by simp [names]⟩

end Filter.Under

/-! ### Projections below a filter -/

def Purpose.Under (top : Filter) (fields : List String) : Purpose → Prop
  | .type _ _ (some filter) => top.Under fields filter
  | .arguments _ => True
  | _ => False

/-- A purpose under a filter has parts only within the scope of a filter that is under it too. -/
theorem Purpose.Under.parts {top : Filter} {fields : List String} {purpose : Purpose}
    (under : purpose.Under top fields) :
    (purpose.fields = [] ∧ ∀ schema, purpose.types schema = []) ∨
      ∃ scope, purpose.scope = some scope ∧ top.Under fields scope := by
  cases purpose with
  | arguments field => exact .inl ⟨rfl, fun _ => rfl⟩
  | entities types => exact under.elim
  | type type trail filter =>
    cases filter with
    | none => exact under.elim
    | some filter => exact .inr ⟨_, rfl, Filter.Under.narrowed under type.name⟩

/-- The field that a projection is for, if it is the projection of a composite field. -/
def Spot.ownField (spot : Spot) : List String :=
  if spot.kind = .sub then [spot.path.getLastD ""] else []

namespace Traversal

variable {traversal : Traversal} {spot request : Spot} {top : Filter} {fields : List String}

/-- What is requested passes the field that it is for. -/
theorem under_of_request (under : spot.purpose.Under top fields)
    (requested : request ∈ traversal.requests spot) :
    request.purpose.Under top (fields ++ request.ownField) := by
  rcases under.parts with ⟨noFields, noTypes⟩ | ⟨scope, scopeOf, under⟩
  · simp [requests, noFields, noTypes] at requested
  · rcases mem_requests.mp requested with ⟨field, -, made⟩ | ⟨type, -, made⟩
    · obtain ⟨filter, selected, -, ⟨-, -, rfl⟩ | ⟨type, -, rfl⟩⟩ := requestOfField_eq_some.mp made
      · trivial
      · rw [scopeOf] at selected
        obtain ⟨child, found, rfl⟩ := Option.map_eq_some_iff.mp selected
        have below := under.step (.field field.name) found
        simpa [Spot.ownField, Spot.fieldPath, Purpose.Under] using below
    · obtain ⟨filter, selected, rfl⟩ := Option.map_eq_some_iff.mp made
      rw [scopeOf] at selected
      obtain ⟨child, found, rfl⟩ := Option.map_eq_some_iff.mp selected
      exact under.step (.fragment type.name) found

/-- The field of a method is selected after the fields that lead to the projection. -/
theorem selected_of_keepsField (under : spot.purpose.Under top fields) {field : FieldDefinition}
    (declared : field ∈ spot.purpose.fields) (kept : traversal.keepsField spot field = true) :
    ∃ word, top.Has word ∧ fieldNames word = fields ++ [field.name] := by
  rcases under.parts with ⟨noFields, -⟩ | ⟨scope, scopeOf, under⟩
  · simp [noFields] at declared
  · have selected := (Bool.and_eq_true _ _ ▸ kept).1
    rw [scopeOf] at selected
    obtain ⟨filter, selected⟩ := Option.isSome_iff_exists.mp selected
    obtain ⟨child, found, -⟩ := Option.map_eq_some_iff.mp selected
    obtain ⟨front, has, names⟩ := (under.step (.field field.name) found).has [] trivial
    exact ⟨front, by simpa using has, names⟩

end Traversal

/-! ### Fields that lead to a node -/

/-- The fields on the way from its root down to a node: those that the projections of fields above
it are for, and its own. -/
def Output.fieldsTo (output : Output) (node : ProjectionNode) : List String :=
  (match node.parent.bind (output.projections[·]?) with
    | none => []
    | some parent => if _earlier : parent.id < node.id then output.fieldsTo parent else []) ++
  if node.kind = .sub then [node.lastSegment] else []
termination_by node.id

section Openings

variable {traversal : Traversal} {openings : List Opening} {others : List (List String × String)}
  {workspace : Workspace} {output : Output}

namespace Faithful

variable (faithful : Faithful traversal openings others workspace)
include faithful

theorem fieldsTo_root {root : Opening} (member : root ∈ openings) (kind : root.kind = .root) :
    output.fieldsTo (traversal.render workspace.linkAt root) = [] := by
  have orphan : root.parent = none := by
    cases faithful.derived root member with
    | root _ parent => exact parent
    | below _ _ _ other => exact absurd kind other
  have kind' : (traversal.render workspace.linkAt root).kind = .root := kind
  have orphan' : (traversal.render workspace.linkAt root).parent = none := orphan
  rw [Output.fieldsTo, orphan', kind']
  rfl

variable (nodes : output.projections = openings.map (traversal.render workspace.linkAt))
include nodes

theorem fieldsTo_below {parent opening : Opening} (member : parent ∈ openings)
    (linked : opening.parent = some parent.id) (earlier : parent.id < opening.id) :
    output.fieldsTo (traversal.render workspace.linkAt opening) =
      output.fieldsTo (traversal.render workspace.linkAt parent) ++ opening.toSpot.ownField := by
  have linked' : (traversal.render workspace.linkAt opening).parent = some parent.id := linked
  have here : output.projections[parent.id]? =
      some (traversal.render workspace.linkAt parent) := by
    rw [nodes, List.getElem?_map, faithful.getElem?_id member]
    rfl
  have earlier' : (traversal.render workspace.linkAt parent).id <
      (traversal.render workspace.linkAt opening).id := earlier
  rw [Output.fieldsTo, linked', Option.bind_some, here]
  simp only [earlier', dite_true]
  rfl

/-- In the tree of a root with a filter, every projection is under that filter. -/
theorem under_root {root : Opening} (member : root ∈ openings) {top : Filter}
    (under : root.purpose.Under top []) {opening : Opening} (inside : opening ∈ openings)
    (tree : opening.root = root.id) : opening.purpose.Under top
      (output.fieldsTo (traversal.render workspace.linkAt opening)) := by
  induction id : opening.id using Nat.strong_induction_on generalizing opening with
  | h number ih =>
    cases faithful.derived opening inside with
    | root kind _ own =>
      obtain rfl := faithful.eq_of_id inside member (own.symm.trans tree)
      rwa [faithful.fieldsTo_root inside kind]
    | below parent inside' earlier _ linked shared _ first =>
      have above := ih parent.id (id ▸ earlier) inside' (shared.symm.trans tree) rfl
      rw [faithful.fieldsTo_below nodes inside' linked earlier]
      exact Traversal.under_of_request above (List.mem_of_find?_eq_some first)

end Faithful
end Openings

/-- Every method in the tree of a root field is selected in one operation of its kind, in one document,
after the fields that lead to its node. -/
def Output.Sound (output : Output) (settings : Settings) (schema : Schema)
    (documents : List (List ExecutableDefinition)) : Prop :=
  ∀ operation ∈ output.fieldOperations settings schema, ∀ root ∈ output.projections,
    operation.projectionRoot = some root.name → ∀ node ∈ output.projections, node.root = root.id →
      ∀ method ∈ node.methods, ∃ document ∈ documents, ∃ word,
        SelectedIn document operation.kind operation.field word ∧
          fieldNames word = output.fieldsTo node ++ [method.field.name]

namespace Generation

variable {settings : Settings} {schema : Schema} {output : Output}

/-- Whatever fragments the documents have, generation is sound for what they select. -/
theorem sound_of_selectedBy {documents : List (List ExecutableDefinition)}
    (wellFormed : schema.WellFormed) (definedOnly : settings.definedOnly = true)
    (ok : generate settings schema (some (selectedBy documents)) = .ok output) :
    output.Sound settings schema documents := by
  obtain ⟨openings, workspace, carried, nodes⟩ := carried_of_generate wellFormed ok
  obtain ⟨others, paths, standing⟩ := carried.standing
  have complete := standing.complete
  intro operation listed
  obtain ⟨⟨path, field⟩, planned, describes⟩ :=
    exists_left_of_forall₂ (carried.operations_split rfl).1 listed
  rw [nodes]
  refine List.forall_mem_map.mpr fun root member named => ?_
  refine List.forall_mem_map.mpr fun opening inside tree method made => ?_
  obtain ⟨target, leads⟩ := describes.resolved
  cases target with
  | leaf =>
    rw [describes.leaf leads] at named
    cases named
  | composite type =>
    obtain ⟨planted, member', spot, named'⟩ := describes.composite type leads
    obtain rfl := complete.eq_of_name member' member (Option.some.inj (named'.symm.trans named))
    obtain ⟨filter, filterOf, found⟩ := filter_of_planned definedOnly planned
    have top : planted.purpose.Under filter [] := by
      rw [show planted.purpose = _ from congrArg Spot.purpose spot, Traversal.rootSpot, filterOf]
      exact Filter.Under.refl ((selects_selectedBy documents).1.filter found)
    have under := complete.under_root nodes member top inside tree
    obtain ⟨declared, member'', made⟩ := List.mem_filterMap.mp made
    obtain ⟨kept, rfl⟩ := Traversal.methodAt_eq_some.mp made
    obtain ⟨word, has, names⟩ := Traversal.selected_of_keepsField under member'' kept
    obtain ⟨document, known, selected⟩ := selectedIn_of_selects ⟨filter, found, has⟩
    rw [describes.kind, describes.field]
    exact ⟨document, known, word, selected, names⟩

/-- Nothing is projected below a root field that no operation of the documents selects. -/
theorem sound_of_generate {texts queries : List String} {reading : Settings}
    (read : Schema.ofDocuments texts reading = .ok schema) (definedOnly : settings.definedOnly = true)
    {selected : SelectedRoots} (queried : SelectedRoots.ofDocuments queries = .ok selected)
    (ok : generate settings schema (some selected) = .ok output) :
    ∃ documents, queries.mapM SelectedRoots.readDocument = .ok documents ∧
      output.Sound settings schema documents := by
  unfold SelectedRoots.ofDocuments at queried
  cases parsed : queries.mapM SelectedRoots.readDocument with
  | error fault => simp [parsed, bind, Except.bind] at queried
  | ok documents =>
    rw [parsed] at queried
    obtain rfl := Except.ok.inj queried
    exact ⟨documents, rfl,
      sound_of_selectedBy (Schema.wellFormed_of_ofDocuments read) definedOnly ok⟩

theorem exists_read (settings : Settings) (text query : String)
    (good : Schema → SelectedRoots → Bool)
    (holds : (match Schema.ofDocuments [text] settings, SelectedRoots.ofDocuments [query] with
      | .ok schema, .ok selected => good schema selected
      | _, _ => false) = true) :
    ∃ schema selected, Schema.ofDocuments [text] settings = .ok schema ∧
      SelectedRoots.ofDocuments [query] = .ok selected ∧ good schema selected = true := by
  split at holds
  next schema selected read queried => exact ⟨schema, selected, read, queried, holds⟩
  next => cases holds

def queriedHas (settings : Settings) (text query : String) (good : Output → Bool) : Bool :=
  match Schema.ofDocuments [text] settings, SelectedRoots.ofDocuments [query] with
  | .ok schema, .ok selected =>
    match generate settings schema (some selected) with
    | .ok output => good output
    | .error _ => false
  | _, _ => false

theorem exists_queried (settings : Settings) (text query : String) (good : Output → Bool)
    (holds : queriedHas settings text query good = true) :
    ∃ schema selected output, Schema.ofDocuments [text] settings = .ok schema ∧
      SelectedRoots.ofDocuments [query] = .ok selected ∧
      generate settings schema (some selected) = .ok output ∧ good output = true := by
  obtain ⟨schema, selected, read, queried, holds⟩ := exists_read settings text query _ holds
  split at holds
  next output ok => exact ⟨schema, selected, output, read, queried, ok, holds⟩
  next => cases holds

def queriedSettings : Settings := { Settings.standard with definedOnly := true }

def chainedDocument : String :=
  "type Query \x7b show: Show \x7d type Show \x7b title: String next: Show \x7d"

def recursiveQuery : String :=
  "query \x7b show \x7b ...A \x7d \x7d
  fragment A on Show \x7b title next \x7b title ...A ...B \x7d \x7d"

theorem sound_recursiveQuery : ∃ schema selected output documents,
    Schema.ofDocuments [chainedDocument] queriedSettings = .ok schema ∧
      queriedSettings.definedOnly = true ∧
      SelectedRoots.ofDocuments [recursiveQuery] = .ok selected ∧
      generate queriedSettings schema (some selected) = .ok output ∧
      [recursiveQuery].mapM SelectedRoots.readDocument = .ok documents ∧
      (∃ node ∈ output.projections, node.kind = .sub ∧ node.methodNames = ["title"]) ∧
      output.Sound queriedSettings schema documents := by
  obtain ⟨schema, selected, output, read, queried, ok, found⟩ := exists_queried queriedSettings
    chainedDocument recursiveQuery (fun output => decide (∃ node ∈ output.projections,
      node.kind = .sub ∧ node.methodNames = ["title"])) (by decide +kernel)
  obtain ⟨documents, parsed, sound⟩ := sound_of_generate read rfl queried ok
  exact ⟨schema, selected, output, documents, read, rfl, queried, ok, parsed,
    of_decide_eq_true found, sound⟩

end Generation
end GraphQLProjections
