import Std.Data.ExtTreeMap
import GraphQLProjections.Projection.Node

/-! The forest of projections of a run. A node is opened when it is discovered and filled when all
below it is done; one whose construction failed stays open. -/
namespace GraphQLProjections

structure Forest where
  slots : Array (Option ProjectionNode)
  /-- The node that was opened last under a name. -/
  ids : Std.ExtTreeMap String NodeId
  deriving Repr, Inhabited

namespace Forest

def empty : Forest := ⟨#[], ∅⟩

def size (forest : Forest) : Nat := forest.slots.size

def isEmpty (forest : Forest) : Bool := forest.slots.isEmpty

def node? (forest : Forest) (id : NodeId) : Option ProjectionNode := (forest.slots[id]?).join

def id? (forest : Forest) (name : String) : Option NodeId := forest.ids[name]?

def nodeNamed? (forest : Forest) (name : String) : Option ProjectionNode :=
  (forest.id? name).bind forest.node?

def nodes (forest : Forest) : List ProjectionNode := forest.slots.toList.filterMap id

/-- The filled nodes below a root, itself included. -/
def tree (forest : Forest) (root : NodeId) : List ProjectionNode :=
  forest.nodes.filter (·.root == root)

/-- Open a node; its number is the size of the forest before. -/
def opened (forest : Forest) (name : String) : Forest :=
  ⟨forest.slots.push none, forest.ids.insert name forest.size⟩

def filled (forest : Forest) (node : ProjectionNode) : Forest :=
  { forest with slots := forest.slots.setIfInBounds node.id (some node) }

@[simp] theorem size_opened (forest : Forest) (name : String) :
    (forest.opened name).size = forest.size + 1 := by
  simp [opened, size]

@[simp] theorem size_filled (forest : Forest) (node : ProjectionNode) :
    (forest.filled node).size = forest.size := by
  simp [filled, size]

@[simp] theorem node?_opened (forest : Forest) (name : String) (id : NodeId) :
    (forest.opened name).node? id = forest.node? id := by
  unfold node? opened
  rw [Array.getElem?_push]
  split
  next h => rw [h, Array.getElem?_eq_none (Nat.le_refl _)]; rfl
  next => rfl

theorem node?_filled (forest : Forest) (node : ProjectionNode) (id : NodeId) :
    (forest.filled node).node? id =
      if node.id = id ∧ id < forest.size then some node else forest.node? id := by
  unfold node? filled size
  rw [Array.getElem?_setIfInBounds]
  by_cases same : node.id = id
  · subst same
    by_cases inside : node.id < forest.slots.size
    · simp [inside]
    · simp [inside]
  · simp [same]

theorem id?_opened (forest : Forest) (name other : String) :
    (forest.opened name).id? other =
      if name = other then some forest.size else forest.id? other := by
  unfold id? opened
  rw [Std.ExtTreeMap.getElem?_insert]
  simp only [Std.LawfulEqCmp.compare_eq_iff_eq]

@[simp] theorem id?_filled (forest : Forest) (node : ProjectionNode) (name : String) :
    (forest.filled node).id? name = forest.id? name := rfl

end Forest

/-- Names and projections, which grow together over a run. -/
structure Workspace where
  names : NameSupply
  forest : Forest
  deriving Repr, Inhabited

def Workspace.empty (abbreviated : Bool) : Workspace := ⟨.empty abbreviated, .empty⟩

/-- Steps that may fail; what a failed step has done to the workspace stays. -/
abbrev Building := ExceptT Error (StateM Workspace)

namespace Building

def outcome (step : Building α) (workspace : Workspace) : Except Error α × Workspace :=
  (step.run).run workspace

def ofExcept (result : Except Error α) : Building α := ExceptT.mk (pure result)

def gather (build : α → Building (Option β)) : List α → Building (List β)
  | [] => pure []
  | first :: rest => do
    let item ← build first
    let items ← gather build rest
    return item.toList ++ items

def allocate (path : List String) (suffix : String) : Building String := do
  let workspace ← get
  let (name, names) := workspace.names.allocate path suffix
  set { workspace with names := names }
  return name

def claim (path : List String) (suffix : String) : Building (String × Bool) := do
  let workspace ← get
  let (claimed, names) := workspace.names.claim path suffix
  set { workspace with names := names }
  return claimed

def openNode (name : String) : Building NodeId := do
  let id := (← get).forest.size
  modify fun workspace => { workspace with forest := workspace.forest.opened name }
  return id

def fill (node : ProjectionNode) : Building Unit :=
  modify fun workspace => { workspace with forest := workspace.forest.filled node }

def linkTo (name : String) : Building Link := do
  match (← get).forest.id? name with
  | some id => return ⟨id, name⟩
  | none => throw (.nameCollision name)

end Building
end GraphQLProjections
