import GraphQLProjections.Proofs.Building
import GraphQLProjections.Proofs.Renaming.Twins

/-! Steps in step: two runs from states that differ in names alone. Both succeed, and the results and
the states differ in names alone, or both fail for the same reason. -/
namespace GraphQLProjections

open Renamable

/-- Faults are alike if they are the same, apart from the name that collides. -/
def Error.Alike : Error → Error → Prop
  | .nameCollision _, .nameCollision _ => True
  | fault, other => fault = other

theorem Error.Alike.refl (fault : Error) : fault.Alike fault := by
  cases fault <;> simp [Error.Alike]

class Twinned (σ : Type) where
  supply : σ → NameSupply
  Alike : σ → σ → Prop
  twins {state other : σ} : Alike state other → (supply state).Twins (supply other)

variable {σ α β : Type} [Twinned σ] {state state' later later' last last' : σ}

open Twinned

structure Advance (state state' later later' : σ) : Prop where
  alike : Alike later later'
  keeps : (supply state).Keeps (supply later)
  keeps' : (supply state').Keeps (supply later')

theorem Advance.refl (alike : Alike state state') : Advance state state' state state' :=
  ⟨alike, .refl _, .refl _⟩

theorem Advance.trans (before : Advance state state' later later')
    (after : Advance later later' last last') : Advance state state' last last' :=
  ⟨after.alike, before.keeps.trans after.keeps, before.keeps'.trans after.keeps'⟩

/-- Values that differ in names alone, which are names of one path in two states. -/
def Tied [Renamable α] (value value' : α) (state state' : σ) : Prop :=
  Matched (supply state) (supply state') value value'

theorem Tied.advance [Renamable α] {value value' : α} (tied : Tied value value' state state')
    (alike : Alike state state') (advance : Advance state state' later later') :
    Tied value value' later later' :=
  tied.grown (twins alike).there.consistent (twins advance.alike).there.consistent advance.keeps
    advance.keeps'

/-- Two runs end alike: both succeed with `good` results, or both fail for the same reason. -/
inductive EndAlike (state state' : σ) (good : α → α → σ → σ → Prop) :
    Except Error α × σ → Except Error α × σ → Prop
  | ok {value value' : α} {later later' : σ} (advance : Advance state state' later later')
      (holds : good value value' later later') :
      EndAlike state state' good (.ok value, later) (.ok value', later')
  | error {fault fault' : Error} {later later' : σ} (alike : fault.Alike fault') :
      EndAlike state state' good (.error fault, later) (.error fault', later')

def InStep (step step' : ExceptT Error (StateM σ) α) (state state' : σ)
    (good : α → α → σ → σ → Prop) : Prop :=
  EndAlike state state' good (step.run.run state) (step'.run.run state')

namespace InStep

variable {step step' : ExceptT Error (StateM σ) α} {good good' : α → α → σ → σ → Prop}

theorem pure (alike : Alike state state') {value value' : α} (holds : good value value' state state') :
    InStep (pure value) (pure value') state state' good :=
  .ok (.refl alike) holds

theorem throw {fault fault' : Error} (alike : fault.Alike fault') :
    InStep (throw fault) (throw fault') state state' good :=
  .error alike

/-- What keeps in step later on does so from the start. -/
theorem after (advance : Advance state state' later later')
    (inStep : InStep step step' later later' good) :
    EndAlike state state' good (step.run.run later) (step'.run.run later') := by
  unfold InStep at inStep
  generalize step.run.run later = ran, step'.run.run later' = ran' at inStep
  cases inStep with
  | ok further holds => exact .ok (advance.trans further) holds
  | error alike => exact .error alike

theorem bind {next next' : α → ExceptT Error (StateM σ) β} {good' : β → β → σ → σ → Prop}
    (first : InStep step step' state state' good)
    (second : ∀ value value' later later', Advance state state' later later' →
      good value value' later later' → InStep (next value) (next' value') later later' good') :
    InStep (step >>= next) (step' >>= next') state state' good' := by
  unfold InStep at first ⊢
  rw [run_bind, run_bind]
  generalize step.run.run state = ran, step'.run.run state' = ran' at first
  cases first with
  | ok advance holds => exact (second _ _ _ _ advance holds).after advance
  | error alike => exact .error alike

theorem ofExcept (alike : Alike state state') (result : Except Error α) :
    InStep (ExceptT.mk (Pure.pure result)) (ExceptT.mk (Pure.pure result)) state state'
      fun value value' _ _ => value = value' := by
  cases result with
  | ok value => exact .ok (.refl alike) rfl
  | error fault => exact .error (.refl fault)

theorem discard (inStep : InStep step step' state state' good) :
    InStep (discard step) (discard step') state state' fun _ _ _ _ => True := by
  have split (step : ExceptT Error (StateM σ) α) :
      (Functor.discard step : ExceptT Error (StateM σ) PUnit) =
        step >>= fun _ => Pure.pure ⟨⟩ := rfl
  rw [split, split]
  exact inStep.bind fun _ _ _ _ advance _ => pure advance.alike trivial

theorem get (alike : Alike state state') :
    InStep get get state state' fun found found' later later' =>
      found = state ∧ found' = state' ∧ later = state ∧ later' = state' :=
  .ok (.refl alike) ⟨rfl, rfl, rfl, rfl⟩

end InStep

/-! ### Workspaces -/

/-- The nodes that a forest has by name are had by another under the partners of their names. -/
def Forest.Mirrors (forest other : Forest) (names names' : NameSupply) : Prop :=
  ∀ name id, forest.id? name = some id →
    ∃ name', names.Pairs names' name name' ∧ other.id? name' = some id

namespace Forest.Mirrors

variable {forest other : Forest} {names names' : NameSupply} {name name' : String}

theorem grown {later later' : NameSupply} (mirrors : forest.Mirrors other names names')
    (keeps : names.Keeps later) (keeps' : names'.Keeps later') :
    forest.Mirrors other later later' := by
  intro name id held
  obtain ⟨name', pairs, held'⟩ := mirrors name id held
  exact ⟨name', pairs.grown keeps keeps', held'⟩

/-- A pair of names leads to nodes of one number. -/
theorem id?_eq_some (mirrors : forest.Mirrors other names names') (consistent : names.Consistent)
    (pairs : names.Pairs names' name name') {id : NodeId} (held : forest.id? name = some id) :
    other.id? name' = some id := by
  obtain ⟨partner, pairs', held'⟩ := mirrors name id held
  exact pairs.unique consistent pairs' ▸ held'

theorem opened (mirrors : forest.Mirrors other names names') (consistent : names'.Consistent)
    (pairs : names.Pairs names' name name') (sizes : forest.size = other.size) :
    (forest.opened name).Mirrors (other.opened name') names names' := by
  intro text id held
  rw [Forest.id?_opened] at held
  split at held
  next same =>
    subst same
    exact ⟨name', pairs, by rw [Forest.id?_opened, if_pos rfl, ← sizes, held]⟩
  next differs =>
    obtain ⟨text', pairs', held'⟩ := mirrors text id held
    refine ⟨text', pairs', ?_⟩
    rw [Forest.id?_opened, if_neg]
    · exact held'
    · rintro rfl
      exact differs (pairs.symm.unique consistent pairs'.symm)

end Forest.Mirrors

structure Workspace.Alike (workspace other : Workspace) : Prop where
  names : workspace.names.Twins other.names
  slots : Matched workspace.names other.names workspace.forest.slots.toList
    other.forest.slots.toList
  there : workspace.forest.Mirrors other.forest workspace.names other.names
  back : other.forest.Mirrors workspace.forest other.names workspace.names

instance : Twinned Workspace where
  supply := Workspace.names
  Alike := Workspace.Alike
  twins := Workspace.Alike.names

namespace Workspace.Alike

variable {workspace other : Workspace} {name name' : String}

theorem empty (abbreviated abbreviated' : Bool) :
    (Workspace.empty abbreviated).Alike (.empty abbreviated') where
  names := NameSupply.twins_empty _ _
  slots := .nil
  there name id held := by simp [Workspace.empty, Forest.empty, Forest.id?] at held
  back name id held := by simp [Workspace.empty, Forest.empty, Forest.id?] at held

theorem size_eq (alike : workspace.Alike other) : workspace.forest.size = other.forest.size := by
  have lengths := congrArg List.length alike.slots.renamed
  simpa [renamed, Forest.size] using lengths.symm

theorem id?_eq (alike : workspace.Alike other)
    (pairs : workspace.names.Pairs other.names name name') :
    workspace.forest.id? name = other.forest.id? name' :=
  Option.ext fun _ => ⟨alike.there.id?_eq_some alike.names.there.consistent pairs,
    alike.back.id?_eq_some alike.names.back.consistent pairs.symm⟩

theorem node? (alike : workspace.Alike other) (id : NodeId) :
    Tied (workspace.forest.node? id) (other.forest.node? id) workspace other := by
  have matched := (alike.slots.getElem? id).join
  rwa [Array.getElem?_toList, Array.getElem?_toList] at matched

/-- Naming further paths keeps workspaces alike. -/
theorem named (alike : workspace.Alike other) {names names' : NameSupply}
    (twins : names.Twins names') (keeps : workspace.names.Keeps names)
    (keeps' : other.names.Keeps names') :
    Alike { workspace with names } { other with names := names' } where
  names := twins
  slots := alike.slots.grown alike.names.there.consistent twins.there.consistent keeps keeps'
  there := alike.there.grown keeps keeps'
  back := alike.back.grown keeps' keeps

theorem opened (alike : workspace.Alike other)
    (pairs : workspace.names.Pairs other.names name name') :
    Alike { workspace with forest := workspace.forest.opened name }
      { other with forest := other.forest.opened name' } where
  names := alike.names
  slots := by
    simpa [Forest.opened] using alike.slots.append (Matched.none.singleton)
  there := alike.there.opened alike.names.back.consistent pairs alike.size_eq
  back := alike.back.opened alike.names.there.consistent pairs.symm alike.size_eq.symm

theorem filled (alike : workspace.Alike other) {node node' : ProjectionNode}
    (tied : Tied node node' workspace other) :
    Alike { workspace with forest := workspace.forest.filled node }
      { other with forest := other.forest.filled node' } where
  names := alike.names
  slots := by
    have same : node'.id = node.id := by rw [tied.renamed]; rfl
    simpa [Forest.filled, same] using alike.slots.set tied.some node.id
  there := alike.there
  back := alike.back

end Workspace.Alike

/-! ### Building -/

namespace Building

variable {workspace other : Workspace} {name name' : String}

theorem allocate_inStep (alike : workspace.Alike other) (path : List String) (suffix : String) :
    InStep (allocate path suffix) (allocate path suffix) workspace other
      fun name name' later later' => later.names.Pairs later'.names name name' := by
  obtain ⟨twins, pairs⟩ := alike.names.allocate path suffix
  have keeps := NameSupply.keeps_allocate workspace.names path suffix
  have keeps' := NameSupply.keeps_allocate other.names path suffix
  exact .ok ⟨alike.named twins keeps keeps', keeps, keeps'⟩ pairs

/-- A claim gives a pair of names and one flag. -/
theorem claim_inStep (alike : workspace.Alike other) (path : List String) (suffix : String) :
    InStep (claim path suffix) (claim path suffix) workspace other
      fun claimed claimed' later later' =>
        later.names.Pairs later'.names claimed.1 claimed'.1 ∧ claimed.2 = claimed'.2 := by
  obtain ⟨name, name', isNew, names, names', claims, claims', twins, keeps, keeps', pairs⟩ :=
    alike.names.claim path suffix
  unfold InStep
  rw [run_claim, run_claim, claims, claims']
  exact .ok ⟨alike.named twins keeps keeps', keeps, keeps'⟩ ⟨pairs, rfl⟩

theorem openNode_inStep (alike : workspace.Alike other)
    (pairs : workspace.names.Pairs other.names name name') :
    InStep (openNode name) (openNode name') workspace other fun id id' _ _ => id = id' :=
  .ok ⟨alike.opened pairs, .refl _, .refl _⟩ alike.size_eq

theorem fill_inStep (alike : workspace.Alike other) {node node' : ProjectionNode}
    (tied : Tied node node' workspace other) :
    InStep (fill node) (fill node') workspace other fun _ _ _ _ => True :=
  .ok ⟨alike.filled tied, .refl _, .refl _⟩ trivial

theorem linkTo_inStep (alike : workspace.Alike other)
    (pairs : workspace.names.Pairs other.names name name') :
    InStep (linkTo name) (linkTo name') workspace other Tied := by
  refine (InStep.get alike).bind ?_
  rintro _ _ workspace other - ⟨rfl, rfl, rfl, rfl⟩
  rw [alike.id?_eq pairs]
  cases other.forest.id? name' with
  | none => exact .throw trivial
  | some id => exact .pure alike (.link pairs alike.names.there.consistent id)

theorem gather_inStep {build build' : α → Building (Option β)} [Renamable β] {items : List α}
    (each : ∀ item ∈ items, ∀ later later', Advance workspace other later later' →
      InStep (build item) (build' item) later later' Tied)
    (alike : workspace.Alike other) :
    InStep (gather build items) (gather build' items) workspace other Tied := by
  induction items generalizing workspace other with
  | nil => exact .pure alike .nil
  | cons item items ih =>
    refine (each item List.mem_cons_self _ _ (.refl alike)).bind fun first first' middle middle'
      advance tied => ?_
    refine (ih (fun item member later later' further => each item (List.mem_cons_of_mem _ member)
      later later' (advance.trans further)) advance.alike).bind fun rest rest' last last'
      further tied' => ?_
    exact .pure further.alike ((tied.advance advance.alike further).toList.append tied')

end Building
end GraphQLProjections
