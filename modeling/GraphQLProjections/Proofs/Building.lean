import Mathlib.Data.List.Forall2
import GraphQLProjections.Projection.Forest

/-! Contracts of steps that may fail: what holds of the result and the state when a step ends,
whether it succeeds or fails. -/
namespace GraphQLProjections

variable {σ α β : Type} {state : σ} {failed failed' : Error → σ → Prop}

/-! ### Runs over lists -/

section Lists

variable {α β ε : Type} {f : α → Except ε β} {items : List α} {results : List β}

/-- A run over a list gives a result for each element. -/
theorem forall₂_of_mapM_ok (ran : items.mapM f = .ok results) :
    List.Forall₂ (fun item result => f item = .ok result) items results := by
  induction items generalizing results with
  | nil =>
    obtain rfl := Except.ok.inj ran
    exact .nil
  | cons item rest ih =>
    rw [List.mapM_cons] at ran
    cases first : f item with
    | error fault => simp [first, bind, Except.bind] at ran
    | ok head =>
      cases others : rest.mapM f with
      | error fault => simp [first, others, bind, Except.bind] at ran
      | ok tail =>
        simp only [first, others, bind, Except.bind, pure, Except.pure, Except.ok.injEq] at ran
        exact ran ▸ .cons first (ih others)

theorem exists_of_mapM_error {fault : ε} (fails : items.mapM f = .error fault) :
    ∃ item ∈ items, f item = .error fault := by
  induction items with
  | nil => cases fails
  | cons item rest ih =>
    rw [List.mapM_cons] at fails
    cases first : f item with
    | error other =>
      simp only [first, bind, Except.bind, Except.error.injEq] at fails
      exact ⟨item, List.mem_cons_self, fails ▸ first⟩
    | ok value =>
      cases others : rest.mapM f with
      | error other =>
        simp only [first, others, bind, Except.bind, Except.error.injEq] at fails
        obtain ⟨source, inside, gives⟩ := ih (fails ▸ others)
        exact ⟨source, List.mem_cons_of_mem _ inside, gives⟩
      | ok values => simp [first, others, bind, Except.bind, pure, Except.pure] at fails

variable {related : α → β → Prop}

theorem exists_left_of_forall₂ (each : List.Forall₂ related items results) {result : β}
    (listed : result ∈ results) : ∃ item ∈ items, related item result := by
  induction each with
  | nil => exact absurd listed List.not_mem_nil
  | cons first rest ih =>
    rcases List.mem_cons.mp listed with rfl | listed
    · exact ⟨_, List.mem_cons_self, first⟩
    · obtain ⟨item, member, holds⟩ := ih listed
      exact ⟨item, List.mem_cons_of_mem _ member, holds⟩

theorem exists_right_of_forall₂ (each : List.Forall₂ related items results) {item : α}
    (listed : item ∈ items) : ∃ result ∈ results, related item result :=
  exists_left_of_forall₂ each.flip listed

theorem forall₂_set (each : List.Forall₂ related items results) (index : Nat) {item : α} {result : β}
    (holds : related item result) :
    List.Forall₂ related (items.set index item) (results.set index result) := by
  induction each generalizing index with
  | nil => exact .nil
  | cons first rest ih =>
    cases index with
    | zero => exact .cons holds rest
    | succ index => exact .cons first (ih index)

theorem map_eq_of_forall₂ {γ : Type} {f : α → γ} {g : β → γ}
    (each : List.Forall₂ related items results)
    (same : ∀ item result, related item result → g result = f item) :
    results.map g = items.map f := by
  induction each with
  | nil => rfl
  | cons first _ ih => rw [List.map_cons, List.map_cons, same _ _ first, ih]

theorem exists_of_any {result : Except ε α} {good : α → Bool}
    (holds : result.toOption.any good = true) : ∃ value, result = .ok value ∧ good value = true := by
  cases result with
  | error fault => cases holds
  | ok value => exact ⟨value, rfl, holds⟩

end Lists

/-! ### Steps -/

/-- A step goes on from what it has given, unless it has failed. -/
theorem run_bind (step : ExceptT Error (StateM σ) α) (next : α → ExceptT Error (StateM σ) β)
    (state : σ) : (step >>= next).run.run state =
      match step.run.run state with
      | (.ok value, later) => (next value).run.run later
      | (.error fault, later) => (.error fault, later) := by
  simp only [ExceptT.run_bind, StateT.run_bind]
  cases StateT.run (ExceptT.run step) state with
  | mk result later => cases result <;> rfl

theorem exists_of_run_bind {step : ExceptT Error (StateM σ) α}
    {next : α → ExceptT Error (StateM σ) β} {result : β} {last : σ}
    (ran : (step >>= next).run.run state = (.ok result, last)) :
    ∃ value middle, step.run.run state = (.ok value, middle) ∧
      (next value).run.run middle = (.ok result, last) := by
  rw [run_bind] at ran
  rcases first : step.run.run state with ⟨result, middle⟩
  rw [first] at ran
  cases result with
  | ok value => exact ⟨value, middle, rfl, ran⟩
  | error fault => cases ran

/-- `failed` holds of the fault and the state of a step that fails, and `good` of the result and the
state of one that succeeds. -/
def Ensures (step : ExceptT Error (StateM σ) α) (state : σ) (failed : Error → σ → Prop)
    (good : α → σ → Prop) : Prop :=
  match step.run.run state with
  | (.ok result, later) => good result later
  | (.error fault, later) => failed fault later

namespace Ensures

theorem pure {value : α} {good : α → σ → Prop} (holds : good value state) :
    Ensures (pure value) state failed good := holds

theorem throw {fault : Error} {good : α → σ → Prop} (holds : failed fault state) :
    Ensures (throw fault) state failed good := holds

theorem bind {step : ExceptT Error (StateM σ) α} {next : α → ExceptT Error (StateM σ) β}
    {good : α → σ → Prop} {good' : β → σ → Prop} (first : Ensures step state failed good)
    (second : ∀ value later, good value later → Ensures (next value) later failed good') :
    Ensures (step >>= next) state failed good' := by
  unfold Ensures at first ⊢
  rw [run_bind]
  rcases ran : step.run.run state with ⟨result, later⟩
  rw [ran] at first
  cases result with
  | ok value => exact second value later first
  | error fault => exact first

theorem mono {step : ExceptT Error (StateM σ) α} {good good' : α → σ → Prop}
    (ensures : Ensures step state failed good)
    (failing : ∀ fault later, failed fault later → failed' fault later)
    (implies : ∀ value later, good value later → good' value later) :
    Ensures step state failed' good' := by
  unfold Ensures at ensures ⊢
  rcases ran : step.run.run state with ⟨result, later⟩
  rw [ran] at ensures
  cases result with
  | ok value => exact implies value later ensures
  | error fault => exact failing fault later ensures

theorem and {step : ExceptT Error (StateM σ) α} {good good' : α → σ → Prop}
    (ensures : Ensures step state failed good) (ensures' : Ensures step state failed' good') :
    Ensures step state (fun fault later => failed fault later ∧ failed' fault later)
      fun value later => good value later ∧ good' value later := by
  unfold Ensures at ensures ensures' ⊢
  rcases ran : step.run.run state with ⟨result, later⟩
  rw [ran] at ensures ensures'
  cases result with
  | ok value => exact ⟨ensures, ensures'⟩
  | error fault => exact ⟨ensures, ensures'⟩

theorem failing {step : ExceptT Error (StateM σ) α} {good : α → σ → Prop}
    (ensures : Ensures step state failed good)
    (implies : ∀ fault later, failed fault later → failed' fault later) :
    Ensures step state failed' good :=
  ensures.mono implies fun _ _ => id

theorem giving {step : ExceptT Error (StateM σ) α} {good good' : α → σ → Prop}
    (ensures : Ensures step state failed good)
    (implies : ∀ value later, good value later → good' value later) :
    Ensures step state failed good' :=
  ensures.mono (fun _ _ => id) implies

/-- What a successful run gives. -/
theorem of_ok {step : ExceptT Error (StateM σ) α} {good : α → σ → Prop} {value : α} {later : σ}
    (ensures : Ensures step state failed good)
    (ran : step.run.run state = (.ok value, later)) : good value later := by
  unfold Ensures at ensures
  rwa [ran] at ensures

theorem of_error {step : ExceptT Error (StateM σ) α} {good : α → σ → Prop} {fault : Error}
    {later : σ} (ensures : Ensures step state failed good)
    (ran : step.run.run state = (.error fault, later)) : failed fault later := by
  unfold Ensures at ensures
  rwa [ran] at ensures

/-- What holds of the state however a step ends. -/
theorem always {step : ExceptT Error (StateM σ) α} {holds : σ → Prop}
    (ensures : Ensures step state (fun _ => holds) fun _ => holds) :
    holds (step.run.run state).2 := by
  unfold Ensures at ensures
  rcases ran : step.run.run state with ⟨result, later⟩
  rw [ran] at ensures
  cases result with
  | ok value => exact ensures
  | error fault => exact ensures

end Ensures

theorem get_ensures : Ensures get state failed fun found later => found = state ∧ later = state :=
  ⟨rfl, rfl⟩

theorem set_ensures (next : σ) : Ensures (set next) state failed fun _ later => later = next := rfl

/-- A step that succeeds from some state tells that something holds. -/
def Tells (step : ExceptT Error (StateM σ) α) (told : Prop) : Prop :=
  ∀ state, Ensures step state (fun _ _ => True) fun _ _ => told

theorem Tells.of_holds {step : ExceptT Error (StateM σ) α} {told : Prop} (holds : told) :
    Tells step told := by
  intro state
  unfold Ensures
  split
  · exact holds
  · trivial

theorem Tells.mono {step : ExceptT Error (StateM σ) α} {told told' : Prop} (tells : Tells step told)
    (implies : told → told') : Tells step told' :=
  fun state => (tells state).giving fun _ _ => implies

theorem Tells.bind {step : ExceptT Error (StateM σ) α} {next : α → ExceptT Error (StateM σ) β}
    {told told' : Prop} (first : Tells step told) (second : ∀ value, Tells (next value) told') :
    Tells (step >>= next) (told ∧ told') := by
  intro state
  apply (first state).bind
  exact fun value later holds => (second value later).giving fun _ _ holds' => ⟨holds, holds'⟩

/-- What the first of two steps tells, both tell. -/
theorem Tells.first {step : ExceptT Error (StateM σ) α} {next : α → ExceptT Error (StateM σ) β}
    {told : Prop} (tells : Tells step told) : Tells (step >>= next) told :=
  (tells.bind fun _ => .of_holds trivial).mono And.left

theorem Tells.gather {build : α → Building (Option β)} {told : α → Prop} {items : List α}
    (each : ∀ item, Tells (build item) (told item)) :
    Tells (Building.gather build items) (∀ item ∈ items, told item) := by
  induction items with
  | nil => exact .of_holds (List.forall_mem_nil _)
  | cons item rest ih =>
    intro workspace
    apply (each item workspace).bind
    intro _ middle first
    apply (ih middle).bind
    exact fun _ later others => .pure (List.forall_mem_cons.mpr ⟨first, others⟩)

def FailsWith (step : ExceptT Error (StateM σ) α) (kinds : Error → Prop) : Prop :=
  ∀ state, Ensures step state (fun fault _ => kinds fault) fun _ _ => True

namespace FailsWith

variable {kinds kinds' : Error → Prop} {step : ExceptT Error (StateM σ) α}
  {next : α → ExceptT Error (StateM σ) β}

theorem pure (value : α) : FailsWith (Pure.pure value : ExceptT Error (StateM σ) α) kinds :=
  fun _ => trivial

theorem throw {fault : Error} (expected : kinds fault) :
    FailsWith (throw fault : ExceptT Error (StateM σ) α) kinds := fun _ => expected

theorem bind (first : FailsWith step kinds) (second : ∀ value, FailsWith (next value) kinds) :
    FailsWith (step >>= next) kinds :=
  fun state => (first state).bind fun value later _ => second value later

theorem mono (fails : FailsWith step kinds) (implies : ∀ fault, kinds fault → kinds' fault) :
    FailsWith step kinds' :=
  fun state => (fails state).failing fun fault _ => implies fault

theorem and (fails : FailsWith step kinds) (fails' : FailsWith step kinds') :
    FailsWith step fun fault => kinds fault ∧ kinds' fault :=
  fun state => ((fails state).and (fails' state)).giving fun _ _ _ => trivial

theorem discard (fails : FailsWith step kinds) : FailsWith (discard step) kinds := by
  have split : (Functor.discard step : ExceptT Error (StateM σ) PUnit) =
      step >>= fun _ => Pure.pure ⟨⟩ := rfl
  rw [split]
  exact fails.bind fun _ => pure _

theorem bind_result {result : Except Error α}
    (failing : ∀ fault, result = .error fault → kinds fault)
    (second : ∀ value, result = .ok value → FailsWith (next value) kinds) :
    FailsWith ((ExceptT.mk (Pure.pure result) : ExceptT Error (StateM σ) α) >>= next) kinds := by
  cases result with
  | ok value => exact second value rfl
  | error fault => exact fun _ => failing fault rfl

theorem gather {build : α → Building (Option β)} {items : List α}
    (each : ∀ item ∈ items, FailsWith (build item) kinds) :
    FailsWith (Building.gather build items) kinds := by
  induction items with
  | nil => exact pure _
  | cons item rest ih =>
    refine (each item List.mem_cons_self).bind fun _ => ?_
    exact (ih fun item member => each item (List.mem_cons_of_mem _ member)).bind fun _ => pure _

/-- Names are claimed without a fault, so what is left are the steps for a name that others have and
for a new one. -/
theorem claimed {claiming : ExceptT Error (StateM σ) (String × Bool)}
    {next : String × Bool → ExceptT Error (StateM σ) α} (claims : FailsWith claiming kinds)
    (old : ∀ name, FailsWith (next (name, false)) kinds)
    (new : ∀ name, FailsWith (next (name, true)) kinds) : FailsWith (claiming >>= next) kinds := by
  refine claims.bind fun claimed => ?_
  obtain ⟨name, isNew⟩ := claimed
  cases isNew with
  | false => exact old name
  | true => exact new name

end FailsWith

/-- One step does the same as another wherever that one does not fail with a fault of some kinds. -/
def AgreesUnless (kinds : Error → Prop) (step other : Building α) : Prop :=
  ∀ workspace, (∀ fault, (step.outcome workspace).1 = .error fault → ¬kinds fault) →
    other.outcome workspace = step.outcome workspace

namespace AgreesUnless

variable {kinds : Error → Prop}

theorem refl (step : Building α) : AgreesUnless kinds step step := fun _ _ => rfl

theorem bind {step other : Building α} {next next' : α → Building β}
    (first : AgreesUnless kinds step other)
    (second : ∀ value, AgreesUnless kinds (next value) (next' value)) :
    AgreesUnless kinds (step >>= next) (other >>= next') := by
  intro workspace inside
  unfold Building.outcome at inside ⊢
  rw [run_bind] at inside ⊢
  rw [run_bind]
  have same := first workspace
  unfold Building.outcome at same
  rcases ran : step.run.run workspace with ⟨result, later⟩
  rw [ran] at same inside
  cases result with
  | ok value =>
    rw [same nofun]
    exact second value later inside
  | error fault =>
    rw [same]
    rintro _ ⟨⟩
    exact inside fault rfl

theorem gather {build build' : α → Building (Option β)}
    (each : ∀ item, AgreesUnless kinds (build item) (build' item)) (items : List α) :
    AgreesUnless kinds (Building.gather build items) (Building.gather build' items) := by
  induction items with
  | nil => exact .refl _
  | cons item rest ih => exact (each item).bind fun _ => ih.bind fun _ => .refl _

end AgreesUnless

namespace Building

variable {workspace : Workspace} {failed : Error → Workspace → Prop}

theorem ofExcept_ok (value : α) : ofExcept (.ok value) = pure value := rfl

theorem ofExcept_error_bind (fault : Error) (next : α → Building β) :
    ofExcept (.error fault) >>= next = throw fault := rfl

theorem gather_congr {build build' : α → Building (Option β)} {items : List α}
    (same : ∀ item ∈ items, build item = build' item) :
    gather build items = gather build' items := by
  induction items with
  | nil => rfl
  | cons item rest ih =>
    simp only [gather, same item List.mem_cons_self,
      ih fun other member => same other (List.mem_cons_of_mem _ member)]

theorem ofExcept_ensures {result : Except Error α}
    (failing : ∀ fault, result = .error fault → failed fault workspace) :
    Ensures (ofExcept result) workspace failed fun value later =>
      result = .ok value ∧ later = workspace := by
  cases result with
  | ok value => exact ⟨rfl, rfl⟩
  | error fault => exact failing fault rfl

theorem allocate_ensures (path : List String) (suffix : String) :
    Ensures (allocate path suffix) workspace failed fun name later =>
      name = (workspace.names.allocate path suffix).1 ∧
        later = { workspace with names := (workspace.names.allocate path suffix).2 } :=
  ⟨rfl, rfl⟩

theorem run_claim (path : List String) (suffix : String) (workspace : Workspace) :
    (claim path suffix).run.run workspace = (.ok (workspace.names.claim path suffix).1,
      { workspace with names := (workspace.names.claim path suffix).2 }) := rfl

theorem claim_ensures {path : List String} {suffix : String} {claimed : String × Bool}
    {names : NameSupply} (claims : workspace.names.claim path suffix = (claimed, names)) :
    Ensures (claim path suffix) workspace failed fun value later =>
      value = claimed ∧ later = { workspace with names } := by
  unfold Ensures
  rw [run_claim, claims]
  exact ⟨rfl, rfl⟩

theorem openNode_ensures (name : String) :
    Ensures (openNode name) workspace failed fun id later =>
      id = workspace.forest.size ∧
        later = { workspace with forest := workspace.forest.opened name } :=
  ⟨rfl, rfl⟩

theorem fill_ensures (node : ProjectionNode) :
    Ensures (fill node) workspace failed fun _ later =>
      later = { workspace with forest := workspace.forest.filled node } :=
  rfl

theorem linkTo_ensures {name : String} {id : NodeId}
    (known : workspace.forest.id? name = some id) :
    Ensures (linkTo name) workspace failed fun link later =>
      link = ⟨id, name⟩ ∧ later = workspace := by
  apply Ensures.bind get_ensures
  rintro _ _ ⟨rfl, rfl⟩
  simp only [known]
  exact .pure ⟨rfl, rfl⟩

/-- A link that is made leads to the projection of its name, and nothing changes by that. -/
theorem linkTo_finds (name : String) :
    Ensures (linkTo name) workspace (fun _ later => later = workspace) fun link later =>
      later = workspace ∧ workspace.forest.id? name = some link.target := by
  refine Ensures.bind get_ensures ?_
  rintro _ _ ⟨rfl, rfl⟩
  split
  next id known => exact .pure ⟨rfl, known⟩
  next => exact .throw rfl

theorem run_linkTo {name : String} {id : NodeId} (known : workspace.forest.id? name = some id) :
    (linkTo name).run.run workspace = (.ok ⟨id, name⟩, workspace) := by
  have ends : Ensures (linkTo name) workspace (fun _ _ => False) _ := linkTo_ensures known
  unfold Ensures at ends
  rcases ran : (linkTo name).run.run workspace with ⟨result, later⟩
  rw [ran] at ends
  cases result with
  | ok link =>
    obtain ⟨rfl, rfl⟩ := ends
    rfl
  | error fault => cases ends

end Building
end GraphQLProjections
