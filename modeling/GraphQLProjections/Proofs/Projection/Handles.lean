import Mathlib.Data.List.Induction
import GraphQLProjections.Proofs.Projection.Folding
import GraphQLProjections.Proofs.Projection.Settling

/-! What calls hand out when some of them fail. A call that fails may leave projections open, and the
names of these stay taken. A later call hands out an open projection, or one that leads to such a
projection, only if it comes to a name that was taken by a call that failed. -/
namespace GraphQLProjections

open Building NameSupply Relation

/-! ### Sound projections -/

/-- A projection is filled, and so is all that it leads to. -/
def Forest.Sound (forest : Forest) (id : NodeId) : Prop :=
  ∀ other, ReflTransGen forest.LinksTo id other → (forest.node? other).isSome

namespace Forest

variable {forest later : Forest} {id target : Nat}

theorem sound_of_closed (holds : NodeId → Prop)
    (filled : ∀ id, holds id → (forest.node? id).isSome)
    (closed : ∀ id target, holds id → forest.LinksTo id target → holds target) (here : holds id) :
    forest.Sound id := by
  intro other reached
  refine filled other ?_
  induction reached with
  | refl => exact here
  | tail _ links ih => exact closed _ _ ih links

theorem Sound.filled (sound : forest.Sound id) : (forest.node? id).isSome := sound id .refl

theorem Sound.tail (sound : forest.Sound id) (links : forest.LinksTo id target) :
    forest.Sound target := fun other reached => sound other (.head links reached)

/-- A projection stays sound as long as the slots that there were stay as they are. -/
theorem Sound.of_kept (sound : forest.Sound id)
    (kept : ∀ id < forest.size, later.node? id = forest.node? id) : later.Sound id := by
  have same {id : Nat} (sound : forest.Sound id) : later.node? id = forest.node? id := by
    obtain ⟨node, held⟩ := Option.isSome_iff_exists.mp sound.filled
    exact kept id (lt_size_of_node? held)
  refine sound_of_closed forest.Sound (fun id sound => same sound ▸ sound.filled)
    (fun id target sound => ?_) sound
  rintro ⟨node, held, linked⟩
  exact sound.tail ⟨node, same sound ▸ held, linked⟩

end Forest

/-! ### Calls -/

namespace Workspace

def Call.path? : Call → Option (List String)
  | .allocate _ _ | .reserve _ => none
  | .root _ path _ _ | .entities _ path _ => some path

/-- The answer to a call for a projection; other calls do not fail and give none. -/
def answer (workspace : Workspace) : Call → Except Error (Option NodeId)
  | .allocate _ _ | .reserve _ => .ok none
  | .root traversal path field filter => ((traversal.rootAt path field filter).outcome workspace).1
  | .entities traversal path types => ((traversal.entitiesAt path types).outcome workspace).1

/-- A call fails after it has opened projections. -/
def breaksOff (workspace : Workspace) (call : Call) : Bool :=
  !(workspace.answer call).isOk && workspace.forest.size < (workspace.after call).forest.size

def brokenBy (workspace : Workspace) (call : Call) : List (List String) :=
  if workspace.breaksOff call then call.path?.toList else []

def brokenOff (workspace : Workspace) : List Call → List (List String)
  | [] => []
  | call :: calls => workspace.brokenBy call ++ (workspace.after call).brokenOff calls

/-- A projection is asked for only at paths at which a call was broken off before, and at paths that
are apart from all these. -/
def Separated (workspace : Workspace) (calls : List Call) : Prop :=
  ∀ before call, before ++ [call] <+: calls → ∀ path, call.path? = some path →
    ∀ other ∈ workspace.brokenOff before, path = other ∨ Apart path other

variable {workspace later : Workspace} {call : Call} {path : List String}
  {broken : List (List String)} {allowed : List String → Prop} {root : NodeId}

theorem brokenOff_append (calls more : List Call) :
    workspace.brokenOff (calls ++ more) =
      workspace.brokenOff calls ++ (workspace.afterAll calls).brokenOff more := by
  induction calls generalizing workspace with
  | nil => rfl
  | cons call calls ih =>
    rw [List.cons_append, brokenOff, brokenOff, ih, List.append_assoc]
    rfl

theorem brokenOff_concat (calls : List Call) (call : Call) :
    workspace.brokenOff (calls ++ [call]) =
      workspace.brokenOff calls ++ (workspace.afterAll calls).brokenBy call := by
  rw [brokenOff_append, brokenOff, brokenOff, List.append_nil]

theorem afterAll_concat (workspace : Workspace) (calls : List Call) (call : Call) :
    workspace.afterAll (calls ++ [call]) = (workspace.afterAll calls).after call :=
  List.foldl_concat ..

theorem breaksOff_iff : workspace.breaksOff call = true ↔
    (∃ fault, workspace.answer call = .error fault) ∧
      workspace.forest.size < (workspace.after call).forest.size := by
  unfold breaksOff
  cases workspace.answer call <;> simp [Except.isOk, Except.toBool]

theorem mem_brokenBy : path ∈ workspace.brokenBy call ↔
    call.path? = some path ∧ workspace.breaksOff call = true := by
  unfold brokenBy
  split
  next broken => simp [broken]
  next whole => simp [whole]

/-- A call for a projection is a step that answers it or abandons it, at paths that go on from the
one that it asks for. -/
theorem Call.exists_step (workspace : Workspace) (asks : call.path? = some path) :
    ∃ step : Building (Option NodeId),
      step.outcome workspace = (workspace.answer call, workspace.after call) ∧
      (workspace.Guarded →
        Ensures step workspace (fun _ => workspace.Abandons path) (workspace.Answers path)) ∧
      MakesFrom workspace (path <+: ·) workspace.forest.size step := by
  cases call with
  | allocate | reserve => cases asks
  | root traversal path field filter =>
    obtain rfl := Option.some.inj asks
    exact ⟨_, rfl, traversal.rootAt_answers path field filter,
      Traversal.rootAt_makes (prefix_further path) List.prefix_rfl field filter workspace⟩
  | entities traversal path types =>
    obtain rfl := Option.some.inj asks
    exact ⟨_, rfl, traversal.entitiesAt_answers path types,
      Traversal.entitiesAt_makes (prefix_further path) List.prefix_rfl types workspace⟩

theorem Guarded.abandons (guarded : workspace.Guarded) (asks : call.path? = some path)
    {fault : Error} (fails : workspace.answer call = .error fault) :
    workspace.Abandons path (workspace.after call) := by
  obtain ⟨step, ran, ensures, -⟩ := Call.exists_step workspace asks
  exact (ensures guarded).of_error (fails ▸ ran)

theorem Guarded.answers (guarded : workspace.Guarded) (asks : call.path? = some path)
    {found : Option NodeId} (answered : workspace.answer call = .ok found) :
    workspace.Answers path found (workspace.after call) := by
  obtain ⟨step, ran, ensures, -⟩ := Call.exists_step workspace asks
  exact (ensures guarded).of_ok (answered ▸ ran)

theorem moves_after (asks : call.path? = some path) :
    workspace.Moves (path <+: ·) workspace.forest.size (workspace.after call) := by
  obtain ⟨step, ran, -, makes⟩ := Call.exists_step workspace asks
  have moves := makes.moves
  rwa [ran] at moves

/-- A call that asks for no projection only names paths and reserves names. -/
theorem forest_after_of_path? (asks : call.path? = none) :
    (workspace.after call).forest = workspace.forest := by
  cases call with
  | allocate | reserve => rfl
  | root | entities => cases asks

/-- Names lead to what they led to, or to projections that were opened at allowed paths. -/
theorem Moves.id?_cases (moves : workspace.Moves allowed root later) {name : String} {id : Nat}
    (known : later.forest.id? name = some id) :
    workspace.forest.id? name = some id ∨ workspace.forest.size ≤ id ∧
      ∃ path suffix, allowed path ∧ later.names.nameOf? path suffix = some name := by
  induction moves with
  | refl => exact .inl known
  | @tail middle last moves move ih =>
    have carried (keeps : middle.names.Keeps last.names)
        (known : middle.forest.id? name = some id) :
        workspace.forest.id? name = some id ∨ workspace.forest.size ≤ id ∧
          ∃ path suffix, allowed path ∧ last.names.nameOf? path suffix = some name := by
      refine (ih known).imp_right fun ⟨new, path, suffix, within, named⟩ => ?_
      exact ⟨new, path, suffix, within, keeps.nameOf? named⟩
    cases move with
    | claim within claims => exact carried (NameSupply.of_claim claims).2.1 known
    | enter within claims =>
      obtain ⟨-, keeps, named, -⟩ := NameSupply.of_claim claims
      rw [Forest.id?_opened] at known
      split at known
      next same =>
        obtain rfl := Option.some.inj known
        exact .inr ⟨Moves.size_le moves, _, _, within, same ▸ named⟩
      next => exact carried keeps known
    | fill => exact carried (.refl _) known

theorem Moves.consistent (moves : workspace.Moves allowed root later)
    (consistent : workspace.names.Consistent) : later.names.Consistent := by
  induction moves with
  | refl => exact consistent
  | tail _ move ih =>
    cases move with
    | claim _ claims => exact (NameSupply.of_claim claims).2.2.2.2 ih
    | enter _ claims => exact (NameSupply.of_claim claims).2.2.2.2 ih
    | fill => exact ih

theorem consistent_after (consistent : workspace.names.Consistent) (call : Call) :
    (workspace.after call).names.Consistent := by
  cases asks : call.path? with
  | some path => exact (moves_after asks).consistent consistent
  | none =>
    cases call with
    | allocate path suffix => exact consistent.allocate path suffix
    | reserve name => exact consistent.reserve name
    | root | entities => cases asks

/-! ### What calls keep -/

structure Regular (broken : List (List String)) (workspace : Workspace) : Prop where
  guarded : workspace.Guarded
  ordered : workspace.forest.Ordered
  consistent : workspace.names.Consistent
  owned : ∀ name id, workspace.forest.id? name = some id →
    ∃ key : String, workspace.names.assigned[key]? = some name
  linked : ∀ id target : Nat, workspace.forest.LinksTo id target → target < workspace.forest.size
  left : ∀ path ∈ broken, ∃ id, workspace.idAt path rootSuffix = some id ∧
    workspace.forest.node? id = none

theorem id?_of_lt (call : Call) {name : String} {id : Nat}
    (known : (workspace.after call).forest.id? name = some id)
    (old : id < workspace.forest.size) : workspace.forest.id? name = some id := by
  cases asks : call.path? with
  | none => rwa [forest_after_of_path? asks] at known
  | some path =>
    rcases (moves_after asks).id?_cases known with known | ⟨new, -⟩
    · exact known
    · exact absurd old (Nat.not_lt.mpr new)

namespace Regular

theorem empty (abbreviated : Bool) : (empty abbreviated).Regular [] where
  guarded := guarded_empty abbreviated
  ordered := .empty
  consistent := consistent_empty abbreviated
  owned name id known := by simp [Workspace.empty, Forest.empty, Forest.id?] at known
  linked id target := by
    rintro ⟨node, held, -⟩
    simp [Workspace.empty, Forest.empty, Forest.node?] at held
  left := List.forall_mem_nil _

theorem idAt_lt (regular : workspace.Regular broken) {suffix : String} {id : NodeId}
    (found : workspace.idAt path suffix = some id) : id < workspace.forest.size := by
  obtain ⟨name, -, known⟩ := idAt_eq_some.mp found
  exact regular.ordered.ids name id known

variable (regular : workspace.Regular broken)
include regular

theorem idAt_of_lt (call : Call) {other : List String} {suffix : String} {id : Nat}
    (found : (workspace.after call).idAt other suffix = some id)
    (old : id < workspace.forest.size) : workspace.idAt other suffix = some id := by
  have consistent := consistent_after regular.consistent call
  obtain ⟨name, named, known⟩ := idAt_eq_some.mp found
  have known := id?_of_lt call known old
  obtain ⟨key, assigned⟩ := regular.owned name id known
  have keeps := (regular.guarded.after call).names
  obtain rfl := consistent.eq_of_assigned (keeps.assigned key name assigned) named
  exact idAt_eq_some.mpr ⟨name, assigned, known⟩

/-- The key of a projection that a call opens goes on from the path of the call. -/
theorem keyBelow_of_ge (asks : call.path? = some path) {other : List String} {suffix : String}
    {id : NodeId} (found : (workspace.after call).idAt other suffix = some id)
    (new : workspace.forest.size ≤ id) : KeyBelow path (pathKey other suffix) := by
  have consistent := consistent_after regular.consistent call
  obtain ⟨name, named, known⟩ := idAt_eq_some.mp found
  rcases (moves_after asks).id?_cases known with known' | ⟨-, _, suffix', ⟨further, rfl⟩, named'⟩
  · exact absurd (regular.ordered.ids name id known') (Nat.not_lt.mpr new)
  · exact ⟨further, suffix', consistent.eq_of_assigned named named'⟩

theorem owned_after (call : Call) (name : String) (id : NodeId)
    (known : (workspace.after call).forest.id? name = some id) :
    ∃ key : String, (workspace.after call).names.assigned[key]? = some name := by
  have grows := regular.guarded.after call
  have old (known : workspace.forest.id? name = some id) :
      ∃ key : String, (workspace.after call).names.assigned[key]? = some name :=
    (regular.owned name id known).imp fun key => grows.names.assigned key name
  cases asks : call.path? with
  | none => exact old (forest_after_of_path? asks ▸ known)
  | some path =>
    rcases (moves_after asks).id?_cases known with known' | ⟨-, _, _, -, named⟩
    · exact old known'
    · exact ⟨_, named⟩

/-- A call fails or answers, and extends what was there. -/
theorem extends_after (asks : call.path? = some path) :
    workspace.Extends (path <+: ·) workspace.forest.size (workspace.after call) := by
  cases ended : workspace.answer call with
  | error fault => exact (regular.guarded.abandons asks ended).toExtends
  | ok found => exact (regular.guarded.answers asks ended).toExtends

theorem linked_after (call : Call) (id target : Nat)
    (links : (workspace.after call).forest.LinksTo id target) :
    target < (workspace.after call).forest.size := by
  have grows := regular.guarded.after call
  cases asks : call.path? with
  | none =>
    rw [forest_after_of_path? asks] at links ⊢
    exact regular.linked id target links
  | some path =>
    obtain ⟨node, held, linked⟩ := links
    rcases Nat.lt_or_ge id workspace.forest.size with old | new
    · rw [grows.slots id old] at held
      exact (regular.linked id target ⟨node, held, linked⟩).trans_le grows.size
    · obtain ⟨_, -, found⟩ := (regular.extends_after asks).linked id node new held target linked
      obtain ⟨name, -, known⟩ := idAt_eq_some.mp found
      exact (ordered_after regular.ordered call).ids name target known

theorem left_after (call : Call) : ∀ path ∈ broken ++ workspace.brokenBy call,
    ∃ id, (workspace.after call).idAt path rootSuffix = some id ∧
      (workspace.after call).forest.node? id = none := by
  have grows := regular.guarded.after call
  refine List.forall_mem_append.mpr ⟨fun path member => ?_, fun path member => ?_⟩
  · obtain ⟨id, found, unfilled⟩ := regular.left path member
    exact ⟨id, grows.idAt found, (grows.slots id (regular.idAt_lt found)).trans unfilled⟩
  · obtain ⟨asks, breaks⟩ := mem_brokenBy.mp member
    obtain ⟨⟨fault, fails⟩, grown⟩ := breaksOff_iff.mp breaks
    exact ⟨_, (regular.guarded.abandons asks fails).root grown⟩

/-- A call that leaves open what it has opened is broken off. -/
theorem breaksOff_of_open (call : Call) {id : Nat} (new : workspace.forest.size ≤ id)
    (inside : id < (workspace.after call).forest.size)
    (unfilled : (workspace.after call).forest.node? id = none) :
    workspace.breaksOff call = true := by
  cases asks : call.path? with
  | none =>
    rw [forest_after_of_path? asks] at inside
    exact absurd inside (Nat.not_lt.mpr new)
  | some path =>
    cases ended : workspace.answer call with
    | error fault => exact breaksOff_iff.mpr ⟨⟨fault, ended⟩, new.trans_lt inside⟩
    | ok found =>
      have filled := (regular.guarded.answers asks ended).filled id new inside
      simp [unfilled] at filled

theorem after (call : Call) :
    (workspace.after call).Regular (broken ++ workspace.brokenBy call) where
  guarded := (regular.guarded.after call).guarded
  ordered := ordered_after regular.ordered call
  consistent := consistent_after regular.consistent call
  owned := regular.owned_after call
  linked := regular.linked_after call
  left := regular.left_after call

end Regular

theorem regular_afterAll (abbreviated : Bool) (calls : List Call) :
    ((Workspace.empty abbreviated).afterAll calls).Regular
      ((Workspace.empty abbreviated).brokenOff calls) := by
  induction calls using List.reverseRecOn with
  | nil => exact .empty abbreviated
  | append_singleton calls call ih =>
    rw [afterAll_concat, brokenOff_concat]
    exact ih.after call

/-! ### What is sound -/

def SoundApart (broken : List (List String)) (workspace : Workspace) : Prop :=
  ∀ path suffix id, workspace.idAt path suffix = some id →
    (∀ other ∈ broken, ¬KeyBelow other (pathKey path suffix)) → workspace.forest.Sound id

namespace Regular

variable (regular : workspace.Regular broken) (sound : workspace.SoundApart broken)
include regular sound

/-- What a call opens is sound, if it answers at a path that is apart from all at which calls were
broken off: it links to what it has opened itself and to what was there apart from these. -/
theorem sound_of_answer (asks : call.path? = some path) {found : Option NodeId}
    (answered : workspace.answer call = .ok found) (apart : ∀ other ∈ broken, Apart path other)
    {id : Nat} (new : workspace.forest.size ≤ id) (inside : id < (workspace.after call).forest.size) :
    (workspace.after call).forest.Sound id := by
  have answers := regular.guarded.answers asks answered
  refine Forest.sound_of_closed (fun id : Nat => workspace.forest.size ≤ id ∧
    id < (workspace.after call).forest.size ∨ (workspace.after call).forest.Sound id) ?_ ?_
    (.inl ⟨new, inside⟩)
  · rintro id (⟨new, inside⟩ | sound)
    · exact answers.filled id new inside
    · exact sound.filled
  · rintro id target (⟨new, -⟩ | whole) links
    · obtain ⟨node, held, linked⟩ := links
      obtain ⟨_, ⟨further, rfl⟩, found⟩ := answers.linked id node new held target linked
      rcases Nat.lt_or_ge target workspace.forest.size with old | new'
      · have whole := sound _ _ target (regular.idAt_of_lt call found old) fun other member =>
          apart other member _ (keyBelow_append path further _)
        exact .inr (whole.of_kept answers.grows.slots)
      · exact .inl ⟨new', regular.linked_after call id target ⟨node, held, linked⟩⟩
    · exact .inr (whole.tail links)

theorem soundApart_after (call : Call)
    (separated : ∀ path, call.path? = some path → ∀ other ∈ broken, path = other ∨ Apart path other) :
    (workspace.after call).SoundApart (broken ++ workspace.brokenBy call) := by
  intro other suffix id found clear
  obtain ⟨clear, clear'⟩ := List.forall_mem_append.mp clear
  have grows := regular.guarded.after call
  rcases Nat.lt_or_ge id workspace.forest.size with old | new
  · exact (sound other suffix id (regular.idAt_of_lt call found old) clear).of_kept grows.slots
  obtain ⟨name, named, known⟩ := idAt_eq_some.mp found
  have inside := (ordered_after regular.ordered call).ids name id known
  cases asks : call.path? with
  | none =>
    rw [forest_after_of_path? asks] at inside
    exact absurd inside (Nat.not_lt.mpr new)
  | some path =>
    have below := regular.keyBelow_of_ge asks found new
    cases ended : workspace.answer call with
    | error fault =>
      have breaks := breaksOff_iff.mpr ⟨⟨fault, ended⟩, new.trans_lt inside⟩
      exact absurd below (clear' path (mem_brokenBy.mpr ⟨asks, breaks⟩))
    | ok found =>
      refine regular.sound_of_answer sound asks ended (fun other member => ?_) new inside
      refine (separated path asks other member).resolve_left ?_
      rintro rfl
      exact clear path member below

end Regular

theorem path?_of_mem_brokenOff {calls : List Call} (member : path ∈ workspace.brokenOff calls) :
    path ∈ calls.filterMap Call.path? := by
  induction calls generalizing workspace with
  | nil => cases member
  | cons call calls ih =>
    rw [List.filterMap_cons]
    rcases List.mem_append.mp member with member | member
    · rw [(mem_brokenBy.mp member).1]
      exact List.mem_cons_self
    · have listed := ih member
      split
      next => exact listed
      next => exact List.mem_cons_of_mem _ listed

/-- Calls at plain paths are separated if none is at a path above or below one at which a call is
broken off. -/
theorem separated_of_plain {calls : List Call}
    (plain : ∀ path ∈ calls.filterMap Call.path?, IsPlainPath path)
    (beside : ∀ path ∈ calls.filterMap Call.path?, ∀ other ∈ workspace.brokenOff calls,
      path = other ∨ ¬path <+: other ∧ ¬other <+: path) : workspace.Separated calls := by
  rintro before call ⟨rest, rfl⟩ path asks other member
  rw [List.append_assoc, List.singleton_append] at plain beside
  have listed : path ∈ (before ++ call :: rest).filterMap Call.path? :=
    List.mem_filterMap.mpr ⟨call, by simp, asks⟩
  have broken : other ∈ workspace.brokenOff (before ++ call :: rest) := by
    rw [brokenOff_append]
    exact List.mem_append_left _ member
  refine (beside path listed other broken).imp_right fun ⟨apart, apart'⟩ => ?_
  exact apart_of_plain (plain path listed) (plain other (path?_of_mem_brokenOff broken)) apart apart'

theorem Separated.of_concat {calls : List Call}
    (separated : workspace.Separated (calls ++ [call])) : workspace.Separated calls :=
  fun before next listed => separated before next (listed.trans (List.prefix_append _ _))

theorem soundApart_afterAll (abbreviated : Bool) {calls : List Call}
    (separated : (Workspace.empty abbreviated).Separated calls) :
    ((Workspace.empty abbreviated).afterAll calls).SoundApart
      ((Workspace.empty abbreviated).brokenOff calls) := by
  induction calls using List.reverseRecOn with
  | nil => exact fun path suffix id found => absurd ((Regular.empty abbreviated).idAt_lt found) nofun
  | append_singleton calls call ih =>
    rw [afterAll_concat, brokenOff_concat]
    exact (regular_afterAll abbreviated calls).soundApart_after (ih separated.of_concat) call
      (separated calls call List.prefix_rfl)

/-! ### Handles -/

def OpenedInVain (workspace : Workspace) (calls : List Call) (id : NodeId) : Prop :=
  ∃ before call, before ++ [call] <+: calls ∧
    (workspace.afterAll before).breaksOff call = true ∧
    (workspace.afterAll before).forest.size ≤ id ∧
    id < (workspace.afterAll (before ++ [call])).forest.size

theorem OpenedInVain.concat {calls : List Call} {id : NodeId}
    (opened : workspace.OpenedInVain calls id) (call : Call) :
    workspace.OpenedInVain (calls ++ [call]) id := by
  obtain ⟨before, broken, listed, facts⟩ := opened
  exact ⟨before, broken, listed.trans (List.prefix_append _ _), facts⟩

/-- What is open was opened by a call that was broken off. -/
theorem openedInVain_of_open (abbreviated : Bool) (calls : List Call) {id : Nat}
    (inside : id < ((Workspace.empty abbreviated).afterAll calls).forest.size)
    (unfilled : ((Workspace.empty abbreviated).afterAll calls).forest.node? id = none) :
    (Workspace.empty abbreviated).OpenedInVain calls id := by
  induction calls using List.reverseRecOn with
  | nil => exact absurd inside nofun
  | append_singleton calls call ih =>
    have regular := regular_afterAll abbreviated calls
    have both := afterAll_concat (Workspace.empty abbreviated) calls call
    rw [both] at inside unfilled
    rcases Nat.lt_or_ge id ((Workspace.empty abbreviated).afterAll calls).forest.size with old | new
    · rw [(regular.guarded.after call).slots id old] at unfilled
      exact (ih old unfilled).concat call
    · exact ⟨calls, call, List.prefix_rfl, regular.breaksOff_of_open call new inside unfilled, new,
        both ▸ inside⟩

/-- What can be told of a projection that a call gives for a path after other calls. -/
structure Vouches (workspace : Workspace) (calls : List Call) (call : Call) (path : List String)
    (id : NodeId) : Prop where
  /-- All that it leads to is filled, unless an earlier call has opened it that was broken off. -/
  reached : ∀ other,
    ReflTransGen (workspace.afterAll (calls ++ [call])).forest.LinksTo id other →
      ((workspace.afterAll (calls ++ [call])).forest.node? other).isSome ∨
        workspace.OpenedInVain calls other
  /-- If calls for different paths do not come near each other once one of them is broken off, then
  it is the path alone that decides. -/
  sound_iff : workspace.Separated (calls ++ [call]) →
    ((workspace.afterAll (calls ++ [call])).forest.Sound id ↔ path ∉ workspace.brokenOff calls)

theorem Regular.sound_iff (regular : workspace.Regular broken) (sound : workspace.SoundApart broken)
    (asks : call.path? = some path) {id : Nat} (answered : workspace.answer call = .ok (some id))
    (separated : ∀ other ∈ broken, path = other ∨ Apart path other) :
    (workspace.after call).forest.Sound id ↔ path ∉ broken := by
  have answers := regular.guarded.answers asks answered
  have root := answers.root id rfl
  have grows := answers.grows
  constructor
  · intro whole member
    obtain ⟨other, found, unfilled⟩ := regular.left path member
    obtain rfl := Option.some.inj (root.symm.trans (grows.idAt found))
    have filled := whole.filled
    simp [grows.slots id (regular.idAt_lt found), unfilled] at filled
  · intro clear
    have apart (other : List String) (member : other ∈ broken) : Apart path other := by
      refine (separated other member).resolve_left ?_
      rintro rfl
      exact clear member
    rcases Nat.lt_or_ge id workspace.forest.size with old | new
    · have found := regular.idAt_of_lt call root old
      have whole := sound path _ id found fun other member =>
        apart other member _ (keyBelow_self path _)
      exact whole.of_kept grows.slots
    · exact regular.sound_of_answer sound asks answered apart new ((regular.after call).idAt_lt root)

/-- All that a call gives, it has filled itself, or calls before have opened it. -/
theorem Regular.isSome_or_lt (regular : workspace.Regular broken) (asks : call.path? = some path)
    {id : Nat} (answered : workspace.answer call = .ok (some id)) {other : Nat}
    (reached : ReflTransGen (workspace.after call).forest.LinksTo id other) :
    ((workspace.after call).forest.node? other).isSome ∨ other < workspace.forest.size := by
  have answers := regular.guarded.answers asks answered
  have later := regular.after call
  have inside : other < (workspace.after call).forest.size := by
    induction reached with
    | refl => exact later.idAt_lt (answers.root id rfl)
    | tail _ links => exact later.linked _ _ links
  rcases Nat.lt_or_ge other workspace.forest.size with old | new
  · exact .inr old
  · exact .inl (answers.filled other new inside)

/-- A call after others gives a sound projection, unless it leads to one that was opened in vain. -/
theorem vouches_of_answer (abbreviated : Bool) (calls : List Call) (call : Call)
    {path : List String} (asks : call.path? = some path) {id : NodeId}
    (answered : ((Workspace.empty abbreviated).afterAll calls).answer call = .ok (some id)) :
    (Workspace.empty abbreviated).Vouches calls call path id := by
  have regular := regular_afterAll abbreviated calls
  have both := afterAll_concat (Workspace.empty abbreviated) calls call
  constructor
  · rw [both]
    intro other reached
    cases held : (((Workspace.empty abbreviated).afterAll calls).after call).forest.node? other with
    | some node => exact .inl rfl
    | none =>
      have old := (regular.isSome_or_lt asks answered reached).resolve_left (by simp [held])
      rw [(regular.guarded.after call).slots other old] at held
      exact .inr (openedInVain_of_open abbreviated calls old held)
  · rw [both]
    intro separated
    exact regular.sound_iff (soundApart_afterAll abbreviated separated.of_concat) asks answered
      (separated calls call List.prefix_rfl path asks)

def unfinishedDocument : String :=
  "type Query \x7b show: Show movie: Movie \x7d
  type Show \x7b by: Person next: Missing \x7d
  type Movie \x7b by: Person \x7d
  type Person \x7b name: String \x7d"

def callsOf (schema : Schema) : Option (Call × Call) := do
  let owner ← schema.type? "Query"
  let first ← owner.fields.head?
  let last ← owner.fields.getLast?
  return (.root ⟨schema, none⟩ [first.name] first none, .root ⟨schema, none⟩ [last.name] last none)

/-- The second call for the first field does not fail as the first does, but gives a projection that
is open. -/
theorem not_sound_unfinishedDocument : ∃ schema first last id,
    Schema.ofDocuments [unfinishedDocument] .standard = .ok schema ∧
      callsOf schema = some (first, last) ∧ (Workspace.empty false).breaksOff first = true ∧
      ((Workspace.empty false).afterAll [first]).answer first = .ok (some id) ∧
      ¬((Workspace.empty false).afterAll [first, first]).forest.Sound id := by
  have checked : (Schema.ofDocuments [unfinishedDocument] .standard).toOption.any (fun schema =>
      (callsOf schema).any fun (first, _) =>
        let start := Workspace.empty false
        start.breaksOff first &&
          leavesTree ((start.afterAll [first]).answer first, start.afterAll [first, first])
            fun forest id => (forest.node? id).isNone) = true := by
    decide +kernel
  obtain ⟨schema, read, checked⟩ := exists_of_any checked
  obtain ⟨⟨first, last⟩, found, checked⟩ := (Option.any_eq_true _ _).mp checked
  obtain ⟨breaks, left⟩ := Bool.and_eq_true_iff.mp checked
  obtain ⟨id, later, ran, unfilled⟩ := exists_tree left
  obtain ⟨answered, rfl⟩ := Prod.mk.inj ran
  refine ⟨schema, first, last, id, read, found, breaks, answered, fun whole => ?_⟩
  have filled := whole.filled
  simp [Option.isNone_iff_eq_none.mp unfilled] at filled

theorem vouches_unfinishedDocument : ∃ schema first last path id,
    Schema.ofDocuments [unfinishedDocument] .standard = .ok schema ∧
      callsOf schema = some (first, last) ∧ last.path? = some path ∧
      (Workspace.empty false).brokenOff [first, first] = [["show"]] ∧
      ((Workspace.empty false).afterAll [first, first]).answer last = .ok (some id) ∧
      ((Workspace.empty false).afterAll [first, first, last]).forest.Sound id := by
  have checked : (Schema.ofDocuments [unfinishedDocument] .standard).toOption.any (fun schema =>
      (callsOf schema).any fun (first, last) =>
        let calls := [first, first, last]
        let paths := calls.filterMap Call.path?
        let start := Workspace.empty false
        decide (last.path? = some ["movie"] ∧ start.brokenOff [first, first] = [["show"]] ∧
          (∀ path ∈ paths, IsPlainPath path) ∧ ∀ path ∈ paths, ∀ other ∈ start.brokenOff calls,
            path = other ∨ ¬path <+: other ∧ ¬other <+: path) &&
        leavesTree ((start.afterAll [first, first]).answer last, start.afterAll calls) fun _ _ => true)
      = true := by
    decide +kernel
  obtain ⟨schema, read, checked⟩ := exists_of_any checked
  obtain ⟨⟨first, last⟩, found, checked⟩ := (Option.any_eq_true _ _).mp checked
  obtain ⟨facts, left⟩ := Bool.and_eq_true_iff.mp checked
  obtain ⟨asks, broken, plain, beside⟩ := of_decide_eq_true facts
  obtain ⟨id, later, ran, -⟩ := exists_tree left
  have answered := (Prod.mk.inj ran).1
  refine ⟨schema, first, last, _, id, read, found, asks, broken, answered, ?_⟩
  have vouches := vouches_of_answer false [first, first] last asks answered
  exact (vouches.sound_iff (separated_of_plain plain beside)).mpr (by rw [broken]; decide)

end Workspace
end GraphQLProjections
