import Mathlib.Data.List.Nodup
import Mathlib.Data.List.Perm.Subperm
import Std.Data.String.ToNat
import GraphQLProjections.NameSupply

/-! Names and the paths they stand for. The keys of plain paths tell paths and suffixes apart, a
first free name exists, and a consistent supply keeps paths and names in one-to-one
correspondence whatever is asked of it. -/
namespace GraphQLProjections

/-- A segment without the marks that path keys are made with. -/
def IsPlain (segment : String) : Prop := '/' ∉ segment.toList ∧ '#' ∉ segment.toList

instance : DecidablePred IsPlain := fun _ => inferInstanceAs (Decidable (_ ∧ _))

def IsPlainPath (path : List String) : Prop := path ≠ [] ∧ ∀ segment ∈ path, IsPlain segment

instance : DecidablePred IsPlainPath := fun _ => inferInstanceAs (Decidable (_ ∧ _))

theorem IsPlainPath.singleton {segment : String} (plain : IsPlain segment) :
    IsPlainPath [segment] := by
  simp [IsPlainPath, plain]

theorem IsPlainPath.append {path : List String} {segment : String} (front : IsPlainPath path)
    (plain : IsPlain segment) : IsPlainPath (path ++ [segment]) := by
  constructor
  · simp
  · intro other member
    rcases List.mem_append.mp member with member | member
    · exact front.2 other member
    · exact List.mem_singleton.mp member ▸ plain

namespace NameSupply

/-! ### Path keys -/

/-- A text up to its first mark of some kinds, and what follows the mark. -/
theorem append_mark_injective (isMark : Char → Prop) {mark mark' : Char} {a b s t : List Char}
    (marks : isMark mark) (marks' : isMark mark') (ha : ∀ c ∈ a, ¬isMark c)
    (hb : ∀ c ∈ b, ¬isMark c) (same : a ++ mark :: s = b ++ mark' :: t) : a = b ∧ s = t := by
  induction a generalizing b with
  | nil =>
    cases b with
    | nil => exact ⟨rfl, (List.cons.inj same).2⟩
    | cons c rest => exact absurd ((List.cons.inj same).1 ▸ marks) (hb c List.mem_cons_self)
  | cons c rest ih =>
    cases b with
    | nil => exact absurd ((List.cons.inj same).1 ▸ marks') (ha c List.mem_cons_self)
    | cons d others =>
      obtain ⟨rfl, tails⟩ := List.cons.inj same
      obtain ⟨rfl, rest⟩ := ih (List.forall_mem_cons.mp ha).2 (List.forall_mem_cons.mp hb).2 tails
      exact ⟨rfl, rest⟩

theorem numberSign_notMem_joined {path : List String} (plain : IsPlainPath path) :
    '#' ∉ ("/".intercalate path).toList := by
  rw [String.toList_intercalate]
  have segments := plain.2
  clear plain
  induction path with
  | nil => simp
  | cons segment rest ih =>
    cases rest with
    | nil => simpa using (segments segment (by simp)).2
    | cons next others =>
      simp only [List.map_cons, List.intercalate_cons_cons, List.mem_append, not_or] at ih ⊢
      refine ⟨⟨(segments segment List.mem_cons_self).2, by decide⟩, ?_⟩
      exact ih fun other member => segments other (by simp [member])

theorem joined_injective {path other : List String} (plain : IsPlainPath path)
    (plain' : IsPlainPath other) (same : "/".intercalate path = "/".intercalate other) :
    path = other := by
  have split (p : List String) (h : IsPlainPath p) :
      ("/".intercalate p).toList.splitOn '/' = p.map String.toList := by
    rw [String.toList_intercalate]
    apply List.splitOn_intercalate
    · intro segment member
      obtain ⟨text, inside, rfl⟩ := List.mem_map.mp member
      exact (h.2 text inside).1
    · simpa using h.1
  have segments : path.map String.toList = other.map String.toList := by
    rw [← split path plain, ← split other plain', same]
  exact List.map_injective_iff.mpr (fun _ _ => String.toList_injective) segments

/-- Keys of plain paths tell both the path and the suffix. -/
theorem pathKey_injective {path other : List String} {suffix suffix' : String}
    (plain : IsPlainPath path) (plain' : IsPlainPath other)
    (same : pathKey path suffix = pathKey other suffix') : path = other ∧ suffix = suffix' := by
  have chars := congrArg String.toList same
  simp only [pathKey, String.toList_append] at chars
  have mark : "#".toList = ['#'] := rfl
  rw [mark, List.append_assoc, List.append_assoc] at chars
  have before {path : List String} (plain : IsPlainPath path) :
      ∀ c ∈ ("/".intercalate path).toList, c ≠ '#' :=
    fun _ member same => numberSign_notMem_joined plain (same ▸ member)
  obtain ⟨front, back⟩ := append_mark_injective (· = '#') rfl rfl (before plain)
    (before plain') chars
  exact ⟨joined_injective plain plain' (String.toList_injective front),
    String.toList_injective back⟩

/-! ### Paths that do not meet -/

def KeyBelow (path : List String) (key : String) : Prop :=
  ∃ further suffix, key = pathKey (path ++ further) suffix

/-- Nothing below one of two paths has the key of anything below the other. -/
def Apart (path other : List String) : Prop := ∀ key, KeyBelow path key → ¬KeyBelow other key

/-- The first segment of a path ends at a mark of its key. -/
theorem exists_mark (segment : String) (rest : List String) (suffix : String) :
    ∃ mark tail, (mark = '/' ∨ mark = '#') ∧
      (pathKey (segment :: rest) suffix).toList = segment.toList ++ mark :: tail ∧
      (rest ≠ [] → tail = (pathKey rest suffix).toList) := by
  cases rest with
  | nil => exact ⟨'#', suffix.toList, .inr rfl, by simp [pathKey], nofun⟩
  | cons next others =>
    refine ⟨'/', (pathKey (next :: others) suffix).toList, .inl rfl, ?_, fun _ => rfl⟩
    simp [pathKey, String.toList_intercalate]

/-- Paths with one key have their first segment in common, and the rest has one key if both go on. -/
theorem eq_of_pathKey_cons {segment next : String} {rest others : List String}
    {suffix suffix' : String} (plain : IsPlain segment) (plain' : IsPlain next)
    (same : pathKey (segment :: rest) suffix = pathKey (next :: others) suffix') :
    segment = next ∧
      (rest ≠ [] → others ≠ [] → pathKey rest suffix = pathKey others suffix') := by
  have unmarked {segment : String} (plain : IsPlain segment) :
      ∀ c ∈ segment.toList, ¬(c = '/' ∨ c = '#') := by
    rintro c member (rfl | rfl)
    · exact plain.1 member
    · exact plain.2 member
  obtain ⟨mark, tail, isMark, split, goesOn⟩ := exists_mark segment rest suffix
  obtain ⟨mark', tail', isMark', split', goesOn'⟩ := exists_mark next others suffix'
  have chars := congrArg String.toList same
  rw [split, split'] at chars
  obtain ⟨first, tails⟩ := append_mark_injective (fun c => c = '/' ∨ c = '#') isMark isMark'
    (unmarked plain) (unmarked plain') chars
  refine ⟨String.toList_injective first, fun more more' => String.toList_injective ?_⟩
  rw [← goesOn more, ← goesOn' more', tails]

theorem pathKey_append_ne {path other : List String} (plain : ∀ segment ∈ path, IsPlain segment)
    (plain' : ∀ segment ∈ other, IsPlain segment) (apart : ¬path <+: other)
    (apart' : ¬other <+: path) (further further' : List String) (suffix suffix' : String) :
    pathKey (path ++ further) suffix ≠ pathKey (other ++ further') suffix' := by
  induction path generalizing other with
  | nil => exact absurd List.nil_prefix apart
  | cons segment rest ih =>
    cases other with
    | nil => exact absurd List.nil_prefix apart'
    | cons next others =>
      intro same
      obtain ⟨rfl, goesOn⟩ := eq_of_pathKey_cons (plain segment List.mem_cons_self)
        (plain' next List.mem_cons_self) same
      rw [List.prefix_cons_inj] at apart apart'
      have begun : rest ≠ [] := by
        rintro rfl
        exact apart List.nil_prefix
      have begun' : others ≠ [] := by
        rintro rfl
        exact apart' List.nil_prefix
      exact ih (fun segment member => plain segment (List.mem_cons_of_mem _ member))
        (fun segment member => plain' segment (List.mem_cons_of_mem _ member)) apart apart'
        (goesOn (by simp [begun]) (by simp [begun']))

/-- Plain paths are apart if neither goes on from the other. -/
theorem apart_of_plain {path other : List String} (plain : IsPlainPath path)
    (plain' : IsPlainPath other) (apart : ¬path <+: other) (apart' : ¬other <+: path) :
    Apart path other := by
  rintro _ ⟨further, suffix, rfl⟩ ⟨further', suffix', same⟩
  exact pathKey_append_ne plain.2 plain'.2 apart apart' _ _ _ _ same

theorem keyBelow_append (path further : List String) (suffix : String) :
    KeyBelow path (pathKey (path ++ further) suffix) := ⟨further, suffix, rfl⟩

theorem keyBelow_self (path : List String) (suffix : String) : KeyBelow path (pathKey path suffix) :=
  ⟨[], suffix, by rw [List.append_nil]⟩

/-! ### The first free name -/

/-- A number put into a name makes it longer. -/
theorem candidate_succ_ne (base suffix : String) (index : Nat) :
    candidate base suffix (index + 1) ≠ base ++ suffix := by
  intro same
  have lengths := congrArg String.length same
  have digits : 0 < (toString (index + 2)).length := Nat.length_repr_pos
  simp only [candidate, String.length_append] at lengths
  omega

theorem candidate_injective (base suffix : String) :
    Function.Injective (candidate base suffix) := by
  intro i j same
  cases i with
  | zero =>
    cases j with
    | zero => rfl
    | succ j => exact absurd same.symm (candidate_succ_ne base suffix j)
  | succ i =>
    cases j with
    | zero => exact absurd same (candidate_succ_ne base suffix i)
    | succ j =>
      have numbers : toString (i + 2) = toString (j + 2) := by
        simpa [candidate, String.append_assoc] using same
      have := Nat.repr_injective numbers
      omega

/-- A search that goes past all its candidates has found each of them taken. -/
theorem firstFree_taken {isTaken : String → Bool} {base suffix : String} {bound index : Nat}
    (taken : isTaken (firstFree isTaken base suffix bound index) = true) :
    ∀ k ≤ bound, isTaken (candidate base suffix (index + k)) = true := by
  induction bound generalizing index with
  | zero =>
    intro k le
    obtain rfl : k = 0 := by omega
    exact taken
  | succ bound ih =>
    unfold firstFree at taken
    split at taken
    next here =>
      intro k le
      cases k with
      | zero => exact here
      | succ k =>
        have := ih taken k (by omega)
        rwa [show index + 1 + k = index + (k + 1) by omega] at this
    next free => exact absurd taken free

/-- There is one candidate more than there are taken names. -/
theorem exists_free (supply : NameSupply) (base suffix : String) :
    ∃ index ≤ supply.owners.size, supply.isTaken (candidate base suffix index) = false := by
  by_contra taken
  let tried := (List.range (supply.owners.size + 1)).map (candidate base suffix)
  have distinct : tried.Nodup := List.nodup_range.map (candidate_injective _ _)
  have owned : tried ⊆ supply.owners.keys := by
    intro name member
    obtain ⟨index, below, rfl⟩ := List.mem_map.mp member
    rw [Std.ExtTreeMap.mem_keys, Std.ExtTreeMap.mem_iff_contains]
    by_contra free
    exact taken ⟨index, Nat.lt_succ_iff.mp (List.mem_range.mp below),
      by rwa [Bool.not_eq_true] at free⟩
  have lengths := (List.subperm_of_subset distinct owned).length_le
  rw [List.length_map, List.length_range, Std.ExtTreeMap.length_keys] at lengths
  omega

theorem isTaken_freshName (supply : NameSupply) (path : List String) (suffix : String) :
    supply.isTaken (supply.freshName path suffix) = false := by
  by_contra taken
  obtain ⟨index, within, free⟩ := exists_free supply (baseName supply.abbreviated path) suffix
  have all := firstFree_taken (Bool.not_eq_false _ ▸ taken) index within
  rw [Nat.zero_add, free] at all
  exact absurd all Bool.false_ne_true

/-! ### Consistent supplies -/

def nameOf? (supply : NameSupply) (path : List String) (suffix : String) : Option String :=
  supply.assigned[pathKey path suffix]?

/-- The path keys with a name and the taken names answer each other. -/
structure Consistent (supply : NameSupply) : Prop where
  inverse : ∀ key name : String, supply.assigned[key]? = some name ↔ supply.owners[name]? = some key

theorem consistent_empty (abbreviated : Bool) : (empty abbreviated).Consistent :=
  ⟨fun key name => by simp [empty]⟩

/-- Of two supplies the second keeps all names and reservations of the first. -/
structure Keeps (supply later : NameSupply) : Prop where
  assigned : ∀ key name : String, supply.assigned[key]? = some name → later.assigned[key]? = some name
  reserved : ∀ name : String, supply.isReserved name = true → later.isReserved name = true

theorem Keeps.refl (supply : NameSupply) : supply.Keeps supply := ⟨fun _ _ => id, fun _ => id⟩

theorem Keeps.trans {first second third : NameSupply} (before : first.Keeps second)
    (after : second.Keeps third) : first.Keeps third :=
  ⟨fun key name held => after.assigned key name (before.assigned key name held),
    fun name held => after.reserved name (before.reserved name held)⟩

theorem Keeps.nameOf? {supply later : NameSupply} (keeps : supply.Keeps later)
    {path : List String} {suffix name : String} (named : supply.nameOf? path suffix = some name) :
    later.nameOf? path suffix = some name :=
  keeps.assigned _ _ named

theorem Consistent.eq_of_assigned {supply : NameSupply} (consistent : supply.Consistent)
    {key other name : String} (assigned : supply.assigned[key]? = some name)
    (assigned' : supply.assigned[other]? = some name) : key = other := by
  have owner := (consistent.inverse _ _).mp assigned
  have owner' := (consistent.inverse _ _).mp assigned'
  exact Option.some.inj (owner.symm.trans owner')

/-- One name belongs to one plain path and one suffix. -/
theorem Consistent.nameOf?_injective {supply : NameSupply} (consistent : supply.Consistent)
    {path other : List String} {suffix suffix' name : String} (plain : IsPlainPath path)
    (plain' : IsPlainPath other) (named : supply.nameOf? path suffix = some name)
    (named' : supply.nameOf? other suffix' = some name) : path = other ∧ suffix = suffix' := by
  exact pathKey_injective plain plain' (consistent.eq_of_assigned named named')

/-- A path gets a name when none has it, under a key that had none. -/
theorem Consistent.assign {supply : NameSupply} (consistent : supply.Consistent)
    {key name : String} (unnamed : supply.assigned[key]? = none)
    (free : supply.owners[name]? = none) : (supply.assign key name).Consistent := by
  constructor
  intro other text
  rw [assigned_assign, owners_assign]
  by_cases sameKey : key = other
  · subst sameKey
    by_cases sameName : name = text
    · simp [sameName]
    · have := consistent.inverse key text
      simp_all
  · by_cases sameName : name = text
    · subst sameName
      have := consistent.inverse other name
      simp_all
    · simpa [sameKey, sameName] using consistent.inverse other text

theorem owners_freshName (supply : NameSupply) (path : List String) (suffix : String) :
    supply.owners[supply.freshName path suffix]? = none := by
  have free := isTaken_freshName supply path suffix
  rw [isTaken] at free
  exact Std.ExtTreeMap.getElem?_eq_none_of_contains_eq_false free

theorem Consistent.allocate {supply : NameSupply} (consistent : supply.Consistent)
    (path : List String) (suffix : String) : (supply.allocate path suffix).2.Consistent := by
  unfold NameSupply.allocate
  split
  next => exact consistent
  next unnamed => exact consistent.assign unnamed (owners_freshName supply path suffix)

theorem nameOf?_allocate (supply : NameSupply) (path : List String) (suffix : String) :
    (supply.allocate path suffix).2.nameOf? path suffix =
      some (supply.allocate path suffix).1 := by
  unfold NameSupply.allocate nameOf?
  split
  next name named => exact named
  next => simp [assigned_assign]

@[simp] theorem isReserved_allocate (supply : NameSupply) (path : List String)
    (suffix name : String) :
    (supply.allocate path suffix).2.isReserved name = supply.isReserved name := by
  unfold NameSupply.allocate
  split <;> rfl

theorem keeps_allocate (supply : NameSupply) (path : List String) (suffix : String) :
    supply.Keeps (supply.allocate path suffix).2 := by
  refine ⟨?_, by simp⟩
  intro key name held
  unfold NameSupply.allocate
  split
  next => exact held
  next unnamed =>
    rw [assigned_assign, if_neg]
    · exact held
    · rintro rfl
      exact absurd (unnamed.symm.trans held) (by simp)

theorem keeps_reserve (supply : NameSupply) (name : String) :
    supply.Keeps (supply.reserve name) :=
  ⟨fun _ _ => id, fun other held => by simp [isReserved_reserve, held]⟩

theorem Consistent.reserve {supply : NameSupply} (consistent : supply.Consistent)
    (name : String) : (supply.reserve name).Consistent :=
  ⟨consistent.inverse⟩

/-- What claiming a path does: the path has its name, the name is reserved, and the flag tells
whether it was so before. -/
theorem claim_eq (supply : NameSupply) (path : List String) (suffix : String) :
    ∃ later name, supply.claim path suffix = ((name, !supply.isReserved name), later) ∧
      supply.Keeps later ∧ later.nameOf? path suffix = some name ∧
      (∀ other, later.isReserved other = (name == other || supply.isReserved other)) ∧
      (supply.Consistent → later.Consistent) := by
  refine ⟨((supply.allocate path suffix).2).reserve (supply.allocate path suffix).1,
    (supply.allocate path suffix).1, ?_, ?_, ?_, ?_, ?_⟩
  · simp [claim]
  · exact (keeps_allocate supply path suffix).trans (keeps_reserve _ _)
  · exact nameOf?_allocate supply path suffix
  · simp [isReserved_reserve]
  · exact fun consistent => (consistent.allocate path suffix).reserve _

/-- What claiming a path has done. -/
theorem of_claim {supply later : NameSupply} {path : List String} {suffix name : String}
    {isNew : Bool} (claims : supply.claim path suffix = ((name, isNew), later)) :
    isNew = !supply.isReserved name ∧ supply.Keeps later ∧ later.nameOf? path suffix = some name ∧
      (∀ other, later.isReserved other = (name == other || supply.isReserved other)) ∧
      (supply.Consistent → later.Consistent) := by
  obtain ⟨_, _, claimed, facts⟩ := supply.claim_eq path suffix
  obtain ⟨⟨rfl, rfl⟩, rfl⟩ := claims.symm.trans claimed
  exact ⟨rfl, facts⟩

theorem claim_of_assigned {supply : NameSupply} {path : List String} {suffix name : String}
    (known : supply.assigned[pathKey path suffix]? = some name) :
    supply.claim path suffix = ((name, !supply.isReserved name), supply.reserve name) := by
  unfold claim
  rw [allocate_of_assigned _ _ _ _ known]

theorem claim_of_unassigned {supply : NameSupply} {path : List String} {suffix : String}
    (unnamed : supply.assigned[pathKey path suffix]? = none) :
    supply.claim path suffix =
      ((supply.freshName path suffix, !supply.isReserved (supply.freshName path suffix)),
        (supply.assign (pathKey path suffix) (supply.freshName path suffix)).reserve
          (supply.freshName path suffix)) := by
  unfold claim allocate
  rw [unnamed]
  rfl

theorem isReserved_of_old {supply names : NameSupply} {name : String}
    (reserved : ∀ other : String,
      names.isReserved other = (name == other || supply.isReserved other))
    (old : supply.isReserved name = true) (other : String) :
    names.isReserved other = supply.isReserved other := by
  by_cases same : name = other
  · simp [← same, reserved, old]
  · simp [reserved, same]

end NameSupply
end GraphQLProjections
