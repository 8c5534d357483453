import GraphQLProjections.Proofs.NameSupply
import GraphQLProjections.Proofs.Renaming.Renamable

/-! Twin supplies of names: the same paths have come to both, and the same names are reserved, up to
how the names are made. The names of a path in the two supplies make a pair, and pairs translate
what holds names of the one supply to the other. -/
namespace GraphQLProjections
namespace NameSupply

variable {supply other later later' : NameSupply} {name name' : String}

/-- The names of one path in two supplies. -/
def Pairs (supply other : NameSupply) (name name' : String) : Prop :=
  ∃ key : String, supply.assigned[key]? = some name ∧ other.assigned[key]? = some name'

namespace Pairs

theorem symm (pairs : supply.Pairs other name name') : other.Pairs supply name' name := by
  obtain ⟨key, named, named'⟩ := pairs
  exact ⟨key, named', named⟩

theorem grown (pairs : supply.Pairs other name name') (keeps : supply.Keeps later)
    (keeps' : other.Keeps later') : later.Pairs later' name name' := by
  obtain ⟨key, named, named'⟩ := pairs
  exact ⟨key, keeps.assigned _ _ named, keeps'.assigned _ _ named'⟩

theorem unique (consistent : supply.Consistent) {partner : String}
    (pairs : supply.Pairs other name name') (pairs' : supply.Pairs other name partner) :
    name' = partner := by
  obtain ⟨key, named, named'⟩ := pairs
  obtain ⟨key', known, known'⟩ := pairs'
  have owner := (consistent.inverse key name).mp named
  have owner' := (consistent.inverse key' name).mp known
  obtain rfl := Option.some.inj (owner.symm.trans owner')
  exact Option.some.inj (named'.symm.trans known')

end Pairs

/-- The name in another supply for the path that a name belongs to. -/
def translation (supply other : NameSupply) (name : String) : String :=
  ((supply.owners[name]?).bind fun key : String => other.assigned[key]?).getD name

theorem Pairs.translation (pairs : supply.Pairs other name name') (consistent : supply.Consistent) :
    supply.translation other name = name' := by
  obtain ⟨key, named, named'⟩ := pairs
  simp [NameSupply.translation, (consistent.inverse key name).mp named, named']

structure Mirrors (supply other : NameSupply) : Prop where
  consistent : supply.Consistent
  named : ∀ key name : String, supply.assigned[key]? = some name →
    ∃ name', other.assigned[key]? = some name'
  reserved : ∀ name : String, supply.isReserved name = true →
    ∃ name', supply.Pairs other name name' ∧ other.isReserved name' = true

structure Twins (supply other : NameSupply) : Prop where
  there : supply.Mirrors other
  back : other.Mirrors supply

theorem twins_empty (abbreviated abbreviated' : Bool) :
    (empty abbreviated).Twins (empty abbreviated') := by
  have mirrors (abbreviated abbreviated' : Bool) :
      (empty abbreviated).Mirrors (empty abbreviated') :=
    ⟨consistent_empty abbreviated, by simp [empty], by simp [empty, isReserved]⟩
  exact ⟨mirrors _ _, mirrors _ _⟩

namespace Mirrors

/-- A new path is named in both supplies. -/
theorem assign (mirrors : supply.Mirrors other) {key : String}
    (unnamed : supply.assigned[key]? = none) (unnamed' : other.assigned[key]? = none)
    (free : supply.owners[name]? = none) :
    (supply.assign key name).Mirrors (other.assign key name') := by
  have keeps {supply : NameSupply} {name : String} (unnamed : supply.assigned[key]? = none) :
      supply.Keeps (supply.assign key name) := by
    refine ⟨fun other text held => ?_, fun _ => id⟩
    rw [assigned_assign, if_neg]
    · exact held
    · rintro rfl
      exact absurd (unnamed.symm.trans held) (by simp)
  refine ⟨mirrors.consistent.assign unnamed free, fun path text held => ?_, fun text held => ?_⟩
  · rw [assigned_assign] at held ⊢
    split at held
    next same => exact ⟨name', if_pos same⟩
    next differs =>
      rw [if_neg differs]
      exact mirrors.named path text held
  · obtain ⟨text', pairs, held'⟩ := mirrors.reserved text held
    exact ⟨text', pairs.grown (keeps unnamed) (keeps unnamed'), held'⟩

theorem reserve (mirrors : supply.Mirrors other) (pairs : supply.Pairs other name name') :
    (supply.reserve name).Mirrors (other.reserve name') := by
  refine ⟨mirrors.consistent.reserve name, mirrors.named, fun text held => ?_⟩
  rw [isReserved_reserve, Bool.or_eq_true] at held
  rcases held with same | held
  · obtain rfl := eq_of_beq same
    exact ⟨name', pairs, by simp [isReserved_reserve]⟩
  · obtain ⟨text', pairs', held'⟩ := mirrors.reserved text held
    exact ⟨text', pairs', by simp [isReserved_reserve, held']⟩

end Mirrors

namespace Twins

theorem allocate (twins : supply.Twins other) (path : List String) (suffix : String) :
    (supply.allocate path suffix).2.Twins (other.allocate path suffix).2 ∧
      (supply.allocate path suffix).2.Pairs (other.allocate path suffix).2
        (supply.allocate path suffix).1 (other.allocate path suffix).1 := by
  refine ⟨?_, pathKey path suffix, nameOf?_allocate supply path suffix,
    nameOf?_allocate other path suffix⟩
  cases named : supply.assigned[pathKey path suffix]? with
  | some name =>
    obtain ⟨name', named'⟩ := twins.there.named _ name named
    rw [allocate_of_assigned supply path suffix name named,
      allocate_of_assigned other path suffix name' named']
    exact twins
  | none =>
    have named' : other.assigned[pathKey path suffix]? = none := by
      by_contra held
      obtain ⟨name', held⟩ := Option.ne_none_iff_exists'.mp held
      obtain ⟨name, held'⟩ := twins.back.named _ name' held
      exact absurd (named.symm.trans held') (by simp)
    simp only [NameSupply.allocate, named, named']
    exact ⟨twins.there.assign named named' (owners_freshName supply path suffix),
      twins.back.assign named' named (owners_freshName other path suffix)⟩

theorem reserve (twins : supply.Twins other) (pairs : supply.Pairs other name name') :
    (supply.reserve name).Twins (other.reserve name') :=
  ⟨twins.there.reserve pairs, twins.back.reserve pairs.symm⟩

theorem isReserved_eq (twins : supply.Twins other) (pairs : supply.Pairs other name name') :
    supply.isReserved name = other.isReserved name' := by
  rw [Bool.eq_iff_iff]
  constructor
  · intro held
    obtain ⟨partner, pairs', held'⟩ := twins.there.reserved name held
    exact pairs.unique twins.there.consistent pairs' ▸ held'
  · intro held
    obtain ⟨partner, pairs', held'⟩ := twins.back.reserved name' held
    exact pairs.symm.unique twins.back.consistent pairs' ▸ held'

/-- Twin supplies answer a claim with a pair of names and the same flag. -/
theorem claim (twins : supply.Twins other) (path : List String) (suffix : String) :
    ∃ name name' isNew later later', supply.claim path suffix = ((name, isNew), later) ∧
      other.claim path suffix = ((name', isNew), later') ∧ later.Twins later' ∧
      supply.Keeps later ∧ other.Keeps later' ∧ later.Pairs later' name name' := by
  obtain ⟨twins', pairs⟩ := twins.allocate path suffix
  refine ⟨(supply.allocate path suffix).1, (other.allocate path suffix).1,
    !(supply.allocate path suffix).2.isReserved (supply.allocate path suffix).1, _, _, rfl, ?_,
    twins'.reserve pairs, (keeps_allocate supply path suffix).trans (keeps_reserve _ _),
    (keeps_allocate other path suffix).trans (keeps_reserve _ _), pairs⟩
  rw [twins'.isReserved_eq pairs]
  rfl

end Twins
end NameSupply

open Renamable

structure Matched {α : Type} [Renamable α] (supply other : NameSupply) (value value' : α) :
    Prop where
  paired : ∀ name ∈ names value, ∃ name', supply.Pairs other name name'
  renamed : value' = renamed (supply.translation other) value

namespace Matched

variable {α : Type} [Renamable α] {supply other later later' : NameSupply} {name name' : String}

/-- Values stay matched as their supplies grow. -/
theorem grown {value value' : α} (matched : Matched supply other value value')
    (consistent : supply.Consistent) (consistent' : later.Consistent)
    (keeps : supply.Keeps later) (keeps' : other.Keeps later') :
    Matched later later' value value' := by
  refine ⟨fun name inside => ?_, ?_⟩
  · obtain ⟨name', pairs⟩ := matched.paired name inside
    exact ⟨name', pairs.grown keeps keeps'⟩
  · rw [matched.renamed]
    apply renamed_congr
    intro name inside
    obtain ⟨name', pairs⟩ := matched.paired name inside
    rw [pairs.translation consistent, (pairs.grown keeps keeps').translation consistent']

theorem of_pairs (pairs : supply.Pairs other name name') (consistent : supply.Consistent) :
    Matched supply other name name' :=
  ⟨List.forall_mem_singleton.mpr ⟨name', pairs⟩, (pairs.translation consistent).symm⟩

theorem link (pairs : supply.Pairs other name name') (consistent : supply.Consistent)
    (id : NodeId) : Matched supply other (⟨id, name⟩ : Link) ⟨id, name'⟩ :=
  ⟨List.forall_mem_singleton.mpr ⟨name', pairs⟩,
    congrArg (Link.mk id) (pairs.translation consistent).symm⟩

theorem none : Matched supply other (none : Option α) none := ⟨by simp [names], rfl⟩

theorem some {value value' : α} (matched : Matched supply other value value') :
    Matched supply other (some value) (some value') :=
  ⟨matched.paired, congrArg Option.some matched.renamed⟩

theorem join {value value' : Option (Option α)} (matched : Matched supply other value value') :
    Matched supply other value.join value'.join := by
  obtain ⟨paired, rfl⟩ := matched
  cases value with
  | none => exact .none
  | some value => exact ⟨paired, rfl⟩

theorem toList {value value' : Option α} (matched : Matched supply other value value') :
    Matched supply other value.toList value'.toList := by
  obtain ⟨paired, rfl⟩ := matched
  cases value with
  | none => exact ⟨paired, rfl⟩
  | some value => exact ⟨by simpa [names] using paired, rfl⟩

section Lists

variable {values values' : List α} (matched : Matched supply other values values')

theorem nil : Matched supply other ([] : List α) [] := ⟨by simp [names], rfl⟩

theorem singleton {value value' : α} (matched : Matched supply other value value') :
    Matched supply other [value] [value'] :=
  ⟨by simpa [names] using matched.paired, congrArg (fun value => [value]) matched.renamed⟩

include matched

theorem append {more more' : List α} (matched' : Matched supply other more more') :
    Matched supply other (values ++ more) (values' ++ more') := by
  refine ⟨?_, ?_⟩
  · have both := List.forall_mem_append.mpr ⟨matched.paired, matched'.paired⟩
    simpa [names] using both
  · rw [matched.renamed, matched'.renamed]
    exact List.map_append.symm

theorem cons {value value' : α} (first : Matched supply other value value') :
    Matched supply other (value :: values) (value' :: values') :=
  first.singleton.append matched

theorem mem {value : α} (member : value ∈ values) :
    Matched supply other value (Renamable.renamed (supply.translation other) value) :=
  ⟨fun name inside => matched.paired name (List.mem_flatMap.mpr ⟨value, member, inside⟩), rfl⟩

theorem getElem? (index : Nat) : Matched supply other values[index]? values'[index]? := by
  obtain ⟨paired, rfl⟩ := matched
  rw [show (Renamable.renamed (supply.translation other) values)[index]? =
    values[index]?.map (Renamable.renamed (supply.translation other)) from List.getElem?_map]
  cases here : values[index]? with
  | none => exact .none
  | some value => exact (mem ⟨paired, rfl⟩ (List.mem_of_getElem? here)).some

theorem set {value value' : α} (matched' : Matched supply other value value') (index : Nat) :
    Matched supply other (values.set index value) (values'.set index value') := by
  refine ⟨fun name listed => ?_, ?_⟩
  · obtain ⟨held, member, inside⟩ := List.mem_flatMap.mp listed
    rcases List.mem_or_eq_of_mem_set member with member | rfl
    · exact matched.paired name (List.mem_flatMap.mpr ⟨held, member, inside⟩)
    · exact matched'.paired name inside
  · rw [matched.renamed, matched'.renamed]
    exact List.map_set.symm

end Lists
end Matched
end GraphQLProjections
