import GraphQLProjections.Error

/-! The settings of a run and the conditions they must meet. -/
namespace GraphQLProjections

/-- `typeMapping` is kept in ascending order of its names. -/
structure Settings where
  /-- Past this depth no object selection is added; `none` sets no bound. -/
  maxDepth : Option Nat
  shortNames : Bool
  skipEntities : Bool
  /-- Project only what the given operations select. -/
  definedOnly : Bool
  /-- Mapped types count as scalars. -/
  typeMapping : Entries String
  /-- The directive that drops a type or field. -/
  skipDirective : String
  queries : Bool
  mutations : Bool
  subscriptions : Bool
  deriving DecidableEq, Repr

namespace Settings

def standard : Settings where
  maxDepth := some 10
  shortNames := false
  skipEntities := false
  definedOnly := false
  typeMapping := []
  skipDirective := "skipcodegen"
  queries := true
  mutations := true
  subscriptions := true

instance : Inhabited Settings := ⟨standard⟩

def withMapping (settings : Settings) (type target : String) : Settings :=
  { settings with typeMapping := settings.typeMapping.insertSorted type target }

def mappingFault? : String × String → Option SettingsFault
  | (type, target) =>
    if Text.isAllBlank type then some .blankMappedType
    else if Text.isAllBlank target then some (.blankMappingTarget type)
    else none

/-- The first fault: of the skip directive, then of the mappings in order, then of the kinds. -/
def fault? (settings : Settings) : Option SettingsFault :=
  if Text.isAllBlank settings.skipDirective then some .blankSkipDirective
  else if settings.skipDirective.toList.head? = some '@' then
    some (.skipDirectiveWithSign settings.skipDirective)
  else
    match settings.typeMapping.findSome? mappingFault? with
    | some fault => some fault
    | none =>
      if settings.queries || settings.mutations || settings.subscriptions then none
      else some .noOperationKind

def check (settings : Settings) : Except Error Unit :=
  match settings.fault? with
  | some fault => throw (.settings fault)
  | none => pure ()

end Settings
end GraphQLProjections
