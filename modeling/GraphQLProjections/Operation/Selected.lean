import GraphQLProjections.Filter
import GraphQLProjections.Operation.Document

/-! The filters of the root fields that operations select. Named fragments are looked up in their
own document; a spread inside the fragment it names, or of no fragment, selects nothing. -/
namespace GraphQLProjections

/-- What a spread of a named fragment stands for: its type and the filter of its selections. -/
abbrev Expansion := String → Option (String × Filter)

namespace Selection

mutual
def collectAll (expand : Expansion) (filter : Filter) : List Selection → Filter
  | [] => filter
  | selection :: rest => collectAll expand (collect expand filter selection) rest

/-- The type name of a value is always available and is not selected as a field. -/
def collect (expand : Expansion) (filter : Filter) : Selection → Filter
  | field name selections =>
    if name = "__typename" then filter
    else filter.withField name (collectAll expand .empty selections)
  | inlineFragment (some type) selections =>
    filter.withFragment type (collectAll expand .empty selections)
  | inlineFragment none selections => filter.merge (collectAll expand .empty selections)
  | spread fragment =>
    match expand fragment with
    | some (type, child) => filter.withFragment type child
    | none => filter
end

end Selection

namespace NamedFragment

/-- The expansion of spreads into the available fragments. Inside a fragment its own name is not
available, so the number of fragments bounds the nesting. -/
def expansion : Nat → List NamedFragment → Expansion
  | 0, _, _ => none
  | bound + 1, available, name =>
    match available.find? (·.name == name) with
    | none => none
    | some fragment =>
      let remaining := available.filter (·.name != name)
      some (fragment.type,
        Selection.collectAll (expansion bound remaining) .empty fragment.selections)

end NamedFragment

structure SelectedRoots where
  query : Entries Filter
  mutation : Entries Filter
  subscription : Entries Filter
  deriving Repr, Inhabited

namespace SelectedRoots

def empty : SelectedRoots := ⟨[], [], []⟩

def roots (selected : SelectedRoots) : OperationKind → Entries Filter
  | .query => selected.query
  | .mutation => selected.mutation
  | .subscription => selected.subscription

def setRoots (selected : SelectedRoots) (kind : OperationKind) (roots : Entries Filter) :
    SelectedRoots :=
  match kind with
  | .query => { selected with query := roots }
  | .mutation => { selected with mutation := roots }
  | .subscription => { selected with subscription := roots }

/-- The filter of a root field, if some operation selects the field. -/
def filter? (selected : SelectedRoots) (kind : OperationKind) (field : String) : Option Filter :=
  (selected.roots kind).lookup field

def rootFields (selected : SelectedRoots) (kind : OperationKind) : List String :=
  (selected.roots kind).names

def isEmpty (selected : SelectedRoots) : Bool :=
  selected.query.isEmpty && selected.mutation.isEmpty && selected.subscription.isEmpty

def namedFragments (definitions : List ExecutableDefinition) : List NamedFragment :=
  definitions.filterMap fun
    | .fragment fragment => some fragment
    | .operation _ => none

/-- Of fragments of one name the last counts. -/
def expansionIn (definitions : List ExecutableDefinition) : Expansion :=
  let fragments := (namedFragments definitions).reverse
  NamedFragment.expansion fragments.length fragments

def addOperation (expand : Expansion) (selected : SelectedRoots) (operation : Operation) :
    SelectedRoots :=
  let filter := Selection.collectAll expand .empty operation.selections
  selected.setRoots operation.kind
    (Filter.mergeEntries (selected.roots operation.kind) filter.fields)

def addDocument (selected : SelectedRoots) (definitions : List ExecutableDefinition) :
    SelectedRoots :=
  definitions.foldl
    (fun selected definition => match definition with
      | .operation operation => selected.addOperation (expansionIn definitions) operation
      | .fragment _ => selected)
    selected

def readDocument (text : String) : Except Error (List ExecutableDefinition) :=
  match ExecutableDefinition.read text with
  | .ok definitions => .ok definitions
  | .error position => .error (.querySyntax position)

def ofDocuments (texts : List String) : Except Error SelectedRoots := do
  let documents ← texts.mapM readDocument
  return documents.foldl addDocument empty

end SelectedRoots
end GraphQLProjections
