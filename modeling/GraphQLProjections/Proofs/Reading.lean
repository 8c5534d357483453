import Mathlib.Data.List.TakeWhile
import GraphQLProjections.Document.Reading

/-! What readings yield. The names among the tokens of a document are names of the language, and a
reading takes its tokens from the front, so every name in what it yields is one, those within
literals included. -/
namespace GraphQLProjections
namespace Document

def IsName (text : String) : Prop :=
  ∃ first rest, text.toList = first :: rest ∧ isNameStart first = true ∧
    ∀ c ∈ rest, isNamePart c = true

instance : DecidablePred IsName := fun text =>
  match chars : text.toList with
  | [] => isFalse fun ⟨_, _, same, _⟩ => List.cons_ne_nil _ _ (same.symm.trans chars)
  | first :: rest =>
    decidable_of_iff (isNameStart first = true ∧ rest.all isNamePart = true)
      ⟨fun ⟨start, parts⟩ => ⟨first, rest, chars, start, List.all_eq_true.mp parts⟩, by
        rintro ⟨_, _, same, start, parts⟩
        obtain ⟨rfl, rfl⟩ := List.cons.inj (chars.symm.trans same)
        exact ⟨start, List.all_eq_true.mpr parts⟩⟩

theorem isNamePart_of_isNameStart {c : Char} (start : isNameStart c = true) :
    isNamePart c = true := by
  simp only [isNameStart, isNamePart, Char.isAlphanum, Bool.or_eq_true] at start ⊢
  rcases start with letter | underscore
  · exact .inl (.inl letter)
  · exact .inr underscore

theorem IsName.isNamePart {text : String} (name : IsName text) {c : Char}
    (member : c ∈ text.toList) : isNamePart c = true := by
  obtain ⟨first, rest, chars, start, parts⟩ := name
  rw [chars] at member
  rcases List.mem_cons.mp member with rfl | member
  · exact isNamePart_of_isNameStart start
  · exact parts c member

end Document

namespace Literal

def reservedWords : List String := ["true", "false", "null"]

/-- A literal without floats in which variables, enum values and fields are named by names of the
language, and no enum value by a reserved word. -/
inductive IsExact : Literal → Prop
  | reference {name : String} (named : Document.IsName name) : IsExact (.reference name)
  | integer (value : Int) : IsExact (.integer value)
  | string (value : String) : IsExact (.string value)
  | boolean (value : Bool) : IsExact (.boolean value)
  | null : IsExact .null
  | enumValue {name : String} (named : Document.IsName name) (free : name ∉ reservedWords) :
      IsExact (.enumValue name)
  | list {items : List Literal} (each : ∀ item ∈ items, IsExact item) : IsExact (.list items)
  | object {fields : List (String × Literal)}
      (named : ∀ field ∈ fields, Document.IsName field.1)
      (each : ∀ field ∈ fields, IsExact field.2) : IsExact (.object fields)

inductive HoldsFloat : Literal → Prop
  | float (value : Binary64) : HoldsFloat (.float value)
  | item {items : List Literal} {item : Literal} (member : item ∈ items)
      (holds : HoldsFloat item) : HoldsFloat (.list items)
  | field {fields : List (String × Literal)} {field : String × Literal} (member : field ∈ fields)
      (holds : HoldsFloat field.2) : HoldsFloat (.object fields)

end Literal

namespace Document

def NamesRead (tokens : List Token) : Prop :=
  ∀ token ∈ tokens, ∀ text, token.lexeme = .name text → IsName text

def LexemeRead (found : Lexeme) : Prop := ∀ text, found = .name text → IsName text

theorem numberLexeme_read (cs : List Char) : LexemeRead (numberLexeme cs) := by
  intro text
  unfold numberLexeme floatOf
  grind

theorem lexeme_read (cs : List Char) : LexemeRead (lexeme cs).1 := by
  intro text found
  unfold lexeme at found
  split at found
  case h_1 => simp at found
  case h_2 => split at found <;> simp at found
  case h_3 =>
    split at found
    next => split at found <;> simp at found
    next => simp at found
  case h_5 => simp at found
  case h_4 c rest _ _ _ =>
    split at found
    · simp at found
    · split at found
      next start =>
        obtain rfl := Lexeme.name.inj found
        exact ⟨c, rest.takeWhile isNamePart, by simp, start, fun d member =>
          List.mem_takeWhile_imp member⟩
      next =>
        split at found
        · exact numberLexeme_read _ text found
        · simp at found

theorem tokensFrom_read (nesting : Nat) (position : Position) (cs : List Char) (fuel : Nat) :
    NamesRead (tokensFrom nesting position cs fuel) := by
  induction fuel generalizing nesting position cs with
  | zero => simp [tokensFrom, NamesRead]
  | succ fuel ih =>
    have first := lexeme_read (skipBlanks position cs).1
    have more (place : Position) (found : Lexeme) (read : LexemeRead found)
        (rest : List Token) (others : NamesRead rest) : NamesRead (⟨found, place⟩ :: rest) := by
      intro token member
      rcases List.mem_cons.mp member with rfl | member
      · exact read
      · exact others token member
    have single (place : Position) (found : Lexeme) (read : LexemeRead found) :
        NamesRead [⟨found, place⟩] := more place found read [] (by simp [NamesRead])
    unfold tokensFrom
    simp only
    generalize lexeme (skipBlanks position cs).1 = front at first
    obtain ⟨found, text, rest⟩ := front
    split
    · exact single _ _ first
    · exact single _ _ first
    · split
      · split
        · exact single _ _ (by simp [LexemeRead])
        · exact more _ _ first _ (ih _ _ _)
      · split <;> exact more _ _ first _ (ih _ _ _)
    · exact more _ _ first _ (ih _ _ _)

theorem tokens_read (text : String) : NamesRead (tokens text) := tokensFrom_read _ _ _ _

namespace Reading

/-- What the reading yields has a property, and it leaves names of the language. -/
def Yields (reading : Reading α) (good : α → Prop) : Prop :=
  ∀ tokens, NamesRead tokens → ∀ value rest, reading.run tokens = .ok (value, rest) →
    good value ∧ NamesRead rest

theorem Yields.pure {value : α} {good : α → Prop} (holds : good value) :
    Yields (pure value) good := by
  rintro tokens read _ _ ⟨⟩
  exact ⟨holds, read⟩

theorem Yields.throw (position : Position) (good : α → Prop) :
    Yields (throw position : Reading α) good := by
  rintro tokens read _ _ ⟨⟩

theorem Yields.bind {reading : Reading α} {next : α → Reading β} {good : α → Prop}
    {good' : β → Prop} (first : Yields reading good)
    (second : ∀ value, good value → Yields (next value) good') :
    Yields (reading >>= next) good' := by
  intro tokens read value rest ran
  rw [StateT.run_bind] at ran
  cases outcome : reading.run tokens with
  | error position => simp [outcome, Bind.bind, Except.bind] at ran
  | ok result =>
    obtain ⟨middle, left⟩ := result
    rw [outcome] at ran
    obtain ⟨holds, readLeft⟩ := first tokens read middle left outcome
    exact second middle holds left readLeft value rest ran

theorem Yields.result {reading : Reading α} {good : α → Prop} (yields : Yields reading good)
    {tokens : List Token} (read : NamesRead tokens) {value : α}
    (ran : (reading.run tokens).map Prod.fst = .ok value) : good value := by
  cases outcome : reading.run tokens with
  | error position => simp [outcome, Except.map] at ran
  | ok pair =>
    rw [outcome] at ran
    obtain rfl := Except.ok.inj ran
    exact (yields tokens read pair.1 pair.2 outcome).1

theorem Yields.mono {reading : Reading α} {good good' : α → Prop} (yields : Yields reading good)
    (weaker : ∀ value, good value → good' value) : Yields reading good' := by
  intro tokens read value rest ran
  obtain ⟨holds, left⟩ := yields tokens read value rest ran
  exact ⟨weaker value holds, left⟩

theorem Yields.any {reading : Reading α} {good : α → Prop} (yields : Yields reading good) :
    Yields reading fun _ => True := yields.mono fun _ _ => trivial

theorem Yields.pure_any (value : α) : Yields (Pure.pure value) fun _ => True := .pure trivial

theorem Yields.map {reading : Reading α} {good : α → Prop} {good' : β → Prop} {f : α → β}
    (yields : Yields reading good) (image : ∀ value, good value → good' (f value)) :
    Yields (f <$> reading) good' := by
  rw [map_eq_pure_bind]
  exact yields.bind fun value holds => .pure (image value holds)

theorem Yields.discard {reading : Reading α} {good : α → Prop} (yields : Yields reading good) :
    Yields (discard reading) fun _ => True := yields.map fun _ _ => trivial

theorem token_yields : Yields token fun found => LexemeRead found.lexeme := by
  intro tokens read value rest ran
  cases tokens with
  | nil =>
    obtain ⟨rfl, rfl⟩ : value = ⟨.finish, .start⟩ ∧ rest = [] := by
      cases ran; exact ⟨rfl, rfl⟩
    exact ⟨by simp [LexemeRead], read⟩
  | cons found others =>
    obtain ⟨rfl, rfl⟩ : value = found ∧ rest = found :: others := by
      cases ran; exact ⟨rfl, rfl⟩
    exact ⟨fun text => read value List.mem_cons_self text, read⟩

theorem peek_yields : Yields peek LexemeRead :=
  token_yields.bind fun _ read => .pure read

theorem skip_yields : Yields skip fun _ => True := by
  rintro tokens read _ _ ⟨⟩
  exact ⟨trivial, fun token member => read token (List.mem_of_mem_tail member)⟩

theorem refuse_yields (good : α → Prop) : Yields (refuse : Reading α) good :=
  token_yields.bind fun _ _ => .throw _ _

theorem name_yields : Yields name IsName := by
  apply peek_yields.bind
  intro found read
  split
  next text => exact skip_yields.bind fun _ _ => .pure (read text rfl)
  next => exact refuse_yields _

theorem mark_yields (symbol : Char) : Yields (mark symbol) fun _ => True := by
  apply peek_yields.bind
  intro _ _
  split
  · exact skip_yields
  · exact refuse_yields _

theorem keyword_yields (text : String) : Yields (keyword text) fun _ => True := by
  apply peek_yields.bind
  intro _ _
  split
  · exact skip_yields
  · exact refuse_yields _

theorem optionalMark_yields (symbol : Char) : Yields (optionalMark symbol) fun _ => True := by
  apply peek_yields.bind
  intro _ _
  split
  · exact skip_yields.bind fun _ _ => .pure trivial
  · exact .pure trivial

theorem optionalKeyword_yields (text : String) :
    Yields (optionalKeyword text) fun _ => True := by
  apply peek_yields.bind
  intro _ _
  split
  · exact skip_yields.bind fun _ _ => .pure trivial
  · exact .pure trivial

section Lists

variable {item : Reading α} {good : α → Prop}

theorem repeated_yields (starts : Lexeme → Bool) (each : Yields item good) (bound : Nat) :
    Yields (repeated starts item bound) fun items => ∀ value ∈ items, good value := by
  induction bound with
  | zero => exact .pure (by simp)
  | succ bound ih =>
    apply peek_yields.bind
    intro _ _
    split
    · refine each.bind fun first holds => ih.bind fun rest others => .pure ?_
      simpa using ⟨holds, others⟩
    · exact .pure (by simp)

theorem many_yields (starts : Lexeme → Bool) (each : Yields item good) :
    Yields (many starts item) fun items => ∀ value ∈ items, good value := by
  intro tokens read
  exact repeated_yields starts each tokens.length tokens read

theorem many1_yields (starts : Lexeme → Bool) (each : Yields item good) :
    Yields (many1 starts item) fun items => ∀ value ∈ items, good value := by
  refine each.bind fun first holds => (many_yields starts each).bind fun rest others => .pure ?_
  simpa using ⟨holds, others⟩

theorem separated_yields (separator : Char) (each : Yields item good) :
    Yields (separated separator item) fun items => ∀ value ∈ items, good value := by
  apply each.bind
  intro first holds
  refine (many_yields _ (skip_yields.bind fun _ _ => each)).bind fun rest others => .pure ?_
  simpa using ⟨holds, others⟩

theorem optionalGroup_yields (opening closing : Char) (starts : Lexeme → Bool)
    (each : Yields item good) :
    Yields (optionalGroup opening closing starts item)
      fun items => ∀ value ∈ items, good value := by
  apply (optionalMark_yields opening).bind
  intro _ _
  split
  · apply (many1_yields starts each).bind
    intro items holds
    exact (mark_yields closing).bind fun _ _ => .pure holds
  · exact .pure (by simp)

end Lists

/-- A literal that is read is exact, but for its floats. -/
theorem literalWithin_yields (references : Bool) (depth : Nat) :
    Yields (literalWithin references depth) fun value => ¬value.HoldsFloat → value.IsExact := by
  induction depth with
  | zero => exact refuse_yields _
  | succ depth ih =>
    apply peek_yields.bind
    intro found read
    split
    case h_1 text =>
      refine skip_yields.bind fun _ _ => .pure fun _ => ?_
      split
      · exact .boolean true
      · exact .boolean false
      · exact .null
      next notTrue notFalse notNull =>
        refine .enumValue (read text rfl) ?_
        simpa [Literal.reservedWords] using ⟨notTrue, notFalse, notNull⟩
    case h_2 => exact skip_yields.bind fun _ _ => .pure fun _ => .integer _
    case h_3 =>
      exact skip_yields.bind fun _ _ => .pure fun floatless => absurd (.float _) floatless
    case h_4 => exact skip_yields.bind fun _ _ => .pure fun _ => .string _
    case h_5 =>
      split
      · exact skip_yields.bind fun _ _ => name_yields.bind fun _ named =>
          .pure fun _ => .reference named
      · exact refuse_yields _
    case h_6 =>
      refine skip_yields.bind fun _ _ => (many_yields _ ih).bind fun items read => ?_
      refine (mark_yields _).bind fun _ _ => .pure fun floatless => .list fun item member => ?_
      exact read item member fun holds => floatless (.item member holds)
    case h_7 =>
      apply skip_yields.bind
      intro _ _
      have pair : Yields (do
          let field ← name
          mark ':'
          let value ← literalWithin references depth
          Pure.pure (field, value))
          fun field => IsName field.1 ∧ (¬field.2.HoldsFloat → field.2.IsExact) :=
        name_yields.bind fun _ named => (mark_yields _).bind fun _ _ =>
          ih.bind fun _ read => .pure ⟨named, read⟩
      refine (many_yields _ pair).bind fun fields read => (mark_yields _).bind fun _ _ => ?_
      refine .pure fun floatless => .object (fun field member => ?_) fun field member => ?_
      · exact (read field (Entries.mem_of_mem_sorted member)).1
      · exact (read field (Entries.mem_of_mem_sorted member)).2 fun holds =>
          floatless (.field member holds)
    case h_8 => exact refuse_yields _

theorem literal_yields : Yields literal fun value => ¬value.HoldsFloat → value.IsExact :=
  literalWithin_yields _ _

theorem constantLiteral_yields :
    Yields constantLiteral fun value => ¬value.HoldsFloat → value.IsExact :=
  literalWithin_yields _ _

theorem typeRefWithin_yields (depth : Nat) : Yields (typeRefWithin depth) fun _ => True := by
  induction depth with
  | zero => exact refuse_yields _
  | succ depth ih =>
    have ending (inner : TypeRef) : Yields (do
        if ← optionalMark '!' then Pure.pure (.nonNull inner) else Pure.pure inner)
        fun _ => True := by
      apply (optionalMark_yields _).bind
      intro _ _
      split <;> exact .pure trivial
    apply peek_yields.bind
    intro _ _
    split
    · exact skip_yields.bind fun _ _ => ending _
    · exact skip_yields.bind fun _ _ => ih.bind fun _ _ => (mark_yields _).bind fun _ _ => ending _
    · exact (refuse_yields fun _ => True).bind fun _ _ => ending _

theorem typeRef_yields : Yields typeRef fun _ => True := typeRefWithin_yields _

theorem callArguments_yields : Yields callArguments fun _ => True :=
  (optionalGroup_yields _ _ _ (name_yields.bind fun _ _ => (mark_yields _).bind fun _ _ =>
    literal_yields.bind fun _ _ => .pure_any _)).any

/-- All definitions of a document are good if each reading of one is. -/
theorem document_yields {definition : Reading α} {good : α → Prop}
    (each : Yields definition good) {text : String} {definitions : List α}
    (ran : document definition text = .ok definitions) : ∀ value ∈ definitions, good value := by
  have whole : Yields (do
      let definitions ← many1 (fun next => next != .finish) definition
      if (← peek) = .finish then Pure.pure definitions else refuse)
      fun items => ∀ value ∈ items, good value := by
    refine (many1_yields _ each).bind fun items holds => peek_yields.bind fun _ _ => ?_
    split
    · exact .pure holds
    · exact refuse_yields _
  exact whole.result (tokens_read text) ran

end Reading
end Document
end GraphQLProjections
