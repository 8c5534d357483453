import Std.Data.String.ToInt
import GraphQLProjections.Proofs.Json.Strings
import GraphQLProjections.Proofs.Schema.WellFormed

/-! Literals and their texts. A reader that takes one literal from the front of a text, strings as
JSON strings, gives back every exact literal from its text; so literals that differ have texts that
differ, however deep they are nested and whatever their strings contain. -/
namespace GraphQLProjections.Literal

open Document (isNamePart isNameStart IsName)

/-! ### Reading a literal from its text -/

def isWordPart (c : Char) : Bool := isNamePart c || c == '-'

def word? (cs : List Char) : Option (String × List Char) :=
  match cs.takeWhile isWordPart with
  | [] => none
  | word => some (String.ofList word, cs.dropWhile isWordPart)

def ofWord? (word : String) : Option Literal :=
  match word with
  | "true" => some (.boolean true)
  | "false" => some (.boolean false)
  | "null" => some .null
  | _ =>
    if word.toList.head?.any isNameStart then some (.enumValue word)
    else word.toInt?.map .integer

def quoted? (cs : List Char) : Option (String × List Char) :=
  match Json.Scan.quotedString.run ⟨cs, 1, 0⟩ with
  | .ok (text, later) => some (text, later.rest)
  | .error _ => none

variable {α : Type _}

def pieces? (closing : Char) (piece? : List Char → Option (α × List Char)) :
    Nat → List Char → Option (List α × List Char)
  | 0, _ => none
  | bound + 1, cs =>
    (piece? cs).bind fun (value, rest) =>
      if rest.head? = some closing then some ([value], rest.tail)
      else if rest.take 2 = [',', ' '] then
        (pieces? closing piece? bound (rest.drop 2)).map (Prod.map (value :: ·) id)
      else none

/-- Any number of pieces up to a closing mark. A piece and the mark after it take at least one
character, so the length of the text bounds their number. -/
def sequence? (closing : Char) (piece? : List Char → Option (α × List Char)) (cs : List Char) :
    Option (List α × List Char) :=
  if cs.head? = some closing then some ([], cs.tail) else pieces? closing piece? cs.length cs

def field? (value? : List Char → Option (Literal × List Char)) (cs : List Char) :
    Option ((String × Literal) × List Char) :=
  match word? cs with
  | some (name, ':' :: ' ' :: rest) => (value? rest).map (Prod.map (name, ·) id)
  | _ => none

/-- A literal at the front of a text, nested less than `depth` deep. -/
def read? : Nat → List Char → Option (Literal × List Char)
  | 0, _ => none
  | _ + 1, [] => none
  | depth + 1, c :: rest =>
    if c = '"' then (quoted? (c :: rest)).map (Prod.map .string id)
    else if c = '$' then (word? rest).map (Prod.map .reference id)
    else if c = '[' then (sequence? ']' (read? depth) rest).map (Prod.map .list id)
    else if c = '\x7b' then
      (sequence? '\x7d' (field? (read? depth)) rest).map (Prod.map .object id)
    else (word? (c :: rest)).bind fun (word, rest) => (ofWord? word).map (·, rest)

/-- The literal that a whole text shows. Each level of nesting takes a character, so the length of
the text bounds their number. -/
def ofText? (text : String) : Option Literal :=
  match read? (text.length + 1) text.toList with
  | some (value, []) => some value
  | _ => none

/-! ### Words -/

/-- No word goes on at the front of the text. -/
def Ends (rest : List Char) : Prop := ∀ c ∈ rest.head?, isWordPart c = false

/-- Where no word goes on after it, the text is read as the value. -/
def Recovers (read? : List Char → Option (α × List Char)) (text : List Char) (value : α) : Prop :=
  ∀ rest, Ends rest → read? (text ++ rest) = some (value, rest)

theorem recovers_word {word : String} (nonempty : word ≠ "")
    (parts : ∀ c ∈ word.toList, isWordPart c = true) : Recovers word? word.toList word := by
  intro rest ends
  have stops : rest.takeWhile isWordPart = [] ∧ rest.dropWhile isWordPart = rest := by
    cases rest with
    | nil => exact ⟨rfl, rfl⟩
    | cons c rest =>
      have : isWordPart c = false := ends c rfl
      simp [this]
  rw [word?, List.takeWhile_append_of_pos parts, List.dropWhile_append_of_pos parts, stops.1,
    stops.2, List.append_nil]
  cases chars : word.toList with
  | nil => exact absurd (String.toList_eq_nil_iff.mp chars) nonempty
  | cons c others => simp [← chars, String.ofList_toList]

theorem isWordPart_of_isName {name : String} (named : IsName name) :
    name ≠ "" ∧ ∀ c ∈ name.toList, isWordPart c = true := by
  constructor
  · rintro rfl
    obtain ⟨first, rest, chars, -⟩ := named
    cases chars
  · intro c member
    rw [isWordPart, named.isNamePart member, Bool.true_or]

theorem recovers_name {name : String} (named : IsName name) :
    Recovers word? name.toList name :=
  recovers_word (isWordPart_of_isName named).1 (isWordPart_of_isName named).2

/-- A name that is not reserved is an enum value. -/
theorem ofWord?_name {name : String} (named : IsName name) (free : name ∉ reservedWords) :
    ofWord? name = some (.enumValue name) := by
  obtain ⟨first, rest, chars, start, -⟩ := named
  unfold ofWord?
  split
  · exact absurd (by decide) free
  · exact absurd (by decide) free
  · exact absurd (by decide) free
  · simp [chars, start]

theorem parts_of_integer (value : Int) : toString value ≠ "" ∧
    ∀ c ∈ (toString value).toList, c.isDigit = true ∨ c = '-' := by
  have digits (n : Nat) : ∀ c ∈ n.repr.toList, c.isDigit = true ∨ c = '-' := by
    intro c member
    rw [Nat.toList_repr] at member
    exact .inl (Nat.isDigit_of_mem_toDigits (by decide) (by decide) member)
  rw [Int.toString_eq_repr, Int.repr_eq_if]
  split
  · exact ⟨by simp, digits _⟩
  · refine ⟨by simp, fun c member => ?_⟩
    rcases List.mem_append.mp (String.toList_append ▸ member) with sign | digit
    · exact .inr (List.mem_singleton.mp sign)
    · exact digits _ c digit

theorem isWordPart_of_part {c : Char} (part : c.isDigit = true ∨ c = '-') :
    isWordPart c = true := by
  rcases part with digit | rfl
  · simp [isWordPart, isNamePart, Char.isAlphanum, digit]
  · decide

theorem isNameStart_of_part {c : Char} (part : c.isDigit = true ∨ c = '-') :
    isNameStart c = false := by
  rcases part with digit | rfl
  · have each : ∀ code ≤ '9'.toNat, '0'.toNat ≤ code →
        isNameStart (Char.ofNat code) = false := by
      decide
    obtain ⟨least, most⟩ := Char.isDigit_iff_toNat.mp digit
    have digits := each c.toNat most least
    rwa [Char.ofNat_toNat] at digits
  · decide

theorem ofWord?_integer (value : Int) : ofWord? (toString value) = some (.integer value) := by
  obtain ⟨-, parts⟩ := parts_of_integer value
  have unlike {word : String} {c : Char} (member : c ∈ word.toList)
      (letter : isNameStart c = true) : toString value ≠ word := by
    rintro rfl
    exact absurd letter (by simp [isNameStart_of_part (parts c member)])
  have unnamed : (toString value).toList.head?.any isNameStart = false := by
    cases chars : (toString value).toList with
    | nil => rfl
    | cons c rest =>
      have := isNameStart_of_part (parts c (chars ▸ List.mem_cons_self))
      simpa using this
  unfold ofWord?
  split
  next same => exact absurd same (unlike (c := 't') (by decide) (by decide))
  next same => exact absurd same (unlike (c := 'f') (by decide) (by decide))
  next same => exact absurd same (unlike (c := 'n') (by decide) (by decide))
  next =>
    rw [unnamed, Int.toString_eq_repr, Int.toInt?_repr]
    rfl

/-- A literal that is written as one word is read from it. -/
theorem recovers_ofWord {word : String} {value : Literal} (nonempty : word ≠ "")
    (parts : ∀ c ∈ word.toList, isWordPart c = true) (stands : ofWord? word = some value)
    (depth : Nat) : Recovers (read? (depth + 1)) word.toList value := by
  intro rest ends
  have read := recovers_word nonempty parts rest ends
  cases chars : word.toList with
  | nil => exact absurd (String.toList_eq_nil_iff.mp chars) nonempty
  | cons c others =>
    have part : isWordPart c = true := parts c (chars ▸ List.mem_cons_self)
    have other (mark : Char) (apart : isWordPart mark = false) : c ≠ mark := by
      rintro rfl
      exact absurd part (by simp [apart])
    rw [chars] at read
    rw [List.cons_append] at read ⊢
    simp [read?, other '"' (by decide), other '$' (by decide), other '[' (by decide),
      other '\x7b' (by decide), read, stands]

theorem recovers_ofName {name : String} {value : Literal} (named : IsName name)
    (stands : ofWord? name = some value) (depth : Nat) :
    Recovers (read? (depth + 1)) name.toList value :=
  recovers_ofWord (isWordPart_of_isName named).1 (isWordPart_of_isName named).2 stands depth

/-! ### Sequences -/

section Sequences

variable {closing : Char} {piece? : List Char → Option (α × List Char)}

theorem ends_cons {c : Char} (other : isWordPart c = false) (rest : List Char) :
    Ends (c :: rest) := by
  rintro _ ⟨⟩
  exact other

theorem intercalate_cons_cons_append (text : α → List Char) (value next : α) (others : List α)
    (rest : List Char) :
    [',', ' '].intercalate ((value :: next :: others).map text) ++ rest =
      text value ++ ',' :: ' ' :: ([',', ' '].intercalate ((next :: others).map text) ++ rest) := by
  simp [List.intercalate_cons_cons]

/-- The pieces between commas and blanks are read one after the other, up to the closing mark. -/
theorem pieces?_intercalate (mark : closing ≠ ',') (ends : isWordPart closing = false)
    (text : α → List Char) {value : α} {others : List α} {bound : Nat}
    (within : others.length < bound)
    (each : ∀ piece ∈ value :: others, Recovers piece? (text piece) piece) (rest : List Char) :
    pieces? closing piece? bound
        ([',', ' '].intercalate ((value :: others).map text) ++ closing :: rest) =
      some (value :: others, rest) := by
  induction others generalizing value bound with
  | nil =>
    obtain ⟨bound, rfl⟩ := Nat.exists_eq_succ_of_ne_zero (Nat.ne_zero_of_lt within)
    have first := each value List.mem_cons_self (closing :: rest) (ends_cons ends rest)
    simp [pieces?, first]
  | cons next others ih =>
    obtain ⟨bound, rfl⟩ := Nat.exists_eq_succ_of_ne_zero (Nat.ne_zero_of_lt within)
    obtain ⟨here, later⟩ := List.forall_mem_cons.mp each
    have more := ih (Nat.lt_of_succ_lt_succ within) later
    rw [intercalate_cons_cons_append, pieces?, here _ (ends_cons (by decide) _)]
    simp only [Option.bind_some, List.head?_cons, Option.some.injEq, if_neg mark.symm,
      List.take_succ_cons, List.take_zero, List.drop_succ_cons, List.drop_zero, if_true, more]
    rfl

theorem exists_tail (ends : isWordPart closing = false) (text : α → List Char) (value : α)
    (others : List α) (rest : List Char) :
    ∃ tail, Ends tail ∧ others.length < (text value ++ tail).length ∧
      [',', ' '].intercalate ((value :: others).map text) ++ closing :: rest =
        text value ++ tail := by
  induction others generalizing value with
  | nil =>
    refine ⟨closing :: rest, ends_cons ends rest, ?_, by simp⟩
    rw [List.length_append]
    exact Nat.lt_add_left _ (Nat.succ_pos _)
  | cons next others ih =>
    obtain ⟨tail, -, longer, begins⟩ := ih next
    refine ⟨',' :: ' ' :: (text next ++ tail), ends_cons (by decide) _, ?_, ?_⟩
    · simp only [List.length_append, List.length_cons] at longer ⊢
      omega
    · rw [intercalate_cons_cons_append, begins]

/-- Nothing that is read starts with the closing mark, so no piece is lost at the front. -/
theorem sequence?_intercalate (mark : closing ≠ ',') (ends : isWordPart closing = false)
    (shut : ∀ rest, piece? (closing :: rest) = none) (text : α → List Char) {values : List α}
    (each : ∀ value ∈ values, Recovers piece? (text value) value) (rest : List Char) :
    sequence? closing piece? ([',', ' '].intercalate (values.map text) ++ closing :: rest) =
      some (values, rest) := by
  cases values with
  | nil => simp [sequence?]
  | cons value others =>
    obtain ⟨tail, ended, longer, begins⟩ := exists_tail ends text value others rest
    have unclosed : (text value ++ tail).head? ≠ some closing := by
      intro closed
      obtain ⟨after, same⟩ := List.head?_eq_some_iff.mp closed
      have first := each value List.mem_cons_self tail ended
      rw [same, shut] at first
      cases first
    have pieces := pieces?_intercalate mark ends text longer each rest
    rw [sequence?, begins, if_neg unclosed, ← begins]
    rwa [begins] at pieces ⊢

end Sequences

/-! ### Texts of literals -/

theorem itemTexts_eq_map (items : List Literal) : itemTexts items = items.map text := by
  induction items with
  | nil => rfl
  | cons item rest ih => rw [itemTexts, ih, List.map_cons]

def fieldText (field : String × Literal) : String := field.1 ++ ": " ++ field.2.text

theorem fieldTexts_eq_map (fields : List (String × Literal)) :
    fieldTexts fields = fields.map fieldText := by
  induction fields with
  | nil => rfl
  | cons field rest ih => rw [fieldTexts, ih, List.map_cons, fieldText]

theorem toList_text_list (items : List Literal) : (text (.list items)).toList =
    '[' :: ([',', ' '].intercalate (items.map fun item => item.text.toList) ++ [']']) := by
  simp [text, itemTexts_eq_map, String.toList_intercalate, Function.comp_def]

theorem toList_text_object (fields : List (String × Literal)) : (text (.object fields)).toList =
    '\x7b' :: ([',', ' '].intercalate (fields.map fun field => (fieldText field).toList) ++
      ['\x7d']) := by
  simp [text, fieldTexts_eq_map, String.toList_intercalate, Function.comp_def]

/-- What stands within a sequence is no longer than it. -/
theorem length_le_intercalate {piece : List Char} {pieces : List (List Char)}
    (member : piece ∈ pieces) : piece.length ≤ ([',', ' '].intercalate pieces).length := by
  induction pieces with
  | nil => exact absurd member List.not_mem_nil
  | cons first rest ih =>
    cases rest with
    | nil => simp [List.mem_singleton.mp member]
    | cons next others =>
      rw [List.intercalate_cons_cons, List.length_append, List.length_append]
      rcases List.mem_cons.mp member with rfl | later
      · omega
      · have := ih later
        omega

theorem length_lt_text_list {item : Literal} {items : List Literal} (member : item ∈ items) :
    item.text.length < (text (.list items)).length := by
  have within := length_le_intercalate
    (List.mem_map_of_mem (f := fun item => item.text.toList) member)
  rw [← String.length_toList, ← String.length_toList, toList_text_list, List.length_cons,
    List.length_append]
  omega

theorem length_lt_text_object {field : String × Literal} {fields : List (String × Literal)}
    (member : field ∈ fields) : field.2.text.length < (text (.object fields)).length := by
  have within := length_le_intercalate
    (List.mem_map_of_mem (f := fun field => (fieldText field).toList) member)
  rw [fieldText, String.toList_append, List.length_append] at within
  rw [← String.length_toList, ← String.length_toList, toList_text_object, List.length_cons,
    List.length_append]
  omega

/-! ### Reading back -/

theorem word?_eq_none {c : Char} (other : isWordPart c = false) (rest : List Char) :
    word? (c :: rest) = none := by
  simp [word?, other]

theorem read?_bracket (depth : Nat) (rest : List Char) : read? depth (']' :: rest) = none := by
  cases depth with
  | zero => rfl
  | succ depth => simp [read?, word?_eq_none (show isWordPart ']' = false by decide)]

theorem field?_brace (value? : List Char → Option (Literal × List Char)) (rest : List Char) :
    field? value? ('\x7d' :: rest) = none := by
  rw [field?, word?_eq_none (by decide)]

theorem quoted?_dataQuoted (text : String) (rest : List Char) :
    quoted? ((Text.dataQuoted text).toList ++ rest) = some (text, rest) := by
  obtain ⟨later, ran, left⟩ := Json.Scan.quotedString_reads text rest ⟨_, 1, 0⟩ rfl
  rw [quoted?, ran]
  simp [left]

theorem recovers_reference {name : String} (named : IsName name) (depth : Nat) :
    Recovers (read? (depth + 1)) (text (.reference name)).toList (.reference name) := by
  intro rest ends
  simp [text, read?, recovers_name named rest ends]

theorem recovers_integer (value : Int) (depth : Nat) :
    Recovers (read? (depth + 1)) (text (.integer value)).toList (.integer value) := by
  obtain ⟨nonempty, parts⟩ := parts_of_integer value
  exact recovers_ofWord nonempty (fun c member => isWordPart_of_part (parts c member))
    (ofWord?_integer value) depth

theorem recovers_string (value : String) (depth : Nat) :
    Recovers (read? (depth + 1)) (text (.string value)).toList (.string value) := by
  intro rest ends
  have read := quoted?_dataQuoted value rest
  rw [text]
  rw [Json.Scan.toList_dataQuoted, List.cons_append] at read ⊢
  rw [read?, if_pos rfl, read]
  rfl

theorem recovers_boolean (value : Bool) (depth : Nat) :
    Recovers (read? (depth + 1)) (text (.boolean value)).toList (.boolean value) := by
  cases value with
  | false => exact recovers_ofName (by decide) rfl depth
  | true => exact recovers_ofName (by decide) rfl depth

theorem recovers_list {items : List Literal} {depth : Nat}
    (each : ∀ item ∈ items, Recovers (read? depth) item.text.toList item) :
    Recovers (read? (depth + 1)) (text (.list items)).toList (.list items) := by
  intro rest ends
  have read := sequence?_intercalate (by decide) (by decide) (read?_bracket depth)
    (fun item => item.text.toList) each rest
  simp [toList_text_list, read?, read]

theorem recovers_field {read? : List Char → Option (Literal × List Char)}
    {field : String × Literal} (named : IsName field.1)
    (value : Recovers read? field.2.text.toList field.2) :
    Recovers (field? read?) (fieldText field).toList field := by
  intro rest ends
  have name := recovers_name named (':' :: ' ' :: (field.2.text.toList ++ rest))
    (ends_cons (by decide) _)
  simp [fieldText, field?, name, value rest ends]

theorem recovers_object {fields : List (String × Literal)} {depth : Nat}
    (named : ∀ field ∈ fields, IsName field.1)
    (each : ∀ field ∈ fields, Recovers (read? depth) field.2.text.toList field.2) :
    Recovers (read? (depth + 1)) (text (.object fields)).toList (.object fields) := by
  intro rest ends
  have read := sequence?_intercalate (by decide) (by decide) (field?_brace (read? depth))
    (fun field => (fieldText field).toList)
    (fun field member => recovers_field (named field member) (each field member)) rest
  simp [toList_text_object, read?, read]

/-- An exact literal is read back from its text where no word goes on after it. The text is longer
than what stands within it, so it bounds the nesting. -/
theorem IsExact.recovers {value : Literal} (isExact : value.IsExact) {depth : Nat}
    (within : value.text.length < depth) : Recovers (read? depth) value.text.toList value := by
  obtain ⟨depth, rfl⟩ := Nat.exists_eq_succ_of_ne_zero (Nat.ne_zero_of_lt within)
  induction isExact generalizing depth with
  | reference named => exact recovers_reference named depth
  | integer value => exact recovers_integer value depth
  | string value => exact recovers_string value depth
  | boolean value => exact recovers_boolean value depth
  | null => exact recovers_ofName (by decide) rfl depth
  | enumValue named free => exact recovers_ofName named (ofWord?_name named free) depth
  | list _ ih =>
    refine recovers_list fun item member => ?_
    have less := Nat.lt_of_lt_of_le (length_lt_text_list member) (Nat.le_of_lt_succ within)
    obtain ⟨depth, rfl⟩ := Nat.exists_eq_succ_of_ne_zero (Nat.ne_zero_of_lt less)
    exact ih item member depth less
  | object named _ ih =>
    refine recovers_object named fun field member => ?_
    have less := Nat.lt_of_lt_of_le (length_lt_text_object member) (Nat.le_of_lt_succ within)
    obtain ⟨depth, rfl⟩ := Nat.exists_eq_succ_of_ne_zero (Nat.ne_zero_of_lt less)
    exact ih field member depth less

/-- A whole text is read as the exact literal that it shows. -/
theorem ofText?_text {value : Literal} (isExact : value.IsExact) :
    ofText? value.text = some value := by
  have read := isExact.recovers (Nat.lt_succ_self _) [] (by simp [Ends])
  rw [List.append_nil] at read
  rw [ofText?, read]

/-- The text of an exact literal tells it from all others and is read back as it. Default values of
arguments that are read from documents are exact, but for their floats. -/
theorem told_by_text :
    (∀ value other : Literal, value.IsExact → other.IsExact → value.text = other.text →
      value = other) ∧
      (∀ value : Literal, value.IsExact → ofText? value.text = some value) ∧
      Document.Reading.Yields Schema.Grammar.inputValue fun argument =>
        ∀ value ∈ argument.defaultValue, ¬value.HoldsFloat → value.IsExact := by
  refine ⟨fun value other isExact isExact' same => ?_, fun _ isExact => ofText?_text isExact,
    Schema.Grammar.inputValue_yields⟩
  have read := ofText?_text isExact
  rw [same, ofText?_text isExact'] at read
  exact (Option.some.inj read).symm

def credits (names : List Literal) : Literal :=
  .object [("guest", .reference "true"), ("kind", .enumValue "trueish"), ("names", .list names),
    ("none", .list [.object [], .null, .boolean true, .integer (-10)])]

theorem isExact_credits {names : List Literal} (each : ∀ name ∈ names, name.IsExact) :
    (credits names).IsExact := by
  have others : ∀ item ∈ [.object [], .null, .boolean true, .integer (-10)], IsExact item := by
    simp [IsExact.null, IsExact.boolean, IsExact.integer, IsExact.object]
  constructor <;>
    simp only [List.forall_mem_cons, List.not_mem_nil, false_implies, implies_true, and_true]
  · decide
  · exact ⟨.reference (by decide), .enumValue (by decide) (by decide), .list each, .list others⟩

/-- Two names, of which the second ends in a quote after a control, and one name that holds what
stands between them. -/
theorem told_by_text_credits :
    let two := credits [.string "Ann", .string "Bo\x08\""]
    let one := credits [.string "Ann\", \"Bo\x08\""]
    two.IsExact ∧ one.IsExact ∧ two.text ≠ one.text ∧ ofText? two.text = some two := by
  intro two one
  have isExact : two.IsExact := isExact_credits (by simp [IsExact.string])
  have isExact' : one.IsExact := isExact_credits (by simp [IsExact.string])
  have differ : two ≠ one := by simp [two, one, credits]
  exact ⟨isExact, isExact', fun same => differ (told_by_text.1 two one isExact isExact' same),
    told_by_text.2.1 two isExact⟩

/-- An infinite float shows the same text as a name. -/
example : text (.float (.infinite false)) = text (.enumValue "inf") := by decide

end GraphQLProjections.Literal
