import GraphQLProjections.Json.Scan

/-! JSON strings. Whatever characters a text has, its quoted form is read back as the text, up to
the closing quote and no further. -/
namespace GraphQLProjections

open Text (dataEscape dataQuoted paddedHex)

/-! ### Escapes -/

/-- A control without a letter of its own is written as four narrow digits. -/
theorem Text.paddedHex_reads {code : Nat} (control : code < 0x20) :
    (paddedHex code).length = 4 ∧ (∀ c ∈ paddedHex code, c.utf8Size = 1) ∧
      hexNumber? (paddedHex code) = some code := by
  have each : ∀ code < 0x20, (paddedHex code).length = 4 ∧
      (paddedHex code).all (·.utf8Size == 1) = true ∧
        hexNumber? (paddedHex code) = some code := by
    decide
  simpa using each code control

/-- A character is written as it is, as a letter after a backslash, or by its code. -/
theorem Text.dataEscape_cases (c : Char) :
    (dataEscape c = [c] ∧ c ≠ '"' ∧ c ≠ '\\' ∧ ¬c.toNat < 0x20) ∨
      (∃ letter, dataEscape c = ['\\', letter] ∧ letter ≠ 'u' ∧
        Json.Scan.simpleEscape? letter = some c) ∨
      (dataEscape c = '\\' :: 'u' :: paddedHex c.toNat ∧ c.toNat < 0x20) := by
  have ofCode (code : Nat) (same : c.toNat = code) : c = Char.ofNat code := by
    rw [← same, Char.ofNat_toNat]
  unfold dataEscape
  split
  next h => exact .inr (.inl ⟨'"', rfl, by decide, by rw [h]; decide⟩)
  split
  next h => exact .inr (.inl ⟨'\\', rfl, by decide, by rw [h]; decide⟩)
  split
  next h => exact .inr (.inl ⟨'n', rfl, by decide, by rw [h]; decide⟩)
  split
  next h => exact .inr (.inl ⟨'r', rfl, by decide, by rw [h]; decide⟩)
  split
  next h => exact .inr (.inl ⟨'t', rfl, by decide, by rw [h]; decide⟩)
  split
  next h => exact .inr (.inl ⟨'b', rfl, by decide, by rw [ofCode _ h]; decide⟩)
  split
  next h => exact .inr (.inl ⟨'f', rfl, by decide, by rw [ofCode _ h]; decide⟩)
  split
  next control => exact .inr (.inr ⟨rfl, control⟩)
  next notQuote notBackslash _ _ _ _ _ notControl =>
    exact .inl ⟨rfl, notQuote, notBackslash, notControl⟩

theorem Text.length_le_flatMap_dataEscape (cs : List Char) :
    cs.length ≤ (cs.flatMap dataEscape).length := by
  induction cs with
  | nil => exact Nat.le_refl _
  | cons c cs ih =>
    have : 0 < (dataEscape c).length := by
      rcases dataEscape_cases c with ⟨written, _⟩ | ⟨_, written, _⟩ | ⟨written, _⟩ <;>
        simp [written]
    simp only [List.flatMap_cons, List.length_append, List.length_cons]
    omega

/-- Every character is at least one byte wide. -/
theorem Document.length_le_width_append (cs rest : List Char) :
    cs.length ≤ width (cs ++ rest) := by
  have general (cs : List Char) (total : Nat) :
      total + cs.length ≤ cs.foldl (fun total c => total + c.utf8Size) total := by
    induction cs generalizing total with
    | nil => exact Nat.le_refl _
    | cons c cs ih =>
      have := c.utf8Size_pos
      have := ih (total + c.utf8Size)
      simp only [List.length_cons, List.foldl_cons]
      omega
  have := general (cs ++ rest) 0
  rw [List.length_append] at this
  unfold width
  omega

namespace Json

namespace Cursor

@[simp] theorem rest_past (cursor : Cursor) (c : Char) (rest : List Char) :
    (cursor.past c rest).rest = rest := by
  unfold past
  split <;> rfl

theorem rest_pastBytes {digits : List Char} (narrow : ∀ c ∈ digits, c.utf8Size = 1)
    {rest : List Char} {cursor : Cursor} (unread : cursor.rest = digits ++ rest) :
    (pastBytes.go digits.length (digits ++ rest) cursor).rest = rest := by
  induction digits generalizing cursor with
  | nil => cases rest <;> simpa [pastBytes.go] using unread
  | cons c digits ih =>
    obtain ⟨one, narrow⟩ := List.forall_mem_cons.mp narrow
    simpa [pastBytes.go, one] using ih narrow (rest_past cursor c _)

end Cursor

namespace Scan

/-- Wherever `cs` is unread, the scan gives the value and leaves `rest` unread. -/
def Reads (scan : Scan α) (cs : List Char) (value : α) (rest : List Char) : Prop :=
  ∀ cursor : Cursor, cursor.rest = cs →
    ∃ later : Cursor, scan.run cursor = .ok (value, later) ∧ later.rest = rest

theorem Reads.pure (value : α) (cs : List Char) : Reads (pure value) cs value cs :=
  fun cursor unread => ⟨cursor, rfl, unread⟩

theorem Reads.bind {scan : Scan α} {next : α → Scan β} {cs middle rest : List Char} {value : α}
    {result : β} (first : Reads scan cs value middle)
    (second : Reads (next value) middle result rest) : Reads (scan >>= next) cs result rest := by
  intro cursor unread
  obtain ⟨later, ran, left⟩ := first cursor unread
  obtain ⟨last, ran', left'⟩ := second later left
  refine ⟨last, ?_, left'⟩
  rw [StateT.run_bind, ran]
  exact ran'

theorem Reads.get {next : Cursor → Scan β} {cs rest : List Char} {result : β}
    (each : ∀ cursor : Cursor, cursor.rest = cs → Reads (next cursor) cs result rest) :
    Reads (get >>= next) cs result rest :=
  fun cursor unread => each cursor unread cursor unread

theorem peek_reads (cs : List Char) : Reads peek cs cs.head? cs := by
  rintro cursor rfl
  exact ⟨cursor, rfl, rfl⟩

theorem skip_reads (c : Char) (cs : List Char) : Reads skip (c :: cs) () cs := by
  rintro ⟨_, line, column⟩ rfl
  exact ⟨_, rfl, Cursor.rest_past _ c cs⟩

theorem next_reads (c : Char) (cs : List Char) : Reads next (c :: cs) (some c) cs :=
  (peek_reads (c :: cs)).bind ((skip_reads c cs).bind (.pure _ _))

theorem set_reads (later : Cursor) (cs : List Char) : Reads (set later) cs () later.rest :=
  fun _ _ => ⟨later, rfl, rfl⟩

/-! ### Characters of a string -/

theorem hexEscape_reads {digits : List Char} {code : Nat} (four : digits.length = 4)
    (narrow : ∀ c ∈ digits, c.utf8Size = 1) (value : Text.hexNumber? digits = some code)
    (rest : List Char) : Reads hexEscape (digits ++ rest) code rest := by
  refine .get fun cursor unread => ?_
  have front : cursor.rest.take 4 = digits := by rw [unread, ← four, List.take_left]
  have wide : ¬Document.width cursor.rest < 4 := by
    rw [unread, Nat.not_lt, ← four]
    exact Document.length_le_width_append digits rest
  have left : (cursor.pastBytes 4).rest = rest := by
    have := Cursor.rest_pastBytes narrow unread
    rwa [← unread, four] at this
  rw [if_neg wide, front, value]
  have moved := set_reads (cursor.pastBytes 4) (digits ++ rest)
  rw [left] at moved
  exact moved.bind (.pure code rest)

theorem codeEscape_reads {code : Nat} (control : code < 0x20) (rest : List Char) :
    Reads codeEscape (paddedHex code ++ rest) (Char.ofNat code) rest := by
  obtain ⟨four, narrow, value⟩ := Text.paddedHex_reads control
  refine (hexEscape_reads four narrow value rest).bind ?_
  have notTrailing : isTrailing code = false := by simp [isTrailing]; omega
  have notLeading : isLeading code = false := by simp [isLeading]; omega
  rw [notTrailing, notLeading]
  exact .pure _ _

/-- After the backslash a letter stands for one character. -/
theorem escape_letter_reads {c letter : Char} (notCode : letter ≠ 'u')
    (stands : simpleEscape? letter = some c) (rest : List Char) :
    Reads escape (letter :: rest) c rest := by
  refine (peek_reads (letter :: rest)).bind ?_
  rw [List.head?_cons]
  split
  next missing => cases missing
  next same => exact absurd (Option.some.inj same) notCode
  next same =>
    obtain rfl := Option.some.inj same
    rw [stands]
    exact (skip_reads letter rest).bind (.pure c rest)

theorem escape_code_reads {code : Nat} (control : code < 0x20) (rest : List Char) :
    Reads escape ('u' :: (paddedHex code ++ rest)) (Char.ofNat code) rest :=
  (peek_reads ('u' :: (paddedHex code ++ rest))).bind
    ((skip_reads 'u' _).bind (codeEscape_reads control rest))

/-- One character is read from its written form, and then the others. -/
theorem stringCharacters_cons_reads (c : Char) {cs unread rest : List Char} {bound : Nat}
    (others : Reads (stringCharacters bound) unread cs rest) :
    Reads (stringCharacters (bound + 1)) (dataEscape c ++ unread) (c :: cs) rest := by
  rw [stringCharacters]
  rcases Text.dataEscape_cases c with
    ⟨written, notQuote, notBackslash, notControl⟩ | ⟨letter, written, notCode, stands⟩ |
      ⟨written, control⟩
  · rw [written]
    refine (next_reads c unread).bind ?_
    simp only [if_neg notQuote, if_neg notBackslash, if_neg notControl]
    exact others.bind (.pure _ _)
  · rw [written]
    refine (next_reads '\\' (letter :: unread)).bind ?_
    exact (escape_letter_reads notCode stands unread).bind (others.bind (.pure _ _))
  · rw [written]
    refine (next_reads '\\' _).bind ?_
    have code := escape_code_reads control unread
    rw [Char.ofNat_toNat] at code
    exact code.bind (others.bind (.pure _ _))

theorem stringCharacters_reads (cs rest : List Char) {bound : Nat} (within : cs.length < bound) :
    Reads (stringCharacters bound) (cs.flatMap dataEscape ++ '"' :: rest) cs rest := by
  obtain ⟨bound, rfl⟩ := Nat.exists_eq_succ_of_ne_zero (Nat.ne_zero_of_lt within)
  induction cs generalizing bound with
  | nil => exact (next_reads '"' rest).bind (.pure _ _)
  | cons c cs ih =>
    obtain ⟨bound, rfl⟩ := Nat.exists_eq_succ_of_ne_zero
      (Nat.ne_zero_of_lt (Nat.lt_of_succ_lt_succ within))
    rw [List.flatMap_cons, List.append_assoc]
    exact stringCharacters_cons_reads c (ih bound (Nat.lt_of_succ_lt_succ within))

theorem toList_dataQuoted (text : String) :
    (dataQuoted text).toList = '"' :: (text.toList.flatMap dataEscape ++ ['"']) := by
  simp [dataQuoted, Text.quotedBy]

/-- A text in quotes is read back, and what follows the closing quote is left. -/
theorem quotedString_reads (text : String) (rest : List Char) :
    Reads quotedString ((dataQuoted text).toList ++ rest) text rest := by
  rw [toList_dataQuoted, List.cons_append, List.append_assoc]
  refine (skip_reads '"' _).bind (.get fun cursor unread => ?_)
  have within : text.toList.length < cursor.rest.length + 1 := by
    have := Text.length_le_flatMap_dataEscape text.toList
    rw [unread, List.length_append]
    omega
  refine (stringCharacters_reads text.toList rest within).bind ?_
  rw [String.ofList_toList]
  exact .pure text rest

end Scan
end Json
end GraphQLProjections
