import Mathlib.Data.String.Basic
import Groundwork.RunState.Document

/-!
Documents of run states are read back. Strings may hold any characters: those that would end a string
or are not allowed in one are escaped, and each escape stands for the character it was written for.
-/

namespace Groundwork.Json

-----------------------------------------------------------------------------------------
-- Strings
-----------------------------------------------------------------------------------------

theorem hexValue?_hexDigit : ∀ n < 16, hexValue? (hexDigit n) = some n := by decide

/-- The escape of a control character stands for it. -/
theorem readEscape_control {c : Char} (control : c.toNat < 0x20) (rest : List Char)
    : readEscape ('u' :: '0' :: '0' :: hexDigit (c.toNat / 16) :: hexDigit (c.toNat % 16) :: rest)
      = .ok (c, 5) := by
  have zero : hexValue? '0' = some 0 := by decide
  have high := hexValue?_hexDigit (c.toNat / 16) (by omega)
  have low := hexValue?_hexDigit (c.toNat % 16) (by omega)
  have number : ((0 * 16 + 0) * 16 + c.toNat / 16) * 16 + c.toNat % 16 = c.toNat := by omega
  have plain : isLowSurrogate c.toNat = false ∧ isHighSurrogate c.toNat = false := by
    simp only [isLowSurrogate, isHighSurrogate, Bool.and_eq_false_iff, decide_eq_false_iff_not]
    omega
  simp only [readEscape, readHex, List.take_succ_cons, List.take_zero, List.mapM_cons, List.mapM_nil,
    zero, high, low, bind, Except.bind, Option.bind, pure, number, plain, Bool.false_eq_true, if_false,
    Char.ofNat_toNat]

/-- The ways in which a character is written: by a letter that stands for it, by its number, or as it
is.
-/
inductive IsWritten (c : Char) : List Char → Prop
  | letter (letter : Char) (reads : ∀ rest, readEscape (letter :: rest) = .ok (c, 1))
    : IsWritten c ['\\', letter]
  | control (control : c.toNat < 0x20)
    : IsWritten c ['\\', 'u', '0', '0', hexDigit (c.toNat / 16), hexDigit (c.toNat % 16)]
  | plain (quote : c ≠ '"') (escape : c ≠ '\\') (visible : ¬ c.toNat < 0x20) : IsWritten c [c]

/-- A character is escaped in one of these ways; by cases on the seven that have letters. -/
theorem isWritten_escapeChar (c : Char) : IsWritten c (escapeChar c) := by
  unfold escapeChar
  iterate 7
    split
    · next same =>
        cases beq_iff_eq.mp same
        exact .letter _ fun _ => rfl
  split
  · next control => exact .control control
  · next quote escape _ _ _ _ _ visible =>
      exact .plain (fun same => quote (beq_iff_eq.mpr same)) (fun same => escape (beq_iff_eq.mpr same))
        visible

/-- A character that was written is read back; by cases on how it was written. -/
theorem readStringFrom_escapeChar (c : Char) (rest : List Char)
    : readStringFrom 0 (escapeChar c ++ rest)
      = (readStringFrom 0 rest).map fun read => (c :: read.1, read.2) := by
  have quote : ('\\' == '"') = false := by decide
  have written := isWritten_escapeChar c
  generalize escapeChar c = characters at written
  cases written with
  | letter letter reads =>
      simp only [List.cons_append, List.nil_append, readStringFrom, quote, beq_self_eq_true,
        Bool.false_eq_true, if_false, if_true, reads, bind, Except.bind]
      cases readStringFrom 0 rest <;> rfl
  | control control =>
      simp only [List.cons_append, List.nil_append, readStringFrom, quote, beq_self_eq_true,
        Bool.false_eq_true, if_false, if_true, readEscape_control control, bind, Except.bind]
      cases readStringFrom 0 rest <;> rfl
  | plain quote escape visible =>
      simp only [List.cons_append, List.nil_append, readStringFrom, beq_iff_eq, quote, escape, visible,
        if_false]
      cases readStringFrom 0 rest <;> rfl

/-- A text that was written as a string is read back up to the closing quote; by induction on its
characters.
-/
theorem readString_escape (text : String) (rest : List Char)
    : readString (escape text.toList ++ '"' :: rest) = .ok (text, rest) := by
  have whole (characters : List Char)
      : readStringFrom 0 (escape characters ++ '"' :: rest) = .ok (characters, rest) := by
    induction characters with
    | nil => rfl
    | cons c characters ih =>
        rw [escape, List.flatMap_cons, List.append_assoc, readStringFrom_escapeChar]
        change (readStringFrom 0 (escape characters ++ '"' :: rest)).map _ = _
        rw [ih]
        rfl
  rw [readString, whole]
  simp only [bind, Except.bind, String.ofList_toList]

theorem toList_writeString (text : String)
    : (writeString text).toList = '"' :: (escape text.toList ++ ['"']) := by
  simp [writeString]

/-- A string after blanks is read as one. -/
theorem readTypedString_writeString {blanks : List Char} (blank : blanks.all isBlank = true)
    (text : String) (rest : List Char)
    : readTypedString (blanks ++ (writeString text).toList ++ rest) = .ok (text, rest) := by
  have skipped : skipBlanks (blanks ++ (writeString text).toList ++ rest)
      = '"' :: (escape text.toList ++ '"' :: rest) := by
    rw [skipBlanks, List.append_assoc, List.dropWhile_append_of_pos (by simpa using blank),
      toList_writeString]
    simp [isBlank]
  rw [readTypedString, skipped]
  exact readString_escape text rest

-----------------------------------------------------------------------------------------
-- Lists of strings
-----------------------------------------------------------------------------------------

/-- A list of strings after its opening bracket, each on a line of its own. -/
def itemsText (first : Bool) : List String → List Char
  | [] => '\n' :: ' ' :: ' ' :: ']' :: []
  | item :: rest =>
      (if first then ['\n'] else [',', '\n']) ++ "    ".toList ++ (writeString item).toList
        ++ itemsText false rest

/-- The items of a list are read back up to its closing bracket; by induction on them. -/
theorem readStrings_itemsText (items : List String) {first : Bool} {fuel : Nat}
    (enough : items.length < fuel) (rest : List Char)
    : readStrings fuel first (itemsText first items ++ rest) = .ok (items, rest) := by
  induction items generalizing first fuel with
  | nil =>
      obtain ⟨fuel, rfl⟩ := Nat.exists_eq_succ_of_ne_zero (Nat.ne_of_gt enough)
      rfl
  | cons item items ih =>
      obtain ⟨fuel, rfl⟩ := Nat.exists_eq_succ_of_ne_zero (Nat.ne_of_gt (Nat.zero_lt_of_lt enough))
      have later := @ih false fuel (Nat.lt_of_succ_lt_succ enough)
      have here : nextItem first (itemsText first (item :: items) ++ rest)
          = .ok (true, (writeString item).toList ++ (itemsText false items ++ rest)) := by
        rw [itemsText, toList_writeString]
        cases first <;> simp [nextItem, skipBlanks, isBlank]
      have read := @readTypedString_writeString [] rfl item (itemsText false items ++ rest)
      rw [List.nil_append] at read
      rw [readStrings, here]
      simp only [bind, Except.bind, if_true, read, later]

theorem length_le_itemsText (first : Bool) (items : List String)
    : items.length ≤ (itemsText first items).length := by
  induction items generalizing first with
  | nil => simp
  | cons item items ih =>
      have later := ih false
      simp only [itemsText, List.length_append, List.length_cons]
      have : "    ".toList.length = 4 := by decide
      omega

end Groundwork.Json

namespace Groundwork.RunState

open Json

-----------------------------------------------------------------------------------------
-- Documents
-----------------------------------------------------------------------------------------

/-- The items of a list that has some stand between its brackets; by induction on those after the
first.
-/
theorem toList_writeCompleted (step : String) (steps : List String)
    : (writeCompleted (step :: steps)).toList = '[' :: itemsText true (step :: steps) := by
  have items (first : Bool) (step : String)
      : (if first then ['\n'] else [',', '\n'])
          ++ (",\n".intercalate ((step :: steps).map fun step => "    " ++ writeString step)).toList
          ++ "\n  ]".toList
        = itemsText first (step :: steps) := by
    induction steps generalizing first step with
    | nil => simp [itemsText, String.toList_append]
    | cons next steps ih =>
        have later := ih false next
        rw [itemsText, ← later]
        simp [String.toList_append]
  rw [← items true step]
  simp [writeCompleted, String.toList_append]

/-- A list that was written is read back. -/
theorem readTypedStrings_writeCompleted (steps : List String) (rest : List Char)
    : readTypedStrings (' ' :: (writeCompleted steps).toList ++ rest) = .ok (steps, rest) := by
  cases steps with
  | nil => rfl
  | cons step steps =>
      have skipped : skipBlanks (' ' :: (writeCompleted (step :: steps)).toList ++ rest)
          = '[' :: (itemsText true (step :: steps) ++ rest) := by
        rw [toList_writeCompleted]
        rfl
      rw [readTypedStrings, skipped]
      have enough := length_le_itemsText true (step :: steps)
      refine readStrings_itemsText (step :: steps) ?_ rest
      rw [List.length_append]
      omega

/-- The fields of a document after its opening brace, each on a line of its own. -/
def fieldsText (first : Bool) : List (String × String) → List Char
  | [] => '\n' :: '\x7d' :: '\n' :: []
  | (name, value) :: rest =>
      (if first then ['\n'] else [',', '\n']) ++ (writeField name value).toList ++ fieldsText false rest

theorem toList_document (state : RunState)
    : state.document.toList
      = '\x7b' :: fieldsText true
          [(pipelineField, writeString state.pipeline),
            (directoryField, writeString state.workingDirectory.toString),
            (completedField, writeCompleted state.completed)] := by
  simp [document, fieldsText, String.toList_append]

namespace Fields

variable {fields after : Fields}

theorem readValue_pipeline (fields : Fields) (text : String) (rest : List Char)
    : fields.readValue pipelineField (' ' :: (writeString text).toList ++ rest)
      = .ok ({ fields with pipeline := some text }, rest) := by
  have read := @readTypedString_writeString [' '] rfl text rest
  rw [List.singleton_append] at read
  simp only [readValue, beq_self_eq_true, if_true, read, bind, Except.bind]
  rfl

theorem readValue_directory (fields : Fields) (text : String) (rest : List Char)
    : fields.readValue directoryField (' ' :: (writeString text).toList ++ rest)
      = .ok ({ fields with directory := some text }, rest) := by
  have other : (directoryField == pipelineField) = false := by decide
  have read := @readTypedString_writeString [' '] rfl text rest
  rw [List.singleton_append] at read
  simp only [readValue, other, Bool.false_eq_true, if_false, beq_self_eq_true, if_true, read, bind,
    Except.bind]
  rfl

theorem readValue_completed (fields : Fields) (steps : List String) (rest : List Char)
    : fields.readValue completedField (' ' :: (writeCompleted steps).toList ++ rest)
      = .ok ({ fields with completed := some steps }, rest) := by
  have other : (completedField == pipelineField) = false := by decide
  have other' : (completedField == directoryField) = false := by decide
  simp only [readValue, other, other', Bool.false_eq_true, if_false, beq_self_eq_true, if_true,
    readTypedStrings_writeCompleted, bind, Except.bind]
  rfl

/-- A field that was written is read, and then those after it. -/
theorem read_fieldsText {name value : String} (unused : fields.has name = false)
    (reads : ∀ rest, fields.readValue name (' ' :: value.toList ++ rest) = .ok (after, rest))
    (fuel : Nat) (first : Bool) (more : List (String × String))
    : read (fuel + 1) first fields (fieldsText first ((name, value) :: more))
      = read fuel false after (fieldsText false more) := by
  have key : nextKey first (fieldsText first ((name, value) :: more))
      = .ok (true, escape name.toList ++ '"' :: (':' :: ' ' :: value.toList ++ fieldsText false more)) := by
    have text : (writeField name value).toList
        = ' ' :: ' ' :: '"' :: (escape name.toList ++ '"' :: ':' :: ' ' :: value.toList) := by
      simp [writeField, String.toList_append, toList_writeString]
    rw [fieldsText, text]
    cases first <;> simp [nextKey, skipBlanks, isBlank, bind, Except.bind]
  have colon : readColon (':' :: ' ' :: value.toList ++ fieldsText false more)
      = .ok (' ' :: value.toList ++ fieldsText false more) := rfl
  rw [read, key]
  simp only [bind, Except.bind, if_true, readString_escape, unused, Bool.false_eq_true, if_false, colon,
    reads]

end Fields

/-- The document of a run state is read back as the run state, whose directory is the path that its
text spells.
-/
theorem ofDocument_document (state : RunState)
    : ofDocument state.document
      = .ok { state with workingDirectory := Path.ofString state.workingDirectory.toString } := by
  have names : (directoryField == pipelineField) = false ∧ (completedField == pipelineField) = false
      ∧ (completedField == directoryField) = false := by decide
  have fields (fuel : Nat)
      : Fields.read (fuel + 4) true {}
          (fieldsText true
            [(pipelineField, writeString state.pipeline),
              (directoryField, writeString state.workingDirectory.toString),
              (completedField, writeCompleted state.completed)])
        = .ok (⟨some state.pipeline, some state.workingDirectory.toString, some state.completed⟩,
            ['\n']) := by
    rw [Fields.read_fieldsText (by simp [Fields.has]) (Fields.readValue_pipeline _ _),
      Fields.read_fieldsText (by simp [Fields.has, names]) (Fields.readValue_directory _ _),
      Fields.read_fieldsText (by simp [Fields.has, names]) (Fields.readValue_completed _ _)]
    rfl
  have opened (rest : List Char) : skipBlanks ('\x7b' :: rest) = '\x7b' :: rest := rfl
  rw [ofDocument, toList_document, readState, opened]
  obtain ⟨fuel, enough⟩ : ∃ fuel, (fieldsText true
      [(pipelineField, writeString state.pipeline),
        (directoryField, writeString state.workingDirectory.toString),
        (completedField, writeCompleted state.completed)]).length + 1 = fuel + 4 := by
    refine ⟨_, (Nat.sub_add_cancel ?_).symm⟩
    simp only [fieldsText, List.length_append, List.length_cons]
    omega
  simp only [enough, fields, bind, Except.bind, Fields.toState]
  rfl

end Groundwork.RunState
