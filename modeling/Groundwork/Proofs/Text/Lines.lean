import Groundwork.Text.Lines

/-!
Lines and bytes of texts that are put together. A text that ends in a newline has its own lines, whatever
comes after it; and a carriage return before a newline has no say in lines up to trailing blanks. Texts
that are trimmed keep what stands between two characters that are not blank, and texts that are cut
between two characters have their bytes cut between theirs.
-/

namespace Groundwork.Text

variable {text before rest line : List Char} {c : Char}

-----------------------------------------------------------------------------------------
-- Lines between newlines
-----------------------------------------------------------------------------------------

/-- The lines of a text as its newlines part them, with all that stands between these. -/
def rawLines : List Char → List (List Char)
  | [] => []
  | c :: rest =>
      if c = '\n' then [] :: rawLines rest
      else
        match rawLines rest with
        | [] => [[c]]
        | line :: others => (c :: line) :: others

@[simp]
theorem rawLines_newline (rest : List Char) : rawLines ('\n' :: rest) = [] :: rawLines rest := rfl

theorem rawLines_cons (other : c ≠ '\n') (rest : List Char)
    : rawLines (c :: rest) = (c :: (rawLines rest).headD []) :: (rawLines rest).tail := by
  rw [rawLines, if_neg other]
  cases rawLines rest <;> rfl

theorem rawLines_ne_nil (filled : text ≠ []) : rawLines text ≠ [] := by
  cases text with
  | nil => exact absurd rfl filled
  | cons c rest =>
      by_cases newline : c = '\n'
      · subst newline
        exact List.cons_ne_nil _ _
      · rw [rawLines_cons newline]
        exact List.cons_ne_nil _ _

theorem endsInNewline_iff : endsInNewline text = true ↔ ∃ front, text = front ++ ['\n'] := by
  rw [endsInNewline, beq_iff_eq, List.getLast?_eq_some_iff]

/-- A text that ends in a newline has its own lines; by induction on what stands before that. -/
theorem rawLines_append (ended : before = [] ∨ endsInNewline before = true) (rest : List Char)
    : rawLines (before ++ rest) = rawLines before ++ rawLines rest := by
  obtain rfl | ended := ended
  · rfl
  obtain ⟨front, rfl⟩ := endsInNewline_iff.mp ended
  clear ended
  induction front with
  | nil => rfl
  | cons c front ih =>
      by_cases newline : c = '\n'
      · subst newline
        exact congrArg ([] :: ·) ih
      · obtain ⟨line, others, lines⟩ := List.exists_cons_of_ne_nil
          (rawLines_ne_nil (List.concat_ne_nil '\n' front))
        simp only [List.cons_append, rawLines_cons newline, ih, lines]
        rfl

/-- A newline at the end of a last line that has none makes no other lines; by induction on the
text.
-/
theorem rawLines_concat_newline (filled : text ≠ []) (unended : endsInNewline text = false)
    : rawLines (text ++ ['\n']) = rawLines text := by
  induction text with
  | nil => exact absurd rfl filled
  | cons c rest ih =>
      cases rest with
      | nil =>
          have other : c ≠ '\n' := by simpa [endsInNewline] using unended
          rw [List.cons_append, rawLines_cons other, rawLines_cons other]
          rfl
      | cons next rest =>
          have later := ih (List.cons_ne_nil _ _) (by simpa [endsInNewline] using unended)
          by_cases newline : c = '\n'
          · subst newline
            exact congrArg ([] :: ·) later
          · rw [List.cons_append, rawLines_cons newline, rawLines_cons newline, later]

-----------------------------------------------------------------------------------------
-- Lines up to trailing blanks
-----------------------------------------------------------------------------------------

theorem trimEnd_cons (c : Char) (line : List Char)
    : trimEnd (c :: line)
      = if trimEnd line = [] ∧ isBlank c = true then [] else c :: trimEnd line := by
  simp only [trimEnd, List.reverse_cons, List.dropWhile_append, List.isEmpty_iff,
    List.reverse_eq_nil_iff]
  by_cases empty : line.reverse.dropWhile isBlank = []
  · by_cases blank : isBlank c = true <;> simp [empty, blank]
  · simp [empty]

/-- Lines that are the same up to trailing blanks stay so with a character before them. -/
theorem map_trimEnd_cons_congr {one two : List (List Char)}
    (same : one.map trimEnd = two.map trimEnd) (c : Char)
    : ((c :: one.headD []) :: one.tail).map trimEnd
      = ((c :: two.headD []) :: two.tail).map trimEnd := by
  cases one with
  | nil =>
      rw [List.map_nil, eq_comm, List.map_eq_nil_iff] at same
      rw [same]
  | cons line others =>
      obtain ⟨own, more, rfl, head, tail⟩ := List.map_eq_cons_iff.mp same.symm
      simp only [List.headD_cons, List.tail_cons, List.map_cons, trimEnd_cons, head, tail]

/-- Lines up to trailing blanks are those between newlines up to trailing blanks, a carriage return
being a blank; by induction on the text.
-/
theorem plainLines_eq (text : List Char) : plainLines text = (rawLines text).map trimEnd := by
  induction text with
  | nil => rfl
  | cons c rest ih =>
      rw [plainLines] at ih ⊢
      rw [lines]
      split
      · next newline =>
          obtain rfl := beq_iff_eq.mp newline
          exact congrArg ([] :: ·) ih
      · next newline =>
          have newline : c ≠ '\n' := ne_of_beq_false (by simpa using newline)
          rw [rawLines_cons newline]
          split
          · next ended =>
              simp only [Bool.and_eq_true, beq_iff_eq] at ended
              obtain ⟨rfl, follows⟩ := ended
              obtain ⟨rest, rfl⟩ := List.head?_eq_some_iff.mp follows
              exact ih
          · refine Eq.trans (congrArg (List.map trimEnd) ?_) (map_trimEnd_cons_congr ih c)
            cases lines rest <;> rfl

theorem plainLines_append (ended : before = [] ∨ endsInNewline before = true) (rest : List Char)
    : plainLines (before ++ rest) = plainLines before ++ plainLines rest := by
  simp only [plainLines_eq, rawLines_append ended, List.map_append]

theorem plainLines_ne_nil (filled : text ≠ []) : plainLines text ≠ [] := by
  rw [plainLines_eq, Ne, List.map_eq_nil_iff]
  exact rawLines_ne_nil filled

theorem isRun_iff_infix {α : Type} [BEq α] [LawfulBEq α] {run list : List α}
    : isRun run list = true ↔ run <:+: list := by
  induction list with
  | nil => simp [isRun]
  | cons first rest ih => simp [isRun, List.infix_cons_iff, ih]

-----------------------------------------------------------------------------------------
-- Texts without blanks at their ends
-----------------------------------------------------------------------------------------

/-- Trimming leaves nothing of a text exactly if it has nothing but blanks; by induction on the text. -/
theorem trim_eq_nil_iff {text : List Char} : trim text = [] ↔ ∀ c ∈ text, isBlank c = true := by
  induction text with
  | nil => exact iff_of_true rfl (by simp)
  | cons c rest ih =>
      by_cases blank : isBlank c = true
      · have same : trim (c :: rest) = trim rest := by simp [trim, trimStart, blank]
        simp [same, ih, blank]
      · simp [trim, trimStart, trimEnd_cons, blank]

/-- A text that begins and ends in characters that are not blank. -/
structure Tight (text : List Char) : Prop where
  filled : text ≠ []
  first : ∀ c, text.head? = some c → isBlank c = false
  last : ∀ c, text.getLast? = some c → isBlank c = false

/-- Trimming does not reach beyond a character that is not blank. -/
theorem trim_append (tight : Tight text) : trim (before ++ text) = trimStart before ++ text := by
  obtain ⟨filled, first, last⟩ := tight
  have start : trimStart text = text := by
    cases text with
    | nil => rfl
    | cons c rest => simp [trimStart, first c rfl]
  have stop (before : List Char) : trimEnd (before ++ text) = before ++ text := by
    rw [trimEnd, List.reverse_append]
    cases reversed : text.reverse with
    | nil => exact absurd (List.reverse_eq_nil_iff.mp reversed) filled
    | cons c rest =>
        have blank := last c (by rw [List.getLast?_eq_head?_reverse, reversed, List.head?_cons])
        rw [List.cons_append, List.dropWhile_cons_of_neg (by simp [blank]), ← List.cons_append,
          ← reversed, ← List.reverse_append, List.reverse_reverse]
  rw [trim, trimStart, List.dropWhile_append]
  split
  · next empty =>
      change trimEnd (trimStart text) = trimStart before ++ text
      rw [start, trimStart, List.isEmpty_iff.mp empty]
      exact stop []
  · exact stop _

theorem trim_of_tight (tight : Tight text) : trim text = text := by
  have kept : trim ([] ++ text) = trimStart [] ++ text := trim_append tight
  exact kept

/-- A text without blanks is what trimming leaves of it. -/
theorem trim_of_solid (solid : ∀ c ∈ text, isBlank c = false) : trim text = text := by
  by_cases empty : text = []
  · rw [empty]
    rfl
  · exact trim_of_tight ⟨empty, fun c first => solid c (List.mem_of_head? first),
      fun c last => solid c (List.mem_of_getLast? last)⟩

-----------------------------------------------------------------------------------------
-- Lines that are written one after another
-----------------------------------------------------------------------------------------

/-- A line that is ended by a newline is read back; by induction on the line. -/
theorem lines_append_newline (whole : '\n' ∉ line) (plain : line.getLast? ≠ some '\r')
    (rest : List Char) : lines (line ++ '\n' :: rest) = line :: lines rest := by
  induction line with
  | nil => rfl
  | cons c line ih =>
      obtain ⟨other, whole⟩ := not_or.mp (mt List.mem_cons.mpr whole)
      have unended : (c == '\r' && (line ++ '\n' :: rest).head? == some '\n') = false := by
        cases line with
        | nil => simpa using plain
        | cons next line =>
            have other := ne_of_mem_of_not_mem List.mem_cons_self whole
            simp [other]
      have plain : line.getLast? ≠ some '\r' := by
        cases line with
        | nil => simp
        | cons next line => simpa using plain
      rw [List.cons_append, lines, if_neg (by simpa using Ne.symm other), unended,
        if_neg Bool.false_ne_true, ih whole plain]

-----------------------------------------------------------------------------------------
-- Carriage returns
-----------------------------------------------------------------------------------------

/-- The text with a carriage return before each of its newlines. -/
def withReturns (text : List Char) : List Char :=
  text.flatMap fun c => if c = '\n' then ['\r', '\n'] else [c]

/-- Carriage returns before newlines do not count; by induction on the text. -/
theorem plainLines_withReturns (text : List Char)
    : plainLines (withReturns text) = plainLines text := by
  simp only [plainLines_eq]
  induction text with
  | nil => rfl
  | cons c rest ih =>
      rw [withReturns, List.flatMap_cons, ← withReturns]
      split
      · next newline =>
          subst newline
          exact congrArg ([] :: ·) ih
      · next newline =>
          rw [List.singleton_append, rawLines_cons newline, rawLines_cons newline]
          exact map_trimEnd_cons_congr ih c

-----------------------------------------------------------------------------------------
-- Texts and their bytes
-----------------------------------------------------------------------------------------

/-- Arrays of bytes are compared by their bytes. -/
instance lawfulBEqByteArray : LawfulBEq ByteArray where
  eq_of_beq {one two} same := by
    obtain ⟨first⟩ := one
    obtain ⟨second⟩ := two
    exact congrArg ByteArray.mk (beq_iff_eq.mp (show (first == second) = true from same))
  rfl {one} := by
    obtain ⟨bytes⟩ := one
    exact beq_self_eq_true bytes

theorem fromUTF8?_toUTF8 (text : String) : String.fromUTF8? text.toUTF8 = some text := by
  unfold String.fromUTF8?
  rw [String.toUTF8_eq_toByteArray, dif_pos text.isValidUTF8]
  rfl

theorem fromUTF8?_eq_some_iff {bytes : ByteArray} {text : String}
    : String.fromUTF8? bytes = some text ↔ bytes = text.toUTF8 := by
  constructor
  · intro spelled
    unfold String.fromUTF8? at spelled
    split at spelled
    · obtain rfl := Option.some.inj spelled
      rfl
    · cases spelled
  · rintro rfl
    exact fromUTF8?_toUTF8 text

theorem toUTF8_inj {text other : String} : text.toUTF8 = other.toUTF8 ↔ text = other := by
  constructor
  · intro same
    have spelled := congrArg String.fromUTF8? same
    rw [fromUTF8?_toUTF8, fromUTF8?_toUTF8] at spelled
    exact Option.some.inj spelled
  · exact congrArg _

-----------------------------------------------------------------------------------------
-- Texts that are cut
-----------------------------------------------------------------------------------------

theorem byteLength_eq (text : List Char) : byteLength text = (String.ofList text).utf8ByteSize := by
  induction text with
  | nil => rfl
  | cons c rest ih =>
      rw [String.ofList_cons, String.utf8ByteSize_append, String.utf8ByteSize_singleton, ← ih]
      rfl

/-- So many characters of a text end at the boundary of a character. -/
theorem isValid_byteLength_take (text : String) (position : Nat)
    : String.Pos.Raw.IsValid text ⟨byteLength (text.toList.take position)⟩ :=
  String.Pos.Raw.isValid_iff_exists_take_toList.mpr ⟨position, byteLength_eq _⟩

/-- The two parts of a text have the two parts of its bytes. -/
theorem toUTF8_take_drop (text : String) (position : Nat)
    : (String.ofList (text.toList.take position)).toUTF8
        = text.toUTF8.extract 0 (byteLength (text.toList.take position))
      ∧ (String.ofList (text.toList.drop position)).toUTF8
        = text.toUTF8.extract (byteLength (text.toList.take position)) text.toUTF8.size := by
  have parted : text.toUTF8 = (String.ofList (text.toList.take position)).toUTF8
      ++ (String.ofList (text.toList.drop position)).toUTF8 := by
    simp only [String.toUTF8_eq_toByteArray, ← String.toByteArray_append, ← String.ofList_append,
      List.take_append_drop, String.ofList_toList]
  have length : byteLength (text.toList.take position)
      = (String.ofList (text.toList.take position)).toUTF8.size :=
    byteLength_eq _
  rw [parted, ByteArray.extract_append_eq_left length,
    ByteArray.extract_append_eq_right length ByteArray.size_append]
  exact ⟨rfl, rfl⟩

end Groundwork.Text
