import Groundwork.Assignment
import Groundwork.Proofs.Text.Lines

/-!
Assignments are read as they are written. The key is what stands before the first equals sign, without
blanks around it; what stands behind it spells a truth value, a whole number or else itself, and which
of these it is can be told from the text alone.
-/

namespace Groundwork.Assignment

open Text

variable {text digits : List Char} {raw : String} {n : Int}

-----------------------------------------------------------------------------------------
-- Whole numbers as they are written
-----------------------------------------------------------------------------------------

/-- Decimal digits, one at least. -/
def AreDigits (digits : List Char) : Prop := digits ≠ [] ∧ ∀ c ∈ digits, c.isDigit = true

/-- The number that decimal digits spell. -/
def magnitude (digits : List Char) : Int := (Nat.ofDigitChars 10 digits 0 : Nat)

/-- A whole number as it is written: decimal digits, after a sign or none. -/
inductive Numeral : List Char → Int → Prop
  | plain {digits : List Char} (decimal : AreDigits digits) : Numeral digits (magnitude digits)
  | plus {digits : List Char} (decimal : AreDigits digits)
    : Numeral ('+' :: digits) (magnitude digits)
  | minus {digits : List Char} (decimal : AreDigits digits)
    : Numeral ('-' :: digits) (-magnitude digits)

/-- The whole numbers that sixty-four bits hold with their sign. -/
def InRange (n : Int) : Prop := -9223372036854775808 ≤ n ∧ n ≤ 9223372036854775807

instance (n : Int) : Decidable (InRange n) :=
  inferInstanceAs (Decidable (_ ∧ _))

theorem isSigned_iff : Bits.isSigned 64 n = true ↔ InRange n := by
  have least : Bits.least 64 = -9223372036854775808 := by decide
  have greatest : Bits.greatest 64 = 9223372036854775807 := by decide
  simp only [Bits.isSigned, InRange, least, greatest, Bool.and_eq_true, decide_eq_true_eq]

/-- A text without the sign that it starts with, and whether that is a minus. -/
def withoutSign (text : List Char) : Bool × List Char :=
  match text with
  | '-' :: rest => (true, rest)
  | '+' :: rest => (false, rest)
  | _ => (false, text)

theorem withoutSign_digits (decimal : AreDigits text) : withoutSign text = (false, text) := by
  have minus : '-'.isDigit = false := by decide
  have plus : '+'.isDigit = false := by decide
  unfold withoutSign
  split
  · simp [AreDigits, minus] at decimal
  · simp [AreDigits, plus] at decimal
  · rfl

/-- The number that digits spell, negative or not. -/
def signed (negative : Bool) (digits : List Char) : Int :=
  if negative then -magnitude digits else magnitude digits

/-- A text is a whole number as it is written exactly if digits come after its sign; by cases on the
sign.
-/
theorem numeral_iff
    : Numeral text n
      ↔ AreDigits (withoutSign text).2 ∧ signed (withoutSign text).1 (withoutSign text).2 = n := by
  constructor
  · intro numeral
    cases numeral with
    | plain decimal =>
        rw [withoutSign_digits decimal]
        exact ⟨decimal, rfl⟩
    | plus decimal | minus decimal => exact ⟨decimal, rfl⟩
  · unfold withoutSign
    split <;> rintro ⟨decimal, rfl⟩
    · exact .minus decimal
    · exact .plus decimal
    · exact .plain decimal

/-- A text is read as a whole number exactly if it is written as one and the number is in range. -/
theorem parseInt?_eq_some_iff : parseInt? text = some n ↔ Numeral text n ∧ InRange n := by
  have read : parseInt? text
      = if (withoutSign text).2.isEmpty || !(withoutSign text).2.all Char.isDigit then none
        else
          let value := signed (withoutSign text).1 (withoutSign text).2
          if Bits.isSigned 64 value then some value else none := by
    rfl
  rw [read, numeral_iff]
  generalize (withoutSign text).2 = digits
  generalize signed (withoutSign text).1 digits = value
  have decimal : (digits.isEmpty || !digits.all Char.isDigit) = false ↔ AreDigits digits := by
    simp [AreDigits, List.all_eq_true]
  by_cases spelled : AreDigits digits
  · simp only [decimal.mpr spelled, Bool.false_eq_true, if_false, spelled, true_and,
      Option.ite_none_right_eq_some, isSigned_iff, Option.some.injEq]
    constructor
    · rintro ⟨fits, rfl⟩
      exact ⟨rfl, fits⟩
    · rintro ⟨rfl, fits⟩
      exact ⟨fits, rfl⟩
  · have other : (digits.isEmpty || !digits.all Char.isDigit) = true := by
      rw [← Bool.not_eq_false, decimal]
      exact spelled
    simp [other, spelled]

/-- A number is written in decimal as one. -/
theorem numeral_toString (n : Int) : Numeral (toString n).toList n := by
  have decimal (m : Nat) : AreDigits (Nat.toDigits 10 m) :=
    ⟨Nat.toDigits_ne_nil, fun c member => Nat.isDigit_of_mem_toDigits (by decide) (by decide) member⟩
  have spelled (m : Nat) : magnitude (Nat.toDigits 10 m) = m := by
    rw [magnitude, Nat.ofDigitChars_toDigits (by decide) (by decide)]
  cases n with
  | ofNat m =>
      have numeral := Numeral.plain (decimal m)
      rw [spelled] at numeral
      have text : toString (Int.ofNat m) = String.ofList (Nat.toDigits 10 m) :=
        Nat.toString_eq_ofList_toDigits
      rw [text, String.toList_ofList]
      exact numeral
  | negSucc m =>
      have numeral := Numeral.minus (decimal m.succ)
      rw [spelled] at numeral
      have text : toString (Int.negSucc m) = "-" ++ String.ofList (Nat.toDigits 10 m.succ) :=
        congrArg ("-" ++ ·) Nat.toString_eq_ofList_toDigits
      simp only [text, String.toList_append, String.toList_ofList]
      exact numeral

-----------------------------------------------------------------------------------------
-- Keys and values of assignments
-----------------------------------------------------------------------------------------

/-- The key of an assignment: what stands before the first equals sign, or all of it if there is none,
without the blanks around it.
-/
def keyOf (raw : String) : String := String.ofList (trim (raw.toList.takeWhile (· != '=')))

/-- The value that an assignment gives: what is spelled behind the first equals sign, or true if there
is none.
-/
def valueOf (raw : String) : Datum :=
  match raw.toList.dropWhile (· != '=') with
  | [] => .bool true
  | _ :: text => parseValue text

/-- An assignment is refused if its key is empty, whatever its value. -/
theorem parse_eq (raw : String)
    : parse raw
      = if keyOf raw = "" then .error (.emptyKey raw) else .ok ⟨keyOf raw, valueOf raw⟩ := by
  have empty (key : List Char) : key.isEmpty = decide (String.ofList key = "") := by
    rw [Bool.eq_iff_iff, decide_eq_true_eq, List.isEmpty_iff, String.ofList_eq_empty_iff]
  unfold parse splitOnce keyOf valueOf
  cases behind : raw.toList.dropWhile (· != '=') with
  | nil =>
      have all : raw.toList.takeWhile (· != '=') = raw.toList := by
        have parts := List.takeWhile_append_dropWhile (p := (· != '=')) (l := raw.toList)
        rwa [behind, List.append_nil] at parts
      simp [empty, all]
  | cons sign text => simp [empty]

/-- The first equals sign of an assignment ends its key. -/
theorem parts_of_written {key : String} (noSign : '=' ∉ key.toList) (text : String)
    : (key ++ "=" ++ text).toList.takeWhile (· != '=') = key.toList
      ∧ (key ++ "=" ++ text).toList.dropWhile (· != '=') = '=' :: text.toList := by
  have parts : (key ++ "=" ++ text).toList = key.toList ++ '=' :: text.toList := by
    simp [String.toList_append]
  have other : ∀ c ∈ key.toList, (c != '=') = true := by
    intro c member
    rw [bne_iff_ne]
    rintro rfl
    exact noSign member
  rw [parts, List.takeWhile_append_of_pos other, List.dropWhile_append_of_pos other]
  simp

theorem keyOf_written {key : String} (noSign : '=' ∉ key.toList) (text : String)
    : keyOf (key ++ "=" ++ text) = trimmed key := by
  rw [keyOf, (parts_of_written noSign text).1, trimmed]

theorem valueOf_written {key : String} (noSign : '=' ∉ key.toList) (text : String)
    : valueOf (key ++ "=" ++ text) = parseValue text.toList := by
  rw [valueOf, (parts_of_written noSign text).2]

/-- An assignment without an equals sign gives true, every other one is written with a key and a value. -/
theorem written_of_valueOf (raw : String)
    : valueOf raw = .bool true
      ∨ ∃ key text, raw = key ++ "=" ++ text ∧ '=' ∉ key.toList := by
  cases behind : raw.toList.dropWhile (· != '=') with
  | nil => exact .inl (by simp [valueOf, behind])
  | cons sign text =>
      refine .inr ⟨String.ofList (raw.toList.takeWhile (· != '=')), String.ofList text, ?_, ?_⟩
      · have first : sign = '=' := by
          have stopped := List.head_dropWhile_not (· != '=') (l := raw.toList) (by simp [behind])
          simpa [behind] using stopped
        have parts := List.takeWhile_append_dropWhile (p := (· != '=')) (l := raw.toList)
        rw [behind, first] at parts
        apply String.toList_injective
        simp [String.toList_append, parts]
      · intro member
        rw [String.toList_ofList] at member
        have other := List.all_eq_true.mp List.all_takeWhile _ member
        simp at other

-----------------------------------------------------------------------------------------
-- What is written is read back
-----------------------------------------------------------------------------------------

/-- A text spells a value: a truth value by its name, a whole number of sixty-four bits in decimal, and
a text by itself, unless it is the name of a truth value or a whole number in range.
-/
inductive Spells : String → Datum → Prop
  | bool (b : Bool) : Spells (toString b) (.bool b)
  | int {n : Int} (fits : InRange n) : Spells (toString n) (.int n)
  | text {s : String} (notTrue : s ≠ "true") (notFalse : s ≠ "false")
    (noNumber : ∀ n, Numeral s.toList n → ¬ InRange n)
    : Spells s (.text s)

/-- A value is a whole number exactly if its text is read as one, for the names of the truth values are
not.
-/
theorem parseValue_eq_int_iff : parseValue text = .int n ↔ parseInt? text = some n := by
  have unread (name : String) (b : Bool) (none : parseInt? name.toList = none)
      : Datum.bool b = .int n ↔ parseInt? name.toList = some n := by
    simp only [none, reduceCtorEq]
  unfold parseValue
  split
  · next same =>
    rw [beq_iff_eq.mp same]
    exact unread "true" true (by decide)
  · split
    · next same =>
      rw [beq_iff_eq.mp same]
      exact unread "false" false (by decide)
    · cases parseInt? text <;> simp

/-- What spells a value is read as that value; by cases on the kind of the value. -/
theorem parseValue_spells {text : String} {value : Datum} (spells : Spells text value)
    : parseValue text.toList = value := by
  cases spells with
  | bool b => cases b <;> rfl
  | int fits =>
      exact parseValue_eq_int_iff.mpr (parseInt?_eq_some_iff.mpr ⟨numeral_toString _, fits⟩)
  | text notTrue notFalse noNumber =>
      have other {name : String} (other : text ≠ name) : (text.toList == name.toList) = false := by
        rw [beq_eq_false_iff_ne]
        exact fun same => other (String.toList_injective same)
      have none : parseInt? text.toList = none := by
        rw [Option.eq_none_iff_forall_ne_some]
        intro n found
        obtain ⟨numeral, fits⟩ := parseInt?_eq_some_iff.mp found
        exact noNumber n numeral fits
      rw [parseValue, other notTrue, other notFalse, none, if_neg Bool.false_ne_true,
        if_neg Bool.false_ne_true]
      simp only [String.ofList_toList]

/-- A key is empty exactly if nothing but blanks stands before the first equals sign. -/
theorem keyOf_eq_empty_iff
    : keyOf raw = "" ↔ ∀ c ∈ raw.toList.takeWhile (· != '='), isBlank c = true := by
  rw [keyOf, String.ofList_eq_empty_iff, trim_eq_nil_iff]

/-- Assignments are read as they are written. A key without equals signs that is not blank, with the text
of a value, gives the trimmed key and that very value. A whole number comes of nothing but a numeral in
range behind the first equals sign. And an assignment is refused exactly if what stands before the first
equals sign, or all of it if there is none, is blank.
-/
theorem parse_reads
    : (∀ key text value, '=' ∉ key.toList → trimmed key ≠ "" → Spells text value →
        parse (key ++ "=" ++ text) = .ok ⟨trimmed key, value⟩)
      ∧ (∀ raw name n,
          parse raw = .ok ⟨name, .int n⟩
          ↔ ∃ key text,
            raw = key ++ "=" ++ text
            ∧ '=' ∉ key.toList
            ∧ trimmed key = name
            ∧ name ≠ ""
            ∧ Numeral text.toList n
            ∧ InRange n)
      ∧ ∀ raw,
          (∃ fault, parse raw = .error fault)
          ↔ ∀ c ∈ raw.toList.takeWhile (· != '='), isBlank c = true := by
  refine ⟨fun key text value noSign filled spells => ?_, fun raw name n => ⟨fun read => ?_, ?_⟩,
    fun raw => ?_⟩
  · rw [parse_eq, keyOf_written noSign, if_neg filled, valueOf_written noSign,
      parseValue_spells spells]
  · rw [parse_eq] at read
    split at read
    · cases read
    · next filled =>
      obtain ⟨named, valued⟩ := Assignment.mk.inj (Except.ok.inj read)
      rcases written_of_valueOf raw with isTrue | ⟨key, text, rfl, noSign⟩
      · cases isTrue.symm.trans valued
      · rw [keyOf_written noSign] at named filled
        rw [valueOf_written noSign, parseValue_eq_int_iff, parseInt?_eq_some_iff] at valued
        exact ⟨key, text, rfl, noSign, named, named ▸ filled, valued⟩
  · rintro ⟨key, text, rfl, noSign, rfl, filled, number⟩
    rw [parse_eq, keyOf_written noSign, if_neg filled, valueOf_written noSign,
      parseValue_eq_int_iff.mpr (parseInt?_eq_some_iff.mpr number)]
  · rw [parse_eq, ← keyOf_eq_empty_iff]
    split
    · next empty => exact iff_of_true ⟨_, rfl⟩ empty
    · next filled => exact iff_of_false (fun ⟨_, read⟩ => by cases read) filled

/-- The least whole number of sixty-four bits is read as a number, the one after the greatest as a text. -/
theorem parse_reads_at_bounds
    : parse (" depth " ++ "=" ++ toString (-9223372036854775808 : Int))
        = .ok ⟨"depth", .int (-9223372036854775808)⟩
      ∧ parse ("depth" ++ "=" ++ "9223372036854775808")
        = .ok ⟨"depth", .text "9223372036854775808"⟩ := by
  refine ⟨parse_reads.1 " depth " _ _ (by decide) (by decide) (.int (by decide)),
    parse_reads.1 "depth" _ _ (by decide) (by decide) (.text (by decide) (by decide) ?_)⟩
  intro n numeral fits
  obtain ⟨-, rfl⟩ := numeral_iff.mp numeral
  exact absurd fits (by decide)

end Groundwork.Assignment
