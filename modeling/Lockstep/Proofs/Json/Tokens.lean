import Lockstep.Json.Printer
import Lockstep.Json.Reader

/-!
Strings and integers read back as they are written.

Every character of a string is written as one that the reader takes for itself or as an escape for it
(`readChars_charText`), and an integer as its decimal digits, the first of which is zero for zero
alone (`readNumber_int`). A number ends where something other than a digit, a point or an exponent
follows (`EndsNumber`).
-/
namespace Lockstep.Json

variable {rest : List Char}

/-! ### Strings -/

theorem readUnit_append {text : List Char} {unit : Nat} (read : readUnit text = some (unit, []))
    (rest : List Char) :
    readUnit (text ++ rest) = some (unit, rest) := by
  match text with
  | [a, b, c, d] =>
    simp only [readUnit, Option.pure_def, Option.bind_eq_bind, Option.bind_eq_some_iff,
      Option.some.injEq, Prod.mk.injEq, and_true] at read
    obtain ⟨first, known, second, known', third, known'', fourth, known''', same⟩ := read
    simp only [List.cons_append, List.nil_append, readUnit, known, known', known'', known''', same,
      Option.pure_def, Option.bind_eq_bind, Option.bind_some]
  | [] | [_] | [_, _] | [_, _, _] => cases read
  | _ :: _ :: _ :: _ :: _ :: _ =>
    simp [readUnit, Option.bind_eq_some_iff] at read

/-- The digits that a control character is written with name it. -/
theorem readUnit_control : ∀ number < 0x20,
    readUnit (List.replicate (4 - (Nat.toDigits 16 number).length) '0' ++ Nat.toDigits 16 number) =
      some (number, []) := by
  decide

theorem readEscape_control {c : Char} (control : c.toNat < 0x20) (rest : List Char) :
    ∃ escape, (controlText c).toList = '\\' :: escape ∧
      readEscape (escape ++ rest) = some (some c, rest) := by
  refine ⟨'u' :: (List.replicate (4 - (Nat.toDigits 16 c.toNat).length) '0' ++
    Nat.toDigits 16 c.toNat), ?_, ?_⟩
  · simp [controlText]
  · have named := readUnit_append (readUnit_control c.toNat control) rest
    rw [List.append_assoc] at named
    have trailing : isTrailing c.toNat = false := by
      rw [isTrailing, Bool.and_eq_false_iff]
      exact .inl (decide_eq_false (by omega))
    have leading : isLeading c.toNat = false := by
      rw [isLeading, Bool.and_eq_false_iff]
      exact .inl (decide_eq_false (by omega))
    simp [readEscape, readEscapedUnit, named, trailing, leading]

/-- A character reads back as it is written. -/
theorem readChars_charText (fuel : Nat) (read : List Char) (c : Char) :
    readChars (fuel + 1) (some read) ((charText c).toList ++ rest) =
      readChars fuel (some (c :: read)) rest := by
  unfold charText
  split
  · rfl
  · rfl
  · rfl
  · rfl
  · rfl
  · rfl
  · rfl
  · rename_i quote slash _ _ _ _ _
    split
    · rename_i control
      obtain ⟨escape, written, escaped⟩ := readEscape_control control rest
      rw [written, List.cons_append, readChars]
      simp only [escaped]
      rfl
    · rename_i printed
      have written : c.toString.toList ++ rest = c :: rest := by simp
      rw [written, readChars, if_neg printed]
      · rfl
      · exact quote
      · exact slash

theorem charText_ne_nil (c : Char) : (charText c).toList ≠ [] := by
  unfold charText
  split
  all_goals try decide
  split <;> simp [controlText]

/-- The characters of a string as they are written. -/
def written (chars : List Char) : List Char :=
  chars.flatMap fun c => (charText c).toList

theorem toList_strText (text : String) :
    (strText text).toList = '"' :: (written text.toList ++ ['"']) := by
  simp [strText, written, String.toList_join, List.flatMap_map]

/-- No character is written as nothing, so the length of what is written is fuel enough. -/
theorem length_le_written (chars : List Char) : chars.length ≤ (written chars).length := by
  induction chars with
  | nil => exact Nat.zero_le _
  | cons c chars ih =>
    have printed := List.length_pos_iff.mpr (charText_ne_nil c)
    simp only [written, List.flatMap_cons, List.length_append, List.length_cons] at ih ⊢
    omega

theorem readChars_written (chars read : List Char) {fuel : Nat} (enough : chars.length < fuel) :
    readChars fuel (some read) (written chars ++ '"' :: rest) =
      some (some (String.ofList (read.reverse ++ chars)), rest) := by
  induction chars generalizing read fuel with
  | nil =>
    obtain ⟨fuel, rfl⟩ := Nat.exists_eq_add_one_of_ne_zero (Nat.ne_of_gt enough)
    simp [written, readChars]
  | cons c chars ih =>
    obtain ⟨fuel, rfl⟩ := Nat.exists_eq_add_one_of_ne_zero (Nat.ne_zero_of_lt enough)
    have left : chars.length < fuel := by simpa using enough
    have apart : written (c :: chars) = (charText c).toList ++ written chars :=
      List.flatMap_cons
    rw [apart, List.append_assoc, readChars_charText, ih (c :: read) left]
    simp

/-- A string reads back as it is written, up to its closing quote. -/
theorem readString_written (text : String) :
    readString (written text.toList ++ '"' :: rest) = some (some text, rest) := by
  have enough : text.toList.length < (written text.toList ++ '"' :: rest).length + 1 := by
    have fits := length_le_written text.toList
    rw [List.length_append]
    omega
  rw [readString, readChars_written text.toList [] enough]
  simp

/-! ### Integers -/

/-- Nothing that a number could go on with comes first. -/
def EndsNumber (rest : List Char) : Prop :=
  ∀ c ∈ rest.head?, c.isDigit = false ∧ c ≠ '.' ∧ c ≠ 'e' ∧ c ≠ 'E'

theorem takeWhile_isDigit (ends : EndsNumber rest) : rest.takeWhile Char.isDigit = [] := by
  cases rest with
  | nil => rfl
  | cons c rest => simp [(ends c rfl).1]

theorem dropWhile_isDigit (ends : EndsNumber rest) : rest.dropWhile Char.isDigit = rest := by
  cases rest with
  | nil => rfl
  | cons c rest => simp [(ends c rfl).1]

theorem toDigits_eq_cons (number : Nat) :
    ∃ first more, Nat.toDigits 10 number = first :: more ∧ first.isDigit = true := by
  obtain ⟨first, more, apart⟩ :=
    List.exists_cons_of_ne_nil (Nat.toDigits_ne_nil (n := number) (b := 10))
  have among : first ∈ Nat.toDigits 10 number := by
    rw [apart]
    exact List.mem_cons_self
  exact ⟨first, more, apart, Nat.isDigit_of_mem_toDigits (by omega) (by omega) among⟩

theorem readDigits_toDigits (number : Nat) (ends : EndsNumber rest) :
    readDigits (Nat.toDigits 10 number ++ rest) = (NumberToken.digitsOf number, rest) := by
  have digits : ∀ c ∈ Nat.toDigits 10 number, c.isDigit = true := fun c among =>
    Nat.isDigit_of_mem_toDigits (by omega) (by omega) among
  rw [readDigits, List.takeWhile_append_of_pos digits, List.dropWhile_append_of_pos digits,
    takeWhile_isDigit ends, dropWhile_isDigit ends, List.append_nil, NumberToken.digitsOf]

/-- The digits of a number other than zero do not start with zero. -/
theorem digitsOf_eq_cons {number : Nat} (positive : 0 < number) :
    ∃ first rest, NumberToken.digitsOf number = first :: rest ∧ first ≠ 0 := by
  induction number using Nat.strongRecOn with
  | ind number ih =>
    by_cases small : number < 10
    · refine ⟨number, [], ?_, by omega⟩
      rw [NumberToken.digitsOf, Nat.toDigits_of_lt_base small]
      have named : ∀ digit < 10, digit.digitChar.toNat - '0'.toNat = digit := by decide
      rw [List.map_singleton, named number small]
    · obtain ⟨first, rest, digits, nonzero⟩ :=
        ih (number / 10) (Nat.div_lt_self positive (by omega)) (by omega)
      refine ⟨first, rest ++ [(number % 10).digitChar.toNat - '0'.toNat], ?_, nonzero⟩
      rw [NumberToken.digitsOf] at digits ⊢
      rw [Nat.toDigits_eq_if (by omega), if_neg small, List.map_append, digits]
      rfl

theorem numberOf_digitsOf (number : Nat) : numberOf (NumberToken.digitsOf number) = number := by
  have named : Nat.ofDigitChars 10 (Nat.toDigits 10 number) 0 = number :=
    Nat.ofDigitChars_ten_toDigits
  rw [Nat.ofDigitChars_eq_foldl] at named
  rw [numberOf, NumberToken.digitsOf, List.foldl_map]
  simpa only [Nat.mul_comm] using named

theorem readWhole_toDigits (number : Nat) (ends : EndsNumber rest) :
    readWhole (Nat.toDigits 10 number ++ rest) = some (NumberToken.digitsOf number, rest) := by
  rw [readWhole, readDigits_toDigits number ends]
  by_cases zero : number = 0
  · subst zero
    rfl
  · obtain ⟨first, more, digits, nonzero⟩ := digitsOf_eq_cons (Nat.pos_of_ne_zero zero)
    rw [digits]
    cases first with
    | zero => exact absurd rfl nonzero
    | succ => rfl

theorem readFraction_of_ends (ends : EndsNumber rest) : readFraction rest = some (none, rest) := by
  cases rest with
  | nil => rfl
  | cons c rest =>
    rw [readFraction]
    rintro more ⟨⟩
    exact (ends '.' rfl).2.1 rfl

theorem readExponent_of_ends (ends : EndsNumber rest) : readExponent rest = some (none, rest) := by
  cases rest with
  | nil => rfl
  | cons c rest =>
    rw [readExponent]
    · rintro more ⟨⟩
      exact (ends 'e' rfl).2.2.1 rfl
    · rintro more ⟨⟩
      exact (ends 'E' rfl).2.2.2 rfl

theorem readUnsigned_toDigits (negative : Bool) (number : Nat) (ends : EndsNumber rest) :
    readUnsigned negative (Nat.toDigits 10 number ++ rest) =
      some (ofToken ⟨negative, NumberToken.digitsOf number, none, none⟩, rest) := by
  simp [readUnsigned, readWhole_toDigits number ends, readFraction_of_ends ends,
    readExponent_of_ends ends]

theorem toList_natCast (number : Nat) :
    (toString (number : Int)).toList = Nat.toDigits 10 number := by
  simp [toString, Int.repr]

theorem toList_negSucc (number : Nat) :
    (toString (Int.negSucc number)).toList = '-' :: Nat.toDigits 10 (number + 1) := by
  simp [toString, Int.repr]

/-- An integer starts with a digit or with its sign. -/
theorem toList_int (value : Int) :
    ∃ first more, (toString value).toList = first :: more ∧
      (first.isDigit = true ∨ first = '-') := by
  cases value with
  | ofNat number =>
    obtain ⟨first, more, apart, digit⟩ := toDigits_eq_cons number
    exact ⟨first, more, (toList_natCast number).trans apart, .inl digit⟩
  | negSucc number => exact ⟨'-', _, toList_negSucc number, .inr rfl⟩

theorem readNumber_toDigits (number : Nat) :
    readNumber (Nat.toDigits 10 number ++ rest) =
      readUnsigned false (Nat.toDigits 10 number ++ rest) := by
  obtain ⟨first, more, apart, digit⟩ := toDigits_eq_cons number
  rw [apart, List.cons_append, readNumber]
  rintro others ⟨⟩
  exact absurd digit (by decide)

/-- An integer that is a word, signed or unsigned, reads back as it is written. -/
theorem readNumber_int {value : Int} (least : -(negativeCount : Int) ≤ value)
    (greatest : value < wordCount) (ends : EndsNumber rest) :
    readNumber ((toString value).toList ++ rest) = some (.int value, rest) := by
  cases value with
  | ofNat number =>
    have fits : ¬wordCount ≤ number := by
      have bound : (number : Int) < wordCount := greatest
      omega
    rw [Int.ofNat_eq_natCast, toList_natCast, readNumber_toDigits,
      readUnsigned_toDigits false number ends]
    simp [ofToken, numberOf_digitsOf, fits]
  | negSucc number =>
    have fits : ¬(number + 1 = 0 ∨ negativeCount < number + 1) := by
      have bound : -(negativeCount : Int) ≤ Int.negSucc number := least
      omega
    have value : ofToken ⟨true, NumberToken.digitsOf (number + 1), none, none⟩ =
        .int (Int.negSucc number) := by
      rw [ofToken, numberOf_digitsOf]
      exact if_neg fits
    rw [toList_negSucc, List.cons_append, readNumber, readUnsigned_toDigits true (number + 1) ends,
      value]

end Lockstep.Json
