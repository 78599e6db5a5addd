import Lockstep.Proofs.Json.Tokens
import Mathlib.Data.List.DropRight

/-!
Values read back as they are written.

The values that do are made of words, texts and truth values (`Plain`); a number with a fraction is
read as the float nearest to it, and may be written otherwise. What is read of a value does not
depend on the blanks before it, and every style puts nothing but blanks between tokens (`Spaced`),
so the entries of a list or an object are read one after another (`readAll_listed`). A value takes
at least one character, which is why the length of its text bounds how deep its reader goes.
-/
namespace Lockstep.Json

variable {style : Style} {rest blanks : List Char}

/-- A value made of words, texts and truth values. -/
inductive Plain : Json → Prop
  | null : Plain .null
  | bool (value : Bool) : Plain (.bool value)
  | int {value : Int} (least : -(negativeCount : Int) ≤ value) (greatest : value < wordCount) :
    Plain (.int value)
  | str (text : String) : Plain (.str text)
  | arr {items : List Json} (each : ∀ item ∈ items, Plain item) : Plain (.arr items)
  | obj {members : List (String × Json)} (each : ∀ member ∈ members, Plain member.2) :
    Plain (.obj members)

/-! ### Blanks -/

/-- Nothing but blanks. -/
def Blank (text : List Char) : Prop :=
  ∀ c ∈ text, isBlank c = true

/-- A style that puts nothing but blanks between tokens. -/
structure Style.Spaced (style : Style) : Prop where
  newline : ∀ depth, Blank (style.newline depth).toList
  colon : ∃ after, style.colon.toList = ':' :: after ∧ Blank after

theorem Style.spaced_compact : Style.compact.Spaced where
  newline := by simp [Style.compact, Blank]
  colon := ⟨[], by simp [Style.compact], by simp [Blank]⟩

theorem Style.spaced_pretty : Style.pretty.Spaced where
  newline := by
    intro depth c among
    simp only [Style.pretty, String.toList_append, List.mem_append, String.toList_ofList] at among
    rcases among with broken | indented
    · rw [show "\n".toList = ['\n'] from rfl, List.mem_singleton] at broken
      rw [broken]
      rfl
    · rw [List.eq_of_mem_replicate indented]
      rfl
  colon := ⟨[' '], by simp [Style.pretty], by simp [Blank, isBlank]⟩

theorem skipBlanks_append (blank : Blank blanks) :
    skipBlanks (blanks ++ rest) = skipBlanks rest :=
  List.dropWhile_append_of_pos blank

theorem skipBlanks_skipBlanks (text : List Char) : skipBlanks (skipBlanks text) = skipBlanks text :=
  List.dropWhile_idempotent _ _

theorem skipBlanks_cons {c : Char} (token : isBlank c = false) :
    skipBlanks (c :: rest) = c :: rest := by
  rw [skipBlanks, List.dropWhile_cons_of_neg (by rw [token]; decide)]

/-- A reader that passes over blanks does not see the blanks before a text. -/
theorem read_append {β : Type} {read : List Char → β}
    (passes : ∀ text, read (skipBlanks text) = read text) (blank : Blank blanks) :
    read (blanks ++ rest) = read rest := by
  rw [← passes, skipBlanks_append blank, passes]

theorem expect_skipBlanks (c : Char) (text : List Char) :
    expect c (skipBlanks text) = expect c text := by
  rw [expect, expect, skipBlanks_skipBlanks]

theorem readValue_skipBlanks (fuel : Nat) (text : List Char) :
    readValue fuel (skipBlanks text) = readValue fuel text := by
  cases fuel with
  | zero => rw [readValue, readValue]
  | succ fuel => rw [readValue, readValue, skipBlanks_skipBlanks]

theorem readItems_skipBlanks (fuel : Nat) (text : List Char) :
    readItems fuel (skipBlanks text) = readItems fuel text := by
  cases fuel with
  | zero => rw [readItems, readItems]
  | succ fuel => rw [readItems, readItems, readValue_skipBlanks]

theorem readMembers_skipBlanks (fuel : Nat) (text : List Char) :
    readMembers fuel (skipBlanks text) = readMembers fuel text := by
  cases fuel with
  | zero => rw [readMembers, readMembers]
  | succ fuel => rw [readMembers, readMembers, expect_skipBlanks]

theorem expect_cons {c : Char} (token : isBlank c = false) : expect c (c :: rest) = some rest := by
  rw [expect, skipBlanks_cons token]
  exact if_pos rfl

/-! ### What ends a number -/

theorem endsNumber_nil : EndsNumber [] := by
  rintro c ⟨⟩

theorem endsNumber_cons {c : Char} (digit : c.isDigit = false)
    (other : c ≠ '.' ∧ c ≠ 'e' ∧ c ≠ 'E') : EndsNumber (c :: rest) := by
  rintro _ ⟨⟩
  exact ⟨digit, other⟩

theorem endsNumber_comma : EndsNumber (',' :: rest) :=
  endsNumber_cons (by decide) (by decide)

theorem endsNumber_append (blank : Blank blanks) (ends : EndsNumber rest) :
    EndsNumber (blanks ++ rest) := by
  cases blanks with
  | nil => exact ends
  | cons c blanks =>
    have known := blank c List.mem_cons_self
    simp only [isBlank, Bool.or_eq_true, beq_iff_eq] at known
    rcases known with ((rfl | rfl) | rfl) | rfl <;>
      exact endsNumber_cons (by decide) (by decide)

/-! ### Reading on -/

theorem readValue_number {c : Char} (starts : c.isDigit = true ∨ c = '-') (fuel : Nat) :
    readValue (fuel + 1) (c :: rest) = readNumber (c :: rest) := by
  have token : isBlank c = false := by
    by_contra blank
    simp only [isBlank, Bool.not_eq_false, Bool.or_eq_true, beq_iff_eq] at blank
    rcases blank with ((rfl | rfl) | rfl) | rfl <;> revert starts <;> decide
  rw [readValue, skipBlanks_cons token]
  -- Each of the other tokens starts with a character of its own.
  split <;> first
    | rfl
    | rename_i same
      obtain ⟨rfl, _⟩ := List.cons.inj same
      exact absurd starts (by decide)

theorem readItems_bracket (fuel : Nat) : readItems fuel (']' :: rest) = none := by
  cases fuel with
  | zero => rw [readItems]
  | succ fuel =>
    have value : readValue fuel (']' :: rest) = none := by
      cases fuel with
      | zero => rw [readValue]
      | succ fuel =>
        rw [readValue, skipBlanks_cons (by decide)]
        rfl
    rw [readItems, value]
    rfl

theorem readMembers_brace (fuel : Nat) : readMembers fuel ('\x7d' :: rest) = none := by
  cases fuel with
  | zero => rw [readMembers]
  | succ fuel => rw [readMembers, expect, skipBlanks_cons (by decide)]; rfl

/-- A list that has items is not closed before the first of them. -/
theorem readValue_arr {fuel : Nat} {text : List Char} {items : List Json}
    (read : readItems fuel text = some (items, rest)) :
    readValue (fuel + 1) ('[' :: text) = some (.arr items, rest) := by
  rw [← readItems_skipBlanks] at read
  rw [readValue, skipBlanks_cons (by decide)]
  simp only
  split
  · rename_i more closed
    rw [closed, readItems_bracket] at read
    cases read
  · rw [read]
    rfl

/-- An object that has members is not closed before the first of them. -/
theorem readValue_obj {fuel : Nat} {text : List Char} {members : List (Option String × Json)}
    (read : readMembers fuel text = some (members, rest)) :
    readValue (fuel + 1) ('\x7b' :: text) = some (ofMembers members, rest) := by
  rw [← readMembers_skipBlanks] at read
  rw [readValue, skipBlanks_cons (by decide)]
  simp only
  split
  · rename_i more closed
    rw [closed, readMembers_brace] at read
    cases read
  · rw [read]
    rfl

/-! ### Values as they are written -/

/-- The value reads back as the style writes it, from fuel that its text is shorter than. -/
def ReadsBack (style : Style) (json : Json) : Prop :=
  ∀ (depth fuel : Nat) (rest : List Char), EndsNumber rest →
    (renderAt style depth json).toList.length ≤ fuel →
    readValue (fuel + 1) ((renderAt style depth json).toList ++ rest) = some (json, rest)

theorem readsBack_null : ReadsBack style .null := by
  intro depth fuel rest _ _
  rw [renderAt]
  rfl

theorem readsBack_bool (value : Bool) : ReadsBack style (.bool value) := by
  intro depth fuel rest _ _
  rw [renderAt]
  cases value <;> rfl

theorem readsBack_int {value : Int} (least : -(negativeCount : Int) ≤ value)
    (greatest : value < wordCount) : ReadsBack style (.int value) := by
  intro depth fuel rest ends _
  have read := readNumber_int least greatest ends
  obtain ⟨first, more, apart, starts⟩ := toList_int value
  rw [renderAt]
  rw [apart, List.cons_append] at read ⊢
  rw [readValue_number starts, read]

theorem readsBack_str (text : String) : ReadsBack style (.str text) := by
  intro depth fuel rest _ _
  rw [renderAt, toList_strText, List.cons_append, readValue, skipBlanks_cons (by decide),
    List.append_assoc, List.singleton_append]
  simp only [readString_written]
  rfl

/-! ### Entries between brackets -/

/-- Texts with a comma and the start of a line between them. -/
def Style.listed (style : Style) (depth : Nat) (texts : List String) : List Char :=
  (("," ++ style.newline depth).intercalate texts).toList

theorem listed_singleton (depth : Nat) (text : String) :
    style.listed depth [text] = text.toList := by
  simp [Style.listed]

theorem listed_cons_cons (depth : Nat) (text second : String) (texts : List String) :
    style.listed depth (text :: second :: texts) = text.toList ++ ',' ::
      ((style.newline depth).toList ++ style.listed depth (second :: texts)) := by
  simp [Style.listed, String.intercalate_cons_cons]

theorem toList_enclose_nil (depth : Nat) (left right : String) :
    (style.enclose depth left right []).toList = left.toList ++ right.toList := by
  simp [Style.enclose]

theorem toList_enclose_cons (depth : Nat) (left right text : String) (texts : List String) :
    (style.enclose depth left right (text :: texts)).toList =
      left.toList ++ ((style.newline (depth + 1)).toList ++
        (style.listed (depth + 1) (text :: texts) ++
          ((style.newline depth).toList ++ right.toList))) := by
  simp [Style.enclose, Style.listed]

section Entries

variable {β γ : Type} {readAll : Nat → List Char → Option (List γ × List Char)} {close : Char}

/-- What a reader of entries reads first of a text. What follows it decides whether it is the last. -/
def ReadsEntry (readAll : Nat → List Char → Option (List γ × List Char)) (close : Char)
    (text : String) (made : γ) : Prop :=
  ∀ (fuel : Nat) (left rest : List Char) (others : List γ), EndsNumber left →
    text.toList.length ≤ fuel →
    ((skipBlanks left = close :: rest ∧ others = []) ∨
      ∃ more, skipBlanks left = ',' :: more ∧ readAll (fuel + 1) more = some (others, rest)) →
    readAll (fuel + 2) (text.toList ++ left) = some (made :: others, rest)

/-- Entries that are read one by one are read as a list, up to the closing bracket. -/
theorem readAll_listed (spaced : style.Spaced) (token : isBlank close = false)
    (ends : ∀ rest, EndsNumber (close :: rest))
    (passes : ∀ fuel text, readAll fuel (skipBlanks text) = readAll fuel text) (text : β → String)
    (make : β → γ) (depth : Nat) (entry : β) (entries : List β)
    (each : ∀ other ∈ entry :: entries, ReadsEntry readAll close (text other) (make other))
    (blank : Blank blanks) (fuel : Nat)
    (enough : (style.listed depth ((entry :: entries).map text)).length ≤ fuel)
    (rest : List Char) :
    readAll (fuel + 2) (style.listed depth ((entry :: entries).map text) ++
      (blanks ++ close :: rest)) = some ((entry :: entries).map make, rest) := by
  induction entries generalizing entry fuel with
  | nil =>
    rw [List.map_singleton, listed_singleton] at enough ⊢
    have closes : skipBlanks (blanks ++ close :: rest) = close :: rest := by
      rw [skipBlanks_append blank, skipBlanks_cons token]
    exact each entry List.mem_cons_self fuel _ rest [] (endsNumber_append blank (ends rest)) enough
      (.inl ⟨closes, rfl⟩)
  | cons second entries ih =>
    rw [List.map_cons, List.map_cons, listed_cons_cons, ← List.map_cons] at enough ⊢
    simp only [List.length_append, List.length_cons] at enough
    obtain ⟨fuel, rfl⟩ := Nat.exists_eq_add_of_le' (show 1 ≤ fuel by omega)
    have others := ih second (fun other among => each other (List.mem_cons_of_mem _ among)) fuel
      (by omega)
    rw [← read_append (passes (fuel + 2)) (spaced.newline depth)] at others
    rw [List.append_assoc, List.cons_append, List.append_assoc, List.map_cons]
    exact each entry List.mem_cons_self (fuel + 1) _ rest _ endsNumber_comma (by omega)
      (.inr ⟨_, skipBlanks_cons (by decide), others⟩)

end Entries

/-! ### Lists -/

theorem renderItems_eq_map (depth : Nat) (items : List Json) :
    renderItems style depth items = items.map (renderAt style depth) := by
  induction items with
  | nil => rw [renderItems, List.map_nil]
  | cons item items ih => rw [renderItems, ih, List.map_cons]

theorem ReadsBack.item {json : Json} (back : ReadsBack style json) (depth : Nat) :
    ReadsEntry readItems ']' (renderAt style depth json) json := by
  intro fuel left rest others ends enough follows
  have read := back depth fuel left ends enough
  rcases follows with ⟨closes, rfl⟩ | ⟨more, goesOn, readMore⟩
  · simp [readItems, read, closes]
  · rw [readItems, read]
    simp [goesOn, readMore]

theorem readsBack_arr (spaced : style.Spaced) {items : List Json}
    (back : ∀ item ∈ items, ReadsBack style item) : ReadsBack style (.arr items) := by
  intro depth fuel rest _ enough
  rw [renderAt, renderItems_eq_map] at enough ⊢
  cases items with
  | nil =>
    rw [List.map_nil, toList_enclose_nil]
    rfl
  | cons item items =>
    rw [List.map_cons, toList_enclose_cons, ← List.map_cons] at enough ⊢
    have brackets : "[".toList.length = 1 ∧ "]".toList.length = 1 := by decide
    simp only [List.length_append] at enough
    obtain ⟨fuel, rfl⟩ := Nat.exists_eq_add_of_le' (show 2 ≤ fuel by omega)
    have read := readAll_listed spaced (by decide)
      (fun _ => endsNumber_cons (by decide) (by decide)) readItems_skipBlanks
      (renderAt style (depth + 1)) id (depth + 1) item items
      (fun other among => (back other among).item (depth + 1)) (spaced.newline depth) fuel (by omega)
      rest
    rw [List.map_id, ← read_append (readItems_skipBlanks _) (spaced.newline (depth + 1))] at read
    simp only [List.append_assoc]
    exact readValue_arr read

/-! ### Objects -/

/-- A member as it is written. -/
def renderMember (style : Style) (depth : Nat) (member : String × Json) : String :=
  strText member.1 ++ style.colon ++ renderAt style depth member.2

theorem renderMembers_eq_map (depth : Nat) (members : List (String × Json)) :
    renderMembers style depth members = members.map (renderMember style depth) := by
  induction members with
  | nil => rw [renderMembers, List.map_nil]
  | cons member members ih => rw [renderMembers, ih, List.map_cons, renderMember]

theorem toList_renderMember (spaced : style.Spaced) (depth : Nat) (member : String × Json) :
    ∃ after, Blank after ∧ (renderMember style depth member).toList =
      '"' :: (written member.1.toList ++ '"' :: ':' ::
        (after ++ (renderAt style depth member.2).toList)) := by
  obtain ⟨after, colon, blank⟩ := spaced.colon
  exact ⟨after, blank, by simp [renderMember, toList_strText, colon]⟩

theorem ReadsBack.member {member : String × Json} (back : ReadsBack style member.2)
    (spaced : style.Spaced) (depth : Nat) :
    ReadsEntry readMembers '\x7d' (renderMember style depth member) (some member.1, member.2) := by
  intro fuel left rest others ends enough follows
  obtain ⟨after, blank, apart⟩ := toList_renderMember spaced depth member
  rw [apart] at enough ⊢
  simp only [List.length_cons, List.length_append] at enough
  have value : readValue (fuel + 1) (after ++ ((renderAt style depth member.2).toList ++ left)) =
      some (member.2, left) := by
    rw [read_append (readValue_skipBlanks _) blank]
    exact back depth fuel left ends (by omega)
  have colon : expect ':' (':' :: (after ++ ((renderAt style depth member.2).toList ++ left))) =
      some (after ++ ((renderAt style depth member.2).toList ++ left)) := expect_cons (by decide)
  simp only [List.cons_append, List.append_assoc]
  rw [readMembers, expect_cons (by decide)]
  rcases follows with ⟨closes, rfl⟩ | ⟨more, goesOn, readMore⟩
  · simp [readString_written, colon, value, closes]
  · simp [readString_written, colon, value, goesOn, readMore]

/-- What is undone item by item is undone as a list. -/
theorem mapM_map_of_undone {α β : Type} {undo : β → Option α} {change : α → β} {values : List α}
    (undone : ∀ value ∈ values, undo (change value) = some value) :
    (values.map change).mapM undo = some values := by
  induction values with
  | nil => rfl
  | cons value values ih =>
    have first := undone value List.mem_cons_self
    have others := ih fun other among => undone other (List.mem_cons_of_mem _ among)
    simp [first, others]

/-- An object whose names are whole is a value. -/
theorem ofMembers_map (members : List (String × Json)) :
    ofMembers (members.map fun member => (some member.1, member.2)) = .obj members := by
  rw [ofMembers, mapM_map_of_undone]
  exact fun _ _ => rfl

theorem readsBack_obj (spaced : style.Spaced) {members : List (String × Json)}
    (back : ∀ member ∈ members, ReadsBack style member.2) : ReadsBack style (.obj members) := by
  intro depth fuel rest _ enough
  rw [renderAt, renderMembers_eq_map] at enough ⊢
  cases members with
  | nil =>
    rw [List.map_nil, toList_enclose_nil]
    rfl
  | cons member members =>
    rw [List.map_cons, toList_enclose_cons, ← List.map_cons] at enough ⊢
    have braces : "\x7b".toList.length = 1 ∧ "\x7d".toList.length = 1 := by decide
    simp only [List.length_append] at enough
    obtain ⟨fuel, rfl⟩ := Nat.exists_eq_add_of_le' (show 2 ≤ fuel by omega)
    have read := readAll_listed spaced (by decide)
      (fun _ => endsNumber_cons (by decide) (by decide)) readMembers_skipBlanks
      (renderMember style (depth + 1)) (fun each => (some each.1, each.2)) (depth + 1) member members
      (fun other among => (back other among).member spaced (depth + 1))
      (spaced.newline depth) fuel (by omega) rest
    rw [← read_append (readMembers_skipBlanks _) (spaced.newline (depth + 1))] at read
    rw [← ofMembers_map (member :: members)]
    simp only [List.append_assoc]
    exact readValue_obj read

/-! ### Whole texts -/

theorem Plain.readsBack {json : Json} (plain : Plain json) (spaced : style.Spaced) :
    ReadsBack style json := by
  induction plain with
  | null => exact readsBack_null
  | bool value => exact readsBack_bool value
  | int least greatest => exact readsBack_int least greatest
  | str text => exact readsBack_str text
  | arr _ back => exact readsBack_arr spaced back
  | obj _ back => exact readsBack_obj spaced back

/-- The text of a plain value is read as that value, however it is spaced. -/
theorem Plain.parse?_renderAt {json : Json} (plain : Plain json) (spaced : style.Spaced) :
    Json.parse? (renderAt style 0 json) = some json := by
  have read := plain.readsBack spaced 0 _ [] endsNumber_nil (Nat.le_refl _)
  rw [List.append_nil] at read
  simp only [parse?, Option.bind_eq_bind, read, Option.bind_some]
  rfl

end Lockstep.Json
