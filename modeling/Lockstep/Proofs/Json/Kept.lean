import Lockstep.Json.Decode
import Lockstep.Proofs.Json.RoundTrip

/-!
What it takes for a value to be kept by its document.

A value is kept (`Kept`) when it is written plainly and made again of what is written; its text can
then be read in any style (`Kept.parse`). Words, texts and truth values are, lists are when their
items are, and a record is made field by field of the members it was written as.
-/
namespace Lockstep.Json

variable {α β : Type} {encode : α → Json} {decode : Json → Option α}

/-- The value is written plainly and made again of what is written. -/
structure Kept (encode : α → Json) (decode : Json → Option α) (value : α) : Prop where
  plain : (encode value).Plain
  back : decode (encode value) = some value

/-- The text of a kept value is read as that value, in any style. -/
theorem Kept.parse {value : α} (kept : Kept encode decode value) {style : Style}
    (spaced : style.Spaced) :
    (Json.parse? (renderAt style 0 (encode value))).bind decode = some value := by
  rw [kept.plain.parse?_renderAt spaced, Option.bind_some, kept.back]

/-! ### Words, texts and truth values -/

theorem kept_nat {count : Nat} (fits : count < wordCount) : Kept nat nat? count where
  plain := .int (by unfold negativeCount; omega) (by exact_mod_cast fits)
  back := by
    have bound : (count : Int) < wordCount := by exact_mod_cast fits
    simp [nat, nat?, bound]

theorem kept_cell (word : Cell) : Kept cell cell? word := by
  have least : -(negativeCount : Int) ≤ word.toInt := word.le_toInt
  have greatest : word.toInt < negativeCount := word.toInt_lt
  refine ⟨.int least ?_, ?_⟩
  · exact Int.lt_trans greatest (by decide)
  · simp [cell, cell?, least, greatest]

theorem kept_bool (value : Bool) : Kept bool bool? value :=
  ⟨.bool value, rfl⟩

theorem kept_str (text : String) : Kept str str? text :=
  ⟨.str text, rfl⟩

/-! ### Lists and missing values -/

theorem kept_list {values : List α} (each : ∀ value ∈ values, Kept encode decode value) :
    Kept (list encode) (list? decode) values := by
  refine ⟨.arr ?_, ?_⟩
  · intro item among
    obtain ⟨value, present, rfl⟩ := List.mem_map.mp among
    exact (each value present).plain
  · rw [list, list?]
    exact mapM_map_of_undone fun value present => (each value present).back

/-- A value that may be missing, if none is written as null. -/
theorem kept_option {value : Option α} (each : ∀ known ∈ value, Kept encode decode known)
    (shown : ∀ known ∈ value, encode known ≠ .null) :
    Kept (option encode) (option? decode) value := by
  cases value with
  | none => exact ⟨.null, rfl⟩
  | some known =>
    obtain ⟨plain, back⟩ := each known rfl
    refine ⟨plain, ?_⟩
    rw [option, option?, back]
    · rfl
    · exact shown known rfl

/-! ### Objects and variants -/

theorem plain_empty : (obj []).Plain :=
  .obj nofun

theorem plain_member {name : String} {json : Json} {members : List (String × Json)}
    (first : json.Plain) (others : (obj members).Plain) :
    (obj ((name, json) :: members)).Plain := by
  cases others with
  | obj each => exact .obj (List.forall_mem_cons.mpr ⟨first, each⟩)

theorem plain_append {members others : List (String × Json)} (first : (obj members).Plain)
    (second : (obj others).Plain) : (obj (members ++ others)).Plain := by
  cases first with
  | obj each =>
    cases second with
    | obj other => exact .obj (List.forall_mem_append.mpr ⟨each, other⟩)

/-- A variant that carries a kept value is kept if its name tells how it is read. -/
theorem kept_variant {write : β → Json} {read : Json → Option β} {value : α} {made : β}
    {name : String} {make : α → β} (kept : Kept encode decode value)
    (written : write made = obj [(name, encode value)])
    (reads : ∀ content, read (obj [(name, content)]) = carries (some content) decode make)
    (same : made = make value) : Kept write read made := by
  refine ⟨?_, ?_⟩
  · rw [written]
    exact plain_member kept.plain plain_empty
  · rw [written, reads, carries, Option.bind_some, kept.back, same]
    rfl

/-! ### Records -/

section Records

variable {members : List (String × Json)} {name : String} {made : β}

/-- A record is not refused for its form. -/
theorem made_of_form {holds : Prop} [Decidable holds] {next : Unit → Option β} (form : holds)
    (rest : next () = some made) : (guard holds >>= next) = some made := by
  rw [guard, if_pos form]
  exact rest

theorem required_eq {value : α} {position : Nat} (kept : Kept encode decode value)
    (found : member? members name = some (some (encode value))) :
    required (obj members) position name decode = some value := by
  simp [required, field?, found, kept.back]

/-- A record is made of a field that it must have, once the rest of it is. -/
theorem made_of_required {value : α} {position : Nat} {next : α → Option β}
    (kept : Kept encode decode value)
    (found : member? members name = some (some (encode value))) (rest : next value = some made) :
    (required (obj members) position name decode >>= next) = some made := by
  rw [required_eq kept found]
  exact rest

/-- A record is made of a field that has a default, but is there. -/
theorem made_of_withDefault {value default : α} {position : Nat} {next : α → Option β}
    (kept : Kept encode decode value)
    (found : member? members name = some (some (encode value))) (rest : next value = some made) :
    (withDefault (obj members) position name default decode >>= next) = some made := by
  have read : withDefault (obj members) position name default decode = some value := by
    simp [withDefault, field?, found, kept.back]
  rw [read]
  exact rest

/-- A record is made of a field that is left out when there is no value for it. -/
theorem made_of_optional {value : Option α} {position : Nat} {next : Option α → Option β}
    (kept : ∀ known ∈ value, Kept encode decode known)
    (shown : ∀ known ∈ value, encode known ≠ .null)
    (found : member? members name = some (value.map encode)) (rest : next value = some made) :
    (optional (obj members) position name decode >>= next) = some made := by
  have read : optional (obj members) position name decode = some value := by
    cases value with
    | none => simp [optional, field?, found]
    | some known =>
      have back := (kept_option kept shown).back
      rw [option] at back
      simp [optional, field?, found, back]
  rw [read]
  exact rest

end Records

end Lockstep.Json
