import Lockstep.Proofs.Random.Window
import Mathlib.Algebra.Order.Floor.Div
import Mathlib.Data.FinEnum
import Mathlib.Order.Interval.Finset.Nat

/-!
Seeded numbers are fair.

`Seeded.offer` is the rule by which one word of the keystream makes a number of a window, told in
words that wrap; `Seeded.Draws` reads words until one is accepted, for as long as that takes. A draw
that ends is what `Seeded.uniform` answers, and every number of the window is made from equally many
words (`Seeded.draws_fair`).
-/
namespace Lockstep

namespace Seeded

/-! ### Words to come -/

/-- The word of the keystream that is read after as many others. -/
def wordAhead (generator : Seeded) (others : Nat) : UInt64 :=
  generator.key.word (generator.position + others)

/-- The generator after some words have been read. -/
def skip (generator : Seeded) (count : Nat) : Seeded :=
  { generator with position := generator.position + count }

theorem wordAhead_next (generator : Seeded) (others : Nat) :
    generator.nextWord.2.wordAhead others = generator.wordAhead (others + 1) :=
  congrArg generator.key.word (Nat.add_right_comm _ _ _)

theorem skip_next (generator : Seeded) (count : Nat) :
    generator.nextWord.2.skip count = generator.skip (count + 1) :=
  congrArg (Seeded.mk generator.seed generator.key) (Nat.add_right_comm _ _ _)

/-- The keystream repeats after its period. -/
theorem wordAhead_period (generator : Seeded) (others : Nat) :
    generator.wordAhead (others + period) = generator.wordAhead others := by
  have counter : UInt64.ofNat ((generator.position + (others + period)) / 8) =
      UInt64.ofNat ((generator.position + others) / 8) := by
    apply UInt64.toNat_inj.mp
    rw [UInt64.toNat_ofNat', UInt64.toNat_ofNat', period, wordCount]
    omega
  have place : (generator.position + (others + period)) % 8 =
      (generator.position + others) % 8 := by
    rw [period]
    omega
  unfold wordAhead StreamKey.word
  simp only [counter, place]

/-! ### The rule for one word -/

/-- How many zeros a word has in front. -/
def leadingZeros (word : UInt64) : UInt64 :=
  ⟨word.toBitVec.clz⟩

/-- The number of a window that a word makes, if the word is accepted. The range of the full window
wraps to zero: there every word is a number. Otherwise the word times the range are two words. The
lower one has to be at most `zone`; the higher one tells how far into the window the number is. -/
def offer (min max word : UInt64) : Option UInt64 :=
  let range := max - min + 1
  if range = 0 then some word
  else
    let zone := (range <<< leadingZeros range) - 1
    let low := word * range
    let high := UInt64.ofNat (word.toNat * range.toNat / wordCount)
    if low ≤ zone then some (min + high) else none

/-- Words are read until one is accepted. -/
inductive Draws (min max : UInt64) : Seeded → UInt64 → Seeded → Prop where
  | accepted {generator : Seeded} {value : UInt64}
      (made : offer min max generator.nextWord.1 = some value) :
      Draws min max generator value generator.nextWord.2
  | refused {generator rest : Seeded} {value : UInt64}
      (passed : offer min max generator.nextWord.1 = none)
      (later : Draws min max generator.nextWord.2 value rest) : Draws min max generator value rest

/-- How many numbers a window holds. -/
def width (min max : UInt64) : Nat :=
  max.toNat - min.toNat + 1

variable {min max : UInt64}

theorem toNat_leadingZeros {range : UInt64} (nonzero : range ≠ 0) :
    (leadingZeros range).toNat = 63 - Nat.log2 range.toNat := by
  have nonzero' : range.toBitVec ≠ 0#64 := fun zero => nonzero (UInt64.toBitVec_inj.mp zero)
  have positive : range.toNat ≠ 0 := fun zero => nonzero (UInt64.toNat_inj.mp zero)
  have lower : 2 ^ (64 - 1 - range.toBitVec.clz.toNat) ≤ range.toNat :=
    BitVec.two_pow_sub_clz_le_toNat_of_ne_zero (by omega) nonzero'
  have upper : range.toNat < 2 ^ (64 - range.toBitVec.clz.toNat) :=
    BitVec.toNat_lt_two_pow_sub_clz
  have few : range.toBitVec.clz.toNat < 64 := BitVec.clz_lt_iff_ne_zero.mpr nonzero'
  have log : Nat.log2 range.toNat = 63 - range.toBitVec.clz.toNat := by
    apply (Nat.log2_eq_iff positive).mpr
    refine ⟨lower, ?_⟩
    rwa [show 63 - range.toBitVec.clz.toNat + 1 = 64 - range.toBitVec.clz.toNat by omega]
  change range.toBitVec.clz.toNat = _
  omega

/-- How many words make each of the numbers below `range`. -/
def share (range : Nat) : Nat :=
  2 ^ (63 - Nat.log2 range)

theorem share_pos (range : Nat) : 0 < share range :=
  Nat.two_pow_pos _

theorem zone_eq (range : Nat) : zone range = range * share range :=
  Nat.shiftLeft_eq _ _

theorem zone_lt {range : Nat} (inside : range < wordCount) : zone range < wordCount := by
  by_cases zero : range = 0
  · subst zero
    decide
  · have log : Nat.log2 range < 64 := (Nat.log2_lt zero).mpr inside
    calc zone range = range * share range := zone_eq range
      _ < 2 ^ (Nat.log2 range + 1) * 2 ^ (63 - Nat.log2 range) :=
        Nat.mul_lt_mul_of_pos_right Nat.lt_log2_self (Nat.two_pow_pos _)
      _ = wordCount := by
        rw [← Nat.pow_add, show Nat.log2 range + 1 + (63 - Nat.log2 range) = 64 by omega]
        rfl

theorem zone_full : zone wordCount = wordCount := by
  decide

theorem zone_le {range : Nat} (inside : range ≤ wordCount) : zone range ≤ wordCount := by
  rcases Nat.lt_or_eq_of_le inside with less | rfl
  · exact Nat.le_of_lt (zone_lt less)
  · exact Nat.le_of_eq zone_full

theorem zone_pos {range : Nat} (positive : 0 < range) : 0 < zone range := by
  rw [zone_eq]
  exact Nat.mul_pos positive (share_pos range)

theorem toNat_zone {range : UInt64} (nonzero : range ≠ 0) :
    (range <<< leadingZeros range).toNat = zone range.toNat := by
  have amount : (leadingZeros range).toNat % 64 = 63 - Nat.log2 range.toNat := by
    rw [toNat_leadingZeros nonzero]
    omega
  rw [UInt64.toNat_shiftLeft, amount]
  exact Nat.mod_eq_of_lt (zone_lt range.toNat_lt)

theorem width_pos (min max : UInt64) : 0 < width min max :=
  Nat.succ_pos _

theorem width_le (min max : UInt64) : width min max ≤ wordCount := by
  have bound : max.toNat < wordCount := max.toNat_lt
  rw [width]
  omega

theorem toNat_range (ordered : min < max) :
    (max - min + 1).toNat = width min max % wordCount := by
  have less : min.toNat < max.toNat := UInt64.lt_iff_toNat_lt.mp ordered
  rw [UInt64.toNat_add, UInt64.toNat_sub_of_le _ _ (UInt64.le_of_lt ordered)]
  rfl

theorem accepts_iff {range : Nat} {word : UInt64} :
    accepts range word = true ↔ word.toNat * range % wordCount < zone range :=
  decide_eq_true_iff

/-- The lower word of the product is compared with the zone, which is not zero and no more than a
word. -/
theorem low_le_iff {range : UInt64} (nonzero : range ≠ 0) (word : UInt64) :
    word * range ≤ (range <<< leadingZeros range) - 1 ↔ accepts range.toNat word = true := by
  have positive : 0 < zone range.toNat := by
    apply zone_pos
    exact Nat.pos_of_ne_zero fun zero => nonzero (UInt64.toNat_inj.mp zero)
  have one : (1 : UInt64) ≤ range <<< leadingZeros range := by
    rw [UInt64.le_iff_toNat_le, toNat_zone nonzero]
    exact positive
  rw [UInt64.le_iff_toNat_le, UInt64.toNat_sub_of_le _ _ one, toNat_zone nonzero,
    UInt64.toNat_mul, accepts_iff]
  exact Nat.le_sub_one_iff_lt positive

/-- The rule for words does what the keystream is read for. -/
theorem offer_eq (ordered : min < max) (word : UInt64) :
    offer min max word =
      if accepts (width min max) word then
        some (min + UInt64.ofNat (scale (width min max) word))
      else none := by
  have range := toNat_range ordered
  unfold offer
  rcases Nat.lt_or_eq_of_le (width_le min max) with several | full
  · -- The range is a word, and the product with it is the one that the model takes.
    rw [Nat.mod_eq_of_lt several] at range
    have nonzero : max - min + 1 ≠ 0 := fun zero => by
      rw [zero, width] at range
      cases range
    dsimp only
    rw [if_neg nonzero]
    simp only [low_le_iff nonzero, range]
    rfl
  · -- The range wraps. With the exact range every word is accepted and makes itself.
    have zero : max - min + 1 = 0 := by
      apply UInt64.toNat_inj.mp
      rw [range, full]
      decide
    have least : min = 0 := by
      have less : min.toNat < max.toNat := UInt64.lt_iff_toNat_lt.mp ordered
      have bound : max.toNat < wordCount := max.toNat_lt
      apply UInt64.toNat_inj.mp
      rw [width] at full
      rw [UInt64.toNat_zero]
      omega
    have accepted : accepts (width min max) word = true := by
      rw [accepts_iff, full, zone_full, Nat.mul_mod_left]
      decide
    have itself : scale wordCount word = word.toNat := Nat.mul_div_cancel _ (by decide)
    dsimp only
    rw [if_pos zero, if_pos accepted, full, itself, UInt64.ofNat_toNat, least, UInt64.zero_add]

/-- What a word makes, counted from the start of the window. -/
theorem offer_eq_some_iff (ordered : min < max) {word value : UInt64} :
    offer min max word = some value ↔
      accepts (width min max) word = true ∧
        value.toNat = min.toNat + scale (width min max) word := by
  have less : min.toNat < max.toNat := UInt64.lt_iff_toNat_lt.mp ordered
  have inside : scale (width min max) word < width min max := scale_lt (width_pos min max) word
  have bound : max.toNat < 2 ^ 64 := max.toNat_lt
  have fits : min.toNat + scale (width min max) word < 2 ^ 64 := by
    rw [width] at inside ⊢
    omega
  have made : (min + UInt64.ofNat (scale (width min max) word)).toNat =
      min.toNat + scale (width min max) word := by
    have small : scale (width min max) word < 2 ^ 64 :=
      Nat.lt_of_le_of_lt (Nat.le_add_left _ _) fits
    rw [UInt64.toNat_add, UInt64.toNat_ofNat_of_lt' small]
    exact Nat.mod_eq_of_lt fits
  rw [offer_eq ordered, Option.ite_none_right_eq_some, Option.some.injEq, ← UInt64.toNat_inj, made,
    eq_comm (a := value.toNat)]

theorem offer_eq_none_iff (ordered : min < max) {word : UInt64} :
    offer min max word = none ↔ accepts (width min max) word = false := by
  rw [offer_eq ordered, ite_eq_right_iff, Bool.eq_false_iff]
  simp

/-- What a word makes lies in the window. -/
theorem offer_within (ordered : min < max) {word value : UInt64}
    (made : offer min max word = some value) : min ≤ value ∧ value ≤ max := by
  have less : min.toNat < max.toNat := UInt64.lt_iff_toNat_lt.mp ordered
  have told := ((offer_eq_some_iff ordered).mp made).2
  have inside : scale (width min max) word < width min max := scale_lt (width_pos min max) word
  rw [width] at told inside
  rw [UInt64.le_iff_toNat_le, UInt64.le_iff_toNat_le]
  omega

/-! ### Draws that end -/

/-- A draw ends with the first word that is accepted. -/
theorem Draws.reads {generator rest : Seeded} {value : UInt64}
    (draws : Draws min max generator value rest) :
    ∃ passed, offer min max (generator.wordAhead passed) = some value ∧
      (∀ earlier < passed, offer min max (generator.wordAhead earlier) = none) ∧
      rest = generator.skip (passed + 1) := by
  induction draws with
  | accepted made => exact ⟨0, made, fun _ less => absurd less (Nat.not_lt_zero _), rfl⟩
  | @refused generator rest value first _ ih =>
    obtain ⟨passed, made, refused, rfl⟩ := ih
    refine ⟨passed + 1, ?_, ?_, skip_next generator _⟩
    · rwa [wordAhead_next] at made
    · intro earlier less
      cases earlier with
      | zero => exact first
      | succ earlier =>
        rw [← wordAhead_next]
        exact refused earlier (Nat.lt_of_succ_lt_succ less)

/-- A draw ends if some word to come is accepted. -/
theorem exists_draws_iff {generator : Seeded} :
    (∃ value rest, Draws min max generator value rest) ↔
      ∃ others value, offer min max (generator.wordAhead others) = some value := by
  constructor
  · rintro ⟨value, rest, draws⟩
    obtain ⟨passed, made, -⟩ := draws.reads
    exact ⟨passed, value, made⟩
  · rintro ⟨others, value, made⟩
    induction others generalizing generator with
    | zero => exact ⟨value, _, .accepted made⟩
    | succ others ih =>
      cases first : offer min max generator.nextWord.1 with
      | some own => exact ⟨own, _, .accepted first⟩
      | none =>
        rw [← wordAhead_next] at made
        obtain ⟨value, rest, later⟩ := ih made
        exact ⟨value, rest, .refused first later⟩

/-- No draw that ends passes over a whole period of words. -/
theorem lt_period {generator : Seeded} {passed : Nat} {value : UInt64}
    (made : offer min max (generator.wordAhead passed) = some value)
    (refused : ∀ earlier < passed, offer min max (generator.wordAhead earlier) = none) :
    passed < period := by
  apply Nat.lt_of_not_le
  intro late
  obtain ⟨earlier, rfl⟩ := Nat.exists_eq_add_of_le' late
  have before : earlier < earlier + period := Nat.lt_add_of_pos_right (by decide)
  rw [wordAhead_period, refused earlier before] at made
  cases made

/-- A search finds the first accepted word if it may read that far. -/
theorem search_eq {range passed attempts : Nat} (generator : Seeded) (enough : passed < attempts)
    (accepted : accepts range (generator.wordAhead passed) = true)
    (refused : ∀ earlier < passed, accepts range (generator.wordAhead earlier) = false) :
    search range attempts generator =
      (some (scale range (generator.wordAhead passed)), generator.skip (passed + 1)) := by
  induction passed generalizing generator attempts with
  | zero =>
    obtain ⟨attempts, rfl⟩ := Nat.exists_eq_add_one_of_ne_zero enough.ne'
    exact if_pos accepted
  | succ passed ih =>
    obtain ⟨attempts, rfl⟩ := Nat.exists_eq_add_one_of_ne_zero (Nat.ne_zero_of_lt enough)
    have first : accepts range generator.nextWord.1 = false := refused 0 (Nat.succ_pos _)
    rw [← wordAhead_next] at accepted ⊢
    have later := ih generator.nextWord.2 (Nat.lt_of_succ_lt_succ enough) accepted
      fun earlier less => by
        rw [wordAhead_next]
        exact refused _ (Nat.succ_lt_succ less)
    rw [skip_next] at later
    exact (if_neg (Bool.eq_false_iff.mp first)).trans later

/-- A draw that ends is what the generator answers. -/
theorem Draws.uniform_eq {generator rest : Seeded} {value : UInt64}
    (draws : Draws min max generator value rest) (ordered : min < max) :
    uniform generator min.toNat max.toNat = (value.toNat, rest) := by
  have less : min.toNat < max.toNat := UInt64.lt_iff_toNat_lt.mp ordered
  obtain ⟨passed, made, refused, rfl⟩ := draws.reads
  obtain ⟨accepted, told⟩ := (offer_eq_some_iff ordered).mp made
  have found := search_eq generator (lt_period made refused) accepted fun earlier before =>
    (offer_eq_none_iff ordered).mp (refused earlier before)
  rw [width] at found told
  rw [uniform, if_neg (Nat.not_le_of_lt less), found, told]
  rfl

/-! ### How many words make a number -/

/-- A stretch of `count` times the range holds the products of `count` words one after another. -/
theorem stretch_iff {range start count word : Nat} (positive : 0 < range) :
    (start ≤ word * range ∧ word * range < start + range * count) ↔
      (start ⌈/⌉ range ≤ word ∧ word < start ⌈/⌉ range + count) := by
  rw [ceilDiv_le_iff_le_mul positive, Nat.mul_comm word range]
  refine and_congr_right fun _ => ?_
  rw [← Nat.not_le, ← Nat.not_le, not_iff_not]
  by_cases reached : count ≤ word
  · obtain ⟨more, rfl⟩ := Nat.exists_eq_add_of_le' reached
    rw [Nat.add_le_add_iff_right, ceilDiv_le_iff_le_mul positive, Nat.mul_add,
      Nat.add_le_add_iff_right]
  · have short : range * word < range * count :=
      Nat.mul_lt_mul_of_pos_left (Nat.lt_of_not_le reached) positive
    omega

/-- The first of the words that make an offset. -/
def firstWord (range offset : Nat) : Nat :=
  (offset * wordCount) ⌈/⌉ range

/-- The words that make an offset come one after another. Their products fall into a stretch that is
as long as the zone. -/
theorem makes_iff {range offset : Nat} (positive : 0 < range) (inside : range ≤ wordCount)
    (word : UInt64) :
    accepts range word = true ∧ scale range word = offset ↔
      firstWord range offset ≤ word.toNat ∧
        word.toNat < firstWord range offset + share range := by
  have short := zone_le inside
  have parts := Nat.div_add_mod' (word.toNat * range) wordCount
  have below : word.toNat * range % wordCount < wordCount := Nat.mod_lt _ (by decide)
  rw [firstWord, ← stretch_iff positive, ← zone_eq, accepts_iff, scale]
  constructor
  · rintro ⟨accepted, rfl⟩
    omega
  · rintro ⟨first, last⟩
    have same : word.toNat * range / wordCount = offset := by
      apply Nat.div_eq_of_lt_le first
      rw [Nat.succ_mul]
      omega
    rw [same] at parts
    exact ⟨by omega, same⟩

/-- The words of every offset are words. -/
theorem firstWord_add_le {range offset : Nat} (inside : range ≤ wordCount)
    (offsetLt : offset < range) : firstWord range offset + share range ≤ wordCount := by
  have positive : 0 < range := Nat.zero_lt_of_lt offsetLt
  have nonempty := share_pos range
  have last : (firstWord range offset + share range - 1) * range <
      offset * wordCount + range * share range := by
    refine ((stretch_iff positive).mpr ?_).2
    rw [← firstWord]
    omega
  have product : (firstWord range offset + share range - 1) * range < wordCount * range := by
    calc _ < offset * wordCount + zone range := by rwa [zone_eq]
      _ ≤ offset * wordCount + wordCount := Nat.add_le_add_left (zone_le inside) _
      _ = (offset + 1) * wordCount := (Nat.succ_mul _ _).symm
      _ ≤ range * wordCount := Nat.mul_le_mul_right _ offsetLt
      _ = wordCount * range := Nat.mul_comm _ _
  have word := Nat.lt_of_mul_lt_mul_right product
  omega

/-- Every number of a window is made from equally many words. -/
theorem card_offer (ordered : min < max) {value : UInt64} (above : min ≤ value)
    (below : value ≤ max) :
    (Finset.univ.filter fun word => offer min max word = some value).card =
      share (width min max) := by
  have least : min.toNat ≤ value.toNat := UInt64.le_iff_toNat_le.mp above
  have most : value.toNat ≤ max.toNat := UInt64.le_iff_toNat_le.mp below
  obtain ⟨offset, told⟩ := Nat.exists_eq_add_of_le least
  have offsetLt : offset < width min max := by
    rw [width]
    omega
  have few := firstWord_add_le (width_le min max) offsetLt
  have fits : ∀ number < firstWord (width min max) offset + share (width min max),
      (UInt64.ofNat number).toNat = number := fun number less =>
    UInt64.toNat_ofNat_of_lt' (Nat.lt_of_lt_of_le less few)
  have makes : ∀ word : UInt64, offer min max word = some value ↔
      word.toNat ∈ Finset.Ico (firstWord (width min max) offset)
        (firstWord (width min max) offset + share (width min max)) := by
    intro word
    rw [offer_eq_some_iff ordered, told, Nat.add_right_inj, eq_comm (a := offset), Finset.mem_Ico,
      makes_iff (width_pos min max) (width_le min max)]
  calc _ = (Finset.Ico (firstWord (width min max) offset)
          (firstWord (width min max) offset + share (width min max))).card := by
        apply Finset.card_nbij' UInt64.toNat UInt64.ofNat
        · intro word member
          simpa [makes] using member
        · intro number member
          have known := fits number (Finset.mem_Ico.mp member).2
          simpa [makes, known] using member
        · intro word _
          exact UInt64.ofNat_toNat
        · intro number member
          exact fits number (Finset.mem_Ico.mp member).2
    _ = share (width min max) := by rw [Nat.card_Ico, Nat.add_sub_cancel_left]

/-- A window without a choice answers its least number, and nothing is read. In any other window a
draw ends if some word to come is accepted. What it ends with is what the generator answers, a
number of the window; and every number of the window, also of the full one, is made from the same
number of words. -/
theorem draws_fair (generator : Seeded) (min max : UInt64) :
    (max ≤ min → uniform generator min.toNat max.toNat = (min.toNat, generator)) ∧
    (min < max →
      ((∃ value rest, Draws min max generator value rest) ↔
        ∃ others value, offer min max (generator.wordAhead others) = some value) ∧
      (∀ value rest, Draws min max generator value rest →
        uniform generator min.toNat max.toNat = (value.toNat, rest) ∧
          min ≤ value ∧ value ≤ max) ∧
      ∃ share, 0 < share ∧ ∀ value, min ≤ value → value ≤ max →
        (Finset.univ.filter fun word => offer min max word = some value).card = share) := by
  refine ⟨fun narrow => ?_, fun ordered => ⟨exists_draws_iff, fun value rest draws => ?_, ?_⟩⟩
  · exact if_pos (UInt64.le_iff_toNat_le.mp narrow)
  · obtain ⟨passed, made, -⟩ := draws.reads
    exact ⟨draws.uniform_eq ordered, offer_within ordered made⟩
  · exact ⟨_, share_pos _, fun value above below => card_offer ordered above below⟩

/-- The first word of this keystream is passed over, the second is accepted. -/
theorem draws_fair_second :
    (1 : UInt64) < 9223372036854775809 ∧
      (uniform (new 4) 1 9223372036854775809).1 = 643956048788510553 := by
  have ordered : (1 : UInt64) < 9223372036854775809 := by decide
  have draws : Draws 1 9223372036854775809 (new 4) 643956048788510553
      (new 4).nextWord.2.nextWord.2 :=
    .refused (by decide +kernel) (.accepted (by decide +kernel))
  obtain ⟨-, fair⟩ := draws_fair (new 4) 1 9223372036854775809
  obtain ⟨-, answers, -⟩ := fair ordered
  exact ⟨ordered, congrArg Prod.fst (answers _ _ draws).1⟩

end Seeded

end Lockstep
