import Lockstep.Delivery.Schedule

/-!
What waits in the delivery schedule, and for which tick.

`Schedule.slotsAt` lists the buffers waiting for a tick and `Schedule.slots` all of them. A schedule
that is `Tidy` keeps its buckets in ascending order, none of them empty, and counts what waits.
Scheduling adds one buffer behind those of its tick; draining a tick hands over exactly its buffers
and leaves every other tick alone.
-/
namespace Lockstep.Schedule

variable {waiting : Schedule} {buckets : List (Nat × Array Nat)} {tick slot probe : Nat}

/-- The buffers of the buckets of a tick. -/
def dueIn (buckets : List (Nat × Array Nat)) (tick : Nat) : List Nat :=
  (buckets.filter (·.1 == tick)).flatMap (·.2.toList)

/-- The buffers waiting for a tick, in scheduling order. -/
def slotsAt (waiting : Schedule) (tick : Nat) : List Nat :=
  dueIn waiting.buckets tick

/-- Every waiting buffer. -/
def slots (waiting : Schedule) : List Nat :=
  waiting.buckets.flatMap (·.2.toList)

/-- Buckets ascend strictly and are never empty, what is kept for reuse is, and the count of waiting
buffers is right. -/
structure Tidy (waiting : Schedule) : Prop where
  ascending : waiting.buckets.Pairwise (·.1 < ·.1)
  filled : ∀ bucket ∈ waiting.buckets, bucket.2 ≠ #[]
  spareEmpty : ∀ bucket ∈ waiting.spare, bucket = #[]
  counted : waiting.inFlight = waiting.slots.length

theorem tidy_empty : empty.Tidy := ⟨.nil, by simp [empty], by simp [empty], rfl⟩

theorem mem_slots : slot ∈ waiting.slots ↔ ∃ tick, slot ∈ waiting.slotsAt tick := by
  simp only [slots, slotsAt, dueIn, List.mem_flatMap, List.mem_filter, beq_iff_eq]
  constructor
  · rintro ⟨bucket, member, inside⟩
    exact ⟨bucket.1, bucket, ⟨member, rfl⟩, inside⟩
  · rintro ⟨_, bucket, ⟨member, rfl⟩, inside⟩
    exact ⟨bucket, member, inside⟩

@[simp] theorem dueIn_cons (bucket : Nat × Array Nat) :
    dueIn (bucket :: buckets) tick =
      if bucket.1 = tick then bucket.2.toList ++ dueIn buckets tick else dueIn buckets tick := by
  by_cases same : bucket.1 = tick <;> simp [dueIn, same]

/-- No bucket of a later tick is due. -/
theorem dueIn_eq_nil (later : ∀ bucket ∈ buckets, tick < bucket.1) : dueIn buckets tick = [] := by
  have empty : buckets.filter (·.1 == tick) = [] :=
    List.filter_eq_nil_iff.mpr fun bucket member same =>
      Nat.ne_of_gt (later bucket member) (beq_iff_eq.mp same)
  rw [dueIn, empty, List.flatMap_nil]

/-- Scheduling adds a bucket for the tick at most. -/
theorem tick_of_mem_insert {fresh : Array Nat} {bucket : Nat × Array Nat}
    (member : bucket ∈ (insert tick slot fresh buckets).1) :
    bucket.1 = tick ∨ ∃ old ∈ buckets, old.1 = bucket.1 := by
  induction buckets with
  | nil =>
    simp only [insert, List.mem_singleton] at member
    exact .inl (member ▸ rfl)
  | cons head rest ih =>
    simp only [insert] at member
    split at member
    · rcases List.mem_cons.mp member with rfl | member
      · exact .inl rfl
      · exact .inr ⟨bucket, member, rfl⟩
    · split at member
      · rcases List.mem_cons.mp member with rfl | member
        · exact .inr ⟨head, List.mem_cons_self, rfl⟩
        · exact .inr ⟨bucket, List.mem_cons_of_mem _ member, rfl⟩
      · rcases List.mem_cons.mp member with rfl | member
        · exact .inr ⟨head, List.mem_cons_self, rfl⟩
        · exact (ih member).imp_right fun ⟨old, inside, same⟩ =>
            ⟨old, List.mem_cons_of_mem _ inside, same⟩

theorem insert_ascending {fresh : Array Nat} (ascending : buckets.Pairwise (·.1 < ·.1)) :
    (insert tick slot fresh buckets).1.Pairwise (·.1 < ·.1) := by
  induction buckets with
  | nil => simp [insert]
  | cons head rest ih =>
    obtain ⟨first, later⟩ := List.pairwise_cons.mp ascending
    simp only [insert]
    split
    · rename_i before
      refine List.pairwise_cons.mpr ⟨?_, ascending⟩
      intro bucket member
      rcases List.mem_cons.mp member with rfl | member
      · exact before
      · exact Nat.lt_trans before (first bucket member)
    · split
      · exact List.pairwise_cons.mpr ⟨first, later⟩
      · refine List.pairwise_cons.mpr ⟨?_, ih later⟩
        intro bucket member
        rcases tick_of_mem_insert member with same | ⟨old, inside, same⟩
        · simp only; omega
        · exact same ▸ first old inside

theorem insert_filled {fresh : Array Nat} (filled : ∀ bucket ∈ buckets, bucket.2 ≠ #[]) :
    ∀ bucket ∈ (insert tick slot fresh buckets).1, bucket.2 ≠ #[] := by
  induction buckets with
  | nil => simp [insert]
  | cons head rest ih =>
    obtain ⟨first, later⟩ := List.forall_mem_cons.mp filled
    simp only [insert]
    split
    · exact List.forall_mem_cons.mpr ⟨by simp, filled⟩
    · split
      · exact List.forall_mem_cons.mpr ⟨by simp, later⟩
      · exact List.forall_mem_cons.mpr ⟨first, ih later⟩

/-- A scheduled buffer comes behind those of its tick. -/
theorem insert_dueIn (ascending : buckets.Pairwise (·.1 < ·.1)) :
    dueIn (insert tick slot #[] buckets).1 probe =
      if probe = tick then dueIn buckets probe ++ [slot] else dueIn buckets probe := by
  induction buckets with
  | nil => by_cases same : tick = probe <;> simp [insert, dueIn, same, Ne.symm]
  | cons head rest ih =>
    obtain ⟨first, later⟩ := List.pairwise_cons.mp ascending
    simp only [insert]
    split
    · rename_i before
      have empty : probe = tick → dueIn (head :: rest) probe = [] := by
        rintro rfl
        apply dueIn_eq_nil
        intro bucket member
        rcases List.mem_cons.mp member with rfl | member
        · exact before
        · exact Nat.lt_trans before (first bucket member)
      rw [dueIn_cons]
      by_cases same : probe = tick
      · rw [if_pos same.symm, if_pos same, empty same]
        simp
      · rw [if_neg (Ne.symm same), if_neg same]
    · split
      · rename_i same
        have empty : dueIn rest tick = [] := dueIn_eq_nil (same ▸ first)
        by_cases chosen : probe = tick
        · subst chosen
          simp [dueIn_cons, ← same, empty]
        · have other : head.1 ≠ probe := fun equal => chosen (equal.symm.trans same.symm)
          simp [dueIn_cons, chosen, other]
      · simp only [dueIn_cons, ih later]
        split <;> split <;> simp_all

theorem insert_perm {fresh : Array Nat} (clean : fresh = #[]) (tick slot : Nat)
    (buckets : List (Nat × Array Nat)) :
    ((insert tick slot fresh buckets).1.flatMap (·.2.toList)).Perm
      (slot :: buckets.flatMap (·.2.toList)) := by
  induction buckets with
  | nil => simp [insert, clean]
  | cons head rest ih =>
    simp only [insert]
    split
    · simp [clean]
    · split
      · simp only [List.flatMap_cons, Array.toList_push]
        exact ((List.perm_append_singleton slot _).append_right _)
      · simp only [List.flatMap_cons]
        exact (ih.append_left _).trans List.perm_middle

/-- Scheduling a buffer keeps the schedule tidy and puts it behind the others of its tick. -/
theorem Tidy.schedule (tidy : waiting.Tidy) (tick slot : Nat) :
    (waiting.schedule tick slot).Tidy ∧
      (∀ probe, (waiting.schedule tick slot).slotsAt probe =
        if probe = tick then waiting.slotsAt probe ++ [slot] else waiting.slotsAt probe) ∧
      (waiting.schedule tick slot).slots.Perm (slot :: waiting.slots) := by
  have clean : waiting.spare.headD #[] = #[] := by
    cases spare : waiting.spare with
    | nil => rfl
    | cons bucket rest => exact tidy.spareEmpty bucket (spare ▸ List.mem_cons_self)
  have listed := insert_perm clean tick slot waiting.buckets
  refine ⟨⟨insert_ascending tidy.ascending, insert_filled tidy.filled, ?_, ?_⟩, ?_, listed⟩
  · intro bucket member
    simp only [Schedule.schedule] at member
    split at member
    · exact tidy.spareEmpty bucket (List.mem_of_mem_tail member)
    · exact tidy.spareEmpty bucket member
  · exact (congrArg (· + 1) tidy.counted).trans listed.length_eq.symm
  · intro probe
    simp only [Schedule.schedule, slotsAt, clean]
    exact insert_dueIn tidy.ascending

/-- What a search for the bucket of a tick finds. -/
theorem find?_dueIn (ascending : buckets.Pairwise (·.1 < ·.1)) (tick : Nat) :
    dueIn buckets tick =
      ((buckets.find? (·.1 == tick)).map fun bucket => bucket.2.toList).getD [] := by
  induction buckets with
  | nil => rfl
  | cons head rest ih =>
    obtain ⟨first, later⟩ := List.pairwise_cons.mp ascending
    by_cases same : head.1 = tick
    · simp [dueIn_eq_nil (same ▸ first), same]
    · simp [same, ih later]

theorem dueIn_filter :
    dueIn (buckets.filter (·.1 != tick)) probe =
      if probe = tick then [] else dueIn buckets probe := by
  induction buckets with
  | nil => simp [dueIn]
  | cons head rest ih =>
    by_cases same : head.1 = tick
    · by_cases chosen : probe = tick
      · subst chosen
        simpa [same] using ih
      · simp [ih, same, chosen, Ne.symm chosen]
    · by_cases chosen : probe = tick
      · subst chosen
        simp [ih, same]
      · simp [ih, same, chosen]

theorem dueIn_perm (buckets : List (Nat × Array Nat)) (tick : Nat) :
    (buckets.flatMap (·.2.toList)).Perm
      (dueIn buckets tick ++ (buckets.filter (·.1 != tick)).flatMap (·.2.toList)) := by
  induction buckets with
  | nil => simp [dueIn]
  | cons head rest ih =>
    by_cases same : head.1 = tick
    · simpa [same] using ih.append_left _
    · simp only [dueIn_cons, same, List.flatMap_cons, bne_iff_ne, ne_eq, not_false_eq_true,
        List.filter_cons_of_pos, if_false]
      refine (ih.append_left head.2.toList).trans ?_
      rw [← List.append_assoc, ← List.append_assoc]
      exact List.perm_append_comm.append_right _

/-- Draining a tick hands over its buffers and leaves those of every other tick. -/
theorem Tidy.drain (tidy : waiting.Tidy) (tick : Nat) :
    ∃ after, waiting.drain tick = .ok (waiting.slotsAt tick, after) ∧ after.Tidy ∧
      (∀ probe, after.slotsAt probe = if probe = tick then [] else waiting.slotsAt probe) ∧
      waiting.slots.Perm (waiting.slotsAt tick ++ after.slots) := by
  have due := find?_dueIn tidy.ascending tick
  have split := dueIn_perm waiting.buckets tick
  cases found : waiting.buckets.find? (·.1 == tick) with
  | none =>
    rw [found] at due
    refine ⟨waiting, by simpa [Schedule.drain, found, slotsAt] using due.symm, tidy, ?_, ?_⟩
    · intro probe
      split
      · rename_i same
        exact same ▸ due
      · rfl
    · rw [slotsAt, due]
      exact List.Perm.refl _
  | some bucket =>
    rw [found] at due
    simp only [Option.map_some, Option.getD_some] at due
    have counted := split.length_eq
    have total := tidy.counted
    simp only [due, List.length_append, Array.length_toList] at counted
    simp only [slots] at total
    refine ⟨⟨waiting.buckets.filter (·.1 != tick), bucket.2.shrink 0 :: waiting.spare,
      waiting.inFlight - bucket.2.size⟩, ?_, ⟨?_, ?_, ?_, ?_⟩, fun probe => dueIn_filter, split⟩
    · have enough : bucket.2.size ≤ waiting.inFlight := by omega
      simp [Schedule.drain, found, Breach.checkedSub, enough, slotsAt, due, bind, Except.bind,
        pure, Except.pure]
    · exact tidy.ascending.sublist List.filter_sublist
    · exact fun kept member => tidy.filled kept (List.mem_filter.mp member).1
    · exact List.forall_mem_cons.mpr ⟨by simp, tidy.spareEmpty⟩
    · simp only [slots]
      omega

/-- Clearing hands over every buffer, and nothing waits any more. -/
theorem Tidy.clear (tidy : waiting.Tidy) :
    waiting.clear.1 = waiting.slots ∧ waiting.clear.2.Tidy ∧ waiting.clear.2.slots = [] := by
  refine ⟨rfl, ⟨.nil, by simp [Schedule.clear], ?_, rfl⟩, rfl⟩
  have kept : ∀ (buckets : List (Nat × Array Nat)) (spare : List (Array Nat)),
      (∀ bucket ∈ spare, bucket = #[]) →
      ∀ bucket ∈ buckets.foldl (fun spare bucket => bucket.2.shrink 0 :: spare) spare,
        bucket = #[] := by
    intro buckets
    induction buckets with
    | nil => exact fun _ clean => clean
    | cons head rest ih =>
      intro spare clean
      exact ih _ (List.forall_mem_cons.mpr ⟨by simp, clean⟩)
  exact kept waiting.buckets waiting.spare tidy.spareEmpty

end Lockstep.Schedule
