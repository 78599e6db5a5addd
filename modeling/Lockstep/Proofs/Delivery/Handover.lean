import Lockstep.Proofs.Delivery.Arrivals
import Lockstep.Proofs.Delivery.Waiting
import Mathlib.Data.List.Dedup
import Mathlib.Data.List.Induction

/-!
The delivery schedule as a queue for each tick, whatever is done with it and in whatever order.

`Action.outstanding` is the plain account of a schedule: the slots scheduled and not handed over
since, in scheduling order. `handed_over_in_order` says that a schedule hands over just these, those
of one tick when it is drained and all of them, by tick, when it is cleared, and that its counts are
those of the account. The proof keeps one relation (`Tells`) through every action.
-/
namespace Lockstep.Schedule

/-- What is done with a schedule. Ticks may come in any order, also again. -/
inductive Action where
  | schedule (tick slot : Nat)
  | drain (tick : Nat)
  | clear
  deriving DecidableEq

namespace Action

/-- What an action hands over, and the schedule it leaves. -/
def perform (waiting : Schedule) : Action → Except Breach (List Nat × Schedule)
  | .schedule tick slot => .ok ([], waiting.schedule tick slot)
  | .drain tick => waiting.drain tick
  | .clear => .ok waiting.clear

/-- The schedule that actions leave of an empty one. -/
def history (actions : List Action) : Except Breach Schedule :=
  actions.foldlM (fun waiting action => do return (← action.perform waiting).2) .empty

/-- The action hands over all that waits for a tick. -/
def empties (tick : Nat) : Action → Bool
  | .schedule _ _ => false
  | .drain due => due == tick
  | .clear => true

/-- The slots scheduled and not handed over since, each with its tick, in scheduling order. -/
def outstanding : List Action → List (Nat × Nat)
  | [] => []
  | .schedule tick slot :: later =>
    if later.any (·.empties tick) then outstanding later else (tick, slot) :: outstanding later
  | .drain _ :: later | .clear :: later => outstanding later

/-- The last action takes away what it hands over and adds what it schedules. -/
theorem outstanding_append_singleton (actions : List Action) (action : Action) :
    outstanding (actions ++ [action]) =
      (outstanding actions).filter (fun entry => !action.empties entry.1) ++
        outstanding [action] := by
  induction actions with
  | nil => rfl
  | cons first later ih =>
    cases first with
    | schedule tick slot =>
      simp only [List.cons_append, outstanding, List.any_append, List.any_cons, List.any_nil,
        Bool.or_false, ih]
      cases emptied : later.any (·.empties tick) with
      | true => simp
      | false => cases now : action.empties tick <;> simp [now]
    | drain tick => exact ih
    | clear => exact ih

end Action

open Schedule.Action

variable {waiting after : Schedule} {log : List (Nat × Nat)} {actions : List Action}
  {action : Action}

/-! ### A schedule and its account -/

/-- A tidy schedule holds the slots of an account, for each tick in the same order. -/
structure Tells (waiting : Schedule) (log : List (Nat × Nat)) : Prop where
  tidy : waiting.Tidy
  slotsAt : ∀ tick, waiting.slotsAt tick = (log.filter (·.1 == tick)).map (·.2)

theorem Tells.schedule (tells : waiting.Tells log) (tick slot : Nat) :
    (waiting.schedule tick slot).Tells (log ++ [(tick, slot)]) := by
  obtain ⟨tidy, queued, -⟩ := tells.tidy.schedule tick slot
  refine ⟨tidy, fun probe => ?_⟩
  rw [queued, tells.slotsAt, List.filter_append, List.map_append]
  by_cases here : probe = tick
  · subst here
    simp
  · simp [here, Ne.symm here]

theorem Tells.drain (tells : waiting.Tells log) (tick : Nat) :
    ∃ after, waiting.drain tick = .ok ((log.filter (·.1 == tick)).map (·.2), after) ∧
      after.Tells (log.filter (·.1 != tick)) := by
  obtain ⟨after, drained, tidy, left, -⟩ := tells.tidy.drain tick
  refine ⟨after, tells.slotsAt tick ▸ drained, tidy, fun probe => ?_⟩
  rw [left, List.filter_filter]
  split
  · rename_i same
    subst same
    simp
  · rename_i other
    rw [tells.slotsAt]
    congr 2
    funext entry
    by_cases here : entry.1 = probe <;> simp [here, other]

theorem Tells.clear (tells : waiting.Tells log) : waiting.clear.2.Tells [] := by
  obtain ⟨-, tidy, -⟩ := tells.tidy.clear
  exact ⟨tidy, fun tick => rfl⟩

/-- Whatever is done, the schedule holds what is outstanding. -/
theorem exists_history (actions : List Action) :
    ∃ waiting, history actions = .ok waiting ∧ waiting.Tells (outstanding actions) := by
  induction actions using List.reverseRecOn with
  | nil => exact ⟨.empty, rfl, tidy_empty, fun _ => rfl⟩
  | append_singleton actions action ih =>
    obtain ⟨waiting, reached, tells⟩ := ih
    have goesOn : ∀ {handed after}, action.perform waiting = .ok (handed, after) →
        history (actions ++ [action]) = .ok after := by
      intro handed after performed
      rw [history] at reached ⊢
      rw [List.foldlM_append, reached]
      simp [performed, bind, Except.bind, pure, Except.pure]
    rw [outstanding_append_singleton]
    cases action with
    | schedule tick slot =>
      exact ⟨_, goesOn rfl, by simpa [empties, outstanding] using tells.schedule tick slot⟩
    | drain tick =>
      obtain ⟨after, drained, left⟩ := tells.drain tick
      refine ⟨after, goesOn drained, ?_⟩
      simpa only [empties, outstanding, List.append_nil, bne, BEq.comm] using left
    | clear =>
      refine ⟨waiting.clear.2, goesOn rfl, ?_⟩
      simpa only [empties, outstanding, List.append_nil, Bool.not_true, List.filter_false] using
        tells.clear

/-! ### All that is waiting -/

/-- Every waiting slot with its tick, by tick and then in scheduling order. -/
def entries (waiting : Schedule) : List (Nat × Nat) :=
  waiting.buckets.flatMap fun bucket => bucket.2.toList.map (bucket.1, ·)

theorem slots_eq (waiting : Schedule) : waiting.slots = waiting.entries.map (·.2) := by
  simp [slots, entries, List.map_flatMap, Function.comp_def]

theorem Tidy.entries_sorted (tidy : waiting.Tidy) :
    waiting.entries.Pairwise (·.1 ≤ ·.1) := by
  refine List.pairwise_flatMap.mpr ⟨fun bucket _ => ?_, tidy.ascending.imp ?_⟩
  · exact List.pairwise_map.mpr (List.pairwise_of_forall fun _ _ => Nat.le_refl _)
  · intro early late before entry first other second
    obtain ⟨_, -, rfl⟩ := List.mem_map.mp first
    obtain ⟨_, -, rfl⟩ := List.mem_map.mp second
    exact Nat.le_of_lt before

theorem filter_entries (waiting : Schedule) (tick : Nat) :
    waiting.entries.filter (·.1 == tick) = (waiting.slotsAt tick).map (tick, ·) := by
  unfold entries slotsAt
  induction waiting.buckets with
  | nil => rfl
  | cons bucket later ih =>
    rw [List.flatMap_cons, List.filter_append, ih, dueIn_cons]
    by_cases here : bucket.1 = tick
    · simp [here, List.filter_map, Function.comp_def]
    · simp [here, List.filter_map, Function.comp_def]

theorem Tells.entries_eq (tells : waiting.Tells log) :
    waiting.entries = log.mergeSort fun first second => first.1 ≤ second.1 := by
  refine eq_of_sorted Prod.fst tells.tidy.entries_sorted (sorted_of_mergeSort Prod.fst log) ?_
  intro tick
  rw [filter_mergeSort Prod.fst, filter_entries, tells.slotsAt, List.map_map]
  refine (List.map_congr_left fun entry member => ?_).trans (List.map_id _)
  have same : entry.1 = tick := beq_iff_eq.mp (List.mem_filter.mp member).2
  exact same ▸ rfl

/-- The ticks with waiting slots are those with buckets, since no bucket is empty. -/
theorem Tidy.mem_ticks (tidy : waiting.Tidy) {tick : Nat} :
    tick ∈ waiting.entries.map (·.1) ↔ tick ∈ waiting.buckets.map (·.1) := by
  simp only [entries, List.mem_map, List.mem_flatMap]
  constructor
  · rintro ⟨_, ⟨bucket, member, slot, -, rfl⟩, rfl⟩
    exact ⟨bucket, member, rfl⟩
  · rintro ⟨bucket, member, rfl⟩
    have filled : bucket.2.toList ≠ [] := fun empty =>
      tidy.filled bucket member (Array.toList_eq_nil_iff.mp empty)
    obtain ⟨slot, inside⟩ := List.exists_mem_of_ne_nil _ filled
    exact ⟨(bucket.1, slot), ⟨bucket, member, slot, inside, rfl⟩, rfl⟩

theorem Tells.pendingTicks (tells : waiting.Tells log) :
    waiting.pendingTicks = (log.map (·.1)).dedup.length := by
  have distinct : (waiting.buckets.map (·.1)).Nodup :=
    List.pairwise_map.mpr (tells.tidy.ascending.imp Nat.ne_of_lt)
  have members : ∀ tick, tick ∈ waiting.buckets.map (·.1) ↔ tick ∈ (log.map (·.1)).dedup := by
    intro tick
    rw [List.mem_dedup, ← ((List.mergeSort_perm log _).map (·.1)).mem_iff, ← tells.entries_eq,
      tells.tidy.mem_ticks]
  have same := ((List.perm_ext_iff_of_nodup distinct (List.nodup_dedup _)).mpr members).length_eq
  rwa [List.length_map] at same

/-! ### The law -/

/-- What a schedule hands over and counts after actions, told by their account. -/
structure Accounts (actions : List Action) (waiting : Schedule) : Prop where
  drained : ∀ tick, ∃ after, waiting.drain tick =
    .ok (((outstanding actions).filter (·.1 == tick)).map (·.2), after)
  cleared : waiting.clear.1 =
    ((outstanding actions).mergeSort fun first second => first.1 ≤ second.1).map (·.2)
  inFlight : waiting.inFlight = (outstanding actions).length
  pendingTicks : waiting.pendingTicks = ((outstanding actions).map (·.1)).dedup.length
  filled : ∀ bucket ∈ waiting.buckets, bucket.2 ≠ #[]
  spareEmpty : ∀ bucket ∈ waiting.spare, bucket = #[]

/-- A schedule is a queue for each tick. Whatever has been done with it, draining a tick hands over
the slots scheduled for it since that was last done, clearing hands over all that are left, by tick,
and both keep the scheduling order. -/
theorem handed_over_in_order (actions : List Action) :
    ∃ waiting, history actions = .ok waiting ∧ Accounts actions waiting := by
  obtain ⟨waiting, reached, tells⟩ := exists_history actions
  have tidy := tells.tidy
  refine ⟨waiting, reached, fun tick => ?drained, ?cleared, ?inFlight, tells.pendingTicks,
    tidy.filled, tidy.spareEmpty⟩
  case drained =>
    obtain ⟨after, drained, -⟩ := tells.drain tick
    exact ⟨after, drained⟩
  case cleared => rw [tidy.clear.1, slots_eq, tells.entries_eq]
  case inFlight =>
    rw [tidy.counted, slots_eq, tells.entries_eq, List.length_map, List.length_mergeSort]

end Lockstep.Schedule
