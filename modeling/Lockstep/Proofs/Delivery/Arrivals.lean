import Lockstep.Delivery.Pool

/-!
The order in which a node takes its messages, and when.

`inOrder` sorts messages by the tick they arrive in and keeps the order of those that arrive
together. Messages that arrive later are added behind (`inOrder_succ`), which is how a queue grows.
A node consumes one message in a tick, the first as soon as it has arrived: `consumptions` are the
ticks this happens in.
-/
namespace Lockstep

/-! ### Sorting by a number -/

section Sorting

variable {α : Type} {items other : List α}

theorem sorted_of_mergeSort (key : α → Nat) (items : List α) :
    (items.mergeSort fun first second => key first ≤ key second).Pairwise
      (key · ≤ key ·) := by
  have sorted : (items.mergeSort fun first second => key first ≤ key second).Pairwise
      fun first second => decide (key first ≤ key second) = true :=
    List.pairwise_mergeSort
      (fun a b c first second => by simp only [decide_eq_true_eq] at *; omega)
      (fun a b => by simp only [Bool.or_eq_true, decide_eq_true_eq]; omega) items
  exact sorted.imp of_decide_eq_true

/-- The items of one number stay in order. -/
theorem filter_mergeSort (key : α → Nat) (items : List α) (value : Nat) :
    (items.mergeSort fun first second => key first ≤ key second).filter (key · == value) =
      items.filter (key · == value) := by
  have same : (items.filter (key · == value)).Pairwise
      fun first second => decide (key first ≤ key second) = true := by
    apply List.pairwise_of_forall_mem_list
    intro first firstIn second secondIn
    have one := (List.mem_filter.mp firstIn).2
    have two := (List.mem_filter.mp secondIn).2
    simp only [beq_iff_eq, decide_eq_true_eq] at one two ⊢
    omega
  have kept := List.sublist_mergeSort
    (fun a b c first second => by simp only [decide_eq_true_eq] at *; omega)
    (fun a b => by simp only [Bool.or_eq_true, decide_eq_true_eq]; omega) same
    List.filter_sublist
  have listed := kept.filter (key · == value)
  simp only [List.filter_filter, Bool.and_self] at listed
  exact (listed.eq_of_length ((List.mergeSort_perm items _).filter _).length_eq.symm).symm

/-- Two sorted lists are the same if they have the same items for every number, in the same
order. -/
theorem eq_of_sorted (key : α → Nat) (sorted : items.Pairwise (key · ≤ key ·))
    (otherSorted : other.Pairwise (key · ≤ key ·))
    (same : ∀ value, items.filter (key · == value) = other.filter (key · == value)) :
    items = other := by
  have members : ∀ item, item ∈ items ↔ item ∈ other := by
    intro item
    have here := congrArg (item ∈ ·) (same (key item))
    simpa [List.mem_filter] using here
  induction items generalizing other with
  | nil =>
    refine (List.eq_nil_iff_forall_not_mem.mpr fun item member => ?_).symm
    cases (members item).mpr member
  | cons first rest ih =>
    cases other with
    | nil => cases (members first).mp List.mem_cons_self
    | cons head tail =>
      obtain ⟨least, sorted⟩ := List.pairwise_cons.mp sorted
      obtain ⟨otherLeast, tailSorted⟩ := List.pairwise_cons.mp otherSorted
      -- both heads have the least number of all, so the same one
      have together : key first = key head := by
        refine Nat.le_antisymm ?_ ?_
        · rcases List.mem_cons.mp ((members head).mpr List.mem_cons_self) with rfl | inside
          · exact Nat.le_refl _
          · exact least head inside
        · rcases List.mem_cons.mp ((members first).mp List.mem_cons_self) with rfl | inside
          · exact Nat.le_refl _
          · exact otherLeast first inside
      have heads := same (key first)
      simp only [List.filter_cons, beq_self_eq_true, if_true, ← together, List.cons.injEq] at heads
      obtain ⟨rfl, -⟩ := heads
      have rests : ∀ value, rest.filter (key · == value) = tail.filter (key · == value) := by
        intro value
        have whole := same value
        simp only [List.filter_cons] at whole
        split at whole
        · exact (List.cons.inj whole).2
        · exact whole
      refine congrArg (first :: ·) (ih sorted tailSorted rests fun item => ?_)
      have here := congrArg (item ∈ ·) (rests (key item))
      simpa [List.mem_filter] using here

end Sorting

/-! ### Messages in the order of their arrival -/

variable {messages : List Message} {arrivals later : List Nat} {tick earliest : Nat}

/-- Messages by the tick they arrive in, those of one tick in the order they come in. -/
def inOrder (messages : List Message) : List Message :=
  messages.mergeSort fun first second => first.arrival ≤ second.arrival

theorem inOrder_perm (messages : List Message) : (inOrder messages).Perm messages :=
  List.mergeSort_perm ..

theorem inOrder_sorted (messages : List Message) :
    (inOrder messages).Pairwise (·.arrival ≤ ·.arrival) :=
  sorted_of_mergeSort Message.arrival messages

/-- The messages of one tick stay in order. -/
theorem filter_inOrder (messages : List Message) (tick : Nat) :
    (inOrder messages).filter (·.arrival == tick) = messages.filter (·.arrival == tick) :=
  filter_mergeSort Message.arrival messages tick

/-- Messages that arrive later come behind. -/
theorem inOrder_split (messages : List Message) (tick : Nat) :
    inOrder messages = inOrder (messages.filter (·.arrival ≤ tick)) ++
      inOrder (messages.filter (tick < ·.arrival)) := by
  refine eq_of_sorted Message.arrival (inOrder_sorted _) ?_ fun probe => ?_
  · refine List.pairwise_append.mpr ⟨inOrder_sorted _, inOrder_sorted _, ?_⟩
    intro early earlyIn late lateIn
    have first := (List.mem_filter.mp ((inOrder_perm _).mem_iff.mp earlyIn)).2
    have second := (List.mem_filter.mp ((inOrder_perm _).mem_iff.mp lateIn)).2
    simp only [decide_eq_true_eq] at first second
    omega
  · rw [List.filter_append, filter_inOrder, filter_inOrder, filter_inOrder, List.filter_filter,
      List.filter_filter]
    by_cases reached : probe ≤ tick
    · have empty : messages.filter (fun message => message.arrival == probe &&
          decide (tick < message.arrival)) = [] := by
        apply List.filter_eq_nil_iff.mpr
        intro message _
        simp only [Bool.and_eq_true, beq_iff_eq, decide_eq_true_eq]
        omega
      rw [empty, List.append_nil]
      apply List.filter_congr
      intro message _
      by_cases here : message.arrival = probe
      · simp [here, reached]
      · simp [here]
    · have empty : messages.filter (fun message => message.arrival == probe &&
          decide (message.arrival ≤ tick)) = [] := by
        apply List.filter_eq_nil_iff.mpr
        intro message _
        simp only [Bool.and_eq_true, beq_iff_eq, decide_eq_true_eq]
        omega
      rw [empty, List.nil_append]
      apply List.filter_congr
      intro message _
      by_cases here : message.arrival = probe
      · simp [here, Nat.lt_of_not_le reached]
      · simp [here]

/-- The messages of the next tick come behind those that have arrived. -/
theorem inOrder_succ (messages : List Message) (tick : Nat) :
    inOrder (messages.filter (·.arrival ≤ tick + 1)) =
      inOrder (messages.filter (·.arrival ≤ tick)) ++
        messages.filter (·.arrival == tick + 1) := by
  rw [inOrder_split _ tick, List.filter_filter, List.filter_filter]
  have early : messages.filter (fun message => decide (message.arrival ≤ tick) &&
      decide (message.arrival ≤ tick + 1)) = messages.filter (·.arrival ≤ tick) := by
    apply List.filter_congr
    intro message _
    by_cases here : message.arrival ≤ tick
    · simp [here, Nat.le_succ_of_le here]
    · simp [here]
  have late : messages.filter (fun message => decide (tick < message.arrival) &&
      decide (message.arrival ≤ tick + 1)) = messages.filter (·.arrival == tick + 1) := by
    apply List.filter_congr
    intro message _
    rw [Bool.eq_iff_iff]
    simp only [Bool.and_eq_true, decide_eq_true_eq, beq_iff_eq]
    omega
  rw [early, late]
  refine congrArg (_ ++ ·) (eq_of_sorted Message.arrival (inOrder_sorted _) ?_ (filter_inOrder _))
  apply List.pairwise_of_forall_mem_list
  intro first firstIn second secondIn
  have one := (List.mem_filter.mp firstIn).2
  have two := (List.mem_filter.mp secondIn).2
  simp only [beq_iff_eq] at one two
  omega

/-! ### When messages are consumed -/

/-- The ticks in which messages with these arrivals are consumed, in order: each as soon as it has
arrived and the one before is done with, none before `earliest`. -/
def consumptions (earliest : Nat) : List Nat → List Nat
  | [] => []
  | arrival :: rest =>
    max arrival earliest :: consumptions (max arrival earliest + 1) rest

/-- The first tick after the consumption of all of them. -/
def freeAfter (earliest : Nat) (arrivals : List Nat) : Nat :=
  arrivals.foldl (fun earliest arrival => max arrival earliest + 1) earliest

theorem consumptions_append :
    consumptions earliest (arrivals ++ later) =
      consumptions earliest arrivals ++ consumptions (freeAfter earliest arrivals) later := by
  induction arrivals generalizing earliest with
  | nil => rfl
  | cons arrival rest ih => exact congrArg (_ :: ·) ih

theorem length_consumptions : (consumptions earliest arrivals).length = arrivals.length := by
  induction arrivals generalizing earliest with
  | nil => rfl
  | cons arrival rest ih => exact congrArg (· + 1) ih

theorem freeAfter_append_singleton (arrival : Nat) :
    freeAfter earliest (arrivals ++ [arrival]) =
      max arrival (freeAfter earliest arrivals) + 1 := by
  rw [freeAfter, List.foldl_append]
  rfl

theorem le_freeAfter (earliest : Nat) (arrivals : List Nat) :
    earliest ≤ freeAfter earliest arrivals := by
  induction arrivals generalizing earliest with
  | nil => exact Nat.le_refl _
  | cons arrival rest ih => exact Nat.le_trans (by omega) (ih (max arrival earliest + 1))

theorem lt_freeAfter (member : tick ∈ consumptions earliest arrivals) :
    tick < freeAfter earliest arrivals := by
  induction arrivals generalizing earliest with
  | nil => cases member
  | cons arrival rest ih =>
    rcases List.mem_cons.mp member with rfl | later
    · exact le_freeAfter (max arrival earliest + 1) rest
    · exact ih later

theorem earliest_le (member : tick ∈ consumptions earliest arrivals) : earliest ≤ tick := by
  induction arrivals generalizing earliest with
  | nil => cases member
  | cons arrival rest ih =>
    rcases List.mem_cons.mp member with rfl | later
    · exact Nat.le_max_right _ _
    · have := ih later
      omega

/-- Nothing is consumed before it arrives. -/
theorem not_mem_consumptions (late : ∀ arrival ∈ arrivals, tick < arrival) :
    tick ∉ consumptions earliest arrivals := by
  induction arrivals generalizing earliest with
  | nil => exact List.not_mem_nil
  | cons arrival rest ih =>
    obtain ⟨here, later⟩ := List.forall_mem_cons.mp late
    intro member
    cases List.mem_cons.mp member with
    | inl same => omega
    | inr inside => exact ih later inside

end Lockstep
