import Lockstep.Delivery.Pool

/-!
Who holds which buffer of the message pool.

`Pool.Holds` says that the buffers of a list are the ones in use, each of them once, and that all
others created so far are free. Every operation of the pool is described by what it does to such a
list and to the messages in it: handing out a buffer adds one, taking it back removes it, and no
operation touches a message it was not asked about (`Pool.Keeps`).
-/
namespace Lockstep

/-- Work in two parts that comes to a result has done so in each. -/
theorem bind_eq_ok {ε α β : Type} {work : Except ε α} {next : α → Except ε β} {result : β}
    (ran : work >>= next = .ok result) : ∃ middle, work = .ok middle ∧ next middle = .ok result := by
  cases work with
  | error failure => cases ran
  | ok middle => exact ⟨middle, rfl, ran⟩

namespace Pool

variable {pool after later : Pool} {held other : List Nat} {slot : Nat}

/-- The message in a row of buffers at a position. Buffers never created hold an empty one. -/
def contentOf (slots : Array Message) (slot : Nat) : Message :=
  slots[slot]?.getD (.blank 0)

/-- The message of a slot. -/
def letter (pool : Pool) (slot : Nat) : Message :=
  contentOf pool.slots slot

theorem contentOf_setIfInBounds {slots : Array Message} {message : Message}
    (created : slot < slots.size) (probe : Nat) :
    contentOf (slots.setIfInBounds slot message) probe =
      if probe = slot then message else contentOf slots probe := by
  unfold contentOf
  by_cases same : probe = slot
  · subst same
    simp [Array.getElem?_setIfInBounds_self_of_lt created]
  · simp [Array.getElem?_setIfInBounds_ne (Ne.symm same), same]

theorem contentOf_push (slots : Array Message) (message : Message) (probe : Nat) :
    contentOf (slots.push message) probe =
      if probe = slots.size then message else contentOf slots probe := by
  unfold contentOf
  rw [Array.getElem?_push]
  split <;> rfl

/-- The buffers `held` are in use, each by one owner, and the others are free. Payloads are all as
long as the pool was made for. -/
structure Holds (pool : Pool) (held : List Nat) : Prop where
  partition : (held ++ pool.free).Perm (List.range pool.slots.size)
  inUse : pool.inUse = held.length
  marked : pool.inUse ≤ pool.peak
  bounded : pool.peak ≤ pool.capacity
  uniform : ∀ slot < pool.slots.size, (pool.letter slot).payload.size = pool.payloadSize

/-- The pool is the same to the owners of `held`: its measures are kept, and so are their
messages. -/
structure Keeps (held : List Nat) (pool after : Pool) : Prop where
  capacity : after.capacity = pool.capacity
  payloadSize : after.payloadSize = pool.payloadSize
  letters : ∀ slot ∈ held, after.letter slot = pool.letter slot

theorem Keeps.refl (held : List Nat) (pool : Pool) : Keeps held pool pool :=
  ⟨rfl, rfl, fun _ _ => rfl⟩

theorem Keeps.trans (first : Keeps held pool after) (second : Keeps held after later) :
    Keeps held pool later :=
  ⟨second.capacity.trans first.capacity, second.payloadSize.trans first.payloadSize,
    fun slot member => (second.letters slot member).trans (first.letters slot member)⟩

theorem Keeps.mono (kept : Keeps held pool after) (fewer : ∀ slot ∈ other, slot ∈ held) :
    Keeps other pool after :=
  ⟨kept.capacity, kept.payloadSize, fun slot member => kept.letters slot (fewer slot member)⟩

theorem Keeps.map_letter (kept : Keeps held pool after) (fewer : ∀ slot ∈ other, slot ∈ held) :
    other.map after.letter = other.map pool.letter :=
  List.map_congr_left fun slot member => kept.letters slot (fewer slot member)

theorem Holds.perm (owned : pool.Holds held) (same : held.Perm other) : pool.Holds other where
  partition := (same.symm.append_right _).trans owned.partition
  inUse := owned.inUse.trans same.length_eq
  marked := owned.marked
  bounded := owned.bounded
  uniform := owned.uniform

/-- Every slot in use or free was created. -/
theorem Holds.lt_size (owned : pool.Holds held) (member : slot ∈ held) : slot < pool.slots.size :=
  List.mem_range.mp (owned.partition.mem_iff.mp (List.mem_append_left _ member))

theorem Holds.nodup_append_free (owned : pool.Holds held) : (held ++ pool.free).Nodup :=
  owned.partition.nodup_iff.mpr List.nodup_range

theorem Holds.nodup (owned : pool.Holds held) : held.Nodup :=
  (List.nodup_append.mp owned.nodup_append_free).1

/-- The slots in use are those created and not free. -/
theorem Holds.mem_iff (owned : pool.Holds held) :
    slot ∈ held ↔ slot < pool.slots.size ∧ slot ∉ pool.free := by
  have listed : slot ∈ held ∨ slot ∈ pool.free ↔ slot < pool.slots.size := by
    rw [← List.mem_append, owned.partition.mem_iff, List.mem_range]
  have apart := (List.nodup_append.mp owned.nodup_append_free).2.2
  constructor
  · intro member
    exact ⟨listed.mp (.inl member), fun free => apart slot member slot free rfl⟩
  · rintro ⟨created, used⟩
    exact (listed.mpr created).resolve_right used

theorem letter_of_lt (created : slot < pool.slots.size) :
    pool.slots[slot]? = some (pool.letter slot) := by
  simp [letter, contentOf, created]

/-- Reading a slot in use answers its message. -/
theorem Holds.message_eq (owned : pool.Holds held) (member : slot ∈ held) :
    pool.message slot = .ok (pool.letter slot) := by
  simp [message, letter_of_lt (owned.lt_size member)]

theorem Holds.payload_size (owned : pool.Holds held) (member : slot ∈ held) :
    (pool.letter slot).payload.size = pool.payloadSize :=
  owned.uniform slot (owned.lt_size member)

/-- A pool that has handed out nothing. -/
theorem holds_new (capacity payloadSize : Nat) : (Pool.new capacity payloadSize).Holds [] where
  partition := by simp [Pool.new]
  inUse := rfl
  marked := Nat.le_refl _
  bounded := Nat.zero_le _
  uniform := by simp [Pool.new]

/-- After a reset nothing is in use. -/
theorem Holds.reset (owned : pool.Holds held) : pool.reset.Holds [] where
  partition := List.Perm.refl _
  inUse := rfl
  marked := Nat.le_refl _
  bounded := Nat.zero_le _
  uniform := owned.uniform

/-- A full pool hands out nothing. -/
theorem allocate_full (full : pool.capacity ≤ pool.inUse) : pool.allocate = .ok none := by
  simp [allocate, full]

/-- Writing a message to a slot in use changes that slot alone. -/
theorem Holds.setMessage (owned : pool.Holds (slot :: held)) (message : Message)
    (fits : message.payload.size = pool.payloadSize) :
    ∃ after, pool.setMessage slot message = .ok after ∧ after.Holds (slot :: held) ∧
      Keeps held pool after ∧ after.letter slot = message ∧ after.peak = pool.peak := by
  have created := owned.lt_size List.mem_cons_self
  have apart : slot ∉ held := (List.nodup_cons.mp owned.nodup).1
  refine ⟨{ pool with slots := pool.slots.setIfInBounds slot message },
    by simp [Pool.setMessage, created], ?_, ⟨rfl, rfl, ?_⟩, ?_, rfl⟩
  · refine ⟨by simpa using owned.partition, owned.inUse, owned.marked, owned.bounded, ?_⟩
    intro probe inside
    rw [Array.size_setIfInBounds] at inside
    rw [letter, contentOf_setIfInBounds created]
    split
    · exact fits
    · exact owned.uniform probe inside
  · intro probe member
    have other : probe ≠ slot := fun same => apart (same ▸ member)
    rw [letter, contentOf_setIfInBounds created, if_neg other]
    rfl
  · rw [letter, contentOf_setIfInBounds created, if_pos rfl]

/-- Handing out the first free slot: it leaves the free list and its old message is cleared. -/
private theorem Holds.reuse (owned : pool.Holds held) (room : pool.inUse < pool.capacity)
    {free : List Nat} (recycled : pool.free = slot :: free) :
    ∃ after, pool.allocate = .ok (some (slot, after)) ∧ after.Holds (slot :: held) ∧
      Keeps held pool after ∧ after.letter slot = .blank pool.payloadSize ∧
      after.peak = max pool.peak (held.length + 1) := by
  have counted := owned.inUse
  have bounded := owned.bounded
  have partition := recycled ▸ owned.partition
  have created : slot < pool.slots.size := List.mem_range.mp (partition.mem_iff.mp (by simp))
  have apart : slot ∉ held :=
    fun member => (owned.mem_iff.mp member).2 (recycled ▸ List.mem_cons_self)
  have fits := owned.uniform slot created
  have stale : pool.message slot = .ok (pool.letter slot) := by
    simp [message, letter_of_lt created]
  refine ⟨{ pool with
    slots := pool.slots.setIfInBounds slot (.blank (pool.letter slot).payload.size)
    free, inUse := pool.inUse + 1, peak := max pool.peak (pool.inUse + 1) }, ?_, ?_,
    ⟨rfl, rfl, ?_⟩, ?_, by rw [← counted]⟩
  · simp [Pool.allocate, Nat.not_le.mpr room, recycled, stale, Pool.setMessage, created, countUse,
      bind, Except.bind, pure, Except.pure]
  · have reordered : (slot :: held ++ free).Perm (List.range pool.slots.size) :=
      List.perm_middle.symm.trans partition
    refine ⟨by simpa using reordered, by simp [counted], by simp only; omega,
      by simp only; omega, ?_⟩
    intro probe inside
    rw [Array.size_setIfInBounds] at inside
    rw [letter, contentOf_setIfInBounds created]
    split
    · simpa [Message.blank, Cells.zeros] using fits
    · exact owned.uniform probe inside
  · intro probe member
    have other : probe ≠ slot := fun same => apart (same ▸ member)
    rw [letter, contentOf_setIfInBounds created, if_neg other]
    rfl
  · rw [letter, contentOf_setIfInBounds created, if_pos rfl, fits]

/-- Handing out a slot when none is free: a new one is created behind those in use. -/
private theorem Holds.create (owned : pool.Holds held) (room : pool.inUse < pool.capacity)
    (empty : pool.free = []) :
    ∃ slot after, pool.allocate = .ok (some (slot, after)) ∧ after.Holds (slot :: held) ∧
      Keeps held pool after ∧ after.letter slot = .blank pool.payloadSize ∧
      after.peak = max pool.peak (held.length + 1) := by
  have counted := owned.inUse
  have bounded := owned.bounded
  have partition := owned.partition
  rw [empty, List.append_nil] at partition
  refine ⟨pool.slots.size, { pool with
    slots := pool.slots.push (.blank pool.payloadSize)
    inUse := pool.inUse + 1, peak := max pool.peak (pool.inUse + 1) }, ?_, ?_,
    ⟨rfl, rfl, ?_⟩, ?_, by rw [← counted]⟩
  · simp [Pool.allocate, Nat.not_le.mpr room, empty, countUse]
  · refine ⟨?_, by simp [counted], by simp only; omega, by simp only; omega, ?_⟩
    · rw [empty, List.append_nil, Array.size_push, List.range_succ]
      exact (List.Perm.cons _ partition).trans (List.perm_append_singleton _ _).symm
    · intro probe inside
      rw [Array.size_push] at inside
      rw [letter, contentOf_push]
      split
      · simp [Message.blank, Cells.zeros]
      · exact owned.uniform probe (by omega)
  · intro probe member
    have created := owned.lt_size member
    rw [letter, contentOf_push, if_neg (Nat.ne_of_lt created)]
    rfl
  · rw [letter, contentOf_push, if_pos rfl]

/-- A pool that is not full hands out a buffer nobody held, with a message of zeros. -/
theorem Holds.allocate (owned : pool.Holds held) (room : pool.inUse < pool.capacity) :
    ∃ slot after, pool.allocate = .ok (some (slot, after)) ∧ after.Holds (slot :: held) ∧
      Keeps held pool after ∧ after.letter slot = .blank pool.payloadSize ∧
      after.peak = max pool.peak (held.length + 1) := by
  cases free : pool.free with
  | nil => exact owned.create room free
  | cons slot rest =>
    obtain ⟨after, handed, facts⟩ := owned.reuse room free
    exact ⟨slot, after, handed, facts⟩

/-- A copy of a message gets a buffer of its own, with the payload and sender of the original. -/
theorem Holds.duplicate (owned : pool.Holds (slot :: held)) (room : pool.inUse < pool.capacity) :
    ∃ copy after, pool.duplicate slot = .ok (some (copy, after)) ∧
      after.Holds (copy :: slot :: held) ∧ Keeps (slot :: held) pool after ∧
      after.letter copy = ⟨(pool.letter slot).payload, (pool.letter slot).source, 0, 0⟩ ∧
      after.peak = max pool.peak (held.length + 2) := by
  obtain ⟨copy, fresh, handed, freshOwned, kept, cleared, peak⟩ := owned.allocate room
  have donor : slot ∈ copy :: slot :: held := by simp
  have distinct : slot ≠ copy :=
    fun same => (List.nodup_cons.mp freshOwned.nodup).1 (same ▸ List.mem_cons_self)
  have original := kept.letters slot List.mem_cons_self
  have sameSize : (fresh.letter slot).payload.size = (fresh.letter copy).payload.size :=
    (freshOwned.payload_size donor).trans (freshOwned.payload_size List.mem_cons_self).symm
  obtain ⟨after, written, afterOwned, keptAfter, content, samePeak⟩ :=
    freshOwned.setMessage { fresh.letter copy with
      payload := (fresh.letter slot).payload, source := (fresh.letter slot).source }
      (freshOwned.payload_size donor)
  refine ⟨copy, after, ?_, afterOwned, kept.trans keptAfter, ?_, samePeak.trans peak⟩
  · simp [Pool.duplicate, handed, Pool.copyMessage, distinct, freshOwned.message_eq donor,
      freshOwned.message_eq List.mem_cons_self, sameSize, written, bind, Except.bind, pure,
      Except.pure]
  · rw [content, cleared, original]
    rfl

theorem duplicate_full (full : pool.capacity ≤ pool.inUse) : pool.duplicate slot = .ok none := by
  simp [duplicate, allocate_full full, bind, Except.bind, pure, Except.pure]

/-- A buffer in use can be taken back. No message changes. -/
theorem Holds.release (owned : pool.Holds (slot :: held)) :
    ∃ after, pool.release slot = .ok after ∧ after.Holds held ∧ Keeps held pool after ∧
      after.peak = pool.peak := by
  have counted : pool.inUse = held.length + 1 := owned.inUse
  have marked := owned.marked
  refine ⟨{ pool with free := slot :: pool.free, inUse := held.length }, ?_, ?_,
    ⟨rfl, rfl, fun _ _ => rfl⟩, rfl⟩
  · simp [Pool.release, Breach.checkedSub, counted, bind, Except.bind, pure, Except.pure]
  · exact ⟨List.perm_middle.trans owned.partition, rfl, by simp only; omega, owned.bounded,
      owned.uniform⟩

/-- Several buffers in use can be taken back one after another. -/
theorem Holds.releaseAll {slots : List Nat} (owned : pool.Holds (slots ++ held)) :
    ∃ after, pool.releaseAll slots = .ok after ∧ after.Holds held ∧ Keeps held pool after ∧
      after.peak = pool.peak := by
  induction slots generalizing pool with
  | nil => exact ⟨pool, rfl, owned, .refl _ _, rfl⟩
  | cons slot slots ih =>
    obtain ⟨middle, released, middleOwned, kept, peak⟩ := Holds.release owned
    obtain ⟨after, rest, afterOwned, keptAfter, laterPeak⟩ := ih middleOwned
    refine ⟨after, ?_, afterOwned,
      (kept.mono fun _ member => List.mem_append_right _ member).trans keptAfter,
      laterPeak.trans peak⟩
    simpa [Pool.releaseAll, released, bind, Except.bind] using rest

end Pool

end Lockstep
