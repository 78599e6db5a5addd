import Lockstep.Proofs.Delivery.Ownership

/-!
The message pool as an allocator, for any client that only uses what it holds.

`Request.perform` carries out a client's requests on a pool and keeps the slots that the client
holds. A client is `Orderly` if it names only slots it holds, so that it gives each back once and
none after a reset. `allocator_faithful` says what such a client can rely on after any number of
requests. The proof goes by what one request does (`Settles`).
-/
namespace Lockstep.Pool

/-- What a client asks of a pool. A buffer is named by its slot. -/
inductive Request where
  | allocate
  | duplicate (donor : Nat)
  | release (slot : Nat)
  /-- Puts another message into the buffer. -/
  | update (slot : Nat) (message : Message)
  | reset
  deriving DecidableEq

/-- A pool and the slots of the buffers its client holds. -/
structure Lent where
  pool : Pool
  held : List Nat
  deriving DecidableEq

/-- The client gets a buffer, or nothing if none could be handed out. -/
def Lent.grant (lent : Lent) : Option (Nat × Pool) → Lent
  | none => lent
  | some (slot, pool) => ⟨pool, slot :: lent.held⟩

namespace Request

/-- Carries out a request. -/
def perform (lent : Lent) : Request → Except Breach Lent
  | .allocate => do return lent.grant (← lent.pool.allocate)
  | .duplicate donor => do return lent.grant (← lent.pool.duplicate donor)
  | .release slot => do return ⟨← lent.pool.release slot, lent.held.erase slot⟩
  | .update slot message => do return { lent with pool := ← lent.pool.setMessage slot message }
  | .reset => .ok ⟨lent.pool.reset, []⟩

/-- The client holds the buffer it names, and an update keeps the length of the payload. -/
def Proper (lent : Lent) : Request → Prop
  | .allocate | .reset => True
  | .duplicate slot | .release slot => slot ∈ lent.held
  | .update slot message =>
    slot ∈ lent.held ∧ message.payload.size = (lent.pool.letter slot).payload.size

instance (lent : Lent) : (request : Request) → Decidable (request.Proper lent)
  | .allocate | .reset => inferInstanceAs (Decidable True)
  | .duplicate _ | .release _ => inferInstanceAs (Decidable (_ ∈ _))
  | .update _ _ => inferInstanceAs (Decidable (_ ∧ _))

/-- The request puts another message into the buffer. -/
def Rewrites (slot : Nat) : Request → Prop
  | .update target _ => slot = target
  | _ => False

/-- Each request names only buffers that the client holds when it makes it. -/
def Orderly (lent : Lent) : List Request → Prop
  | [] => True
  | request :: later => request.Proper lent ∧
    match request.perform lent with
    | .ok after => Orderly after later
    | .error _ => True

instance decidableOrderly : (requests : List Request) → (lent : Lent) →
    Decidable (Orderly lent requests)
  | [], _ => inferInstanceAs (Decidable True)
  | request :: later, lent =>
    have : Decidable (match request.perform lent with
        | .ok after => Orderly after later
        | .error _ => True) :=
      match request.perform lent with
      | .ok after => decidableOrderly later after
      | .error _ => inferInstanceAs (Decidable True)
    inferInstanceAs (Decidable (_ ∧ _))

/-- What requests leave of a new pool. -/
def history (capacity payloadSize : Nat) (requests : List Request) : Except Breach Lent :=
  requests.foldlM perform ⟨.new capacity payloadSize, []⟩

end Request

/-! ### When buffers are created -/

variable {pool after : Pool} {held : List Nat} {slot : Nat}

/-- Writing to a buffer creates none and frees none. -/
theorem setMessage_keeps {message : Message} (written : pool.setMessage slot message = .ok after) :
    after.free = pool.free ∧ after.slots.size = pool.slots.size := by
  unfold setMessage at written
  split at written <;> cases written
  exact ⟨rfl, Array.size_setIfInBounds⟩

/-- A buffer handed out was the first free one, if there was any. -/
theorem free_allocate (handed : pool.allocate = .ok (some (slot, after))) :
    after.free = pool.free.tail := by
  unfold allocate at handed
  split at handed
  · cases handed
  · cases free : pool.free with
    | nil =>
      rw [free] at handed
      cases handed
      rfl
    | cons first rest =>
      rw [free] at handed
      obtain ⟨stale, -, handed⟩ := bind_eq_ok handed
      obtain ⟨cleared, written, handed⟩ := bind_eq_ok handed
      cases handed
      exact (setMessage_keeps written).1

theorem free_duplicate {donor : Nat} (handed : pool.duplicate donor = .ok (some (slot, after))) :
    after.free = pool.free.tail := by
  obtain ⟨granted, allocated, handed⟩ := bind_eq_ok handed
  cases granted with
  | none => cases handed
  | some fresh =>
    obtain ⟨copied, copies, handed⟩ := bind_eq_ok handed
    cases handed
    unfold copyMessage at copies
    split at copies
    · cases copies
    · obtain ⟨source, -, copies⟩ := bind_eq_ok copies
      obtain ⟨target, -, copies⟩ := bind_eq_ok copies
      split at copies
      · rw [(setMessage_keeps copies).1, free_allocate allocated]
      · cases copies

/-- A buffer is created only if all are in use. -/
theorem Holds.size_le (owned : pool.Holds held) (grown : after.Holds (slot :: held))
    (free : after.free = pool.free.tail) :
    after.slots.size ≤ max pool.slots.size after.inUse := by
  have before := owned.partition.length_eq
  have later := grown.partition.length_eq
  have counted := grown.inUse
  rw [free] at later
  simp only [List.length_append, List.length_cons, List.length_tail, List.length_range] at *
  omega

namespace Request

/-! ### One request -/

variable {capacity payloadSize : Nat} {lent after : Lent} {requests : List Request}
  {request : Request} {donor : Nat} {message : Message}

/-- What a proper request does. -/
structure Settles (request : Request) (lent after : Lent) : Prop where
  owned : after.pool.Holds after.held
  capacity : after.pool.capacity = lent.pool.capacity
  payloadSize : after.pool.payloadSize = lent.pool.payloadSize
  letters : ∀ slot ∈ lent.held, slot ∈ after.held → ¬ request.Rewrites slot →
    after.pool.letter slot = lent.pool.letter slot
  grown : after.pool.slots.size ≤ max lent.pool.slots.size after.pool.inUse

/-- A request that is not answered with a buffer changes nothing. -/
theorem Settles.refl (owned : lent.pool.Holds lent.held) : Settles request lent lent :=
  ⟨owned, rfl, rfl, fun _ _ _ _ => rfl, Nat.le_max_left ..⟩

theorem allocate_settles (owned : lent.pool.Holds lent.held) :
    ∃ after, perform lent .allocate = .ok after ∧ Settles .allocate lent after := by
  by_cases room : lent.pool.inUse < lent.pool.capacity
  · obtain ⟨slot, pool, handed, grown, kept, -⟩ := owned.allocate room
    refine ⟨⟨pool, slot :: lent.held⟩, by simp only [perform, handed]; rfl, grown, kept.capacity,
      kept.payloadSize, fun slot member _ _ => kept.letters slot member, ?_⟩
    exact owned.size_le grown (free_allocate handed)
  · refine ⟨lent, ?_, .refl owned⟩
    simp only [perform, allocate_full (Nat.le_of_not_lt room)]
    rfl

theorem duplicate_settles (owned : lent.pool.Holds lent.held) (member : donor ∈ lent.held) :
    ∃ after, perform lent (.duplicate donor) = .ok after ∧
      Settles (.duplicate donor) lent after := by
  have first := List.perm_cons_erase member
  by_cases room : lent.pool.inUse < lent.pool.capacity
  · obtain ⟨slot, pool, handed, grown, kept, -⟩ := (owned.perm first).duplicate room
    have grown : pool.Holds (slot :: lent.held) := grown.perm (first.symm.cons slot)
    refine ⟨⟨pool, slot :: lent.held⟩, by simp only [perform, handed]; rfl, grown, kept.capacity,
      kept.payloadSize, fun slot member _ _ => kept.letters slot (first.mem_iff.mp member), ?_⟩
    exact owned.size_le grown (free_duplicate handed)
  · refine ⟨lent, ?_, .refl owned⟩
    simp only [perform, duplicate_full (Nat.le_of_not_lt room)]
    rfl

theorem release_settles (owned : lent.pool.Holds lent.held) (member : slot ∈ lent.held) :
    ∃ after, perform lent (.release slot) = .ok after ∧ Settles (.release slot) lent after := by
  have first := List.perm_cons_erase member
  obtain ⟨pool, released, left, kept, -⟩ := (owned.perm first).release
  refine ⟨⟨pool, lent.held.erase slot⟩, by simp only [perform, released]; rfl, left, kept.capacity,
    kept.payloadSize, fun slot _ member _ => kept.letters slot member, ?_⟩
  have size : pool.slots.size = lent.pool.slots.size := by
    obtain ⟨inUse, -, same⟩ := bind_eq_ok released
    cases same
    rfl
  exact size ▸ Nat.le_max_left ..

theorem update_settles (owned : lent.pool.Holds lent.held)
    (proper : (update slot message).Proper lent) :
    ∃ after, perform lent (.update slot message) = .ok after ∧
      Settles (.update slot message) lent after ∧ after.pool.letter slot = message := by
  obtain ⟨member, sameSize⟩ := proper
  have first := List.perm_cons_erase member
  obtain ⟨pool, written, left, kept, content, -⟩ := (owned.perm first).setMessage message
    (sameSize.trans (owned.payload_size member))
  refine ⟨⟨pool, lent.held⟩, by simp only [perform, written]; rfl,
    ⟨left.perm first.symm, kept.capacity, kept.payloadSize, ?_, ?_⟩, content⟩
  · intro other held _ apart
    exact kept.letters other ((List.mem_erase_of_ne apart).mpr held)
  · exact (setMessage_keeps written).2 ▸ Nat.le_max_left ..

theorem reset_settles (owned : lent.pool.Holds lent.held) :
    Settles .reset lent ⟨lent.pool.reset, []⟩ :=
  ⟨owned.reset, rfl, rfl, fun _ _ member => absurd member List.not_mem_nil, Nat.le_max_left ..⟩

theorem exists_settles (owned : lent.pool.Holds lent.held) (proper : request.Proper lent) :
    ∃ after, request.perform lent = .ok after ∧ Settles request lent after := by
  cases request with
  | allocate => exact allocate_settles owned
  | duplicate donor => exact duplicate_settles owned proper
  | release slot => exact release_settles owned proper
  | update slot message =>
    obtain ⟨after, performed, settles, -⟩ := update_settles owned proper
    exact ⟨after, performed, settles⟩
  | reset => exact ⟨_, rfl, reset_settles owned⟩

/-! ### Any number of requests -/

/-- What a client's requests leave. If buffers were created, there was a moment when as many were in
use. -/
theorem exists_foldlM (owned : lent.pool.Holds lent.held) (orderly : Orderly lent requests) :
    ∃ after, requests.foldlM perform lent = .ok after ∧ after.pool.Holds after.held ∧
      after.pool.capacity = lent.pool.capacity ∧
      after.pool.payloadSize = lent.pool.payloadSize ∧
      (after.pool.slots.size ≤ lent.pool.slots.size ∨
        ∃ earlier before, earlier <+: requests ∧ earlier.foldlM perform lent = .ok before ∧
          after.pool.slots.size ≤ before.pool.inUse ∧
          before.pool.inUse ≤ lent.pool.capacity) := by
  induction requests generalizing lent with
  | nil => exact ⟨lent, rfl, owned, rfl, rfl, .inl (Nat.le_refl _)⟩
  | cons request later ih =>
    obtain ⟨proper, orderly⟩ := orderly
    obtain ⟨middle, performed, settles⟩ := exists_settles owned proper
    rw [performed] at orderly
    obtain ⟨after, ran, afterOwned, capacity, payloadSize, needed⟩ := ih settles.owned orderly
    have goesOn : ∀ requests, (request :: requests).foldlM perform lent =
        requests.foldlM perform middle := fun requests => by rw [List.foldlM_cons, performed]; rfl
    refine ⟨after, (goesOn later).trans ran, afterOwned, capacity.trans settles.capacity,
      payloadSize.trans settles.payloadSize, ?_⟩
    rcases needed with kept | ⟨earlier, before, start, reached, needed, within⟩
    · by_cases used : after.pool.slots.size ≤ middle.pool.inUse
      · exact .inr ⟨[request], middle, List.prefix_append [request] later, goesOn [], used,
          settles.capacity ▸ Nat.le_trans settles.owned.marked settles.owned.bounded⟩
      · have grown := settles.grown
        exact .inl (by omega)
    · exact .inr ⟨request :: earlier, before, List.cons_prefix_cons.mpr ⟨rfl, start⟩,
        (goesOn earlier).trans reached, needed, settles.capacity ▸ within⟩

/-- All that a client can rely on after its requests. -/
structure Faithful (capacity payloadSize : Nat) (requests : List Request) (lent : Lent) : Prop where
  /-- No buffer is held twice, free twice, or held and free. -/
  nodup : (lent.held ++ lent.pool.free).Nodup
  created : ∀ slot, slot ∈ lent.held ++ lent.pool.free ↔ slot < lent.pool.slots.size
  inUse : lent.pool.inUse = lent.held.length
  marked : lent.pool.inUse ≤ lent.pool.peak
  bounded : lent.pool.peak ≤ capacity
  limited : lent.pool.slots.size ≤ capacity
  /-- As many buffers as were created were in use at some moment. -/
  needed : ∃ earlier before, earlier <+: requests ∧
    history capacity payloadSize earlier = .ok before ∧
    lent.pool.slots.size ≤ before.pool.inUse
  full : capacity ≤ lent.pool.inUse →
    lent.pool.allocate = .ok none ∧ ∀ donor, lent.pool.duplicate donor = .ok none
  allocates : lent.pool.inUse < capacity → ∃ slot after,
    lent.pool.allocate = .ok (some (slot, after)) ∧ slot ∉ lent.held ∧
      after.message slot = .ok (.blank payloadSize)
  duplicates : lent.pool.inUse < capacity → ∀ donor ∈ lent.held, ∃ slot after original,
    lent.pool.duplicate donor = .ok (some (slot, after)) ∧ slot ∉ lent.held ∧
      lent.pool.message donor = .ok original ∧
      after.message slot = .ok ⟨original.payload, original.source, 0, 0⟩
  updates : ∀ slot message, (update slot message).Proper lent → ∃ after,
    lent.pool.setMessage slot message = .ok after ∧ after.message slot = .ok message
  /-- Every request the client may make is carried out, and no other message it holds changes. -/
  undisturbed : ∀ request : Request, request.Proper lent → ∃ after,
    request.perform lent = .ok after ∧
      ∀ slot ∈ lent.held, slot ∈ after.held → ¬ request.Rewrites slot →
        after.pool.message slot = lent.pool.message slot

/-- The pool is a faithful allocator: whatever requests a client makes that uses only what it holds,
each is carried out, and the client and the free list share the buffers between them. -/
theorem allocator_faithful {capacity payloadSize : Nat} {requests : List Request}
    (orderly : Orderly ⟨.new capacity payloadSize, []⟩ requests) :
    ∃ lent, history capacity payloadSize requests = .ok lent ∧
      Faithful capacity payloadSize requests lent := by
  obtain ⟨lent, reached, owned, sameCapacity, sameSize, needed⟩ :=
    exists_foldlM (holds_new capacity payloadSize) orderly
  replace sameCapacity : lent.pool.capacity = capacity := sameCapacity
  replace sameSize : lent.pool.payloadSize = payloadSize := sameSize
  obtain ⟨earlier, before, start, known, needed, within⟩ : ∃ earlier before,
      earlier <+: requests ∧ history capacity payloadSize earlier = .ok before ∧
      lent.pool.slots.size ≤ before.pool.inUse ∧ before.pool.inUse ≤ capacity := by
    rcases needed with uncreated | needed
    · exact ⟨[], _, List.nil_prefix, rfl, uncreated, Nat.zero_le _⟩
    · exact needed
  refine ⟨lent, reached, owned.nodup_append_free, fun slot => ?created, owned.inUse, owned.marked,
    sameCapacity ▸ owned.bounded, Nat.le_trans needed within,
    ⟨earlier, before, start, known, needed⟩,
    fun used => ?full, fun room => ?allocates, fun room donor member => ?duplicates,
    fun slot message proper => ?updates, fun request proper => ?undisturbed⟩
  case created => rw [owned.partition.mem_iff, List.mem_range]
  case full =>
    rw [← sameCapacity] at used
    exact ⟨allocate_full used, fun _ => duplicate_full used⟩
  case allocates =>
    obtain ⟨slot, after, handed, grown, -, cleared, -⟩ := owned.allocate (sameCapacity ▸ room)
    refine ⟨slot, after, handed, (List.nodup_cons.mp grown.nodup).1, ?_⟩
    rw [grown.message_eq List.mem_cons_self, cleared, sameSize]
  case duplicates =>
    have first := List.perm_cons_erase member
    obtain ⟨slot, after, handed, grown, -, content, -⟩ :=
      (owned.perm first).duplicate (sameCapacity ▸ room)
    refine ⟨slot, after, _, handed, ?_, owned.message_eq member, ?_⟩
    · exact fun held => (List.nodup_cons.mp grown.nodup).1 (first.mem_iff.mp held)
    · rw [grown.message_eq List.mem_cons_self, content]
  case updates =>
    obtain ⟨after, performed, settles, content⟩ := update_settles owned proper
    obtain ⟨pool, written, same⟩ := bind_eq_ok performed
    cases same
    exact ⟨pool, written, by rw [settles.owned.message_eq proper.1, content]⟩
  case undisturbed =>
    obtain ⟨after, performed, settles⟩ := exists_settles owned proper
    refine ⟨after, performed, fun slot member kept other => ?_⟩
    rw [settles.owned.message_eq kept, owned.message_eq member,
      settles.letters slot member kept other]

/-- Two buffers from before a reset are used again, a copy is made into the slot below its original,
and the last request finds the pool full. -/
theorem allocator_faithful_recycled :
    let requests := [.allocate, .allocate, .reset, .allocate, .update 0 ⟨#[1, 2], 3, 1, 9⟩,
      .duplicate 0, .release 0, .duplicate 1, .allocate, .duplicate 2]
    Orderly ⟨.new 3 2, []⟩ requests ∧ ∃ lent, history 3 2 requests = .ok lent ∧
      Faithful 3 2 requests lent ∧ lent.held = [2, 0, 1] ∧
      lent.held.map lent.pool.letter =
        [⟨#[0, 0], 0, 0, 0⟩, ⟨#[1, 2], 3, 0, 0⟩, ⟨#[1, 2], 3, 0, 0⟩] := by
  intro requests
  have orderly : Orderly ⟨.new 3 2, []⟩ requests := by decide +kernel
  have evaluated : (history 3 2 requests).toOption.map
        (fun lent => (lent.held, lent.held.map lent.pool.letter)) =
      some ([2, 0, 1], [⟨#[0, 0], 0, 0, 0⟩, ⟨#[1, 2], 3, 0, 0⟩, ⟨#[1, 2], 3, 0, 0⟩]) := by
    decide +kernel
  obtain ⟨lent, reached, faithful⟩ := allocator_faithful orderly
  rw [reached] at evaluated
  obtain ⟨held, letters⟩ := Prod.mk.inj (Option.some.inj evaluated)
  exact ⟨orderly, lent, reached, faithful, held, letters⟩

end Request

end Lockstep.Pool
