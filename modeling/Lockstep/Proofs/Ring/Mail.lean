import Lockstep.Proofs.Network.Conservation
import Lockstep.Proofs.Network.Built

/-!
The messages of a ring in which every node sends one in every tick.

The messages to a node then are those of its predecessor, numbered by the ticks they were sent in
(`Mail`). When one arrives is told by that number, up to the window of delays (`Timed`), so that it is
known how many have arrived at least and at most. What the messages tell is left open (`Talk`).
-/
namespace Lockstep

variable {α : Type} {items : List α}

/-- A filter keeps no more than the positions it keeps anything from. -/
theorem length_filter_le_of_position {keep : α → Bool} {count : Nat}
    (early : ∀ (position : Nat) (item : α), items[position]? = some item → keep item = true →
      position < count) : (items.filter keep).length ≤ count := by
  have late : (items.drop count).filter keep = [] := by
    apply List.filter_eq_nil_iff.mpr
    intro item member kept
    obtain ⟨offset, listed⟩ := List.getElem?_of_mem member
    rw [List.getElem?_drop] at listed
    exact Nat.not_lt.mpr (Nat.le_add_right count offset) (early _ _ listed kept)
  have whole : items.filter keep = (items.take count).filter keep := by
    have parts := congrArg (List.filter keep) (List.take_append_drop count items)
    rw [List.filter_append, late, List.append_nil] at parts
    exact parts.symm
  rw [whole]
  exact Nat.le_trans (List.length_filter_le _ _) (List.length_take_le _ _)

/-- A filter keeps at least the positions it keeps throughout. -/
theorem le_length_filter_of_position {keep : α → Bool} {count : Nat} (enough : count ≤ items.length)
    (kept : ∀ (position : Nat) (item : α), position < count → items[position]? = some item →
      keep item = true) : count ≤ (items.filter keep).length := by
  have first : (items.take count).filter keep = items.take count := by
    apply List.filter_eq_self.mpr
    intro item member
    obtain ⟨position, listed⟩ := List.getElem?_of_mem member
    rw [List.getElem?_take] at listed
    split at listed
    · exact kept position item ‹_› listed
    · cases listed
  have part := (List.take_sublist count items).filter keep
  rw [first] at part
  have length := part.length_le
  rwa [List.length_take_of_le enough] at length

/-- What many have in common adds up. -/
theorem le_sum_of_each {measure : α → Nat} {tick taken slack : Nat} (within : taken ≤ items.length)
    (each : ∀ (index : Nat) (item : α), items[index]? = some item →
      (if index < taken then tick + 1 else tick) ≤ measure item + slack) :
    tick * items.length + taken ≤ (items.map measure).sum + slack * items.length := by
  induction items generalizing taken with
  | nil =>
    have : taken = 0 := Nat.le_zero.mp within
    simp [this]
  | cons item rest ih =>
    have here := each 0 item rfl
    rw [List.length_cons] at within
    have later := ih (show taken - 1 ≤ rest.length by omega) fun index item found => by
      have one := each (index + 1) item found
      split at one <;> split <;> omega
    simp only [List.length_cons, List.map_cons, List.sum_cons, Nat.mul_succ]
    split at here <;> omega

namespace Network

variable {ρ σ : Type} {network : Network ρ σ} {log : List Message} {tick taken index sender : Nat}

/-! ### The ring -/

/-- The node that the messages of a node go to. -/
def successor (network : Network ρ σ) (index : Nat) : Nat :=
  (index + 1) % network.config.nodeCount

theorem successor_lt (inside : index < network.config.nodeCount) :
    network.successor index < network.config.nodeCount :=
  Nat.mod_lt _ (by omega)

/-- The greatest node is followed by the first, and any other by the next. -/
theorem successor_cases (inside : index < network.config.nodeCount) :
    index + 1 = network.config.nodeCount ∧ network.successor index = 0 ∨
      index + 1 < network.config.nodeCount ∧ network.successor index = index + 1 := by
  cases Nat.lt_or_eq_of_le (Nat.succ_le_of_lt inside) with
  | inl before => exact .inr ⟨before, Nat.mod_eq_of_lt before⟩
  | inr last =>
    refine .inl ⟨last, ?_⟩
    rw [successor, ← last]
    exact Nat.mod_self _

theorem exists_predecessor (inside : index < network.config.nodeCount) :
    ∃ sender < network.config.nodeCount, network.successor sender = index := by
  cases index with
  | zero =>
    refine ⟨network.config.nodeCount - 1, by omega, ?_⟩
    rw [successor, Nat.sub_add_cancel inside]
    exact Nat.mod_self _
  | succ index => exact ⟨index, by omega, Nat.mod_eq_of_lt inside⟩

theorem successor_inj {other : Nat} (inside : index < network.config.nodeCount)
    (otherInside : other < network.config.nodeCount)
    (same : network.successor index = network.successor other) : index = other := by
  rcases successor_cases inside with ⟨_, _⟩ | ⟨_, _⟩ <;>
    rcases successor_cases otherInside with ⟨_, _⟩ | ⟨_, _⟩ <;> omega

theorem destinations_ring (router : network.router = Router.ring) (index : Nat) (payload : Cells)
    (nodes : 0 < network.config.nodeCount) :
    network.destinations index payload network.config.nodeCount =
      if 1 < network.config.nodeCount then [network.successor index] else [] := by
  have inside : (index + 1) % network.config.nodeCount < network.config.nodeCount :=
    Nat.mod_lt _ nodes
  rw [destinations, router, Router.ring, successor]
  split
  · simp [inside]
  · rfl

/-! ### What is sent -/

/-- What nodes tell each other, and what holds of the stations they are told to. -/
structure Talk where
  /-- A message tells this that a node sends in a tick. -/
  tells : (sender tick : Nat) → Message → Prop
  /-- This holds of the station of a node, by what has arrived for it and the tick of its next
  step. -/
  knows : (queue : List Message) → (clock index : Nat) → Station → Prop

/-- The messages a node has sent, in order. -/
def outbound (network : Network ρ σ) (log : List Message) (sender : Nat) : List Message :=
  log.filter (·.destination == network.successor sender)

/-- When a message may arrive that was sent in a tick. -/
structure Timed (network : Network ρ σ) (tick arrival : Nat) : Prop where
  earliest : min (tick + network.config.minDelay) lastTick ≤ arrival
  latest : arrival ≤ tick + network.config.maxDelay

/-- Every node has sent one message in every tick. A node on its own sends none. -/
structure Mail (network : Network ρ σ) (talk : Talk) (log : List Message) (tick taken : Nat) :
    Prop where
  total : log.length =
    if 1 < network.config.nodeCount then tick * network.config.nodeCount + taken else 0
  bound : ∀ message ∈ log, message.destination < network.config.nodeCount
  count : 1 < network.config.nodeCount → ∀ sender < network.config.nodeCount,
    (network.outbound log sender).length = if sender < taken then tick + 1 else tick
  letters : ∀ sender < network.config.nodeCount, ∀ (position : Nat) (message : Message),
    (network.outbound log sender)[position]? = some message →
      network.Timed position message.arrival ∧ talk.tells sender position message

namespace Mail

variable {talk : Talk}

theorem opening (network : Network ρ σ) (talk : Talk) : network.Mail talk [] 0 0 := by
  refine ⟨?_, by simp, fun _ sender _ => by simp [outbound],
    fun sender _ position message listed => ?_⟩
  · split <;> simp
  · cases listed

/-- Messages that have arrived were sent long enough ago. -/
theorem length_arrived_le (mail : network.Mail talk log tick taken)
    (inside : sender < network.config.nodeCount) {moment : Nat} (early : moment < lastTick) :
    (arrived log moment (network.successor sender)).length ≤
      moment + 1 - network.config.minDelay := by
  rw [arrived, (inOrder_perm _).length_eq]
  apply length_filter_le_of_position
  intro position message listed here
  have earliest := (mail.letters sender inside position message listed).1.earliest
  have := of_decide_eq_true here
  omega

/-- Messages sent long enough ago have arrived. -/
theorem le_length_arrived (mail : network.Mail talk log tick taken)
    (settings : network.config.Valid) (several : 1 < network.config.nodeCount)
    (inside : sender < network.config.nodeCount) :
    tick + 1 - network.config.maxDelay ≤ (arrived log tick (network.successor sender)).length := by
  have count := mail.count several sender inside
  have positive := settings.positive
  have ordered := settings.ordered
  rw [arrived, (inOrder_perm _).length_eq]
  refine le_length_filter_of_position ?_ fun position message first listed => ?_
  · refine Nat.le_trans ?_ (Nat.le_of_eq count.symm)
    split <;> omega
  · have latest := (mail.letters sender inside position message listed).1.latest
    exact decide_eq_true (by omega)

/-- What has arrived at a node was sent by its predecessor. -/
theorem exists_letter (mail : network.Mail talk log tick taken)
    (inside : index < network.config.nodeCount) {moment : Nat} {message : Message}
    (member : message ∈ arrived log moment index) :
    ∃ sender < network.config.nodeCount, ∃ position, network.successor sender = index ∧
      network.Timed position message.arrival ∧ talk.tells sender position message := by
  obtain ⟨sender, senderInside, same⟩ := exists_predecessor inside
  obtain ⟨sent, here, -⟩ := mem_arrived.mp member
  have own : message ∈ network.outbound log sender :=
    List.mem_filter.mpr ⟨sent, beq_iff_eq.mpr (here.trans same.symm)⟩
  obtain ⟨position, listed⟩ := List.getElem?_of_mem own
  obtain ⟨timed, tells⟩ := mail.letters sender senderInside position message listed
  exact ⟨sender, senderInside, position, same, timed, tells⟩

/-- One more message, sent by the node whose turn it is. -/
theorem send {message : Message} (mail : network.Mail talk log tick index)
    (inside : index < network.config.nodeCount) (several : 1 < network.config.nodeCount)
    (destination : message.destination = network.successor index)
    (timed : network.Timed tick message.arrival) (tells : talk.tells index tick message) :
    network.Mail talk (log ++ [message]) tick (index + 1) := by
  have own : network.outbound (log ++ [message]) index =
      network.outbound log index ++ [message] := by
    simp [outbound, destination]
  have others : ∀ sender < network.config.nodeCount, sender ≠ index →
      network.outbound (log ++ [message]) sender = network.outbound log sender := by
    intro sender senderInside other
    have apart : network.successor index ≠ network.successor sender :=
      fun same => other (successor_inj senderInside inside same.symm)
    simp [outbound, destination, apart]
  refine ⟨?_, fun other member => ?_, fun _ sender senderInside => ?_,
    fun sender senderInside position other listed => ?_⟩
  · have total := mail.total
    rw [if_pos several] at total ⊢
    rw [List.length_append, total]
    rfl
  · cases List.mem_append.mp member with
    | inl before => exact mail.bound other before
    | inr now =>
      cases List.mem_singleton.mp now
      rw [destination]
      exact successor_lt inside
  · have count := mail.count several sender senderInside
    by_cases here : sender = index
    · subst here
      rw [if_neg (Nat.lt_irrefl _)] at count
      rw [own, List.length_append, count, if_pos (Nat.lt_succ_self _)]
      rfl
    · rw [others sender senderInside here, count]
      split <;> split <;> omega
  · by_cases here : sender = index
    · subst here
      have count := mail.count several sender senderInside
      rw [if_neg (Nat.lt_irrefl _)] at count
      rw [own, List.getElem?_append] at listed
      split at listed
      · exact mail.letters sender senderInside position other listed
      · have last := (List.getElem?_eq_some_iff.mp listed).1
        rw [List.length_singleton] at last
        obtain rfl : position = tick := by omega
        rw [count, Nat.sub_self] at listed
        cases listed
        exact ⟨timed, tells⟩
    · rw [others sender senderInside here] at listed
      exact mail.letters sender senderInside position other listed

/-- A node on its own sends nothing. -/
theorem alone (mail : network.Mail talk log tick taken) (single : ¬ 1 < network.config.nodeCount)
    (later next : Nat) : network.Mail talk log later next := by
  have total := mail.total
  rw [if_neg single] at total
  exact ⟨by rw [total, if_neg single], mail.bound, fun several => absurd several single,
    mail.letters⟩

/-- After the turns of a tick comes the next. -/
theorem next (mail : network.Mail talk log tick network.config.nodeCount) :
    network.Mail talk log (tick + 1) 0 := by
  refine ⟨?_, mail.bound, fun several sender inside => ?_, mail.letters⟩
  · rw [mail.total, Nat.succ_mul]
    rfl
  · rw [mail.count several sender inside, if_pos inside, if_neg (Nat.not_lt_zero _)]

end Mail

end Network

end Lockstep
