import Lockstep.Proofs.Delivery.Addressing
import Mathlib.Data.Int.ModEq
import Mathlib.Data.List.Nodup
import Mathlib.Data.List.Perm.Subperm
import Mathlib.Logic.Function.Iterate

/-!
Where the routers send.

Broadcast, ring and directed messages go to other nodes of the network, and to none of them twice
(`Router.Sparing`). Around the ring every node is met once before the way comes back to where it
started (`Router.perm_iterate_successor`), and a word names the one node that it is congruent to
(`Router.addressee_iff`). Together this is what the routers promise (`Addressing.routes_promised`).
-/
namespace Lockstep

namespace Router

variable {nodeCount sender : Nat} {payload : Cells}

/-- The destinations are nodes of the network other than the sender, and each is named once. -/
structure Sparing (nodeCount sender : Nat) (destinations : List Nat) : Prop where
  inside : ∀ destination ∈ destinations, destination < nodeCount
  away : sender ∉ destinations
  once : destinations.Nodup

theorem Sparing.nil : Sparing nodeCount sender [] where
  inside := by simp
  away := by simp
  once := List.nodup_nil

theorem Sparing.singleton {destination : Nat} (inside : destination < nodeCount)
    (other : destination ≠ sender) : Sparing nodeCount sender [destination] where
  inside := by simpa using inside
  away := by simpa using other.symm
  once := List.nodup_singleton destination

/-! ### Broadcast -/

theorem broadcast_sparing (nodeCount sender : Nat) (payload : Cells) :
    Sparing nodeCount sender (broadcast sender payload nodeCount) where
  inside _ member := List.mem_range.mp (List.mem_filter.mp member).1
  away member := by simp [broadcast] at member
  once := List.nodup_range.filter _

theorem count_broadcast (payload : Cells) {probe : Nat} (inside : probe < nodeCount)
    (other : probe ≠ sender) : (broadcast sender payload nodeCount).count probe = 1 := by
  apply List.count_eq_one_of_mem (broadcast_sparing nodeCount sender payload).once
  exact List.mem_filter.mpr ⟨List.mem_range.mpr inside, by simpa using other⟩

/-! ### The ring -/

/-- The node that comes next on a ring. -/
def successor (nodeCount index : Nat) : Nat :=
  (index + 1) % nodeCount

theorem successor_ne (several : 1 < nodeCount) (inside : sender < nodeCount) :
    successor nodeCount sender ≠ sender := by
  rcases Nat.lt_or_eq_of_le (Nat.succ_le_of_lt inside) with before | last
  · rw [successor, Nat.mod_eq_of_lt before]
    exact Nat.succ_ne_self sender
  · rw [successor, ← Nat.succ_eq_add_one, last, Nat.mod_self]
    omega

theorem ring_of_lt (several : 1 < nodeCount) :
    ring sender payload nodeCount = [successor nodeCount sender] :=
  if_pos several

theorem ring_sparing (inside : sender < nodeCount) (payload : Cells) :
    Sparing nodeCount sender (ring sender payload nodeCount) := by
  by_cases several : 1 < nodeCount
  · rw [ring_of_lt several]
    exact .singleton (Nat.mod_lt _ (by omega)) (successor_ne several inside)
  · rw [ring, if_neg several]
    exact .nil

theorem iterate_successor {start : Nat} (inside : start < nodeCount) (hops : Nat) :
    (successor nodeCount)^[hops] start = (start + hops) % nodeCount := by
  induction hops with
  | zero => exact (Nat.mod_eq_of_lt inside).symm
  | succ hops ih =>
    rw [Function.iterate_succ_apply', ih, successor, Nat.mod_add_mod, Nat.add_assoc]

/-- The first hops around the ring meet every node, none of them twice. -/
theorem perm_iterate_successor {start : Nat} (inside : start < nodeCount) :
    ((List.range nodeCount).map fun hops => (successor nodeCount)^[hops] start).Perm
      (List.range nodeCount) := by
  have apart : ((List.range nodeCount).map fun hops => (successor nodeCount)^[hops] start).Nodup := by
    apply List.Nodup.map_on _ List.nodup_range
    intro first firstInside second secondInside same
    rw [iterate_successor inside, iterate_successor inside] at same
    exact (Nat.ModEq.add_left_cancel' start same).eq_of_lt_of_lt
      (List.mem_range.mp firstInside) (List.mem_range.mp secondInside)
  have known : ((List.range nodeCount).map fun hops => (successor nodeCount)^[hops] start) ⊆
      List.range nodeCount := by
    intro node member
    obtain ⟨hops, -, rfl⟩ := List.mem_map.mp member
    rw [iterate_successor inside]
    exact List.mem_range.mpr (Nat.mod_lt _ (by omega))
  apply (List.subperm_of_subset apart known).perm_of_length_le
  rw [List.length_map]

/-! ### Directed messages -/

/-- A word names the one node that it is congruent to modulo the number of nodes. -/
theorem addressee_iff (few : nodeCount < negativeCount) (nodes : 0 < nodeCount) (word : Cell)
    (destination : Nat) :
    destination = addressee word nodeCount ↔
      destination < nodeCount ∧ (destination : Int) ≡ word.toInt [ZMOD nodeCount] := by
  have positive : (0 : Int) < nodeCount := by exact_mod_cast nodes
  have named : (addressee word nodeCount : Int) = word.toInt % nodeCount := by
    rw [addressee, Cell.toInt_ofCount few]
    exact Int.toNat_of_nonneg (Int.emod_nonneg _ positive.ne')
  constructor
  · rintro rfl
    refine ⟨?_, ?_⟩
    · have below := Int.emod_lt_of_pos word.toInt positive
      omega
    · rw [named]
      exact Int.mod_modEq _ _
  · rintro ⟨inside, congruent⟩
    have remainder : (destination : Int) % nodeCount = destination :=
      Int.emod_eq_of_lt (by omega) (by omega)
    have same : (destination : Int) = word.toInt % nodeCount := remainder.symm.trans congruent
    omega

theorem directed_of_none {offset : Nat} (short : payload[offset]? = none) :
    directed offset sender payload nodeCount = [] := by
  rw [directed, short]

theorem directed_of_some {offset : Nat} {word : Cell} (nodes : 0 < nodeCount)
    (found : payload[offset]? = some word) :
    directed offset sender payload nodeCount =
      if addressee word nodeCount = sender then [] else [addressee word nodeCount] := by
  rw [directed, found]
  exact if_neg nodes.ne'

theorem directed_sparing (few : nodeCount < negativeCount) (inside : sender < nodeCount)
    (offset : Nat) : Sparing nodeCount sender (directed offset sender payload nodeCount) := by
  have nodes : 0 < nodeCount := by omega
  cases found : payload[offset]? with
  | none =>
    rw [directed_of_none found]
    exact .nil
  | some word =>
    rw [directed_of_some nodes found]
    split
    · exact .nil
    · rename_i other
      exact .singleton ((addressee_iff few nodes word _).mp rfl).1 other

end Router

namespace Addressing

/-- In a network with fewer nodes than there are words to number them, for a message of any of its
nodes: every router but one of fixed destinations names other nodes of the network, none of them
twice. Broadcast names each once; on a ring of several nodes the way from any node meets each node
once before it is back; a directed message goes to the one node that its word is congruent to, unless
the message is too short or that node is the sender. -/
theorem routes_promised {nodeCount sender : Nat} (few : nodeCount < negativeCount)
    (inside : sender < nodeCount) (payload : Cells) :
    (∀ addressing : Addressing, (∀ list, addressing ≠ .fixed list) →
      ∃ destinations, addressing.resolve sender payload nodeCount = .ok destinations ∧
        Router.Sparing nodeCount sender destinations) ∧
    (∃ destinations, Addressing.broadcast.resolve sender payload nodeCount = .ok destinations ∧
      ∀ probe < nodeCount, probe ≠ sender → destinations.count probe = 1) ∧
    (1 < nodeCount → ∃ next : Nat → Nat,
      (∀ index < nodeCount, ∀ words : Cells,
        Addressing.ring.resolve index words nodeCount = .ok [next index]) ∧
      ∀ start < nodeCount,
        ((List.range nodeCount).map fun hops => next^[hops] start).Perm (List.range nodeCount) ∧
          next^[nodeCount] start = start) ∧
    ∀ offset, ∃ destinations,
      (Addressing.directed offset).resolve sender payload nodeCount = .ok destinations ∧
      (payload[offset]? = none → destinations = []) ∧
      ∀ word, payload[offset]? = some word → ∃ named,
        (∀ destination, destination = named ↔
          destination < nodeCount ∧ (destination : Int) ≡ word.toInt [ZMOD nodeCount]) ∧
        destinations = if named = sender then [] else [named] := by
  have nodes : 0 < nodeCount := by omega
  refine ⟨fun addressing builtIn => ?_, ?_, fun several => ?_, fun offset => ?_⟩
  · refine ⟨_, resolve_of_lt few inside addressing payload, ?_⟩
    cases addressing with
    | ring => exact Router.ring_sparing inside payload
    | broadcast => exact Router.broadcast_sparing nodeCount sender payload
    | directed offset => exact Router.directed_sparing few inside offset
    | fixed list => exact absurd rfl (builtIn list)
  · exact ⟨_, resolve_of_lt few inside .broadcast payload,
      fun probe within other => Router.count_broadcast payload within other⟩
  · refine ⟨Router.successor nodeCount, fun index within words => ?_, fun start within => ?_⟩
    · rw [resolve_of_lt few within, router, Router.ring_of_lt several]
    · refine ⟨Router.perm_iterate_successor within, ?_⟩
      rw [Router.iterate_successor within, Nat.add_mod_right, Nat.mod_eq_of_lt within]
  · refine ⟨_, resolve_of_lt few inside (.directed offset) payload, Router.directed_of_none,
      fun word found => ?_⟩
    exact ⟨Router.addressee word nodeCount, Router.addressee_iff few nodes word,
      Router.directed_of_some nodes found⟩

/-- The least word is congruent to one modulo three, and names that node unless it is the sender. -/
theorem routes_promised_least :
    (3 : Nat) < negativeCount ∧ 2 < 3 ∧
      (Addressing.directed 1).resolve 2 #[9, Int64.minValue] 3 = .ok [1] ∧
      (Addressing.directed 1).resolve 1 #[9, Int64.minValue] 3 = .ok [] := by
  have few : 3 < negativeCount := by decide
  obtain ⟨-, -, -, directed⟩ :=
    routes_promised few (show 2 < 3 by decide) #[9, Int64.minValue]
  obtain ⟨-, -, -, own⟩ := routes_promised few (show 1 < 3 by decide) #[9, Int64.minValue]
  obtain ⟨destinations, resolved, -, known⟩ := directed 1
  obtain ⟨destinationsOwn, resolvedOwn, -, knownOwn⟩ := own 1
  obtain ⟨named, congruent, rfl⟩ := known Int64.minValue rfl
  obtain ⟨_, congruentOwn, rfl⟩ := knownOwn Int64.minValue rfl
  have one : 1 = named := (congruent 1).mpr ⟨by decide, by decide⟩
  have oneOwn := (congruentOwn 1).mpr ⟨by decide, by decide⟩
  subst one oneOwn
  exact ⟨few, by decide, resolved, resolvedOwn⟩

end Addressing

end Lockstep
