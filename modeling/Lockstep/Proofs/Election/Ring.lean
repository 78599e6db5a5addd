import Lockstep.Proofs.Delivery.Addressing
import Lockstep.Proofs.Election.Vote
import Lockstep.Proofs.Ring.Run

/-!
What holds throughout a ring election.

A node consumes at least one message in every tick from `maxDelay` on, which bounds the time a message
waits: one sent in a tick has been consumed `lag` ticks later, and not before `minDelay` ticks have
passed. The greatest number thus moves on by a node in at most `lag` ticks (`Talker.informed`) and in
at least `minDelay` (`Talker.learns_late`). Nodes that tell and know so much (`campaign`) keep doing so
(`HoldsElection.ring`).
-/
namespace Lockstep.Network

variable {ρ σ : Type} {network : Network ρ σ} {bytecode : Bytecode} {log : List Message}
  {tick taken clock index : Nat} {station : Station}

/-- How many ticks after a message was sent it has been consumed. -/
def lag (network : Network ρ σ) : Nat :=
  2 * network.config.maxDelay - network.config.minDelay

/-- What a message sent in a tick tells. A node that is so many nodes from the greatest as its
successor's number says knows of it that many lags into the run, and not before the news had the time
to come that far. -/
structure Letter (network : Network ρ σ) (sender tick : Nat) (message : Message) : Prop where
  bounded : message.word.toInt ≤ network.leader
  telling : network.successor sender * network.lag ≤ tick → message.word.toInt = network.leader
  late : message.word.toInt = network.leader →
    network.successor sender * network.config.minDelay ≤ tick

/-- A station that knows of the greatest number it has received. Its clock is the tick of its next
step. -/
structure Candidate (network : Network ρ σ) (queue : List Message) (clock index : Nat)
    (station : Station) : Prop where
  own : (index : Int) ≤ (station.number network.table).toInt
  bounded : (station.number network.table).toInt ≤ network.leader
  heard : ∀ message ∈ queue.take station.received,
    message.word.toInt ≤ (station.number network.table).toInt
  late : (station.number network.table).toInt = network.leader → 0 < network.successor index →
    network.successor index * network.config.minDelay < clock
  /-- What was read in the last step. -/
  shown : (0 < network.successor index → network.successor index * network.lag + 1 < clock) →
    (station.memory.read network.table.nodeId).toInt = network.leader
  shownLate : (station.memory.read network.table.nodeId).toInt = network.leader →
    0 < network.successor index →
      network.successor index * network.config.minDelay + 1 < clock

/-- What the nodes of an election tell and know. -/
def campaign (network : Network ρ σ) : Talk where
  tells := network.Letter
  knows := network.Candidate

/-- A network on which a ring election is held. -/
structure HoldsElection (network : Network ρ σ) (bytecode : Bytecode) : Prop where
  settings : network.config.Valid
  electoral : network.table.Electoral
  made : Bytecode.leaderElection network.table = .ok bytecode
  program : ∀ index, network.program index = bytecode.program
  router : network.router = Router.ring
  window : network.InWindow
  small : network.config.nodeCount < negativeCount

/-! ### Messages in time -/

/-- What has arrived by a tick comes first in the order of arrival. -/
theorem mem_take_arrived {moment received : Nat} {message : Message} (member : message ∈ log)
    (here : message.destination = index) (reached : message.arrival ≤ moment)
    (enough : (arrived log message.arrival index).length ≤ received) :
    message ∈ (arrived log moment index).take received := by
  have parts := inOrder_split ((log.filter (·.destination == index)).filter (·.arrival ≤ moment))
    message.arrival
  have early : ((log.filter (·.destination == index)).filter (·.arrival ≤ moment)).filter
      (·.arrival ≤ message.arrival) =
        (log.filter (·.destination == index)).filter (·.arrival ≤ message.arrival) := by
    rw [List.filter_filter]
    apply List.filter_congr
    intro other _
    rw [Bool.eq_iff_iff]
    simp only [Bool.and_eq_true, decide_eq_true_eq]
    omega
  rw [early] at parts
  have first : message ∈ arrived log message.arrival index :=
    mem_arrived.mpr ⟨member, here, Nat.le_refl _⟩
  rw [show arrived log moment index = arrived log message.arrival index ++ _ from parts,
    List.take_append]
  exact List.mem_append_left _ (by rwa [List.take_of_length_le enough])

theorem lag_eq (settings : network.config.Valid) : network.config.maxDelay ≤ network.lag ∧
    network.lag + network.config.minDelay = 2 * network.config.maxDelay := by
  have := settings.ordered
  rw [lag]
  omega

/-- A node knows of the greatest number as soon as the news has had the time to reach it. -/
theorem Talker.informed
    (talker : network.Talker network.campaign (arrived log tick index) clock index station)
    (mail : network.Mail network.campaign log tick taken) (settings : network.config.Valid)
    (inside : index < network.config.nodeCount) (recent : clock ≤ tick + 1)
    (early : tick < lastTick)
    (reached : 0 < network.successor index → network.successor index * network.lag < clock) :
    (station.number network.table).toInt = network.leader := by
  have candidate : network.Candidate .. := talker.knows
  have own := candidate.own
  have bounded := candidate.bounded
  rcases successor_cases inside with ⟨last, _⟩ | ⟨before, next⟩
  · rw [leader] at bounded ⊢
    omega
  · rw [next] at reached
    have news := reached (Nat.succ_pos _)
    rw [Nat.succ_mul] at news
    have several : 1 < network.config.nodeCount := by omega
    obtain ⟨sender, senderInside, same⟩ := exists_predecessor inside
    obtain ⟨latest, span⟩ := lag_eq settings
    have positive := settings.positive
    have ordered := settings.ordered
    -- the message that its predecessor sent with the news
    have sent : index * network.lag < (network.outbound log sender).length := by
      rw [mail.count several sender senderInside]
      split <;> omega
    have listed := List.getElem?_eq_getElem sent
    obtain ⟨timed, letter⟩ := mail.letters sender senderInside _ _ listed
    have member := List.mem_filter.mp (List.mem_of_getElem? listed)
    generalize (network.outbound log sender)[index * network.lag] = message at *
    have arrives := timed.latest
    have told : message.word.toInt = network.leader :=
      letter.telling (Nat.le_of_eq (by rw [same]))
    have waited := mail.length_arrived_le senderInside (show message.arrival < lastTick by omega)
    rw [same] at waited
    have pace := talker.pace several
    have heard := candidate.heard message (mem_take_arrived member.1
      ((beq_iff_eq.mp member.2).trans same) (by omega) (by omega))
    omega

/-! ### Steps -/

theorem mem_of_mem_inbox (kept : station.KeepsUp (arrived log tick index) tick) :
    ∀ message ∈ station.inbox, message ∈ arrived log tick index := by
  intro message member
  rw [kept.inbox] at member
  exact List.mem_of_mem_drop member

/-- A node does not learn of the greatest number before the news can have reached it. -/
theorem Candidate.learns_late
    (candidate : network.Candidate (arrived log tick index) tick index station)
    (kept : station.KeepsUp (arrived log tick index) tick)
    (mail : network.Mail network.campaign log tick taken)
    (inside : index < network.config.nodeCount) (early : tick < lastTick)
    (next : 0 < network.successor index)
    (knows : (station.learns network.table).toInt = network.leader) :
    network.successor index * network.config.minDelay ≤ tick := by
  have source : station.learns network.table = station.number network.table ∨
      ∃ message ∈ station.inbox.head?, station.learns network.table = message.word :=
    Station.learns_eq
  rcases source with same | ⟨message, first, same⟩
  · rw [same] at knows
    exact Nat.le_of_lt (candidate.late knows next)
  · have member := mem_of_mem_inbox kept message (List.mem_of_mem_head? first)
    obtain ⟨sender, senderInside, position, here, timed, letter⟩ := mail.exists_letter inside member
    have reached := (mem_arrived.mp member).2.2
    have earliest := timed.earliest
    have sent : network.successor sender * network.config.minDelay ≤ position :=
      Letter.late letter (same ▸ knows)
    rcases successor_cases inside with ⟨_, _⟩ | ⟨_, following⟩
    · omega
    · rw [here] at sent
      rw [following, Nat.succ_mul]
      omega

/-- After its step a candidate knows what the message it consumed told. -/
theorem HoldsElection.step (holds : network.HoldsElection bytecode) {shared : σ}
    (talker : network.Talker network.campaign (arrived log tick index) tick index station)
    (kept : station.KeepsUp (arrived log tick index) tick) (rests : station.AtRest network.table)
    (mail : network.Mail network.campaign log tick taken)
    (inside : index < network.config.nodeCount) (early : tick < lastTick) :
    network.Candidate (arrived log tick index) (tick + 1) index
      (station.step network.table bytecode.program false shared).station := by
  have candidate : network.Candidate .. := talker.knows
  have voted : Station.Voted network.table station
      (station.step network.table bytecode.program false shared) :=
    rests.voted holds.electoral holds.made talker.running
  have ran : Station.Ran network.table station
      (station.perform network.table bytecode.program shared)
      (station.step network.table bytecode.program false shared) :=
    Station.step_running talker.running
  have grows : (station.number network.table).toInt ≤ (station.learns network.table).toInt :=
    Station.number_le_learns
  rw [← voted.number] at grows
  refine ⟨Int.le_trans candidate.own grows, ?_, ?_, fun knows next => ?_, fun reached => ?_,
    fun knows next => ?_⟩
  · rw [voted.number]
    refine Station.learns_le candidate.bounded fun message member => ?_
    obtain ⟨sender, -, position, -, -, letter⟩ :=
      mail.exists_letter inside (mem_of_mem_inbox kept message member)
    exact Letter.bounded letter
  · rw [ran.received, voted.number]
    exact kept.heard candidate.heard
  · rw [voted.number] at knows
    exact Nat.lt_succ_of_le (candidate.learns_late kept mail inside early next knows)
  · rw [voted.shown]
    exact talker.informed mail holds.settings inside (Nat.le_succ _) early fun next =>
      Nat.lt_of_succ_lt_succ (reached next)
  · rw [voted.shown] at knows
    exact Nat.succ_lt_succ (candidate.late knows next)

/-- The letter of a candidate that has taken its step. -/
theorem Talker.letter
    (talker : network.Talker network.campaign (arrived log tick index) (tick + 1) index station)
    (mail : network.Mail network.campaign log tick taken) (settings : network.config.Valid)
    (inside : index < network.config.nodeCount) (early : tick < lastTick) {message : Message}
    (word : message.word = station.number network.table) :
    network.Letter index tick message := by
  have candidate : network.Candidate .. := talker.knows
  refine ⟨?_, fun news => ?_, fun knows => ?_⟩
  · rw [word]
    exact candidate.bounded
  · rw [word]
    exact talker.informed mail settings inside (Nat.le_refl _) early fun _ =>
      Nat.lt_succ_of_le news
  · rw [word] at knows
    cases Nat.eq_zero_or_pos (network.successor index) with
    | inl first =>
      rw [first, Nat.zero_mul]
      exact Nat.zero_le _
    | inr next => exact Nat.le_of_lt_succ (candidate.late knows next)

/-- An election starts with every node knowing its own number. -/
theorem HoldsElection.opens (holds : network.HoldsElection bytecode)
    (inside : index < network.config.nodeCount) :
    network.Candidate [] 0 index (network.freshStation index) := by
  obtain ⟨read, prepared⟩ := holds.electoral.own index network.config.nodeCount
  have word := Cell.toInt_ofCount (Nat.lt_trans inside holds.small)
  have own : ((network.freshStation index).number network.table).toInt = index :=
    (congrArg Int64.toInt prepared).trans word
  have shown : ((network.freshStation index).memory.read network.table.nodeId).toInt = index :=
    (congrArg Int64.toInt read).trans word
  have last : (index : Int) = network.leader → ¬ 0 < network.successor index := by
    intro greatest
    rw [leader] at greatest
    rcases successor_cases inside with ⟨_, _⟩ | ⟨_, _⟩ <;> omega
  refine ⟨Int.le_of_eq own.symm, ?_, nofun, fun knows => ?_, fun reached => ?_, fun knows => ?_⟩
  · rw [own, leader]
    omega
  · exact fun next => absurd next (last (own.symm.trans knows))
  · rw [shown, leader]
    rcases successor_cases inside with ⟨_, _⟩ | ⟨_, next⟩
    · omega
    · exact absurd (reached (next ▸ Nat.succ_pos _)) (Nat.not_lt_zero _)
  · exact fun next => absurd next (last (shown.symm.trans knows))

/-- Delivery leaves what a candidate has consumed and what it knows. -/
theorem Candidate.enqueue {queue due messages : List Message}
    (candidate : network.Candidate queue clock index station)
    (running : station.isTerminated = false) (received : station.received ≤ queue.length) :
    network.Candidate (queue ++ due) clock index (station.enqueue messages) := by
  rw [Station.enqueue_running running]
  refine ⟨candidate.own, candidate.bounded, ?_, candidate.late, candidate.shown,
    candidate.shownLate⟩
  rw [List.take_append_of_le_length received]
  exact candidate.heard

/-- An election is held on a ring. -/
theorem HoldsElection.ring (holds : network.HoldsElection bytecode) :
    network.Ring network.campaign where
  settings := holds.settings
  valid := holds.electoral.valid
  router := holds.router
  window := holds.window
  opens _ inside := holds.opens inside
  speaks := by
    intro log tick taken index station shared mail talker kept rests inside early
    have electoral := holds.electoral
    obtain ⟨memory, played, -⟩ := Bytecode.play_leaderElection holds.made electoral.valid
      (rests.consume_fits electoral.valid).roll electoral.receives electoral.sends
      electoral.numbered electoral.posted station.place
    have speaks : station.Speaks network.table bytecode.program shared memory :=
      .of_call talker.running played
    have candidate : network.Candidate (arrived log tick index) (tick + 1) index
        (station.step network.table bytecode.program false shared).station :=
      holds.step talker kept rests mail inside early
    rw [holds.program]
    refine ⟨memory, speaks, fun arrival => ?_, candidate⟩
    have stepped := talker.step kept mail holds.settings inside speaks candidate
    have voted : Station.Voted network.table station
        (station.step network.table bytecode.program false shared) :=
      rests.voted electoral holds.made talker.running
    obtain ⟨signal, -, sends⟩ := speaks.sends false
    obtain ⟨payload, outgoing, word⟩ := voted.sends
    cases Option.some.inj (outgoing.symm.trans sends.outgoing)
    exact stepped.letter mail holds.settings inside early word
  hears := Candidate.enqueue

end Lockstep.Network
