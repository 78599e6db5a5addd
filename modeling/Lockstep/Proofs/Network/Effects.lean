import Lockstep.Proofs.Node.Stepping

/-!
What the parts of a tick do to a scene.

A turn replaces one station and sends some messages (`leftBy_plainTurn`), whether it fails or not;
delivery adds messages to queues (`stations_deliverDue`). Nothing else happens, and what is proved
of a run is proved from these two.
-/
namespace Lockstep

/-- A step that failed sends nothing. -/
theorem Station.outgoing_of_failed {σ : Type} {table : SymbolTable} {program : Program σ}
    {full : Bool} {station : Station} {shared : σ} {error : StepError}
    (failed : (station.step table program full shared).outcome = .failed error) :
    (station.step table program full shared).outgoing = none := by
  revert failed
  unfold Station.step
  split
  · intro _
    rfl
  · dsimp only
    split
    · intro _
      rfl
    · unfold Station.conclude
      dsimp only
      split
      · intro _
        rfl
      · exact fun failed => (Performance.outcome_ne_failed _ error failed).elim

/-- The station with more messages in its queue, unless it has halted. -/
def Station.enqueue (station : Station) (messages : List Message) : Station :=
  if station.isTerminated then station
  else { station with inbox := station.inbox ++ messages }

@[simp] theorem Station.enqueue_nil (station : Station) : station.enqueue [] = station := by
  simp [Station.enqueue]

theorem Station.enqueue_running {station : Station} (running : station.isTerminated = false)
    (messages : List Message) :
    station.enqueue messages = { station with inbox := station.inbox ++ messages } := by
  rw [Station.enqueue, if_neg (by simp [running])]

theorem Station.enqueue_append (station : Station) (first second : List Message) :
    station.enqueue (first ++ second) = (station.enqueue first).enqueue second := by
  cases halted : station.isTerminated with
  | true => simp [Station.enqueue, halted]
  | false =>
    have still : Station.isTerminated { station with inbox := station.inbox ++ first } = false :=
      halted
    simp [Station.enqueue, halted, still]

namespace Network

variable {ρ σ : Type} {network : Network ρ σ} {scene : Scene ρ σ} {station : Station}
  {tick index : Nat}

/-- The scene that work has led to, whether it failed or not. -/
def leftBy : Except (Failure ρ σ) (Scene ρ σ) → Scene ρ σ
  | .ok scene => scene
  | .error failure => failure.scene

/-- The destinations that get a message when there is room for so many. Without room for all, the
last message that there is room for is not sent. -/
def served (room : Nat) (destinations : List Nat) : List Nat :=
  if destinations.length ≤ room then destinations else destinations.take (room - 1)

/-- The messages sent in a turn, with the random state they leave behind. -/
def sentIn (network : Network ρ σ) (tick : Nat) (scene : Scene ρ σ) (index : Nat) :
    List Message × ρ :=
  match scene.stations[index]? with
  | none => ([], scene.random)
  | some station =>
    let stepped := network.plainStep station scene index
    match stepped.outgoing with
    | none => ([], scene.random)
    | some payload =>
      network.address tick index payload
        (served (network.room (scene.setStation index stepped.station))
          (network.destinations index payload scene.stations.length)) scene.random

theorem length_address (network : Network ρ σ) (tick sender : Nat) (payload : Cells)
    (destinations : List Nat) (random : ρ) :
    (network.address tick sender payload destinations random).1.length = destinations.length := by
  induction destinations generalizing random with
  | nil => rfl
  | cons destination rest ih => exact congrArg (· + 1) (ih _)

/-- What every message sent at once has in common. -/
theorem mem_address {message : Message} {sender : Nat} {payload : Cells} {destinations : List Nat}
    {random : ρ} (member : message ∈ (network.address tick sender payload destinations random).1) :
    message.payload = payload ∧ message.source = sender ∧ message.destination ∈ destinations ∧
      ∃ drawnFrom, message.arrival = min (tick + (network.source.draw drawnFrom
        network.config.minDelay network.config.maxDelay).1) lastTick := by
  induction destinations generalizing random with
  | nil => cases member
  | cons destination rest ih =>
    rcases List.mem_cons.mp member with rfl | later
    · exact ⟨rfl, rfl, List.mem_cons_self, random, rfl⟩
    · obtain ⟨words, source, inside, drawn⟩ := ih later
      exact ⟨words, source, List.mem_cons_of_mem _ inside, drawn⟩

theorem mem_served {room destination : Nat} {destinations : List Nat}
    (member : destination ∈ served room destinations) : destination ∈ destinations := by
  unfold served at member
  split at member
  · exact member
  · exact List.mem_of_mem_take member

theorem mem_sentIn {message : Message}
    (member : message ∈ (network.sentIn tick scene index).1) :
    ∃ station payload, scene.stations[index]? = some station ∧
      (network.plainStep station scene index).outgoing = some payload ∧
      message.payload = payload ∧ message.source = index ∧
      message.destination ∈ network.destinations index payload scene.stations.length ∧
      ∃ drawnFrom, message.arrival = min (tick + (network.source.draw drawnFrom
        network.config.minDelay network.config.maxDelay).1) lastTick := by
  unfold sentIn at member
  split at member
  · cases member
  · rename_i station found
    dsimp only at member
    split at member
    · cases member
    · rename_i payload sends
      obtain ⟨words, source, inside, drawn⟩ := mem_address member
      exact ⟨station, payload, found, sends, words, source, mem_served inside, drawn⟩

theorem leftBy_plainSend (network : Network ρ σ) (tick sender : Nat) (payload : Cells)
    (destinations : List Nat) (scene : Scene ρ σ) :
    let sent := network.address tick sender payload
      (served (network.room scene) destinations) scene.random
    let after := leftBy (network.plainSend tick sender payload destinations scene)
    after.stations = scene.stations ∧ after.transit = scene.transit ++ sent.1 ∧
      after.random = sent.2 ∧ after.shared = scene.shared ∧
      after.tally = { scene.tally with sent := scene.tally.sent + sent.1.length } := by
  simp only [plainSend, served, length_address]
  split <;> simp [leftBy, post, Scene.mark]

/-- What a turn comes to once its step is done. -/
def endTurn (network : Network ρ σ) (tick index used : Nat) (stepped : Station.Stepped σ)
    (after : Scene ρ σ) : Except (Failure ρ σ) (Scene ρ σ) :=
  match stepped.outcome with
  | .failed error => .error ⟨after, index, network.plainCause error⟩
  | _ =>
    match stepped.outgoing with
    | none => .ok after
    | some payload => network.plainDispatch tick index payload (after.mark (used + 1))

theorem endTurn_silent (network : Network ρ σ) (tick index used : Nat)
    {stepped : Station.Stepped σ} (lasting : ∀ error, stepped.outcome ≠ .failed error)
    (silent : stepped.outgoing = none) (after : Scene ρ σ) :
    network.endTurn tick index used stepped after = .ok after := by
  unfold endTurn
  split
  · rename_i error failed
    exact (lasting error failed).elim
  · rw [silent]

theorem endTurn_sends (network : Network ρ σ) (tick index used : Nat)
    {stepped : Station.Stepped σ} (lasting : ∀ error, stepped.outcome ≠ .failed error)
    {payload : Cells} (sends : stepped.outgoing = some payload) (after : Scene ρ σ) :
    network.endTurn tick index used stepped after =
      network.plainDispatch tick index payload (after.mark (used + 1)) := by
  unfold endTurn
  split
  · rename_i error failed
    exact (lasting error failed).elim
  · rw [sends]

theorem plainTurn_eq (network : Network ρ σ) (tick : Nat) {index : Nat} {station : Station}
    (found : scene.stations[index]? = some station) :
    network.plainTurn tick scene index =
      network.endTurn tick index (usedBy station scene) (network.plainStep station scene index)
        { scene.setStation index (network.plainStep station scene index).station with
          shared := (network.plainStep station scene index).shared } := by
  rw [plainTurn, found]
  rfl

/-- A turn fails by a fault of its step, or for want of buffers. Its node is blamed. -/
theorem plainTurn_cause {failure : Failure ρ σ} (found : scene.stations[index]? = some station)
    (failed : network.plainTurn tick scene index = .error failure) :
    failure.node = index ∧
      ((∃ fault, (network.plainStep station scene index).outcome = .failed (.fault fault) ∧
          failure.cause = .programFault fault) ∨
        failure.cause = .resourceExhausted network.config.capacity) := by
  rw [plainTurn_eq network tick found, endTurn] at failed
  split at failed
  · rename_i error outcome
    cases failed
    cases error with
    | fault fault => exact ⟨rfl, .inl ⟨fault, outcome, rfl⟩⟩
    | poolExhausted => exact ⟨rfl, .inr rfl⟩
  · split at failed
    · cases failed
    · unfold plainDispatch plainSend at failed
      split at failed
      · cases failed
      · cases failed
        exact ⟨rfl, .inr rfl⟩

/-- With room for all messages, they are sent. -/
theorem plainDispatch_ok (tick : Nat) {payload : Cells} {sender : Nat} {destinations : List Nat}
    (resolved : network.destinations sender payload scene.stations.length = destinations)
    (room : destinations.length ≤ network.room scene) :
    ∃ after, network.plainDispatch tick sender payload scene = .ok after := by
  rw [plainDispatch, resolved, plainSend, if_pos room]
  exact ⟨_, rfl⟩

/-- Without room for all messages, sending fails. -/
theorem plainDispatch_error (tick : Nat) {payload : Cells} {sender : Nat} {destinations : List Nat}
    (resolved : network.destinations sender payload scene.stations.length = destinations)
    (scarce : network.room scene < destinations.length) :
    ∃ failure, network.plainDispatch tick sender payload scene = .error failure := by
  rw [plainDispatch, resolved, plainSend, if_neg (Nat.not_le.mpr scarce)]
  exact ⟨_, rfl⟩

/-- A turn, failed or not, replaces its station and sends messages. -/
theorem leftBy_plainTurn (network : Network ρ σ) (tick : Nat)
    (found : scene.stations[index]? = some station) :
    let stepped := network.plainStep station scene index
    let sent := network.sentIn tick scene index
    let after := leftBy (network.plainTurn tick scene index)
    after.stations = scene.stations.set index stepped.station ∧
      after.transit = scene.transit ++ sent.1 ∧ after.random = sent.2 ∧
      after.shared = stepped.shared ∧
      after.tally = { scene.tally with sent := scene.tally.sent + sent.1.length } := by
  simp only [plainTurn, found, sentIn]
  cases outcome : (network.plainStep station scene index).outcome with
  | failed error =>
    have nothing : (network.plainStep station scene index).outgoing = none :=
      Station.outgoing_of_failed outcome
    simp [nothing, leftBy, Scene.setStation]
  | unchanged | changed =>
    cases outgoing : (network.plainStep station scene index).outgoing with
    | none => simp [leftBy, Scene.setStation]
    | some payload =>
      have count : (scene.stations.set index
          (network.plainStep station scene index).station).length = scene.stations.length :=
        List.length_set
      have sent := leftBy_plainSend network tick index payload
        (network.destinations index payload scene.stations.length)
        ({ scene.setStation index (network.plainStep station scene index).station with
            shared := (network.plainStep station scene index).shared }.mark
          (usedBy station scene + 1))
      simp only [plainDispatch, Scene.mark, Scene.setStation, count] at sent ⊢
      exact sent

/-- Of stations of which one has been replaced, each is the new one or was there before. -/
theorem found_of_set {stations : List Station} {stepped other : Station} {probe : Nat}
    (listed : (stations.set index stepped)[probe]? = some other) :
    probe = index ∧ other = stepped ∨ probe ≠ index ∧ stations[probe]? = some other := by
  rw [List.getElem?_set] at listed
  split at listed
  · rename_i same
    split at listed
    · cases listed
      exact .inl ⟨same.symm, rfl⟩
    · cases listed
  · rename_i apart
    exact .inr ⟨Ne.symm apart, listed⟩

/-- What holds of every station by the tick of its next step still does after a turn, if it holds of
the station whose turn it was. -/
theorem forall_set (Holds : Nat → Nat → Station → Prop) {stations : List Station}
    {stepped : Station} (own : Holds (tick + 1) index stepped)
    (others : ∀ (probe : Nat) (other : Station), stations[probe]? = some other →
      Holds (if probe < index then tick + 1 else tick) probe other)
    (probe : Nat) (other : Station) (listed : (stations.set index stepped)[probe]? = some other) :
    Holds (if probe < index + 1 then tick + 1 else tick) probe other := by
  rcases found_of_set listed with ⟨rfl, rfl⟩ | ⟨apart, found⟩
  · rw [if_pos (Nat.lt_succ_self _)]
    exact own
  · have same : (probe < index + 1) = (probe < index) := by
      rw [eq_iff_iff]
      omega
    simpa only [same] using others probe other found

/-- Work has led to a scene of one kind, or to a failure of another. -/
def Leads (good : Scene ρ σ → Prop) (bad : Failure ρ σ → Prop) :
    Except (Failure ρ σ) (Scene ρ σ) → Prop
  | .ok scene => good scene
  | .error failure => bad failure

/-- What holds of the scene that a turn leaves behind holds however the turn has ended. -/
theorem leads_of_leftBy {good : Scene ρ σ → Prop} {work : Except (Failure ρ σ) (Scene ρ σ)}
    (left : good (leftBy work)) : Leads good (fun failure => good failure.scene) work := by
  cases work <;> exact left

theorem Leads.imp {good better : Scene ρ σ → Prop} {bad : Failure ρ σ → Prop}
    {work : Except (Failure ρ σ) (Scene ρ σ)} (leads : Leads good bad work)
    (improves : ∀ scene, good scene → better scene) : Leads better bad work := by
  cases work with
  | ok after => exact improves after leads
  | error failure => exact leads

theorem Leads.exists_ok {good : Scene ρ σ → Prop} {work : Except (Failure ρ σ) (Scene ρ σ)}
    (leads : Leads good (fun _ => False) work) : ∃ after, work = .ok after ∧ good after := by
  cases work with
  | ok after => exact ⟨after, rfl, leads⟩
  | error failure => exact leads.elim

/-- What each turn keeps up holds after all of them. `Inv` is told how many have been taken. -/
theorem plainTurns_leads (Inv : Nat → Scene ρ σ → Prop) {bad : Failure ρ σ → Prop}
    (steps : ∀ (index : Nat) (middle : Scene ρ σ), index < scene.stations.length →
      Inv index middle → Leads (Inv (index + 1)) bad (network.plainTurn tick middle index))
    (first : Inv 0 scene) :
    Leads (Inv scene.stations.length) bad (network.plainTurns tick scene) := by
  have loop : ∀ (count taken : Nat) (middle : Scene ρ σ),
      taken + count = scene.stations.length → Inv taken middle →
      Leads (Inv scene.stations.length) bad
        ((List.range' taken count).foldlM (network.plainTurn tick) middle) := by
    intro count
    induction count with
    | zero =>
      intro taken middle total holds
      exact total ▸ holds
    | succ count ih =>
      intro taken middle total holds
      have step := steps taken middle (by omega) holds
      rw [List.range'_succ, List.foldlM_cons]
      cases turned : network.plainTurn tick middle taken with
      | ok after =>
        rw [turned] at step
        exact ih (taken + 1) after (by omega) step
      | error failure =>
        rw [turned] at step
        exact step
  rw [plainTurns, List.range_eq_range']
  exact loop _ 0 scene (Nat.zero_add _) first

/-- What holds after the turns of a tick and is kept up by delivery holds after the tick. -/
theorem plainTick_leads {left good : Scene ρ σ → Prop} {bad : Failure ρ σ → Prop}
    (turns : Leads left bad (network.plainTurns tick scene))
    (delivers : ∀ after, left after → good (after.deliverDue (tick + 1)).countTick) :
    Leads good bad (network.plainTick tick scene) := by
  rw [plainTick]
  cases ran : network.plainTurns tick scene with
  | error failure =>
    rw [ran] at turns
    exact turns
  | ok after =>
    rw [ran] at turns
    exact delivers after turns

/-- How the ticks of a run come to an end: with what each of them keeps up, or with a failure. -/
inductive Concludes (network : Network ρ σ) (Inv : Nat → Scene ρ σ → Prop)
    (bad : Nat → Failure ρ σ → Prop) (limit : Nat) : RunResult × Scene ρ σ → Prop where
  /-- The ticks are used up, or nothing is left to do after one of them. -/
  | completes {ticks : Nat} {scene : Scene ρ σ} (holds : Inv ticks scene) (within : ticks ≤ limit)
      (early : ticks < limit → 0 < ticks ∧
        (scene.allTerminated || network.plainQuiescent scene) = true) :
      Concludes network Inv bad limit (scene.report .completed ticks, scene)
  | fails {tick : Nat} {failure : Failure ρ σ} (failed : bad tick failure) (early : tick < limit) :
      Concludes network Inv bad limit
        (failure.scene.report (.failed tick failure.node failure.cause) tick, failure.scene)

/-- What each tick keeps up holds once no more are run. `Inv` is told how many have been, and a tick
that is not the first is run because there was something left to do. -/
theorem plainAdvance_concludes (Inv : Nat → Scene ρ σ → Prop) {bad : Nat → Failure ρ σ → Prop}
    {number remaining limit : Nat}
    (ticks : ∀ (tick : Nat) (middle : Scene ρ σ), tick < limit →
      (0 < tick → (middle.allTerminated || network.plainQuiescent middle) = false) →
      Inv tick middle → Leads (Inv (tick + 1)) (bad tick) (network.plainTick tick middle))
    (total : number + remaining = limit)
    (goesOn : 0 < number → (scene.allTerminated || network.plainQuiescent scene) = false)
    (first : Inv number scene) :
    network.Concludes Inv bad limit (network.plainAdvance remaining number scene) := by
  induction remaining generalizing number scene with
  | zero => exact .completes first (by omega) (by omega)
  | succ remaining ih =>
    have tick := ticks number scene (by omega) goesOn first
    rw [plainAdvance]
    cases ran : network.plainTick number scene with
    | error failure =>
      rw [ran] at tick
      exact .fails tick (by omega)
    | ok after =>
      rw [ran] at tick
      dsimp only
      split
      · rename_i ends
        exact .completes tick (by omega) fun _ => ⟨Nat.succ_pos _, ends⟩
      · rename_i lasts
        exact ih (by omega) (fun _ => Bool.eq_false_iff.mpr lasts) tick

/-- What holds at the start of a run and is kept up by each tick holds at its end. -/
theorem plainRun_concludes (Inv : Nat → Scene ρ σ → Prop) {bad : Nat → Failure ρ σ → Prop}
    {maxTicks : Nat} {random : ρ} {shared : σ}
    (ticks : ∀ (tick : Nat) (middle : Scene ρ σ), tick < maxTicks →
      (0 < tick → (middle.allTerminated || network.plainQuiescent middle) = false) →
      Inv tick middle → Leads (Inv (tick + 1)) (bad tick) (network.plainTick tick middle))
    (first : Inv 0 (network.opening random shared)) :
    network.Concludes Inv bad maxTicks (network.plainRun maxTicks random shared) :=
  plainAdvance_concludes Inv ticks (Nat.zero_add _) (fun later => absurd later (Nat.lt_irrefl 0)) first

/-! ### Delivery -/

theorem stations_deliverOne (message : Message) (scene : Scene ρ σ) (index : Nat) :
    (scene.deliverOne message).stations[index]? =
      scene.stations[index]?.map (·.enqueue ([message].filter (·.destination == index))) := by
  by_cases here : message.destination = index
  · subst here
    simp only [Scene.deliverOne, List.filter_cons, beq_self_eq_true, if_true, List.filter_nil]
    cases found : scene.stations[message.destination]? with
    | none => simp [found]
    | some station =>
      have inside := (List.getElem?_eq_some_iff.mp found).1
      cases halted : station.isTerminated with
      | true => simp [halted, found, Station.enqueue]
      | false => simp [halted, Station.enqueue, Scene.setStation, inside]
  · have other : [message].filter (·.destination == index) = [] := by simp [here]
    rw [other]
    simp only [Station.enqueue_nil, Option.map_id']
    unfold Scene.deliverOne
    split
    · rfl
    · split
      · rfl
      · exact List.getElem?_set_ne here

theorem stations_deliverAll (messages : List Message) (scene : Scene ρ σ) (index : Nat) :
    (messages.foldl Scene.deliverOne scene).stations[index]? =
      scene.stations[index]?.map (·.enqueue (messages.filter (·.destination == index))) := by
  induction messages generalizing scene with
  | nil => simp
  | cons message rest ih =>
    rw [List.foldl_cons, ih, stations_deliverOne, Option.map_map]
    refine congrArg (Option.map · _) (funext fun station => ?_)
    rw [Function.comp_apply, ← Station.enqueue_append, ← List.filter_append,
      List.singleton_append]

/-- Delivery changes queues and counts, and nothing else. -/
theorem deliverAll_rest (messages : List Message) (scene : Scene ρ σ) :
    let after := messages.foldl Scene.deliverOne scene
    after.transit = scene.transit ∧ after.peak = scene.peak ∧ after.random = scene.random ∧
      after.shared = scene.shared ∧ after.stations.length = scene.stations.length ∧
      after.tally.sent = scene.tally.sent := by
  induction messages generalizing scene with
  | nil => simp
  | cons message rest ih =>
    have one : (scene.deliverOne message).transit = scene.transit ∧
        (scene.deliverOne message).peak = scene.peak ∧
        (scene.deliverOne message).random = scene.random ∧
        (scene.deliverOne message).shared = scene.shared ∧
        (scene.deliverOne message).stations.length = scene.stations.length ∧
        (scene.deliverOne message).tally.sent = scene.tally.sent := by
      unfold Scene.deliverOne
      split
      · simp
      · split <;> simp [Scene.setStation]
    simpa only [List.foldl_cons, one] using ih (scene.deliverOne message)

/-- Delivery in a tick: what arrives then goes to the queues of running stations. -/
theorem stations_deliverDue (tick : Nat) (scene : Scene ρ σ) (index : Nat) :
    (scene.deliverDue tick).stations[index]? =
      scene.stations[index]?.map (·.enqueue
        ((scene.transit.filter (·.arrival == tick)).filter (·.destination == index))) :=
  stations_deliverAll ..

theorem deliverDue_rest (tick : Nat) (scene : Scene ρ σ) :
    (scene.deliverDue tick).transit = scene.transit.filter (·.arrival != tick) ∧
      (scene.deliverDue tick).peak = scene.peak ∧
      (scene.deliverDue tick).random = scene.random ∧
      (scene.deliverDue tick).shared = scene.shared ∧
      (scene.deliverDue tick).stations.length = scene.stations.length ∧
      (scene.deliverDue tick).tally.sent = scene.tally.sent :=
  deliverAll_rest ..

/-- Delivery does not count idle ticks. -/
theorem deliverDue_idle (tick : Nat) (scene : Scene ρ σ) :
    (scene.deliverDue tick).tally.idleTicks = scene.tally.idleTicks ∧
      (scene.deliverDue tick).tally.idleStreak = scene.tally.idleStreak := by
  suffices all : ∀ (messages : List Message) (scene : Scene ρ σ),
      (messages.foldl Scene.deliverOne scene).tally.idleTicks = scene.tally.idleTicks ∧
        (messages.foldl Scene.deliverOne scene).tally.idleStreak = scene.tally.idleStreak from
    all _ _
  intro messages
  induction messages with
  | nil => exact fun scene => ⟨rfl, rfl⟩
  | cons message rest ih =>
    intro scene
    obtain ⟨ticks, streak⟩ := ih (scene.deliverOne message)
    rw [List.foldl_cons, ticks, streak]
    unfold Scene.deliverOne
    split
    · exact ⟨rfl, rfl⟩
    · split <;> exact ⟨rfl, rfl⟩

theorem countTick_rest (scene : Scene ρ σ) :
    scene.countTick.stations = scene.stations ∧ scene.countTick.transit = scene.transit ∧
      scene.countTick.peak = scene.peak ∧ scene.countTick.random = scene.random ∧
      scene.countTick.shared = scene.shared ∧
      scene.countTick.tally.sent = scene.tally.sent := by
  unfold Scene.countTick
  split <;> simp

/-- Only an idle tick makes a streak. -/
theorem idle_of_streak (streak : 0 < scene.countTick.tally.idleStreak) : scene.isIdle = true := by
  unfold Scene.countTick at streak
  split at streak
  · assumption
  · cases streak

/-- A network that has become quiet was idle for its window, and no message is left. -/
theorem plainQuiescent_eq_true (quiet : network.plainQuiescent scene = true) :
    ∃ window, network.config.quiescence = some window ∧ window ≤ scene.tally.idleStreak ∧
      scene.live = 0 := by
  unfold plainQuiescent at quiet
  split at quiet
  · cases quiet
  · rename_i window asked
    rw [Bool.and_eq_true, decide_eq_true_eq, beq_iff_eq] at quiet
    exact ⟨window, asked, quiet⟩

/-! ### Soundness -/

/-- No message is left if none is on its way and none is in a queue. -/
theorem live_eq_zero_iff : scene.live = 0 ↔
    scene.transit = [] ∧ ∀ station ∈ scene.stations, station.inbox = [] := by
  rw [Scene.live, Nat.add_eq_zero_iff, ← List.length_flatMap, List.length_eq_zero_iff,
    List.length_eq_zero_iff, List.flatMap_eq_nil_iff]

/-- What holds of every scene of a run. -/
structure Scene.Sound (network : Network ρ σ) (scene : Scene ρ σ) : Prop where
  count : scene.stations.length = network.config.nodeCount
  place : ∀ (index : Nat) (station : Station), scene.stations[index]? = some station →
    station.place = ⟨index, network.config.nodeCount⟩
  rests : ∀ station ∈ scene.stations, station.AtRest network.table
  sized : ∀ message ∈ scene.transit, message.payload.size = network.table.receive.length
  bound : ∀ message ∈ scene.transit, message.destination < network.config.nodeCount

namespace Scene.Sound

theorem found (sound : scene.Sound network) (inside : index < network.config.nodeCount) :
    ∃ station, scene.stations[index]? = some station :=
  ⟨_, List.getElem?_eq_getElem (sound.count ▸ inside)⟩

/-- A network has a node, so if none has halted not all have. -/
theorem not_allTerminated (sound : scene.Sound network) (nodes : 0 < network.config.nodeCount)
    (running : ∀ (index : Nat) (station : Station), scene.stations[index]? = some station →
      station.isTerminated = false) : scene.allTerminated = false := by
  obtain ⟨station, found⟩ := sound.found nodes
  refine List.all_eq_false.mpr ⟨station, List.mem_of_getElem? found, ?_⟩
  rw [running 0 station found]
  exact Bool.false_ne_true

/-- The report of a run has the stations in their places. -/
theorem reported (sound : scene.Sound network) {outcome : RunOutcome} {ticks : Nat}
    {node : NodeReport} (listed : (scene.report outcome ticks).nodes[index]? = some node) :
    ∃ station, scene.stations[index]? = some station ∧ node = Scene.reportStation station ∧
      node.index = index := by
  simp only [Scene.report, List.getElem?_map, Option.map_eq_some_iff] at listed
  obtain ⟨station, found, rfl⟩ := listed
  exact ⟨station, found, rfl, congrArg Place.index (sound.place index station found)⟩

theorem turn (valid : network.table.Valid) (sound : scene.Sound network) (tick : Nat)
    (inside : index < network.config.nodeCount) :
    (leftBy (network.plainTurn tick scene index)).Sound network := by
  obtain ⟨station, found⟩ := sound.found inside
  have rests := sound.rests station (List.mem_of_getElem? found)
  obtain ⟨stations, transit, -, -, -⟩ := leftBy_plainTurn network tick found
  have place : (network.plainStep station scene index).station.place = station.place := by
    cases halted : station.isTerminated with
    | true => rw [plainStep, Station.step_terminated halted]; rfl
    | false => exact (Station.step_running halted).place
  refine ⟨?_, ?_, ?_, ?_, ?_⟩
  · rw [stations, List.length_set, sound.count]
  · intro probe other listed
    rw [stations] at listed
    rcases found_of_set listed with ⟨rfl, rfl⟩ | ⟨-, before⟩
    · rw [place, sound.place probe station found]
    · exact sound.place probe other before
  · intro other member
    rw [stations] at member
    rcases List.mem_or_eq_of_mem_set member with old | rfl
    · exact sound.rests other old
    · exact rests.step valid
  · intro message member
    rw [transit] at member
    cases List.mem_append.mp member with
    | inl old => exact sound.sized message old
    | inr sent =>
      obtain ⟨sender, payload, same, sends, rfl, -⟩ := mem_sentIn sent
      rw [found] at same
      cases same
      exact rests.outgoing_size valid sends
  · intro message member
    rw [transit] at member
    cases List.mem_append.mp member with
    | inl old => exact sound.bound message old
    | inr sent =>
      obtain ⟨-, payload, -, -, -, -, served, -⟩ := mem_sentIn sent
      rw [sound.count] at served
      exact of_decide_eq_true (List.mem_filter.mp served).2

theorem deliverDue (sound : scene.Sound network) (tick : Nat) :
    (scene.deliverDue tick).Sound network := by
  obtain ⟨transit, -, -, -, length, -⟩ := deliverDue_rest tick scene
  have earlier : ∀ (index : Nat) (station : Station),
      (scene.deliverDue tick).stations[index]? = some station →
      ∃ before, scene.stations[index]? = some before ∧ station = before.enqueue
        ((scene.transit.filter (·.arrival == tick)).filter (·.destination == index)) := by
    intro index station found
    rw [stations_deliverDue, Option.map_eq_some_iff] at found
    obtain ⟨before, listed, same⟩ := found
    exact ⟨before, listed, same.symm⟩
  refine ⟨length.trans sound.count, ?_, ?_, ?_, ?_⟩
  · intro index station found
    obtain ⟨before, listed, rfl⟩ := earlier index station found
    rw [← sound.place index before listed]
    unfold Station.enqueue
    split <;> rfl
  · intro station member
    obtain ⟨index, found⟩ := List.getElem?_of_mem member
    obtain ⟨before, listed, rfl⟩ := earlier index station found
    have rests := sound.rests before (List.mem_of_getElem? listed)
    unfold Station.enqueue
    split
    · exact rests
    · refine ⟨rests.fits, fun message inside => ?_, rests.blank⟩
      cases List.mem_append.mp inside with
      | inl old => exact rests.sized message old
      | inr due => exact sound.sized message (List.mem_filter.mp (List.mem_filter.mp due).1).1
  · intro message member
    rw [transit] at member
    exact sound.sized message (List.mem_filter.mp member).1
  · intro message member
    rw [transit] at member
    exact sound.bound message (List.mem_filter.mp member).1

theorem countTick (sound : scene.Sound network) : scene.countTick.Sound network := by
  obtain ⟨stations, transit, -⟩ := countTick_rest scene
  refine ⟨?_, ?_, ?_, ?_, ?_⟩
  · rw [stations]
    exact sound.count
  · rw [stations]
    exact sound.place
  · rw [stations]
    exact sound.rests
  · rw [transit]
    exact sound.sized
  · rw [transit]
    exact sound.bound

end Scene.Sound

/-- What holds of every failure of a run: it leaves a scene of the run behind, and buffers that were
wanted are those that the network has. -/
structure Failure.Sound (network : Network ρ σ) (failure : Failure ρ σ) : Prop where
  scene : failure.scene.Sound network
  capacity : ∀ capacity, failure.cause = .resourceExhausted capacity →
    capacity = network.config.capacity

theorem Scene.Sound.plainTick (valid : network.table.Valid) (sound : scene.Sound network)
    (tick : Nat) :
    Leads (Scene.Sound network) (Failure.Sound network) (network.plainTick tick scene) := by
  have turns : Leads (Scene.Sound network) (Failure.Sound network)
      (network.plainTurns tick scene) := by
    refine plainTurns_leads (fun _ => Scene.Sound network) ?_ sound
    intro index middle inside holds
    rw [sound.count] at inside
    obtain ⟨station, found⟩ := holds.found inside
    have left := holds.turn valid tick inside
    cases turned : network.plainTurn tick middle index with
    | ok after =>
      rw [turned] at left
      exact left
    | error failure =>
      rw [turned] at left
      refine ⟨left, fun capacity wanted => ?_⟩
      rcases (plainTurn_cause found turned).2 with ⟨fault, -, cause⟩ | cause
      · cases cause.symm.trans wanted
      · cases cause.symm.trans wanted
        rfl
  exact plainTick_leads turns fun after holds => (holds.deliverDue _).countTick

/-- Every station of the opening is fresh. -/
theorem opening_found {random : ρ} {shared : σ}
    (found : (network.opening random shared).stations[index]? = some station) :
    index < network.config.nodeCount ∧ station = network.freshStation index := by
  simp only [opening, List.getElem?_map, Option.map_eq_some_iff] at found
  obtain ⟨position, listed, rfl⟩ := found
  have inside := (List.getElem?_eq_some_iff.mp listed).1
  rw [List.length_range] at inside
  rw [List.getElem?_range inside] at listed
  cases listed
  exact ⟨inside, rfl⟩

theorem opening_sound (network : Network ρ σ) (random : ρ) (shared : σ) :
    (network.opening random shared).Sound network := by
  refine ⟨by simp [opening], ?_, ?_, by simp [opening], by simp [opening]⟩
  · intro index station found
    obtain ⟨-, rfl⟩ := opening_found found
    rfl
  · intro station member
    obtain ⟨index, -, rfl⟩ := List.mem_map.mp member
    exact ⟨Memory.fits_seeded .., by simp [freshStation], fun _ _ blank => blank⟩

/-- A run reports all its nodes, and the number of buffers it wanted. -/
theorem plainRun_told (valid : network.table.Valid) (maxTicks : Nat) (random : ρ) (shared : σ) :
    (network.plainRun maxTicks random shared).1.nodes.length = network.config.nodeCount ∧
      ∀ capacity, (network.plainRun maxTicks random shared).1.failureCause =
        some (.resourceExhausted capacity) → capacity = network.config.capacity := by
  have concludes : network.Concludes (fun _ => Scene.Sound network) (fun _ => Failure.Sound network)
      maxTicks (network.plainRun maxTicks random shared) :=
    plainRun_concludes _ (fun tick middle _ _ sound => sound.plainTick valid tick)
      (opening_sound network random shared)
  generalize network.plainRun maxTicks random shared = ended at concludes
  cases concludes with
  | completes sound => exact ⟨(List.length_map _).trans sound.count, nofun⟩
  | fails failed =>
    refine ⟨(List.length_map _).trans failed.scene.count, fun capacity wanted => ?_⟩
    exact failed.capacity capacity (Option.some.inj wanted)

end Network

end Lockstep
