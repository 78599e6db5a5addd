import Lockstep.Proofs.Network.Likeness

/-!
A run leaves no trace but the random state.

However the earlier runs on a network have ended, the next one starts from the opening scene, with the
random state and the shared state they left (`begin_depicts`). Programs that depend on their views
alone never look at the shared state, so runs that differ in it are alike (`Likeness.ofViews`), and
the report is that of a network built anew (`rerun_as_fresh`).
-/
namespace Lockstep.Network

variable {ρ σ : Type} {network : Network ρ σ} {start : State ρ σ}

/-- A run from a sound state is like one from the first state with the same random state. -/
theorem run_sharing (valid : network.table.Valid)
    (views : ∀ index, ∃ act, network.program index = .ofView act) (sound : start.Sound network [])
    (maxTicks : Nat) (shared : σ) :
    ∃ result final freshFinal,
      network.run maxTicks start = .ok (result, final) ∧
      network.run maxTicks (network.initial start.random shared) = .ok (result, freshFinal) ∧
      freshFinal.random = final.random :=
  (Likeness.ofViews views shared).run valid sound (initial_sound network start.random shared) rfl rfl
    maxTicks

/-- Whatever runs there have been, another one reports what it would on the network built anew, with
the random source in the state that they have left. It leaves the random source alike too. -/
theorem rerun_as_fresh {table : SymbolTable} {config : NetworkConfig} {program : Nat → Program σ}
    {router : Router} {source : Source ρ}
    (built : Network.build table config program router source = .ok network)
    (views : ∀ index, ∃ act, program index = .ofView act) (resting : network.Resting start)
    (maxTicks : Nat) (shared : σ) :
    ∃ result final freshFinal,
      network.run maxTicks start = .ok (result, final) ∧
      network.run maxTicks (network.initial start.random shared) = .ok (result, freshFinal) ∧
      freshFinal.random = final.random := by
  obtain ⟨-, valid, rfl⟩ := build_eq_ok.mp built
  exact run_sharing valid views (resting.sound valid) maxTicks shared

/-- A run that fails in a fan-out, with messages on their way, and then another. -/
theorem rerun_as_fresh_exhausted :
    ∃ (network : Network Nat Unit) (failed result : RunResult)
      (used final freshFinal : State Nat Unit),
      Network.build .standard { nodeCount := 4, capacity := 16 }
          (fun _ => .ofView fun _ => .requestSend fun _ => .done .continue) Router.broadcast
          (Source.cycle [1, 3]) = .ok network ∧
        network.run 10 (network.initial 0 ()) = .ok (failed, used) ∧
        failed.outcome = .failed 1 2 (.resourceExhausted 16) ∧
        used.schedule.inFlight = 12 ∧ used.random = 18 ∧
        network.run 10 used = .ok (result, final) ∧
        network.run 10 (network.initial 18 ()) = .ok (result, freshFinal) := by
  let network : Network Nat Unit :=
    ⟨.standard, { nodeCount := 4, capacity := 16 },
      fun _ => .ofView fun _ => .requestSend fun _ => .done .continue, Router.broadcast,
      Source.cycle [1, 3]⟩
  have built : Network.build network.table network.config network.program network.router
      network.source = .ok network := rfl
  have ended : (network.run 10 (network.initial 0 ())).toOption.map
      (fun ran => (ran.1.outcome, ran.2.schedule.inFlight, ran.2.random)) =
        some (.failed 1 2 (.resourceExhausted 16), 12, 18) := by
    decide +kernel
  cases ran : network.run 10 (network.initial 0 ()) with
  | error breach => simp [ran, Except.toOption] at ended
  | ok left =>
    obtain ⟨failed, used⟩ := left
    rw [ran] at ended
    obtain ⟨outcome, waiting, random⟩ : failed.outcome = _ ∧ used.schedule.inFlight = _ ∧
        used.random = _ := by
      simpa [Except.toOption] using ended
    obtain ⟨result, final, freshFinal, again, fresh, -⟩ :=
      rerun_as_fresh built (fun _ => ⟨_, rfl⟩) (.rerun (.initial 0 ()) ran) 10 ()
    rw [random] at fresh
    exact ⟨network, failed, result, used, final, freshFinal, built, ran, outcome, waiting, random,
      again, fresh⟩

end Lockstep.Network
