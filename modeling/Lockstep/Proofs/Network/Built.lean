import Lockstep.Network.Basic
import Lockstep.Proofs.Table.Valid

/-!
Which networks there are.

A network can be built from valid settings and a valid table, and from no others.
-/
namespace Lockstep

/-- Settings that a network can have. -/
structure NetworkConfig.Valid (config : NetworkConfig) : Prop where
  nodes : 0 < config.nodeCount
  positive : 0 < config.minDelay
  ordered : config.minDelay ≤ config.maxDelay
  capacity : 0 < config.capacity

theorem NetworkConfig.validate_eq_ok {config : NetworkConfig} :
    config.validate = .ok () ↔ config.Valid := by
  unfold validate
  constructor
  · intro accepted
    split at accepted
    · cases accepted
    · split at accepted
      · cases accepted
      · split at accepted
        · cases accepted
        · constructor <;> omega
  · rintro ⟨nodes, positive, ordered, capacity⟩
    rw [if_neg (by omega), if_neg (by omega), if_neg (by omega)]

namespace Network

variable {ρ σ : Type} {network : Network ρ σ} {table : SymbolTable} {config : NetworkConfig}
  {program : Nat → Program σ} {router : Router} {source : Source ρ}

theorem build_eq_ok :
    Network.build table config program router source = .ok network ↔
      config.Valid ∧ table.Valid ∧ network = ⟨table, config, program, router, source⟩ := by
  rw [← NetworkConfig.validate_eq_ok, ← SymbolTable.validate_eq_ok]
  simp only [build, bind, Except.bind, pure, Except.pure]
  constructor
  · intro built
    cases settings : config.validate with
    | error error =>
      rw [settings] at built
      cases built
    | ok _ =>
      rw [settings] at built
      cases layout : table.validate with
      | error error =>
        rw [layout] at built
        cases built
      | ok _ =>
        rw [layout] at built
        cases built
        exact ⟨rfl, rfl, rfl⟩
  · rintro ⟨settings, layout, rfl⟩
    rw [settings, layout]

end Network

end Lockstep
