import Lockstep.Codec.Outcome
import Lockstep.Codec.Table
import Lockstep.CommandLine.Session
import Lockstep.Main
import Lockstep.Program.Script
import Lockstep.Proofs.Delivery.Ownership
import Lockstep.Proofs.Delivery.Waiting
import Lockstep.Proofs.Network.Plain
import Lockstep.Proofs.Node.Ledger
import Lockstep.Proofs.Node.Portrayal
import Lockstep.Proofs.Network.Depiction
import Lockstep.Proofs.Network.Dispatching
import Lockstep.Proofs.Network.Refinement
import Lockstep.Proofs.Network.Moments
import Lockstep.Proofs.Delivery.Arrivals
import Lockstep.Proofs.Network.Pace
import Lockstep.Proofs.Network.History
import Lockstep.Proofs.Table.Created
import Lockstep.Proofs.Network.Punctuality
import Lockstep.Proofs.Network.Quiescence
import Lockstep.Proofs.Election.Verdict
import Lockstep.Proofs.Ring.Flood
import Lockstep.Proofs.Network.Balance
import Lockstep.Proofs.Network.Capacity
import Lockstep.Proofs.Network.Safety
import Lockstep.Proofs.Election.Broadcast
import Lockstep.Proofs.Network.Rerun
import Lockstep.Proofs.Network.Unfolding
import Lockstep.Proofs.Network.Isolation
import Lockstep.Proofs.Network.Reckoning
import Lockstep.Proofs.Network.Retirement
import Lockstep.Proofs.Network.Integrity
import Lockstep.Proofs.Network.Sending
import Lockstep.Proofs.Election.Safety
import Lockstep.Proofs.Json.RoundTrip
import Lockstep.Proofs.Json.Kept
import Lockstep.Proofs.Codec.Program
import Lockstep.Proofs.Codec.Run
import Lockstep.Proofs.Codec.Table
import Lockstep.Proofs.Codec.Documents
import Lockstep.Proofs.Delivery.Handover
import Lockstep.Proofs.Delivery.Lending
import Lockstep.Proofs.Program.Trace
import Lockstep.Proofs.Machine.Budget
import Lockstep.Proofs.Machine.Rack
import Lockstep.Proofs.Machine.Snapshot
import Lockstep.Proofs.Scenario.Fault
import Lockstep.Proofs.Network.Solitude
import Lockstep.Proofs.Scenario.Silence
import Lockstep.Proofs.Scenario.Exported
import Lockstep.Proofs.Network.HighWater
import Lockstep.Proofs.Table.Sections
import Lockstep.Proofs.Scenario.Batches
import Lockstep.Proofs.Delivery.Routing
import Lockstep.Proofs.Table.Names
import Lockstep.Proofs.Random.Fairness
