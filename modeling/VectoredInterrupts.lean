import VectoredInterrupts.Bank.Simulated
import VectoredInterrupts.Bank.Cells
import VectoredInterrupts.Board
import VectoredInterrupts.Command
import VectoredInterrupts.Relocation
import VectoredInterrupts.Proofs.Table.Bindings
import VectoredInterrupts.Proofs.Table.Density
import VectoredInterrupts.Proofs.Table.Placement
import VectoredInterrupts.Proofs.Table.Registrations
import VectoredInterrupts.Proofs.Handlers
import VectoredInterrupts.Proofs.Registries
import VectoredInterrupts.Proofs.Mirror
import VectoredInterrupts.Proofs.Runs
import VectoredInterrupts.Proofs.Rewrites
import VectoredInterrupts.Proofs.Dispatch.Polled
import VectoredInterrupts.Proofs.Dispatch.Vectored
import VectoredInterrupts.Proofs.Dispatch.Choice
import VectoredInterrupts.Proofs.Dispatch.Ranking
import VectoredInterrupts.Proofs.Dispatch.Currency
import VectoredInterrupts.Proofs.Dispatch.Handshake
import VectoredInterrupts.Proofs.Table.Robustness
import VectoredInterrupts.Proofs.Refusals
import VectoredInterrupts.Proofs.Dispatch.Agreement
import VectoredInterrupts.Proofs.Faults
import VectoredInterrupts.Proofs.Relocation
import VectoredInterrupts.Proofs.Dispatch.Spurious
import VectoredInterrupts.Proofs.Parts
import VectoredInterrupts.Proofs.Independence
import VectoredInterrupts.Proofs.SlotWrites
import VectoredInterrupts.Proofs.SettingUp
import VectoredInterrupts.Proofs.LineState
import VectoredInterrupts.Proofs.Scopes
import VectoredInterrupts.Proofs.Simulated.ServiceLevel
import VectoredInterrupts.Proofs.SlotSwitches
import VectoredInterrupts.Proofs.Table.InPlace
