import LoopStepper.Main
import LoopStepper.Report.Sparse
import LoopStepper.Loose.Agreement
import LoopStepper.Loose.Read
import LoopStepper.Proofs.Stripped
import LoopStepper.Proofs.Parsed
import LoopStepper.Proofs.Steps
import LoopStepper.Proofs.Conservation
import LoopStepper.Proofs.Countdown
import LoopStepper.Proofs.Overtaking
import LoopStepper.Proofs.Queues
import LoopStepper.Proofs.Checkpoints
import LoopStepper.Proofs.Levels
import LoopStepper.Proofs.Descent
import LoopStepper.Proofs.Printed
import LoopStepper.Proofs.Readable
import LoopStepper.Proofs.Calls
import LoopStepper.Proofs.Failures
import LoopStepper.Proofs.History
import LoopStepper.Proofs.Autoplay
import LoopStepper.Proofs.Game
import LoopStepper.Proofs.Reports
import LoopStepper.Proofs.Restart
import LoopStepper.Proofs.Reload
import LoopStepper.Proofs.Rounds
import LoopStepper.Proofs.Echoes
import LoopStepper.Proofs.Inserted
import LoopStepper.Proofs.Standstill
import LoopStepper.Proofs.Interchange
import LoopStepper.Proofs.Cadence
import LoopStepper.Proofs.Identity
import LoopStepper.Proofs.Completion
import LoopStepper.Proofs.Deliveries
import LoopStepper.Proofs.Wakeup
import LoopStepper.Proofs.Overlong
import LoopStepper.Proofs.Oversized
import LoopStepper.Proofs.Samples
import LoopStepper.Proofs.Reliable
import LoopStepper.Proofs.Refusals
import LoopStepper.Proofs.Joined
import LoopStepper.Proofs.Listings
import LoopStepper.Proofs.ActiveLine
import LoopStepper.Proofs.Grammar
import LoopStepper.Proofs.Preorder
import LoopStepper.Proofs.Repetition
import LoopStepper.Proofs.AllOrNothing
import LoopStepper.Proofs.Observation
import LoopStepper.Proofs.Unlisting
import LoopStepper.Proofs.SingleSteps
import LoopStepper.Proofs.Passages
import LoopStepper.Proofs.Ticking
import LoopStepper.Proofs.Closing
