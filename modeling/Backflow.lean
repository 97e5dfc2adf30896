import Backflow.Graph.Table
import Backflow.Main
import Backflow.Proofs.Loaded
import Backflow.Proofs.Skipping
import Backflow.Proofs.Resolution
import Backflow.Proofs.Sources
import Backflow.Proofs.Layout
import Backflow.Proofs.Placement
import Backflow.Proofs.Escalation
import Backflow.Proofs.Appending
import Backflow.Proofs.Walk
import Backflow.Proofs.Run
import Backflow.Proofs.Unfolding
import Backflow.Proofs.Justified
import Backflow.Proofs.Budget
import Backflow.Proofs.Constants
import Backflow.Proofs.Answers
import Backflow.Proofs.Copies
import Backflow.Proofs.Locality
import Backflow.Proofs.Nesting
import Backflow.Proofs.Lockstep
import Backflow.Proofs.Raising
import Backflow.Proofs.Scans
import Backflow.Proofs.Reading
import Backflow.Proofs.Statements
import Backflow.Proofs.Literal
import Backflow.Proofs.Joining
import Backflow.Proofs.Noise
import Backflow.Proofs.Handlers
import Backflow.Proofs.Restarting
import Backflow.Proofs.Writing
import Backflow.Proofs.Printing
import Backflow.Proofs.Outline
