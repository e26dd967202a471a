import Emend.Files.Setup
import Emend.Main
import Emend.Proofs.Files.Access
import Emend.Proofs.Text.Decoding
import Emend.Proofs.Patch.Outcome
import Emend.Proofs.Path.Descent
import Emend.Proofs.Files.Listing
import Emend.Proofs.Files.Growth
import Emend.Proofs.Files.Outline
import Emend.Proofs.Scan.Visits
import Emend.Proofs.Scan.Order
import Emend.Proofs.Scan.Exact
import Emend.Proofs.Scan.Arrivals
import Emend.Proofs.Patch.Series
import Emend.Proofs.Run.Steps
import Emend.Proofs.Run.Walk
import Emend.Proofs.Patch.Placement
import Emend.Proofs.Scan.Backups
import Emend.Proofs.Run.Effect
import Emend.Proofs.Run.Fidelity
import Emend.Proofs.Patch.Progress
import Emend.Proofs.Run.FailStop
import Emend.Proofs.Run.Stages
import Emend.Proofs.Run.Cut
import Emend.Proofs.Run.Ending
import Emend.Proofs.Run.ScanFirst
import Emend.Proofs.Patch.Repeat
import Emend.Proofs.Patch.Growth
import Emend.Proofs.Scan.Growth
import Emend.Proofs.Run.Repeat
import Emend.Proofs.Run.Resume
import Emend.Proofs.Patch.DryRun
import Emend.Proofs.Run.DryRun
import Emend.Proofs.Patch.Footprint
import Emend.Proofs.Run.Footprint
import Emend.Proofs.Patch.Parallel
import Emend.Proofs.Run.Unselected
import Emend.Proofs.Pattern.Search
import Emend.Proofs.Pattern.Paths
import Emend.Proofs.Pattern.Matching
import Emend.Proofs.Pattern.Parts
import Emend.Proofs.Pattern.Replacing
import Emend.Proofs.Pattern.Words
import Emend.Proofs.Pattern.Reading
import Emend.Proofs.Pattern.Template
import Emend.Proofs.Pattern.Literal
import Emend.Proofs.Pattern.Rewriting
import Emend.Proofs.Pattern.Expansion
import Emend.Proofs.Patch.Residue
import Emend.Proofs.Patch.Retry
import Emend.Proofs.CommandLine.Words
import Emend.Proofs.Run.Refusal
import Emend.Proofs.CommandLine.Validation
import Emend.Proofs.CommandLine.Arguments
import Emend.Proofs.CommandLine.Patching
import Emend.Proofs.Config.Giving
import Emend.Proofs.Config.RoundTrip
import Emend.Proofs.Patch.Decoding
import Emend.Proofs.Scan.Names
import Emend.Proofs.Config.Departing
import Emend.Proofs.CommandLine.Showing
import Emend.Proofs.Files.Addition
import Emend.Proofs.Patch.Addition
import Emend.Proofs.Run.Addition
import Emend.Proofs.Config.Initial
import Emend.Proofs.CommandLine.Initial
